import I2pr.AddressBookGeneration

namespace I2pr.AddressBook

open Fallible

/-- Whether a filesystem step is done, returns an error, or is never begun because the process stopped before it. -/
inductive Fate where
  | done
  | failed
  | stopped
deriving DecidableEq, Repr

inductive PublishStep where
  | writeTemporary
  | rotateBackup
  | installCurrent
  | syncDirectory
deriving DecidableEq, Repr

structure Disk where
  current : Option (List UInt8)
  backup : Option (List UInt8)

namespace Disk

def perform (fate : Fate) (effect : Disk → Disk) (next : Disk → Disk × Fate) (disk : Disk) : Disk × Fate :=
  match fate with
  | .done => next (effect disk)
  | .failed => (disk, .failed)
  | .stopped => (disk, .stopped)

def rotate (disk : Disk) : Disk := ⟨none, disk.current⟩

def install (generation : List UInt8) (disk : Disk) : Disk := { disk with current := some generation }

def installAndSync (fates : PublishStep → Fate) (generation : List UInt8) : Disk → Disk × Fate :=
  perform (fates .installCurrent) (install generation) (perform (fates .syncDirectory) id fun disk => (disk, .done))

def publish (fates : PublishStep → Fate) (generation : List UInt8) : Disk → Disk × Fate :=
  perform (fates .writeTemporary) id fun disk =>
    if disk.current.isSome then perform (fates .rotateBackup) rotate (installAndSync fates generation) disk
    else installAndSync fates generation disk

def found (disk : Disk) : Option (List UInt8) := disk.current.or disk.backup

end Disk

def maxGenerationFileSize : Nat := 32000000

def loadSlot (slot : Option (List UInt8)) : Except Unit (Option (List UInt8)) :=
  match slot with
  | none => .ok none
  | some bytes => if maxGenerationFileSize < bytes.length then .error () else .ok (some bytes)

/-- What the import finds under the name of a snapshot artifact. -/
inductive SnapshotArtifact where
  | missing
  | invalid
  | entries (entries : Std.ExtTreeMap Text Text)

inductive Request where
  | applyEntry (mutation : EntryMutation)
  | replaceSubscriptions (urls : List Text)
  | applyConfig (entries : Std.ExtTreeMap Text Text)
  | ingestBody (entries : NameTable)
  | refresh (set : SubscriptionSet) (sources : Std.ExtTreeMap Text SubscriptionSource)

/-- What happens around one transaction: to the artifact, to the steps of the store, to the artifact again when it is
restored, and before the result is returned. -/
structure TransactionFates where
  artifact : Fate
  publish : PublishStep → Fate
  restoreStopped : Bool
  returnStopped : Bool

inductive Report where
  | inactive
  | rejected (error : AddressBookError)
  | artifactUnavailable
  | storeUnavailable
  | success
  | stopped

/-- The process: not running, or running with a manager that is not active or active with a book. -/
inductive Process where
  | down
  | inactive
  | active (book : State)

/-- The files and the process, and of the past the books written, the book of the last success and the book of the
transaction the process stopped in since. -/
structure System where
  disk : Disk
  process : Process
  written : List State
  committed : Option State
  inDoubt : Option State

namespace System

variable (prim : Primitives) (json : Json)

def initial : System := ⟨⟨none, none⟩, .down, [], none, none⟩

def perform (request : Request) (book : State) : Except AddressBookError State :=
  match request with
  | .applyEntry mutation => do return (← book.applyEntry prim mutation).2
  | .replaceSubscriptions urls => do return (← book.replaceSubscriptions urls).2
  | .applyConfig entries => do return (← book.applyConfig prim entries).2
  | .ingestBody entries => do return (← book.replaceDerived prim entries).2
  | .refresh set sources =>
    if book.subscriptions.urls ≠ set.urls then .error .invalidSubscription
    else do return (← book.replaceSubscriptionSources prim sources).2

variable (system : System)

def stopWith (book : State) : System := { system with process := .down, inDoubt := some book }

def commit (book : State) : System :=
  { system with process := .active book, committed := some book, inDoubt := none }

def afterPublish (disk : Disk) (book : State) : System :=
  { system with disk := disk, written := book :: system.written }

def transact (request : Request) (fates : TransactionFates) (system : System) : System × Report :=
  match system.process with
  | .active book =>
    match perform prim request book with
    | .error error => (system, .rejected error)
    | .ok next =>
      let next := next.syncPublishedFromRouter.2
      match if next.config.shouldPublish then fates.artifact else .done with
      | .failed => (system, .artifactUnavailable)
      | .stopped => (system.stopWith next, .stopped)
      | .done =>
        match system.disk.publish fates.publish (encodeGeneration json next) with
        | (disk, .failed) =>
          if next.config.shouldPublish ∧ fates.restoreStopped then
            ((system.afterPublish disk next).stopWith next, .stopped)
          else (system.afterPublish disk next, .storeUnavailable)
        | (disk, .stopped) => ((system.afterPublish disk next).stopWith next, .stopped)
        | (disk, .done) =>
          if fates.returnStopped then ((system.afterPublish disk next).stopWith next, .stopped)
          else ((system.afterPublish disk next).commit next, .success)
  | _ => (system, .inactive)

def importSnapshotArtifacts (artifacts : BookKind → SnapshotArtifact) :
    List BookKind → State → Except AddressBookError State
  | [], book => .ok book
  | kind :: kinds, book =>
    match artifacts kind with
    | .missing => importSnapshotArtifacts artifacts kinds book
    | .invalid => .error .malformedField
    | .entries entries => do
      let book ← loadEntries prim kind entries.toList book
      importSnapshotArtifacts artifacts kinds book

/-- What a start finds in the files: a book, nothing, or something it cannot use. -/
def loadGenerations (disk : Disk) : Except Unit (Option State) := do
  match ← loadSlot disk.current with
  | some bytes =>
    match decodeGeneration prim json bytes with
    | .ok book => .ok (some book)
    | .error _ =>
      match ← loadSlot disk.backup with
      | none => .error ()
      | some bytes =>
        match decodeGeneration prim json bytes with
        | .ok book => .ok (some book)
        | .error _ => .error ()
  | none =>
    match ← loadSlot disk.backup with
    | none => .ok none
    | some bytes =>
      match decodeGeneration prim json bytes with
      | .ok book => .ok (some book)
      | .error _ => .error ()

def deactivate : System := { system with process := .inactive }

def halt : System := { system with process := .down }

def reconcilePublication (fates : TransactionFates) (book : State) (system : System) : System :=
  let (changed, book) := book.syncPublishedFromRouter
  if ¬ book.config.shouldPublish then system.commit book
  else
    match fates.artifact with
    | .failed => system.deactivate
    | .stopped => system.halt
    | .done =>
      if ¬ changed then system.commit book
      else
        match system.disk.publish fates.publish (encodeGeneration json book) with
        | (disk, .failed) => (system.afterPublish disk book).deactivate
        | (disk, .stopped) => (system.afterPublish disk book).stopWith book
        | (disk, .done) => (system.afterPublish disk book).commit book

def restart (artifacts : BookKind → SnapshotArtifact) (fates : TransactionFates) (system : System) : System :=
  match loadGenerations prim json system.disk with
  | .error _ => system.deactivate
  | .ok (some book) => system.reconcilePublication json fates book
  | .ok none =>
    match importSnapshotArtifacts prim artifacts [.privateBook, .localBook, .routerBook, .publishedBook] .new with
    | .error _ => system.deactivate
    | .ok book =>
      match system.disk.publish fates.publish (encodeGeneration json book) with
      | (disk, .failed) => (system.afterPublish disk book).deactivate
      | (disk, .stopped) => (system.afterPublish disk book).stopWith book
      | (disk, .done) => (system.afterPublish disk book).reconcilePublication json fates book

end System

inductive Event where
  | transact (request : Request) (fates : TransactionFates)
  | restart (artifacts : BookKind → SnapshotArtifact) (fates : TransactionFates)

def Event.fates : Event → TransactionFates
  | transact _ fates => fates
  | restart _ fates => fates

namespace System

variable (prim : Primitives) (json : Json)

def step (system : System) : Event → System
  | .transact request fates => (system.transact prim json request fates).1
  | .restart artifacts fates => system.restart prim json artifacts fates

def run (events : List Event) : System := events.foldl (step prim json) initial

end System

namespace Disk

variable {fates : PublishStep → Fate} {generation : List UInt8} {disk : Disk}

/-- What publishing leaves for a restart to find. -/
inductive Published (fates : PublishStep → Fate) (generation : List UInt8) (disk : Disk) : Disk × Fate → Prop
  | done {next : Disk} (h : next.found = some generation) : Published fates generation disk (next, .done)
  | failed {next : Disk} (h : next.found = disk.found) : Published fates generation disk (next, .failed)
  | unsynced {next : Disk} (hsync : fates .syncDirectory = .failed) (h : next.found = some generation) :
    Published fates generation disk (next, .failed)
  | stopped {next : Disk} (h : next.found = disk.found ∨ next.found = some generation) :
    Published fates generation disk (next, .stopped)

theorem found_rotate (h : disk.current.isSome) : disk.rotate.found = disk.found := by
  obtain ⟨bytes, hbytes⟩ := Option.isSome_iff_exists.mp h
  simp [rotate, found, hbytes]

theorem perform_published {start : Disk} (h : disk.found = start.found) {fate : Fate} {effect : Disk → Disk}
    {next : Disk → Disk × Fate} (hnext : Published fates generation start (next (effect disk))) :
    Published fates generation start (perform fate effect next disk) := by
  cases fate with
  | done => exact hnext
  | failed => exact .failed h
  | stopped => exact .stopped (.inl h)

theorem installAndSync_published {start : Disk} (h : disk.found = start.found) :
    Published fates generation start (installAndSync fates generation disk) := by
  refine perform_published h ?_
  unfold perform
  split
  · exact .done rfl
  next hsync => exact .unsynced hsync rfl
  · exact .stopped (.inr rfl)

theorem publish_published (fates : PublishStep → Fate) (generation : List UInt8) (disk : Disk) :
    Published fates generation disk (disk.publish fates generation) := by
  refine perform_published rfl ?_
  dsimp only [id]
  split
  next hcurrent => exact perform_published rfl (installAndSync_published (found_rotate hcurrent))
  · exact installAndSync_published rfl

theorem Published.of_eq {result : Disk × Fate} (h : disk.publish fates generation = result) :
    Published fates generation disk result :=
  h ▸ publish_published fates generation disk

theorem Published.isSome_found {result : Disk × Fate} (h : Published fates generation disk result)
    (hfound : disk.found.isSome) : result.1.found.isSome := by
  cases h with
  | done h | unsynced _ h => exact h ▸ rfl
  | failed h => exact h ▸ hfound
  | stopped h =>
    rcases h with h | h
    · exact h ▸ hfound
    · exact h ▸ rfl

end Disk

namespace State

def Synced (book : State) : Prop := book.syncPublishedFromRouter = (false, book)

theorem synced_sync (book : State) : book.syncPublishedFromRouter.2.Synced := by
  unfold Synced
  by_cases hpublish : book.config.shouldPublish
  · by_cases hsame : book.books .publishedBook = book.books .routerBook
    · simp [syncPublishedFromRouter, hpublish, hsame]
    · simp [syncPublishedFromRouter, hpublish, hsame, setBook, bumpRevision]
  · simp [syncPublishedFromRouter, hpublish]

theorem synced_of_not_shouldPublish {book : State} (h : book.config.shouldPublish = false) : book.Synced := by
  simp [Synced, syncPublishedFromRouter, h]

theorem applyEntry_config {prim : Primitives} {book next : State} {mutation : EntryMutation}
    (h : rejecting (book.applyEntry prim mutation) = .ok next) : next.config = book.config := by
  unfold rejecting at h
  split at h
  next outcome loaded hentry =>
    cases h
    obtain ⟨table, rfl, -⟩ := applyEntry_eq_ok hentry
    rfl
  · cases h

theorem loadEntries_config {prim : Primitives} {kind : BookKind} {entries : List (Text × Text)} {book next : State}
    (h : loadEntries prim kind entries book = .ok next) : next.config = book.config := by
  induction entries generalizing book with
  | nil =>
    cases h
    rfl
  | cons entry entries ih =>
    obtain ⟨first, hfirst, h⟩ := bind_eq_ok.mp h
    rw [ih h, applyEntry_config hfirst]

end State

namespace System

variable {prim : Primitives} {json : Json} {system : System}

theorem importSnapshotArtifacts_config {artifacts : BookKind → SnapshotArtifact} {kinds : List BookKind}
    {book next : State} (h : importSnapshotArtifacts prim artifacts kinds book = .ok next) :
    next.config = book.config := by
  induction kinds generalizing book with
  | nil =>
    cases h
    rfl
  | cons kind kinds ih =>
    unfold importSnapshotArtifacts at h
    split at h
    · exact ih h
    · cases h
    next entries hentries =>
      obtain ⟨first, hfirst, h⟩ := bind_eq_ok.mp h
      rw [ih h, State.loadEntries_config hfirst]

/-- A restart finds the book of the last success, or the one the process stopped with. -/
structure Consistent (json : Json) (system : System) : Prop where
  active : ∀ book, system.process = .active book → system.committed = some book ∧ system.inDoubt = none
  found : ∀ bytes, system.disk.found = some bytes → ∃ book ∈ system.written,
    bytes = encodeGeneration json book ∧ book.Synced ∧ (system.committed = some book ∨ system.inDoubt = some book)
  committed : system.committed.isSome → system.disk.found.isSome

theorem consistent_initial : Consistent json initial where
  active _ h := by cases h
  found _ h := by cases h
  committed h := by cases h

section Preservation

variable {book : State} {disk : Disk}

section

variable (h : Consistent json system)
include h

theorem Consistent.idle {process : Process} (hprocess : ∀ book, process ≠ .active book) :
    Consistent json { system with process := process } :=
  { h with active := fun book hactive => absurd hactive (hprocess book) }

theorem Consistent.deactivate : Consistent json system.deactivate :=
  h.idle fun _ hactive => by cases hactive

theorem Consistent.halt : Consistent json system.halt :=
  h.idle fun _ hactive => by cases hactive

theorem Consistent.afterPublish (book : State) (hdisk : disk.found = system.disk.found) :
    Consistent json (system.afterPublish disk book) where
  active := h.active
  found bytes hbytes := by
    obtain ⟨found, hwritten, hfound⟩ := h.found bytes (hdisk ▸ hbytes)
    exact ⟨found, List.mem_cons_of_mem _ hwritten, hfound⟩
  committed hsome := by
    rw [System.afterPublish, hdisk]
    exact h.committed hsome

theorem Consistent.stopWith (hdoubt : system.disk.found = none ∨ system.inDoubt = none) :
    Consistent json (system.stopWith book) where
  active _ hactive := by cases hactive
  found bytes hbytes := by
    obtain ⟨found, hwritten, heq, hsynced, hcommitted⟩ := h.found bytes hbytes
    refine ⟨found, hwritten, heq, hsynced, .inl ?_⟩
    rcases hdoubt with hnone | hnone
    · rw [show system.disk.found = some bytes from hbytes] at hnone
      cases hnone
    · rcases hcommitted with hcommitted | hcommitted
      · exact hcommitted
      · rw [hnone] at hcommitted
        cases hcommitted
  committed := h.committed

end

theorem consistent_commit (hwritten : book ∈ system.written)
    (hfound : system.disk.found = some (encodeGeneration json book)) (hsynced : book.Synced) :
    Consistent json (system.commit book) where
  active _ hactive := by
    cases hactive
    exact ⟨rfl, rfl⟩
  found bytes hbytes := by
    refine ⟨book, hwritten, ?_, hsynced, .inl rfl⟩
    exact Option.some.inj (hbytes.symm.trans hfound)
  committed _ := by
    rw [System.commit, hfound]
    rfl

theorem consistent_stopWith (hfound : disk.found = some (encodeGeneration json book)) (hsynced : book.Synced) :
    Consistent json ((system.afterPublish disk book).stopWith book) where
  active _ hactive := by cases hactive
  found bytes hbytes := by
    refine ⟨book, List.mem_cons_self, ?_, hsynced, .inr rfl⟩
    exact Option.some.inj (hbytes.symm.trans hfound)
  committed _ := by
    rw [System.stopWith, System.afterPublish, hfound]
    rfl

section Publish

variable {fates : PublishStep → Fate} {generation : List UInt8} {next : Disk}

theorem found_of_publish_done (h : disk.publish fates generation = (next, .done)) : next.found = some generation := by
  cases Disk.Published.of_eq h with
  | done hfound => exact hfound

/-- Short of an error of the directory sync, a failed publication leaves what a restart finds. -/
theorem found_of_publish_failed (h : disk.publish fates generation = (next, .failed))
    (hsync : fates .syncDirectory ≠ .failed) : next.found = disk.found := by
  cases Disk.Published.of_eq h with
  | failed hfound => exact hfound
  | unsynced hfailed => exact absurd hfailed hsync

theorem found_of_publish_stopped (h : disk.publish fates generation = (next, .stopped)) :
    next.found = disk.found ∨ next.found = some generation := by
  cases Disk.Published.of_eq h with
  | stopped hfound => exact hfound

theorem Consistent.publish_stopped (h : Consistent json system)
    (hdoubt : system.disk.found = none ∨ system.inDoubt = none) (hsynced : book.Synced)
    (hpublish : system.disk.publish fates (encodeGeneration json book) = (next, .stopped)) :
    Consistent json ((system.afterPublish next book).stopWith book) := by
  rcases found_of_publish_stopped hpublish with hfound | hfound
  · refine (h.afterPublish book hfound).stopWith ?_
    rwa [System.afterPublish, hfound]
  · exact consistent_stopWith hfound hsynced

end Publish

theorem Consistent.transact (h : Consistent json system) (request : Request) {fates : TransactionFates}
    (hsync : fates.publish .syncDirectory ≠ .failed) : Consistent json (system.transact prim json request fates).1 := by
  unfold System.transact
  split
  next book hactive =>
    have hdoubt := (h.active book hactive).2
    split
    · exact h
    next updated _ =>
      have hsynced := State.synced_sync updated
      dsimp only
      generalize updated.syncPublishedFromRouter.2 = next at hsynced
      split
      · exact h
      · exact h.stopWith (.inr hdoubt)
      · split
        next hpublish =>
          have hkept := h.afterPublish next (found_of_publish_failed hpublish hsync)
          split
          · exact hkept.stopWith (.inr hdoubt)
          · exact hkept
        next hpublish => exact h.publish_stopped (.inr hdoubt) hsynced hpublish
        next hpublish =>
          have hfound := found_of_publish_done hpublish
          split
          · exact consistent_stopWith hfound hsynced
          · exact consistent_commit List.mem_cons_self hfound hsynced
  · exact h

theorem reconcilePublication_synced (hsynced : book.Synced) (fates : TransactionFates) :
    system.reconcilePublication json fates book =
      if book.config.shouldPublish then
        match fates.artifact with
        | .failed => system.deactivate
        | .stopped => system.halt
        | .done => system.commit book
      else system.commit book := by
  unfold reconcilePublication
  rw [hsynced]
  by_cases hpublish : book.config.shouldPublish
  · simp [hpublish]
  · simp [hpublish]

theorem Consistent.reconcilePublication (h : Consistent json system) (hwritten : book ∈ system.written)
    (hfound : system.disk.found = some (encodeGeneration json book)) (hsynced : book.Synced) (fates : TransactionFates) :
    Consistent json (system.reconcilePublication json fates book) := by
  rw [reconcilePublication_synced hsynced]
  split
  · split
    · exact h.deactivate
    · exact h.halt
    · exact consistent_commit hwritten hfound hsynced
  · exact consistent_commit hwritten hfound hsynced

theorem loadSlot_decodes (hdecodes : decodeGeneration prim json (encodeGeneration json book) = .ok book) :
    loadSlot (some (encodeGeneration json book)) = .ok (some (encodeGeneration json book)) := by
  have hlen := (ite_error_eq_ok.mp hdecodes).1
  refine if_neg ?_
  unfold maxGenerationBytes at hlen
  unfold maxGenerationFileSize
  omega

theorem loadGenerations_found (hdecodes : decodeGeneration prim json (encodeGeneration json book) = .ok book)
    (hfound : disk.found = some (encodeGeneration json book)) : loadGenerations prim json disk = .ok (some book) := by
  unfold loadGenerations
  rcases Option.or_eq_some_iff.mp hfound with hcurrent | ⟨hcurrent, hbackup⟩
  · rw [hcurrent, loadSlot_decodes hdecodes, ok_bind]
    simp only [hdecodes]
  · rw [hcurrent, hbackup, loadSlot_decodes hdecodes]
    simp only [loadSlot, ok_bind, hdecodes]

theorem loadGenerations_none (hfound : disk.found = none) : loadGenerations prim json disk = .ok none := by
  obtain ⟨hcurrent, hbackup⟩ := Option.or_eq_none_iff.mp hfound
  unfold loadGenerations
  rw [hcurrent, hbackup]
  rfl

theorem Consistent.restart (h : Consistent json system)
    (hdecodes : ∀ book ∈ system.written, decodeGeneration prim json (encodeGeneration json book) = .ok book)
    (artifacts : BookKind → SnapshotArtifact) {fates : TransactionFates} (hsync : fates.publish .syncDirectory ≠ .failed) :
    Consistent json (system.restart prim json artifacts fates) := by
  unfold System.restart
  cases hfound : system.disk.found with
  | some bytes =>
    obtain ⟨book, hwritten, rfl, hsynced, -⟩ := h.found bytes hfound
    rw [loadGenerations_found (hdecodes book hwritten) hfound]
    exact h.reconcilePublication hwritten hfound hsynced fates
  | none =>
    rw [loadGenerations_none hfound]
    dsimp only
    split
    · exact h.deactivate
    next book himported =>
      have hsynced : book.Synced := State.synced_of_not_shouldPublish (by rw [importSnapshotArtifacts_config himported]; rfl)
      split
      next hpublish => exact (h.afterPublish book (found_of_publish_failed hpublish hsync)).deactivate
      next hpublish => exact h.publish_stopped (.inl hfound) hsynced hpublish
      next hpublish =>
        have hinstalled := found_of_publish_done hpublish
        rw [reconcilePublication_synced hsynced, if_neg (by rw [importSnapshotArtifacts_config himported]; decide)]
        exact consistent_commit List.mem_cons_self hinstalled hsynced

end Preservation

/-- Nothing written is forgotten, and once there is a generation to find there always is one. -/
structure Extends (system next : System) : Prop where
  written : system.written ⊆ next.written
  found : system.disk.found.isSome → next.disk.found.isSome

namespace Extends

variable {next last : System} {book : State}

theorem refl (system : System) : Extends system system := ⟨fun _ h => h, id⟩

theorem trans (h : Extends system next) (hlast : Extends next last) : Extends system last :=
  ⟨fun _ hmem => hlast.written (h.written hmem), fun hsome => hlast.found (h.found hsome)⟩

/-- The process alone changed, or what is remembered of it. -/
theorem process {committed inDoubt : Option State} {process : Process} :
    Extends system { system with process, committed, inDoubt } :=
  ⟨fun _ h => h, id⟩

theorem afterPublish {fates : PublishStep → Fate} {generation : List UInt8} {disk : Disk} {fate : Fate}
    (h : system.disk.publish fates generation = (disk, fate)) : Extends system (system.afterPublish disk book) := by
  refine ⟨fun _ hmem => List.mem_cons_of_mem _ hmem, fun hsome => ?_⟩
  exact (Disk.Published.of_eq h).isSome_found hsome

theorem transact (request : Request) (fates : TransactionFates) :
    Extends system (system.transact prim json request fates).1 := by
  unfold System.transact
  split
  · split
    · exact refl system
    dsimp only
    split
    · exact refl system
    · exact process
    · split
      next hpublish =>
        split
        · exact (afterPublish hpublish).trans process
        · exact afterPublish hpublish
      next hpublish => exact (afterPublish hpublish).trans process
      next hpublish =>
        split
        · exact (afterPublish hpublish).trans process
        · exact (afterPublish hpublish).trans process
  · exact refl system

theorem reconcilePublication (fates : TransactionFates) (book : State) :
    Extends system (system.reconcilePublication json fates book) := by
  unfold System.reconcilePublication
  dsimp only
  split
  · exact process
  split
  · exact process
  · exact process
  · split
    · exact process
    split
    next hpublish => exact (afterPublish hpublish).trans process
    next hpublish => exact (afterPublish hpublish).trans process
    next hpublish => exact (afterPublish hpublish).trans process

theorem restart (artifacts : BookKind → SnapshotArtifact) (fates : TransactionFates) :
    Extends system (system.restart prim json artifacts fates) := by
  unfold System.restart
  split
  · exact process
  · exact reconcilePublication fates _
  · split
    · exact process
    split
    next hpublish => exact (afterPublish hpublish).trans process
    next hpublish => exact (afterPublish hpublish).trans process
    next hpublish => exact (afterPublish hpublish).trans (reconcilePublication fates _)

theorem foldl_step (prim : Primitives) (json : Json) (events : List Event) (system : System) :
    Extends system (events.foldl (step prim json) system) := by
  induction events generalizing system with
  | nil => exact refl system
  | cons event events ih =>
    refine trans ?_ (ih _)
    cases event with
    | transact request fates => exact transact request fates
    | restart artifacts fates => exact restart artifacts fates

end Extends

def Decodes (prim : Primitives) (json : Json) (system : System) : Prop :=
  ∀ book ∈ system.written, decodeGeneration prim json (encodeGeneration json book) = .ok book

theorem consistent_foldl_step {events : List Event} (h : Consistent json system)
    (hsync : ∀ event ∈ events, event.fates.publish .syncDirectory ≠ .failed)
    (hdecodes : Decodes prim json (events.foldl (step prim json) system)) :
    Consistent json (events.foldl (step prim json) system) := by
  induction events generalizing system with
  | nil => exact h
  | cons event events ih =>
    have hwritten := (Extends.foldl_step prim json (event :: events) system).written
    refine ih ?_ (fun e he => hsync e (List.mem_cons_of_mem _ he)) hdecodes
    have hfirst := hsync event List.mem_cons_self
    cases event with
    | transact request fates => exact h.transact request hfirst
    | restart artifacts fates => exact h.restart (fun book hbook => hdecodes book (hwritten hbook)) artifacts hfirst

/-- Commits are atomic as long as no directory sync returns an error: once a generation was published, a restart that is
not itself stopped activates the book of the last success, or the book the process stopped with since. -/
theorem restart_activates {earlier later : List Event}
    (hsync : ∀ event ∈ earlier ++ later, event.fates.publish .syncDirectory ≠ .failed)
    (hdecodes : Decodes prim json (run prim json (earlier ++ later)))
    (hpublished : (run prim json earlier).disk.found.isSome ∨ (run prim json earlier).committed.isSome)
    (artifacts : BookKind → SnapshotArtifact) {fates : TransactionFates} (hartifact : fates.artifact ≠ .failed) :
    ((run prim json (earlier ++ later)).restart prim json artifacts fates).process = .down ∨
      ∃ book, ((run prim json (earlier ++ later)).restart prim json artifacts fates).process = .active book ∧
        ((run prim json (earlier ++ later)).committed = some book ∨
          (run prim json (earlier ++ later)).inDoubt = some book) := by
  have hlater : Extends (run prim json earlier) (run prim json (earlier ++ later)) := by
    rw [run, run, List.foldl_append]
    exact Extends.foldl_step prim json later _
  have hearlier : Consistent json (run prim json earlier) :=
    consistent_foldl_step consistent_initial (fun event hevent => hsync event (List.mem_append_left _ hevent))
      fun book hbook => hdecodes book (hlater.written hbook)
  have hconsistent : Consistent json (run prim json (earlier ++ later)) :=
    consistent_foldl_step consistent_initial hsync hdecodes
  have hsome := hlater.found (hpublished.elim id hearlier.committed)
  generalize run prim json (earlier ++ later) = system at hconsistent hsome hdecodes
  obtain ⟨bytes, hfound⟩ := Option.isSome_iff_exists.mp hsome
  obtain ⟨book, hwritten, rfl, hsynced, hbook⟩ := hconsistent.found bytes hfound
  rw [System.restart, loadGenerations_found (hdecodes book hwritten) hfound]
  dsimp only
  rw [reconcilePublication_synced hsynced]
  split
  · split
    next hfailed => exact absurd hfailed hartifact
    · exact .inl rfl
    · exact .inr ⟨book, rfl, hbook⟩
  · exact .inr ⟨book, rfl, hbook⟩

section Sample

def allDone : TransactionFates := ⟨.done, fun _ => .done, false, false⟩

def unsynced : TransactionFates := { allDone with publish := Function.update (fun _ => .done) .syncDirectory .failed }

def sampleUrls : List Text := [Ascii.bytes "http://a.i2p/"]

def sampleBook : State := State.afterCalls samplePrimitives [.replaceSubscriptions sampleUrls]

noncomputable def sampleJson : Json := unaryJson [.capture sampleBook, .capture .new]

theorem decodes_sample {book : State} (h : book ∈ [sampleBook, .new]) :
    decodeGeneration samplePrimitives sampleJson (encodeGeneration sampleJson book) = .ok book := by
  have hvalid : book.Valid samplePrimitives ∧ book.SourcesComplete ∧
      GenerationShape.capture book ∈ [GenerationShape.capture sampleBook, .capture .new] := by
    rcases List.mem_cons.mp h with rfl | h
    · exact ⟨State.valid_afterCalls _, by decide +kernel, by simp⟩
    · rw [List.mem_singleton.mp h]
      exact ⟨State.valid_new, .inl rfl, by simp⟩
  obtain ⟨hvalid, hcomplete, hknown⟩ := hvalid
  refine (hvalid.decode_encode sampleJson).mpr ⟨hcomplete, ?_⟩
  exact (length_unaryJson hknown).le.trans (by decide)

theorem restart_activates_sample : ((run samplePrimitives sampleJson ([.restart (fun _ => .missing) allDone] ++
        [.transact (.replaceSubscriptions sampleUrls) allDone])).restart samplePrimitives sampleJson (fun _ => .missing)
        allDone).process = .down ∨
      ∃ book, ((run samplePrimitives sampleJson ([.restart (fun _ => .missing) allDone] ++
          [.transact (.replaceSubscriptions sampleUrls) allDone])).restart samplePrimitives sampleJson (fun _ => .missing)
          allDone).process = .active book ∧
        ((run samplePrimitives sampleJson ([.restart (fun _ => .missing) allDone] ++
            [.transact (.replaceSubscriptions sampleUrls) allDone])).committed = some book ∨
          (run samplePrimitives sampleJson ([.restart (fun _ => .missing) allDone] ++
            [.transact (.replaceSubscriptions sampleUrls) allDone])).inDoubt = some book) := by
  exact restart_activates (by simp [Event.fates, allDone]) (fun _ => decodes_sample) (.inr rfl) _ (by decide)

theorem restart_activates_unsynced :
    let events := [.restart (fun _ => .missing) allDone, .transact (.replaceSubscriptions sampleUrls) unsynced]
    let system := run samplePrimitives sampleJson events
    ((run samplePrimitives sampleJson [.restart (fun _ => .missing) allDone]).transact samplePrimitives sampleJson
        (.replaceSubscriptions sampleUrls) unsynced).2 = .storeUnavailable ∧
      Decodes samplePrimitives sampleJson system ∧ system.inDoubt = none ∧
      ∃ book, (system.restart samplePrimitives sampleJson (fun _ => .missing) allDone).process = .active book ∧
        system.committed ≠ some book := by
  intro events system
  have hdecodes : Decodes samplePrimitives sampleJson system := fun _ => decodes_sample
  have hwritten : sampleBook ∈ system.written := .head _
  have hpublish : ¬ sampleBook.config.shouldPublish = true := by decide +kernel
  refine ⟨rfl, hdecodes, rfl, sampleBook, ?_, fun hsame => ?_⟩
  · rw [System.restart, loadGenerations_found (hdecodes sampleBook hwritten) rfl]
    dsimp only
    rw [reconcilePublication_synced (State.synced_of_not_shouldPublish (by simpa using hpublish)), if_neg hpublish]
    rfl
  · exact absurd (congrArg (Option.map fun book : State => book.subscriptions.urls) hsame) (by decide +kernel)

end Sample

end System

end I2pr.AddressBook
