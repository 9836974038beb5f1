import I2pr.EciesCrypto
import I2pr.Lib.KeyChain

namespace I2pr.Ecies

/-- "KDFDHRatchetStep", "TagAndKeyGenKeys", "STInitialization", "SessionTagKeyGen", "SymmetricRatchet" and
"SessionReplyTags". -/
def kdfDhRatchetStep : List UInt8 :=
  [0x4b, 0x44, 0x46, 0x44, 0x48, 0x52, 0x61, 0x74, 0x63, 0x68, 0x65, 0x74, 0x53, 0x74, 0x65, 0x70]
def tagAndKeyGenKeys : List UInt8 :=
  [0x54, 0x61, 0x67, 0x41, 0x6e, 0x64, 0x4b, 0x65, 0x79, 0x47, 0x65, 0x6e, 0x4b, 0x65, 0x79, 0x73]
def stInitialization : List UInt8 :=
  [0x53, 0x54, 0x49, 0x6e, 0x69, 0x74, 0x69, 0x61, 0x6c, 0x69, 0x7a, 0x61, 0x74, 0x69, 0x6f, 0x6e]
def sessionTagKeyGen : List UInt8 :=
  [0x53, 0x65, 0x73, 0x73, 0x69, 0x6f, 0x6e, 0x54, 0x61, 0x67, 0x4b, 0x65, 0x79, 0x47, 0x65, 0x6e]
def symmetricRatchet : List UInt8 :=
  [0x53, 0x79, 0x6d, 0x6d, 0x65, 0x74, 0x72, 0x69, 0x63, 0x52, 0x61, 0x74, 0x63, 0x68, 0x65, 0x74]
def sessionReplyTags : List UInt8 :=
  [0x53, 0x65, 0x73, 0x73, 0x69, 0x6f, 0x6e, 0x52, 0x65, 0x70, 0x6c, 0x79, 0x54, 0x61, 0x67, 0x73]

structure EciesTagSetEntry where
  index : Nat
  tag : Tag

/-- One direction of a paired session: the tag ratchet and the key ratchet. The indices of the source are
`u32` values that its own ceilings keep far below `2 ^ 32`. -/
structure EciesTagSet where
  tagChainKey : Key
  tagConstant : Key
  symmChainKey : Key
  symmKeys : List Key
  symmKeysBase : Nat
  nextIndex : Nat

/-- Why a call ends without a value: an error it returns, or a panic. -/
inductive Failure (E : Type) where
  | error (e : E)
  | panicked
deriving DecidableEq, Repr

namespace EciesTagSet

variable (c : EciesCrypto)

def dhInitialize (rootKey k : Key) : EciesTagSet :=
  let ck := (c.hkdf rootKey k.toList kdfDhRatchetStep).2
  let generated := c.hkdf ck [] tagAndKeyGenKeys
  ⟨generated.1, .replicate 32 0, generated.2, [], 0, 0⟩

def newSessionReplyTagSet (nsChainingKey : Key) : EciesTagSet :=
  dhInitialize c nsChainingKey (c.hkdf nsChainingKey [] sessionReplyTags).1

def beginTagRatchet (t : EciesTagSet) : EciesTagSet :=
  let initialized := c.hkdf t.tagChainKey [] stInitialization
  { t with tagChainKey := initialized.1, tagConstant := initialized.2, nextIndex := 0 }

def ratchetTag (tagConstant chainKey : Key) : Key × Tag :=
  let derived := c.hkdf chainKey tagConstant.toList sessionTagKeyGen
  (derived.1, ⟨derived.2.toList.take 8, by simp⟩)

def ratchetKey (chainKey : Key) : Key × Key :=
  c.hkdf chainKey [] symmetricRatchet

def nextEntry (t : EciesTagSet) : Except EciesError (EciesTagSet × EciesTagSetEntry) :=
  if maxTagSetIndex ≤ t.nextIndex + 1 then .error .tagSetExhausted
  else
    let (chainKey, tag) := ratchetTag c t.tagConstant t.tagChainKey
    .ok ({ t with tagChainKey := chainKey, nextIndex := t.nextIndex + 1 }, ⟨t.nextIndex, tag⟩)

/-- The loop of `symm_key` with the rounds it has left; it stops early when too many keys are retained. -/
def deriveKeys : Nat → EciesTagSet → EciesTagSet × Bool
  | 0, t => (t, true)
  | rounds + 1, t =>
    if maxTagSetRetainedKeys ≤ t.symmKeys.length then (t, false)
    else
      let (chainKey, key) := ratchetKey c t.symmChainKey
      deriveKeys rounds { t with symmChainKey := chainKey, symmKeys := t.symmKeys ++ [key] }

/-- The key of a message. The subtraction below the base of the retained keys is a panic of the source, as is
an index past their end. -/
def symmKey (t : EciesTagSet) (index : Nat) : EciesTagSet × Except (Failure EciesError) Key :=
  if maxTagSetIndex ≤ index then (t, .error (.error (.tagSetIndexBeyondCeiling index maxTagSetIndex)))
  else match t.deriveKeys c (index + 1 - (t.symmKeysBase + t.symmKeys.length)) with
    | (t, false) => (t, .error (.error (.tagSetIndexBeyondCeiling index maxTagSetRetainedKeys)))
    | (t, true) =>
      if index < t.symmKeysBase then (t, .error .panicked)
      else match t.symmKeys[index - t.symmKeysBase]? with
        | some key => (t, .ok key)
        | none => (t, .error .panicked)

def trimKeysBelow (t : EciesTagSet) (index : Nat) : EciesTagSet :=
  let dropped := min (index - t.symmKeysBase) t.symmKeys.length
  { t with symmKeys := t.symmKeys.drop dropped, symmKeysBase := t.symmKeysBase + dropped }

end EciesTagSet

structure ExistingSessionMessage where
  tag : Tag
  encryptedPayloadSection : List UInt8
deriving DecidableEq

section ExistingSession

variable (c : EciesCrypto)

def sealExistingSession (t : EciesTagSet) (payload : List UInt8) :
    EciesTagSet × Except (Failure EciesError) ExistingSessionMessage :=
  if maxNewSessionCiphertext < payload.length then
    (t, .error (.error (.ciphertextTooLarge payload.length maxNewSessionCiphertext)))
  else match t.nextEntry c with
    | .error e => (t, .error (.error e))
    | .ok (t, entry) =>
      match t.symmKey c entry.index with
      | (t, .error e) => (t, .error e)
      | (t, .ok key) =>
        (t.trimKeysBelow entry.index, .ok ⟨entry.tag, c.encrypt key entry.index payload entry.tag.toList⟩)

def openExistingSession (t : EciesTagSet) (index : Nat) (message : ExistingSessionMessage) :
    EciesTagSet × Except (Failure EciesError) (List UInt8) :=
  if message.encryptedPayloadSection.length < aeadTagLen then
    (t, .error (.error (.ciphertextTooShort message.encryptedPayloadSection.length aeadTagLen)))
  else match t.symmKey c index with
    | (t, .error e) => (t, .error e)
    | (t, .ok key) =>
      match c.aeadDecrypt key index message.encryptedPayloadSection message.tag.toList with
      | .error e => (t, .error (.error e))
      | .ok payload => (t.trimKeysBelow (index - 1), .ok payload)

end ExistingSession

/-- A bounded look-ahead of tags over one tag set, each removed when it is used. -/
structure InboundTagWindow where
  tagSet : EciesTagSet
  entries : Std.ExtTreeMap Tag Nat
  capacity : Nat

namespace InboundTagWindow

variable (c : EciesCrypto)

/-- The loop of `refill`; `rounds` bounds the tags the set can still issue. -/
def refillFrom : Nat → InboundTagWindow → InboundTagWindow × Except EciesError Unit
  | 0, w => (w, if w.entries.size < w.capacity then .error .tagSetExhausted else .ok ())
  | rounds + 1, w =>
    if w.entries.size < w.capacity then
      match w.tagSet.nextEntry c with
      | .error e => (w, .error e)
      | .ok (tagSet, entry) =>
        refillFrom rounds { w with tagSet := tagSet, entries := w.entries.insert entry.tag entry.index }
    else (w, .ok ())

def refill (w : InboundTagWindow) : InboundTagWindow × Except EciesError Unit :=
  w.refillFrom c (maxTagSetIndex - 1 - w.tagSet.nextIndex)

def new (tagSet : EciesTagSet) (capacity : Nat) : Except EciesError InboundTagWindow :=
  match refill c ⟨tagSet, ∅, capacity⟩ with
  | (w, .ok ()) => .ok w
  | (_, .error e) => .error e

def contains (w : InboundTagWindow) (tag : Tag) : Bool :=
  w.entries.contains tag

/-- The window after the tag is used, and its index; a set that is exhausted leaves the window short. -/
def consume (w : InboundTagWindow) (tag : Tag) : Option (InboundTagWindow × Nat) :=
  match w.entries[tag]? with
  | none => none
  | some index => some ((refill c { w with entries := w.entries.erase tag }).1, index)

end InboundTagWindow

end I2pr.Ecies
