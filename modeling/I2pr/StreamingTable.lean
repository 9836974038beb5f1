import I2pr.StreamingPeer

namespace I2pr

open Call Std ExtTreeMap

variable {D : Type}

namespace StreamingManager

section Size

variable {m m' : StreamingManager D} {config : StreamingConfig} {id : ConnectionId}
  {conn : StreamingConnection D}

theorem size_setConnection {conn' : StreamingConnection D}
    (h : m.connections[id]? = some conn) : (m.setConnection id conn').connections.size = m.connections.size := by
  rw [setConnection, size_insert, if_pos (mem_iff_contains.mp (TreeMap.mem_of_getElem? h))]

structure Bounded (limits : StreamingConfig) (m : StreamingManager D) : Prop where
  config : m.config = limits
  size : m.connections.size ≤ limits.maxStreamsPerDestination.toNat

/-- A SYN comes only while the table has room. -/
def HasRoom (prim : StreamingPrimitives D) (m : StreamingManager D) (request : ManagerRequest D) : Prop :=
  ∀ wireBytes packet destination, request.packetBytes prim = some wireBytes → IsSyn prim wireBytes packet destination →
    m.connections.size < m.config.maxStreamsPerDestination.toNat

theorem Change.config_eq {prim : StreamingPrimitives D} {request : ManagerRequest D} (h : Change prim m request m') :
    m'.config = m.config := by
  cases h with
  | @took _ _ packet id conn nowMs =>
    obtain ⟨_, heq, -⟩ := m.takeData_eq packet id conn nowMs
    rw [heq]
    rfl
  | @accepted _ _ id _ _ advertisedMaxPayload nowMs conn =>
    obtain ⟨_, _, _, heq, -⟩ :=
      releaseSynPayload_eq (m.setConnection id (acceptTransition advertisedMaxPayload nowMs conn).2) id
    rw [heq]
    rfl
  | @polled nowMs => exact (m.pollRetransmits_frame nowMs).1
  | @listened port =>
    obtain ⟨_, heq⟩ := m.listen_eq port
    rw [heq]
  | @removed id =>
    obtain ⟨_, _, heq⟩ := m.removeConnection_eq id
    rw [heq]
  | _ => rfl

theorem Bounded.change {prim : StreamingPrimitives D}
    {request : ManagerRequest D} (h : m.Bounded config) (hroom : m.HasRoom prim request)
    (hchange : Change prim m request m') : m'.Bounded config := by
  refine ⟨hchange.config_eq.trans h.config, ?_⟩
  have hsubset {table : ExtTreeMap ConnectionId (StreamingConnection D)} (hmem : ∀ id ∈ table, id ∈ m.connections) :
      table.size ≤ config.maxStreamsPerDestination.toNat :=
    (TreeMap.size_le_size hmem).trans h.size
  have hset {id conn conn'} (hconn : m.connections[id]? = some conn) :
      (m.setConnection id conn').connections.size ≤ config.maxStreamsPerDestination.toNat :=
    (size_setConnection hconn).trans_le h.size
  have hinsert {id conn} (hless : m.connections.size < m.config.maxStreamsPerDestination.toNat) :
      (m.connections.insert id conn).size ≤ config.maxStreamsPerDestination.toNat :=
    size_insert_le.trans (h.config ▸ hless)
  cases hchange with
  | counted | popped => exact h.size
  | connected _ _ hless => exact hinsert hless
  | entered _ _ hbytes hsyn => exact hinsert (hroom _ _ _ hbytes hsyn)
  | refused =>
    refine hsubset fun id hid => ?_
    obtain ⟨hne, hid⟩ := mem_erase.mp hid
    exact (mem_insert.mp hid).resolve_left hne
  | answered _ _ _ _ hconn | unaccepted hconn | sent _ hconn | closed _ hconn | reset hconn => exact hset hconn
  | @took _ _ packet id conn nowMs _ hdata =>
    obtain ⟨_, _, _, _, _, hconn, _⟩ := hdata
    obtain ⟨_, heq, -⟩ := m.takeData_eq packet id conn nowMs
    rw [heq]
    exact hset hconn
  | accepted _ hconn =>
    rw [track, releaseSynPayload_connections]
    exact hset hconn
  | @polled nowMs => exact hsubset (m.pollRetransmits_frame nowMs).2.2
  | @listened port =>
    obtain ⟨_, heq⟩ := m.listen_eq port
    rw [heq]
    exact h.size
  | removed => exact hsubset fun _ hid => (mem_erase.mp hid).2
  | used => exact hsubset fun _ hid => mem_modify.mp hid

/-- As long as every SYN comes while the table has room, the table never exceeds its bound. -/
theorem size_le_of_hasRoom {prim : StreamingPrimitives D} {config : StreamingConfig} {m : StreamingManager D}
    (h : Reaches prim config (HasRoom prim) m) : m.connections.size ≤ config.maxStreamsPerDestination.toNat := by
  refine (h.invariant (P := Bounded config) ⟨rfl, Nat.zero_le _⟩ (fun m request m' hm hroom => hm.change hroom) ?_).size
  intro m m' hm htidies
  exact ⟨htidies.config.trans hm.config, htidies.connections ▸ hm.size⟩

end Size

section Sample

def oneStream : StreamingConfig := { StreamingConfig.balanced with maxStreamsPerDestination := 1 }

def sampleOpen : ManagerRequest Bool := .connect (sampleIdentity false) (sampleRemote true) 0 0 1812 [] 0

set_option maxRecDepth 4000 in
theorem size_le_sampleOpen :
    ∃ m, Reaches samplePrimitives oneStream (HasRoom samplePrimitives) m ∧ m.connections.size = 1 ∧
      m.connections.size ≤ oneStream.maxStreamsPerDestination.toNat := by
  have hreach : Reaches samplePrimitives oneStream (HasRoom samplePrimitives) _ :=
    .step sampleOpen .new (fun _ _ _ hbytes => nomatch hbytes) rfl
  exact ⟨_, hreach, rfl, size_le_of_hasRoom hreach⟩

set_option maxRecDepth 4000 in
theorem oneStream_exceeded : oneStream.tryNew = .ok oneStream ∧
      ∃ m, Reaches samplePrimitives oneStream (fun _ _ => True) m ∧
        oneStream.maxStreamsPerDestination.toNat < m.connections.size := by
  have hafter : after samplePrimitives [.call (.listen 0), .call (sampleCall (sampleSyn true)),
      .call (sampleCall (sampleSyn true))] (.new oneStream) = some _ := rfl
  exact ⟨by decide, _, Reaches.new.after hafter, by decide +kernel⟩

end Sample

end StreamingManager

end I2pr
