import I2pr.Ssu2Run

namespace I2pr.Ssu2

open BigEndian List

theorem u32At_encodeMessage (messageType : UInt8) (messageId expirationSecs : UInt32) (body : List UInt8) :
    u32At (encodeMessage messageType messageId expirationSecs body) 1 = messageId ∧
      u32At (encodeMessage messageType messageId expirationSecs body) 5 = expirationSecs := by
  unfold u32At encodeMessage
  constructor
  · rw [slice_succ_cons, slice_zero_append (length_encode 4 _), decode_encode_u32]
  · rw [slice_succ_cons, slice_append (length_encode 4 _) (length_encode 4 _), decode_encode_u32]

theorem encodeMessage_fields {bytes : List UInt8} (h : 9 ≤ bytes.length) :
    encodeMessage (byteAt bytes 0) (u32At bytes 1) (u32At bytes 5) (bytes.drop 9) = bytes := by
  unfold encodeMessage u32At
  rw [encode_decode_u32 (length_slice (by omega)), encode_decode_u32 (length_slice (by omega))]
  cases bytes with
  | nil => simp at h
  | cons b rest =>
    simp only [byteAt, getD_cons_zero, slice_succ_cons, drop_succ_cons]
    congr 1
    rw [show slice rest 4 4 = (rest.drop 4).take 4 from rfl, show slice rest 0 4 = rest.take 4 from rfl,
      show rest.drop 8 = (rest.drop 4).drop 4 by rw [drop_drop], take_append_drop, take_append_drop]

/-- A queued message as `queue_i2np_message` cuts it: its fragments are numbered in order, the last one is
marked, and together with the header they are the message. -/
structure SplitOf (bytes : List UInt8) (m : OutboundMessage) : Prop where
  nonempty : 0 < m.fragments.length
  length_le : m.fragments.length ≤ maxI2npFragments
  numbered : ∀ i f, m.fragments[i]? = some f → f.fragNumber = UInt8.ofNat i ∧
    (f.isLast = true ↔ i + 1 = m.fragments.length) ∧ f.totalFragments = UInt8.ofNat m.fragments.length
  joined : encodeMessage m.messageType m.messageId m.expirationSecs (m.fragments.flatMap (·.bytes)) = bytes
  bounded : (m.fragments.flatMap (·.bytes)).length ≤ maxI2npMessageBytes

theorem QueuedFragment.new_eq_ok {index total : Nat} {chunk : List UInt8} {f : QueuedFragment}
    (h : QueuedFragment.new index total chunk = .ok f) :
    f.fragNumber = UInt8.ofNat index ∧ f.isLast = decide (index + 1 = total) ∧ f.totalFragments = UInt8.ofNat total ∧
      f.bytes = chunk := by
  unfold QueuedFragment.new at h
  split at h
  · cases h; exact ⟨rfl, rfl, rfl, rfl⟩
  · cases h

theorem Ssu2Session.fragmentBudget_pos (s : Ssu2Session) : 0 < s.fragmentBudget := by
  unfold fragmentBudget
  omega

theorem splitBody_eq_ok {budget total : Nat} {body : List UInt8} {fragments : List QueuedFragment}
    (h : splitBody budget total body = .ok fragments) :
    fragments.map (·.bytes) = Chunks.chunks budget body ∧ ∀ i f, fragments[i]? = some f →
      f.fragNumber = UInt8.ofNat i ∧ f.isLast = decide (i + 1 = total) ∧ f.totalFragments = UInt8.ofNat total := by
  obtain ⟨hlength, hget⟩ := Collect.mapM_eq_ok h
  rw [List.length_zipIdx] at hlength
  have hpiece (i : Nat) (f : QueuedFragment) (hf : fragments[i]? = some f) :
      ∃ chunk, (Chunks.chunks budget body)[i]? = some chunk ∧ QueuedFragment.new i total chunk = .ok f := by
    have hi : i < (Chunks.chunks budget body).length := hlength ▸ (List.getElem?_eq_some_iff.mp hf).1
    refine ⟨_, List.getElem?_eq_getElem hi, ?_⟩
    have := hget i ((Chunks.chunks budget body)[i], i) f (by simp [List.getElem?_zipIdx, List.getElem?_eq_getElem hi]) hf
    simpa using this
  constructor
  · apply List.ext_getElem?
    intro i
    rw [List.getElem?_map]
    cases hf : fragments[i]? with
    | none =>
      have : (Chunks.chunks budget body).length ≤ i := hlength ▸ List.getElem?_eq_none_iff.mp hf
      rw [List.getElem?_eq_none this]
      rfl
    | some f =>
      obtain ⟨chunk, hchunk, hnew⟩ := hpiece i f hf
      rw [hchunk, Option.map_some, (QueuedFragment.new_eq_ok hnew).2.2.2]
  · intro i f hf
    obtain ⟨chunk, -, hnew⟩ := hpiece i f hf
    obtain ⟨hnumber, hlast, htotal, -⟩ := QueuedFragment.new_eq_ok hnew
    exact ⟨hnumber, hlast, htotal⟩

theorem Ssu2Session.queueI2npMessage_split {s t : Ssu2Session} {bytes : List UInt8} {messageId : UInt32}
    (h : s.queueI2npMessage bytes = .ok (t, messageId)) :
    ∃ m, SplitOf bytes m ∧ m.messageId = messageId ∧
      t = { s with send := { s.send with outbound := s.send.outbound ++ [m] } } := by
  obtain ⟨-, hlong, hsize, hid, hcount, -, fragments, hsplit, rfl⟩ := queueI2npMessage_eq_ok h
  refine ⟨_, ?_, rfl, rfl⟩
  obtain ⟨hchunks, hnumbered⟩ := splitBody_eq_ok hsplit
  have hlength : fragments.length = s.fragmentCount (bytes.drop 9) := by
    rw [← length_map (f := (·.bytes)), hchunks, Chunks.length_chunks s.fragmentBudget_pos]
    rfl
  have hbody : fragments.flatMap (·.bytes) = bytes.drop 9 := by
    rw [flatMap_def, hchunks, Chunks.flatten_chunks s.fragmentBudget_pos]
  have hrest : (bytes.drop 9).length = bytes.length - 9 := length_drop
  refine ⟨?_, hlength ▸ hcount, ?_, ?_, ?_⟩
  · rw [length_pos_iff]
    rintro rfl
    rw [flatMap_nil] at hbody
    rw [← hbody, length_nil] at hrest
    omega
  · intro i f hf
    obtain ⟨hnumber, hlast, htotal⟩ := hnumbered i f hf
    exact ⟨hnumber, by rw [hlast, hlength]; simp, by rw [htotal, hlength]⟩
  · rw [hbody, hid]
    exact encodeMessage_fields (by omega)
  · rw [hbody, hrest]
    omega

end I2pr.Ssu2
