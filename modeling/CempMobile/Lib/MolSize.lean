import CempMobile.Lib.MolCodec
import Mathlib.Tactic.Ring

/-! How long encodings get. -/

namespace mol

open Molecule

variable {α β : Type} {reader : Reader}

/-- No encoding is longer. -/
def Codec.AtMost (codec : Codec α) (size : Nat) : Prop :=
  ∀ ⦃v bytes⦄, codec.encode v = .ok bytes → bytes.length ≤ size

/-- The parts are no longer, taken together. -/
def Fields.AtMost (fields : Fields α) (size : Nat) : Prop :=
  ∀ ⦃v parts⦄, fields.encode v = .ok parts → (parts.map List.length).sum ≤ size

theorem Codec.Lawful.atMost {codec : Codec α} (h : codec.Lawful) {size : Nat}
    (hlength : codec.byteLength = some size) : codec.AtMost size := by
  intro v bytes hencode
  exact (h.length hencode hlength).le

theorem Codec.AtMost.option {codec : Codec α} {size : Nat} (h : codec.AtMost size) :
    (mol.option reader codec).AtMost size := by
  intro v bytes hencode
  cases v with
  | none =>
    obtain rfl := Except.ok.inj hencode
    exact Nat.zero_le _
  | some v => exact h hencode

theorem Codec.AtMost.as {codec : Codec β} {size : Nat} (h : codec.AtMost size) {toData : α → β}
    {ofData : β → α} : (codec.as toData ofData).AtMost size := by
  intro v bytes hencode
  exact h hencode

theorem byteVec_length {v bytes : Buffer} (h : (byteVec reader).encode v = .ok bytes) :
    bytes.length = 4 + v.length := by
  simp only [byteVec] at h
  split at h
  · cases h
  · obtain rfl := Except.ok.inj h
    rw [List.length_append, length_packUint]

theorem Fields.nil_atMost : Fields.nil.AtMost 0 := by
  intro v parts h
  obtain rfl := Except.ok.inj h
  exact le_rfl

theorem Fields.AtMost.cons {codec : Codec α} {fields : Fields β} {size rest : Nat}
    (h : codec.AtMost size) (hfields : fields.AtMost rest) :
    (Fields.cons codec fields).AtMost (size + rest) := by
  intro v parts hencode
  obtain ⟨part, parts, hpart, hparts, rfl⟩ := Fields.cons_encode hencode
  rw [List.map_cons, List.sum_cons]
  exact Nat.add_le_add (h hpart) (hfields hparts)

/-- Behind their offsets, fields take the header more. -/
theorem Fields.AtMost.table {fields : Fields α} {size : Nat} (hlawful : fields.Lawful)
    (h : fields.AtMost size) :
    (mol.table reader fields).AtMost (headerSize fields.lengths.length + size) := by
  intro v bytes hencode
  obtain ⟨parts, hparts, hlayout⟩ := bind_eq_ok hencode
  obtain ⟨-, rfl⟩ := encodeLayout_eq_ok.1 hlayout
  have hcount : fields.lengths.length = parts.length := (hlawful.lengths hparts).length_eq
  rw [length_layout, totalSize, hcount, List.length_flatten]
  exact Nat.add_le_add_left (h hparts) _

/-! ### Exact sizes -/

/-- The encoding of a value has this size. The value is in range when this holds of its parts, and
    it is not too long for its headers. -/
structure Codec.Takes (codec : Codec α) (v : α) (size : Nat) (parts : Prop) : Prop where
  length : ∀ ⦃bytes⦄, codec.encode v = .ok bytes → bytes.length = size
  inRange : parts → size < 2 ^ 32 → codec.inRange v

/-- The parts of a value are so many, and have this size, taken together. -/
structure Fields.Takes (fields : Fields α) (v : α) (count size : Nat) (parts : Prop) : Prop where
  length : ∀ ⦃buffers⦄, fields.encode v = .ok buffers →
    buffers.length = count ∧ (buffers.map List.length).sum = size
  inRange : parts → size < 2 ^ 32 → fields.inRange v

theorem Codec.Takes.of {codec : Codec α} {v : α} {size size' : Nat} {parts parts' : Prop}
    (h : codec.Takes v size parts) (hsize : size = size') (hparts : parts' → parts) :
    codec.Takes v size' parts' :=
  ⟨fun _ hencode => (h.length hencode).trans hsize, fun hp hs => h.inRange (hparts hp) (hsize ▸ hs)⟩

theorem Codec.Lawful.takes {codec : Codec α} (h : codec.Lawful) {size : Nat}
    (hlength : codec.byteLength = some size) (v : α) : codec.Takes v size (codec.inRange v) where
  length _ hencode := h.length hencode hlength
  inRange hrange _ := hrange

theorem byteVec_takes (v : Buffer) : (byteVec reader).Takes v (4 + v.length) True where
  length _ hencode := byteVec_length hencode
  inRange _ hsize := by
    change v.length < 2 ^ 32
    omega

theorem option_none_takes {codec : Codec α} :
    (mol.option reader codec).Takes none 0 True where
  length _ hencode := by
    obtain rfl := Except.ok.inj hencode
    rfl
  inRange _ _ := by
    intro x hx
    cases hx

theorem Codec.Takes.some {codec : Codec α} {v : α} {size : Nat} {parts : Prop}
    (h : codec.Takes v size parts) : (mol.option reader codec).Takes (some v) size parts where
  length _ hencode := h.length hencode
  inRange hparts hsize := by
    intro x hx
    obtain rfl := Option.some.inj hx
    exact h.inRange hparts hsize

theorem Codec.Takes.as {codec : Codec β} {toData : α → β} {ofData : β → α} {v : α} {size : Nat}
    {parts : Prop} (h : codec.Takes (toData v) size parts) :
    (codec.as toData ofData).Takes v size parts :=
  ⟨h.length, h.inRange⟩

/-- What items of one size come to behind their offsets: four bytes more each. -/
theorem items_totalSize {codec : Codec α} {items : List α} {size : Nat} {range : α → Prop}
    {buffers : List Buffer} (h : ∀ item ∈ items, codec.Takes item size (range item))
    (hbuffers : encodeItems codec items = .ok buffers) :
    totalSize buffers = 4 + (4 + size) * items.length := by
  have hflatten : buffers.flatten.length = size * items.length := by
    induction items generalizing buffers with
    | nil =>
      obtain rfl := Except.ok.inj hbuffers
      rfl
    | cons item items ih =>
      obtain ⟨buffer, rest, hbuffer, hrest, rfl⟩ := encodeItems_cons hbuffers
      have hsize := (h item List.mem_cons_self).length hbuffer
      have htail := @ih rest (fun other hother => h other (List.mem_cons_of_mem item hother)) hrest
      rw [List.flatten_cons, List.length_append, hsize, htail, List.length_cons]
      ring
  rw [totalSize, headerSize, encodeItems_length hbuffers, hflatten]
  ring

theorem Codec.Takes.dynItemVec (reader : Reader) {codec : Codec α} {items : List α} {size : Nat}
    {range : α → Prop} (h : ∀ item ∈ items, codec.Takes item size (range item)) :
    (mol.dynItemVec reader codec).Takes items (4 + (4 + size) * items.length)
      (∀ item ∈ items, range item) where
  length bytes hencode := by
    obtain ⟨buffers, hbuffers, hlayout⟩ := bind_eq_ok hencode
    obtain ⟨-, rfl⟩ := encodeLayout_eq_ok.1 hlayout
    rw [length_layout, items_totalSize h hbuffers]
  inRange hrange hsize := by
    refine ⟨fun item hitem => (h item hitem).inRange (hrange item hitem) ?_, fun buffers hbuffers =>
      (items_totalSize h hbuffers).trans_lt hsize⟩
    have hpos : 0 < items.length := List.length_pos_of_mem hitem
    have hone : (4 + size) * 1 ≤ (4 + size) * items.length := Nat.mul_le_mul_left _ hpos
    omega

theorem Fields.nil_takes : Fields.nil.Takes () 0 0 True where
  length _ h := by
    obtain rfl := Except.ok.inj h
    exact ⟨rfl, rfl⟩
  inRange _ _ := trivial

theorem Fields.Takes.cons {codec : Codec α} {fields : Fields β} {v : α} {rest : β}
    {size count restSize : Nat} {parts restParts : Prop} (h : codec.Takes v size parts)
    (hfields : fields.Takes rest count restSize restParts) :
    (Fields.cons codec fields).Takes (v, rest) (count + 1) (size + restSize)
      (parts ∧ restParts) where
  length _ hencode := by
    obtain ⟨buffer, buffers, hbuffer, hbuffers, rfl⟩ := Fields.cons_encode hencode
    obtain ⟨hcount, hsize⟩ := hfields.length hbuffers
    rw [List.length_cons, List.map_cons, List.sum_cons, h.length hbuffer, hcount, hsize]
    exact ⟨rfl, rfl⟩
  inRange hparts hsize :=
    ⟨h.inRange hparts.1 (by omega), hfields.inRange hparts.2 (by omega)⟩

/-- What the parts of a table come to with its header. -/
theorem Fields.Takes.totalSize {fields : Fields α} {v : α} {count size : Nat} {parts : Prop}
    (h : fields.Takes v count size parts) {buffers : List Buffer}
    (hbuffers : fields.encode v = .ok buffers) :
    Molecule.totalSize buffers = headerSize count + size := by
  obtain ⟨hcount, hsize⟩ := h.length hbuffers
  rw [Molecule.totalSize, List.length_flatten, hcount, hsize]

theorem Fields.Takes.table (reader : Reader) {fields : Fields α} {v : α} {count size : Nat}
    {parts : Prop} (h : fields.Takes v count size parts) :
    (mol.table reader fields).Takes v (headerSize count + size) parts where
  length _ hencode := by
    obtain ⟨buffers, hbuffers, hlayout⟩ := bind_eq_ok hencode
    obtain ⟨-, rfl⟩ := encodeLayout_eq_ok.1 hlayout
    rw [length_layout, h.totalSize hbuffers]
  inRange hparts hsize :=
    ⟨h.inRange hparts (by omega), fun _ hbuffers => (h.totalSize hbuffers).trans_lt hsize⟩

end mol
