import CempMobile.Lib.Molecule
import Mathlib.Data.List.Forall2

/-! Codecs for Molecule data, and the combinators that build them. What they write is what the
    format specifies. How they take a buffer apart is left to a reader. -/

namespace mol

open Molecule

/-- What a codec fails with: an error of the library, whose text is its own, or a message. -/
inductive Fault where
  | library
  | message (text : String)
  deriving DecidableEq, Repr

/-- The reading side of a Molecule library: how it takes a buffer apart before the parts are
    decoded by their own codecs. -/
structure Reader where
  uint (width : Nat) (buffer : Buffer) : Except Fault Nat
  option (buffer : Buffer) : Except Fault (Option Buffer)
  byteVec (buffer : Buffer) : Except Fault Buffer
  fixedItemVec (itemLength : Nat) (buffer : Buffer) : Except Fault (List Buffer)
  struct (lengths : List Nat) (buffer : Buffer) : Except Fault (List Buffer)
  table (count : Nat) (buffer : Buffer) : Except Fault (List Buffer)
  dynItemVec (buffer : Buffer) : Except Fault (List Buffer)

/-- A reader finds the parts of a buffer that is laid out as the format specifies. What it does
    with any other buffer is not said. -/
structure Reader.Reads (reader : Reader) : Prop where
  uint : ∀ {width value}, value < 256 ^ width →
    reader.uint width (packUint width value) = .ok value
  /-- Integers verify the exact length of their buffer. -/
  uint_length : ∀ {width buffer value}, reader.uint width buffer = .ok value →
    buffer.length = width
  option_none : reader.option [] = .ok none
  option_some : ∀ {buffer}, buffer ≠ [] → reader.option buffer = .ok (some buffer)
  byteVec : ∀ {content}, content.length < 2 ^ 32 →
    reader.byteVec (packUint 4 content.length ++ content) = .ok content
  fixedItemVec : ∀ {itemLength items}, items.length < 2 ^ 32 →
    (∀ item ∈ items, item.length = itemLength) →
    reader.fixedItemVec itemLength (packUint 4 items.length ++ items.flatten) = .ok items
  struct : ∀ parts, reader.struct (parts.map List.length) parts.flatten = .ok parts
  table : ∀ {parts}, totalSize parts < 2 ^ 32 →
    reader.table parts.length (layout parts) = .ok parts
  dynItemVec : ∀ {parts}, totalSize parts < 2 ^ 32 →
    reader.dynItemVec (layout parts) = .ok parts

/-- A codec. `inRange` states which values it is for, and `ordered` that the offsets in a buffer
    are in order at every depth: neither of them is ever computed. -/
structure Codec (α : Type) where
  encode : α → Except Fault Buffer
  decode : Buffer → Except Fault α
  /-- The length of every encoding, where it is fixed. -/
  byteLength : Option Nat
  inRange : α → Prop
  ordered : Buffer → Prop

/-- It encodes the values in range and no others, and decodes what it encoded. -/
structure Codec.Lawful {α : Type} (codec : Codec α) : Prop where
  encodes : ∀ {v}, codec.inRange v → ∃ bytes, codec.encode v = .ok bytes
  inRange : ∀ {v bytes}, codec.encode v = .ok bytes → codec.inRange v
  decodes : ∀ {v bytes}, codec.encode v = .ok bytes → codec.decode bytes = .ok v
  length : ∀ {v bytes n}, codec.encode v = .ok bytes → codec.byteLength = some n →
    bytes.length = n
  ordered : ∀ {v bytes}, codec.encode v = .ok bytes → codec.ordered bytes

/-- Codecs of several parts, one after the other. -/
structure Fields (α : Type) where
  lengths : List (Option Nat)
  encode : α → Except Fault (List Buffer)
  decode : List Buffer → Except Fault α
  inRange : α → Prop
  ordered : List Buffer → Prop

structure Fields.Lawful {α : Type} (fields : Fields α) : Prop where
  encodes : ∀ {v}, fields.inRange v → ∃ parts, fields.encode v = .ok parts
  inRange : ∀ {v parts}, fields.encode v = .ok parts → fields.inRange v
  decodes : ∀ {v parts}, fields.encode v = .ok parts → fields.decode parts = .ok v
  lengths : ∀ {v parts}, fields.encode v = .ok parts →
    List.Forall₂ (fun length part => ∀ n ∈ length, List.length part = n) fields.lengths parts
  ordered : ∀ {v parts}, fields.encode v = .ok parts → fields.ordered parts

variable {α β : Type}

/-! ### Combinators -/

/-- An unsigned integer. A number that is too large is refused, and a negative one is silently
    taken modulo the range. -/
def uint (reader : Reader) (width : Nat) : Codec Int where
  encode v :=
    if 256 ^ width ≤ v then .error .library else .ok (packUint width (v % 256 ^ width).toNat)
  decode buffer := (reader.uint width buffer).map Int.ofNat
  byteLength := some width
  inRange v := 0 ≤ v ∧ v < 256 ^ width
  ordered _ := True

/-- Passes a value through a function before it is encoded. -/
def Codec.mapIn (codec : Codec α) (check : α → Except Fault α) : Codec α :=
  { codec with encode := fun v => check v >>= codec.encode }

/-- A codec of another type with the same data. -/
def Codec.as (codec : Codec β) (toData : α → β) (ofData : β → α) : Codec α where
  encode v := codec.encode (toData v)
  decode buffer := (codec.decode buffer).map ofData
  byteLength := codec.byteLength
  inRange v := codec.inRange (toData v)
  ordered := codec.ordered

def option (reader : Reader) (codec : Codec α) : Codec (Option α) where
  encode
    | none => .ok []
    | some v => codec.encode v
  decode buffer := do
    match ← reader.option buffer with
    | none => return none
    | some inner => return some (← codec.decode inner)
  byteLength := none
  inRange v := ∀ x ∈ v, codec.inRange x
  ordered buffer := buffer = [] ∨ codec.ordered buffer

/-- A string of bytes behind its length. -/
def byteVec (reader : Reader) : Codec Buffer where
  encode v := if 2 ^ 32 ≤ v.length then .error .library else .ok (packUint 4 v.length ++ v)
  decode := reader.byteVec
  byteLength := none
  inRange v := v.length < 2 ^ 32
  ordered _ := True

/-- Encodes the items of a list. -/
def encodeItems (codec : Codec α) : List α → Except Fault (List Buffer)
  | [] => .ok []
  | item :: items => do
    let part ← codec.encode item
    let parts ← encodeItems codec items
    return part :: parts

def decodeItems (codec : Codec α) : List Buffer → Except Fault (List α)
  | [] => .ok []
  | part :: parts => do
    let item ← codec.decode part
    let items ← decodeItems codec parts
    return item :: items

/-- A vector of items of one length. -/
def fixedItemVec (reader : Reader) (codec : Codec α) : Codec (List α) where
  encode v := do
    let parts ← encodeItems codec v
    if 2 ^ 32 ≤ parts.length then throw .library
    else return packUint 4 parts.length ++ parts.flatten
  decode buffer := do
    let parts ← reader.fixedItemVec (codec.byteLength.getD 0) buffer
    decodeItems codec parts
  byteLength := none
  inRange v := (∀ x ∈ v, codec.inRange x) ∧ v.length < 2 ^ 32
  ordered _ := True

/-- Lays parts out, unless they are too many bytes for a total of four. -/
def encodeLayout (parts : List Buffer) : Except Fault Buffer :=
  if 2 ^ 32 ≤ totalSize parts then .error .library else .ok (layout parts)

/-- A vector of items behind their offsets. -/
def dynItemVec (reader : Reader) (codec : Codec α) : Codec (List α) where
  encode v := encodeItems codec v >>= encodeLayout
  decode buffer := reader.dynItemVec buffer >>= decodeItems codec
  byteLength := none
  inRange v := (∀ x ∈ v, codec.inRange x) ∧
    ∀ parts, encodeItems codec v = .ok parts → totalSize parts < 2 ^ 32
  ordered buffer := ∃ count, Ordered buffer count ∧ ∀ part ∈ parts buffer count, codec.ordered part

def Fields.nil : Fields Unit where
  lengths := []
  encode _ := .ok []
  decode _ := .ok ()
  inRange _ := True
  ordered _ := True

def Fields.cons (codec : Codec α) (fields : Fields β) : Fields (α × β) where
  lengths := codec.byteLength :: fields.lengths
  encode v := do
    let part ← codec.encode v.1
    let parts ← fields.encode v.2
    return part :: parts
  decode
    | [] => .error .library
    | part :: parts => do
      let v ← codec.decode part
      let w ← fields.decode parts
      return (v, w)
  inRange v := codec.inRange v.1 ∧ fields.inRange v.2
  ordered
    | [] => False
    | part :: parts => codec.ordered part ∧ fields.ordered parts

/-- Fields of fixed lengths, one after the other. -/
def struct (reader : Reader) (fields : Fields α) : Codec α where
  encode v := (fields.encode v).map List.flatten
  decode buffer := do
    let parts ← reader.struct (fields.lengths.map fun length => length.getD 0) buffer
    fields.decode parts
  byteLength := some (fields.lengths.map fun length => length.getD 0).sum
  inRange := fields.inRange
  ordered _ := True

/-- Fields behind their offsets. -/
def table (reader : Reader) (fields : Fields α) : Codec α where
  encode v := fields.encode v >>= encodeLayout
  decode buffer := reader.table fields.lengths.length buffer >>= fields.decode
  byteLength := none
  inRange v := fields.inRange v ∧
    ∀ parts, fields.encode v = .ok parts → totalSize parts < 2 ^ 32
  ordered buffer := Ordered buffer fields.lengths.length ∧
    fields.ordered (parts buffer fields.lengths.length)

/-! ### Lawfulness -/

theorem bind_eq_ok {x : Except Fault α} {f : α → Except Fault β} {b : β}
    (h : x >>= f = .ok b) : ∃ a, x = .ok a ∧ f a = .ok b := by
  cases x with
  | error e => cases h
  | ok a => exact ⟨a, rfl, h⟩

theorem encodeLayout_eq_ok {parts : List Buffer} {bytes : Buffer} :
    encodeLayout parts = .ok bytes ↔ totalSize parts < 2 ^ 32 ∧ bytes = layout parts := by
  unfold encodeLayout
  split
  · next hlarge =>
    constructor
    · intro h
      cases h
    · rintro ⟨hsmall, -⟩
      omega
  · next hsmall =>
    constructor
    · intro h
      exact ⟨by omega, (Except.ok.inj h).symm⟩
    · rintro ⟨-, rfl⟩
      rfl

/-- An encoding that is not empty. -/
def Codec.NonEmpty (codec : Codec α) : Prop := ∀ {v bytes}, codec.encode v = .ok bytes → bytes ≠ []

theorem Codec.Lawful.nonEmpty {codec : Codec α} (h : codec.Lawful) {n : Nat}
    (hlength : codec.byteLength = some n) (hpos : 0 < n) : codec.NonEmpty := by
  intro v bytes hencode
  have hbytes := h.length hencode hlength
  exact List.length_pos_iff.mp (by omega)

variable {reader : Reader}

theorem byteVec_lawful (hreads : reader.Reads) : (byteVec reader).Lawful where
  encodes := by
    intro v hv
    simp only [byteVec] at hv ⊢
    exact ⟨_, if_neg (by omega)⟩
  inRange := by
    intro v bytes h
    simp only [byteVec] at h ⊢
    split at h
    · cases h
    · omega
  decodes := by
    intro v bytes h
    simp only [byteVec] at h ⊢
    split at h
    · cases h
    · obtain rfl := Except.ok.inj h
      exact hreads.byteVec (by omega)
  length := by
    intro v bytes n _ hlength
    cases hlength
  ordered _ := trivial

theorem byteVec_nonEmpty : (byteVec reader).NonEmpty := by
  intro v bytes h hnil
  simp only [byteVec] at h
  split at h
  · cases h
  · obtain rfl := Except.ok.inj h
    have hlength := congrArg List.length hnil
    simp at hlength

/-- Integers are lawful once a check keeps them in range. -/
theorem uint_mapIn_lawful (hreads : reader.Reads) {width : Nat} {check : Int → Except Fault Int}
    (hok : ∀ v, 0 ≤ v → v < 256 ^ width → check v = .ok v)
    (hcheck : ∀ v w, check v = .ok w → w = v ∧ 0 ≤ v ∧ v < 256 ^ width) :
    ((uint reader width).mapIn check).Lawful where
  encodes := by
    rintro v ⟨hnonneg, hlt⟩
    refine ⟨packUint width (v % 256 ^ width).toNat, ?_⟩
    simp only [Codec.mapIn, uint, hok v hnonneg hlt]
    exact if_neg (by omega)
  inRange := by
    intro v bytes h
    obtain ⟨w, hw, -⟩ := bind_eq_ok h
    exact (hcheck v w hw).2
  decodes := by
    intro v bytes h
    obtain ⟨w, hw, hencode⟩ := bind_eq_ok h
    obtain ⟨rfl, hnonneg, hlt⟩ := hcheck v w hw
    simp only [uint] at hencode
    split at hencode
    · cases hencode
    · obtain rfl := Except.ok.inj hencode
      have hsmall : (w % 256 ^ width).toNat = w.toNat := by
        rw [Int.emod_eq_of_lt hnonneg hlt]
      have hnat : w.toNat < 256 ^ width := by
        have hcast : (w.toNat : Int) < ((256 ^ width : Nat) : Int) := by
          rw [Int.toNat_of_nonneg hnonneg]
          push_cast
          exact hlt
        exact_mod_cast hcast
      simp only [Codec.mapIn, uint, hsmall, hreads.uint hnat, Except.map]
      rw [Int.ofNat_eq_natCast, Int.toNat_of_nonneg hnonneg]
  length := by
    intro v bytes n h hlength
    obtain ⟨w, hw, hencode⟩ := bind_eq_ok h
    obtain rfl := Option.some.inj hlength
    simp only [uint] at hencode
    split at hencode
    · cases hencode
    · obtain rfl := Except.ok.inj hencode
      exact length_packUint ..
  ordered _ := trivial

theorem Codec.Lawful.as {codec : Codec β} (h : codec.Lawful) {toData : α → β} {ofData : β → α}
    (hinverse : ∀ v, ofData (toData v) = v) : (codec.as toData ofData).Lawful where
  encodes hv := h.encodes hv
  inRange hv := h.inRange hv
  decodes := by
    intro v bytes hencode
    simp only [Codec.as, h.decodes hencode, Except.map, hinverse]
  length hencode hlength := h.length hencode hlength
  ordered hencode := h.ordered hencode

theorem Codec.Lawful.option {codec : Codec α} (hreads : reader.Reads) (h : codec.Lawful)
    (hnonEmpty : codec.NonEmpty) : (mol.option reader codec).Lawful where
  encodes := by
    intro v hv
    cases v with
    | none => exact ⟨[], rfl⟩
    | some v => exact h.encodes (hv v rfl)
  inRange := by
    intro v bytes hencode x hx
    obtain rfl := Option.mem_def.mp hx
    exact h.inRange hencode
  decodes := by
    intro v bytes hencode
    cases v with
    | none =>
      obtain rfl := Except.ok.inj hencode
      simp only [mol.option, hreads.option_none]
      rfl
    | some v =>
      have hbytes : bytes ≠ [] := hnonEmpty hencode
      have hdecode := h.decodes hencode
      simp only [mol.option, hreads.option_some hbytes, bind, Except.bind, hdecode]
      rfl
  length := by
    intro v bytes n _ hlength
    cases hlength
  ordered := by
    intro v bytes hencode
    cases v with
    | none => exact .inl (Except.ok.inj hencode).symm
    | some v => exact .inr (h.ordered hencode)

/-! Items and fields: what holds of each part holds of all of them. -/

theorem encodeItems_cons {codec : Codec α} {item : α} {items : List α} {parts : List Buffer}
    (h : encodeItems codec (item :: items) = .ok parts) :
    ∃ part rest, codec.encode item = .ok part ∧ encodeItems codec items = .ok rest ∧
      parts = part :: rest := by
  obtain ⟨part, hpart, h⟩ := bind_eq_ok h
  obtain ⟨rest, hrest, h⟩ := bind_eq_ok h
  exact ⟨part, rest, hpart, hrest, (Except.ok.inj h).symm⟩

theorem encodeItems_ok {codec : Codec α} (h : codec.Lawful) {items : List α}
    (hitems : ∀ x ∈ items, codec.inRange x) : ∃ parts, encodeItems codec items = .ok parts := by
  induction items with
  | nil => exact ⟨[], rfl⟩
  | cons item items ih =>
    obtain ⟨part, hpart⟩ := h.encodes (hitems item (by simp))
    obtain ⟨rest, hrest⟩ := ih fun x hx => hitems x (List.mem_cons_of_mem _ hx)
    exact ⟨part :: rest, by simp [encodeItems, hpart, hrest, bind, Except.bind, pure, Except.pure]⟩

theorem encodeItems_inRange {codec : Codec α} (h : codec.Lawful) {items : List α}
    {parts : List Buffer} (hencode : encodeItems codec items = .ok parts) :
    ∀ x ∈ items, codec.inRange x := by
  induction items generalizing parts with
  | nil => simp
  | cons item items ih =>
    obtain ⟨part, rest, hpart, hrest, -⟩ := encodeItems_cons hencode
    intro x hx
    rcases List.mem_cons.mp hx with rfl | htail
    · exact h.inRange hpart
    · exact ih hrest x htail

theorem encodeItems_length {codec : Codec α} {items : List α} {parts : List Buffer}
    (hencode : encodeItems codec items = .ok parts) : parts.length = items.length := by
  induction items generalizing parts with
  | nil =>
    obtain rfl := Except.ok.inj hencode
    rfl
  | cons item items ih =>
    obtain ⟨part, rest, -, hrest, rfl⟩ := encodeItems_cons hencode
    simp [ih hrest]

theorem encodeItems_parts {codec : Codec α} {p : Buffer → Prop}
    (h : ∀ {v bytes}, codec.encode v = .ok bytes → p bytes) {items : List α}
    {parts : List Buffer} (hencode : encodeItems codec items = .ok parts) :
    ∀ part ∈ parts, p part := by
  induction items generalizing parts with
  | nil =>
    obtain rfl := Except.ok.inj hencode
    simp
  | cons item items ih =>
    obtain ⟨part, rest, hpart, hrest, rfl⟩ := encodeItems_cons hencode
    intro other hother
    rcases List.mem_cons.mp hother with rfl | htail
    · exact h hpart
    · exact ih hrest other htail

theorem decodeItems_encodeItems {codec : Codec α} (h : codec.Lawful) {items : List α}
    {parts : List Buffer} (hencode : encodeItems codec items = .ok parts) :
    decodeItems codec parts = .ok items := by
  induction items generalizing parts with
  | nil =>
    obtain rfl := Except.ok.inj hencode
    rfl
  | cons item items ih =>
    obtain ⟨part, rest, hpart, hrest, rfl⟩ := encodeItems_cons hencode
    simp [decodeItems, h.decodes hpart, ih hrest, bind, Except.bind, pure, Except.pure]

theorem Codec.Lawful.fixedItemVec {codec : Codec α} (hreads : reader.Reads) (h : codec.Lawful)
    {n : Nat} (hlength : codec.byteLength = some n) : (mol.fixedItemVec reader codec).Lawful where
  encodes := by
    rintro v ⟨hitems, hcount⟩
    obtain ⟨parts, hparts⟩ := encodeItems_ok h hitems
    have hlengths := encodeItems_length hparts
    refine ⟨packUint 4 parts.length ++ parts.flatten, ?_⟩
    simp only [mol.fixedItemVec, hparts, bind, Except.bind]
    exact if_neg (by omega)
  inRange := by
    intro v bytes hencode
    obtain ⟨parts, hparts, hpack⟩ := bind_eq_ok hencode
    have hlengths := encodeItems_length hparts
    split at hpack
    · cases hpack
    · exact ⟨encodeItems_inRange h hparts, by omega⟩
  decodes := by
    intro v bytes hencode
    obtain ⟨parts, hparts, hpack⟩ := bind_eq_ok hencode
    split at hpack
    · cases hpack
    · next hsmall =>
      obtain rfl := Except.ok.inj hpack
      have hsizes : ∀ part ∈ parts, part.length = n :=
        encodeItems_parts (fun hpart => h.length hpart hlength) hparts
      have hread : reader.fixedItemVec n (packUint 4 parts.length ++ parts.flatten) = .ok parts :=
        hreads.fixedItemVec (by omega) hsizes
      simp only [mol.fixedItemVec, hlength, Option.getD_some, hread, bind, Except.bind]
      exact decodeItems_encodeItems h hparts
  length := by
    intro v bytes n _ hnone
    cases hnone
  ordered _ := trivial

theorem Codec.Lawful.dynItemVec {codec : Codec α} (hreads : reader.Reads) (h : codec.Lawful) :
    (mol.dynItemVec reader codec).Lawful where
  encodes := by
    rintro v ⟨hitems, htotal⟩
    obtain ⟨parts, hparts⟩ := encodeItems_ok h hitems
    refine ⟨layout parts, ?_⟩
    simp only [mol.dynItemVec, hparts, bind, Except.bind]
    exact encodeLayout_eq_ok.mpr ⟨htotal parts hparts, rfl⟩
  inRange := by
    intro v bytes hencode
    obtain ⟨parts, hparts, hlayout⟩ := bind_eq_ok hencode
    obtain ⟨htotal, -⟩ := encodeLayout_eq_ok.mp hlayout
    refine ⟨encodeItems_inRange h hparts, fun other hother => ?_⟩
    obtain rfl := Except.ok.inj (hparts.symm.trans hother)
    exact htotal
  decodes := by
    intro v bytes hencode
    obtain ⟨parts, hparts, hlayout⟩ := bind_eq_ok hencode
    obtain ⟨htotal, rfl⟩ := encodeLayout_eq_ok.mp hlayout
    simp only [mol.dynItemVec, hreads.dynItemVec htotal, bind, Except.bind]
    exact decodeItems_encodeItems h hparts
  length := by
    intro v bytes n _ hnone
    cases hnone
  ordered := by
    intro v bytes hencode
    obtain ⟨parts, hparts, hlayout⟩ := bind_eq_ok hencode
    obtain ⟨htotal, rfl⟩ := encodeLayout_eq_ok.mp hlayout
    refine ⟨parts.length, layout_ordered htotal, ?_⟩
    rw [parts_layout htotal]
    exact encodeItems_parts h.ordered hparts

theorem Fields.nil_lawful : Fields.nil.Lawful where
  encodes _ := ⟨[], rfl⟩
  inRange _ := trivial
  decodes _ := rfl
  lengths := by
    intro v parts hencode
    obtain rfl := Except.ok.inj hencode
    exact .nil
  ordered _ := trivial

theorem Fields.cons_encode {codec : Codec α} {fields : Fields β} {v : α × β} {parts : List Buffer}
    (h : (Fields.cons codec fields).encode v = .ok parts) :
    ∃ part rest, codec.encode v.1 = .ok part ∧ fields.encode v.2 = .ok rest ∧
      parts = part :: rest := by
  obtain ⟨part, hpart, h⟩ := bind_eq_ok h
  obtain ⟨rest, hrest, h⟩ := bind_eq_ok h
  exact ⟨part, rest, hpart, hrest, (Except.ok.inj h).symm⟩

theorem Fields.Lawful.cons {codec : Codec α} {fields : Fields β} (h : codec.Lawful)
    (hfields : fields.Lawful) : (Fields.cons codec fields).Lawful where
  encodes := by
    rintro v ⟨hfirst, hrest⟩
    obtain ⟨part, hpart⟩ := h.encodes hfirst
    obtain ⟨parts, hparts⟩ := hfields.encodes hrest
    exact ⟨part :: parts, by
      simp [Fields.cons, hpart, hparts, bind, Except.bind, pure, Except.pure]⟩
  inRange := by
    intro v parts hencode
    obtain ⟨part, rest, hpart, hrest, -⟩ := Fields.cons_encode hencode
    exact ⟨h.inRange hpart, hfields.inRange hrest⟩
  decodes := by
    intro v parts hencode
    obtain ⟨part, rest, hpart, hrest, rfl⟩ := Fields.cons_encode hencode
    simp [Fields.cons, h.decodes hpart, hfields.decodes hrest, bind, Except.bind, pure,
      Except.pure]
  lengths := by
    intro v parts hencode
    obtain ⟨part, rest, hpart, hrest, rfl⟩ := Fields.cons_encode hencode
    exact .cons (fun n hn => h.length hpart hn) (hfields.lengths hrest)
  ordered := by
    intro v parts hencode
    obtain ⟨part, rest, hpart, hrest, rfl⟩ := Fields.cons_encode hencode
    exact ⟨h.ordered hpart, hfields.ordered hrest⟩

/-- Parts of fixed lengths have the lengths of their codecs. -/
theorem map_length_eq {lengths : List (Option Nat)} {parts : List Buffer}
    (h : List.Forall₂ (fun length part => ∀ n ∈ length, List.length part = n) lengths parts)
    (hfixed : ∀ length ∈ lengths, length.isSome) :
    parts.map List.length = lengths.map fun length => length.getD 0 := by
  induction h with
  | nil => rfl
  | @cons length part lengths parts hpart _ ih =>
    obtain ⟨n, hn⟩ := Option.isSome_iff_exists.mp (hfixed length (by simp))
    have hlength := hpart n hn
    simp only [List.map_cons, hlength, hn, Option.getD_some]
    rw [ih fun other hother => hfixed other (List.mem_cons_of_mem _ hother)]

theorem Fields.Lawful.struct {fields : Fields α} (hreads : reader.Reads) (h : fields.Lawful)
    (hfixed : ∀ length ∈ fields.lengths, length.isSome) : (mol.struct reader fields).Lawful where
  encodes := by
    intro v hv
    obtain ⟨parts, hparts⟩ := h.encodes hv
    exact ⟨parts.flatten, by simp [mol.struct, hparts, Except.map]⟩
  inRange := by
    intro v bytes hencode
    simp only [mol.struct] at hencode
    cases hparts : fields.encode v with
    | error e => simp [hparts, Except.map] at hencode
    | ok parts => exact h.inRange hparts
  decodes := by
    intro v bytes hencode
    simp only [mol.struct] at hencode
    cases hparts : fields.encode v with
    | error e => simp [hparts, Except.map] at hencode
    | ok parts =>
      simp only [hparts, Except.map, Except.ok.injEq] at hencode
      subst hencode
      have hread := hreads.struct parts
      rw [map_length_eq (h.lengths hparts) hfixed] at hread
      simp only [mol.struct, hread, bind, Except.bind]
      exact h.decodes hparts
  length := by
    intro v bytes n hencode hlength
    simp only [mol.struct] at hencode hlength
    cases hparts : fields.encode v with
    | error e => simp [hparts, Except.map] at hencode
    | ok parts =>
      simp only [hparts, Except.map, Except.ok.injEq] at hencode
      subst hencode
      obtain rfl := Option.some.inj hlength
      rw [List.length_flatten, map_length_eq (h.lengths hparts) hfixed]
  ordered _ := trivial

theorem Fields.Lawful.table {fields : Fields α} (hreads : reader.Reads) (h : fields.Lawful) :
    (mol.table reader fields).Lawful where
  encodes := by
    rintro v ⟨hv, htotal⟩
    obtain ⟨parts, hparts⟩ := h.encodes hv
    refine ⟨layout parts, ?_⟩
    simp only [mol.table, hparts, bind, Except.bind]
    exact encodeLayout_eq_ok.mpr ⟨htotal parts hparts, rfl⟩
  inRange := by
    intro v bytes hencode
    obtain ⟨parts, hparts, hlayout⟩ := bind_eq_ok hencode
    obtain ⟨htotal, -⟩ := encodeLayout_eq_ok.mp hlayout
    refine ⟨h.inRange hparts, fun other hother => ?_⟩
    obtain rfl := Except.ok.inj (hparts.symm.trans hother)
    exact htotal
  decodes := by
    intro v bytes hencode
    obtain ⟨parts, hparts, hlayout⟩ := bind_eq_ok hencode
    obtain ⟨htotal, rfl⟩ := encodeLayout_eq_ok.mp hlayout
    have hcount : fields.lengths.length = parts.length := (h.lengths hparts).length_eq
    simp only [mol.table, hcount, hreads.table htotal, bind, Except.bind]
    exact h.decodes hparts
  length := by
    intro v bytes n _ hnone
    cases hnone
  ordered := by
    intro v bytes hencode
    obtain ⟨parts, hparts, hlayout⟩ := bind_eq_ok hencode
    obtain ⟨htotal, rfl⟩ := encodeLayout_eq_ok.mp hlayout
    have hcount : fields.lengths.length = parts.length := (h.lengths hparts).length_eq
    simp only [mol.table, hcount]
    refine ⟨layout_ordered htotal, ?_⟩
    rw [parts_layout htotal]
    exact h.ordered hparts

theorem table_nonEmpty {fields : Fields α} : (table reader fields).NonEmpty := by
  intro v bytes hencode hnil
  obtain ⟨parts, -, hlayout⟩ := bind_eq_ok hencode
  obtain ⟨-, rfl⟩ := encodeLayout_eq_ok.mp hlayout
  have hlength := congrArg List.length hnil
  rw [length_layout] at hlength
  simp [totalSize, headerSize] at hlength

/-! ### A reader by offsets -/

/-- The reader that checks a buffer's total and then takes the parts where the offsets say. The
    offsets after the first one are taken as they are. -/
def offsetReader : Reader where
  uint width buffer :=
    if buffer.length = width then .ok (unpackUint buffer) else .error .library
  option buffer := .ok (if buffer = [] then none else some buffer)
  byteVec buffer :=
    if buffer.length = 4 + word buffer 0 then .ok (buffer.drop 4) else .error .library
  fixedItemVec itemLength buffer :=
    if buffer.length = 4 + word buffer 0 * itemLength then
      .ok (cutLengths (List.replicate (word buffer 0) itemLength) (buffer.drop 4))
    else .error .library
  struct lengths buffer :=
    if buffer.length = lengths.sum then .ok (cutLengths lengths buffer) else .error .library
  table count buffer :=
    if buffer.length < 4 ∨ word buffer 0 ≠ buffer.length ∨
        (0 < count ∧ word buffer 1 ≠ headerSize count) then .error .library
    else .ok (parts buffer count)
  dynItemVec buffer :=
    if buffer.length < 4 ∨ word buffer 0 ≠ buffer.length then .error .library
    else if buffer.length = 4 then .ok []
    else .ok (parts buffer ((word buffer 1 - 4) / 4))

theorem offsetReader_reads : offsetReader.Reads where
  uint := by
    intro width value h
    simp [offsetReader, unpackUint_packUint h]
  uint_length := by
    intro width buffer value h
    simp only [offsetReader] at h
    split at h
    · assumption
    · cases h
  option_none := by simp [offsetReader]
  option_some := by
    intro buffer h
    simp [offsetReader, h]
  byteVec := by
    intro content h
    simp [offsetReader, word_packUint h]
  fixedItemVec := by
    intro itemLength items hcount hitems
    have hlengths : items.map List.length = List.replicate items.length itemLength := by
      rw [List.eq_replicate_iff]
      simpa using hitems
    have htotal : items.flatten.length = items.length * itemLength := by
      rw [List.length_flatten, hlengths, List.sum_replicate_nat]
    have hcut := cutLengths_flatten items
    rw [hlengths] at hcut
    simp [offsetReader, word_packUint hcount, htotal, hcut]
  struct parts := by simp [offsetReader, List.length_flatten, cutLengths_flatten]
  table := by
    intro parts htotal
    have hsmall : ¬(layout parts).length < 4 := by
      simp only [length_layout, totalSize, headerSize]
      omega
    have hfirst : ¬(0 < parts.length ∧ word (layout parts) 1 ≠ headerSize parts.length) := by
      cases parts with
      | nil => simp
      | cons part parts => simp [word_layout_first htotal]
    simp only [offsetReader, word_layout htotal, length_layout, ne_eq, not_true_eq_false,
      parts_layout htotal] at hsmall hfirst ⊢
    rw [if_neg (by simp only [hsmall, false_or]; exact hfirst)]
  dynItemVec := by
    intro parts htotal
    have hsmall : ¬totalSize parts < 4 := by
      simp only [totalSize, headerSize]
      omega
    simp only [offsetReader, word_layout htotal, length_layout, ne_eq, not_true_eq_false, hsmall,
      or_self, if_false]
    cases parts with
    | nil => rfl
    | cons part rest =>
      have hlarge : totalSize (part :: rest) ≠ 4 := by
        simp only [totalSize, headerSize, List.length_cons]
        omega
      have hcount : (word (layout (part :: rest)) 1 - 4) / 4 = (part :: rest).length := by
        rw [word_layout_first htotal]
        simp only [headerSize]
        omega
      rw [if_neg hlarge, hcount, parts_layout htotal]

end mol
