import Mathlib.Tactic.Common
import Mathlib.Tactic.Ring

/-! The Molecule serialization format: little-endian integers, and the layout that tables and
    vectors of sized items share, a total, the offsets of the parts, and the parts. -/

namespace Molecule

abbrev Buffer : Type := List UInt8

/-- The bytes of an integer, the least significant first. -/
def packUint : Nat → Nat → Buffer
  | 0, _ => []
  | width + 1, value => UInt8.ofNat (value % 256) :: packUint width (value / 256)

/-- The integer that bytes stand for. -/
def unpackUint : Buffer → Nat
  | [] => 0
  | byte :: bytes => byte.toNat + 256 * unpackUint bytes

@[simp] theorem length_packUint (width value : Nat) : (packUint width value).length = width := by
  induction width generalizing value with
  | zero => rfl
  | succ width ih => simp [packUint, ih]

theorem unpackUint_packUint {width value : Nat} (h : value < 256 ^ width) :
    unpackUint (packUint width value) = value := by
  induction width generalizing value with
  | zero =>
    simp only [Nat.pow_zero] at h
    simp only [packUint, unpackUint]
    omega
  | succ width ih =>
    have hpow : 256 ^ (width + 1) = 256 ^ width * 256 := Nat.pow_succ ..
    have hrest : value / 256 < 256 ^ width := by omega
    have hlow : (UInt8.ofNat (value % 256)).toNat = value % 256 := by simp
    simp only [packUint, unpackUint, hlow, ih hrest]
    omega

theorem unpackUint_lt (buffer : Buffer) : unpackUint buffer < 256 ^ buffer.length := by
  induction buffer with
  | nil => simp [unpackUint]
  | cons byte bytes ih =>
    have hbyte := byte.toNat_lt
    have hpow : 256 ^ (byte :: bytes).length = 256 ^ bytes.length * 256 := Nat.pow_succ ..
    simp only [unpackUint]
    omega

/-- Every buffer is the bytes of the integer it stands for. -/
theorem packUint_unpackUint (buffer : Buffer) :
    packUint buffer.length (unpackUint buffer) = buffer := by
  induction buffer with
  | nil => rfl
  | cons byte bytes ih =>
    have hbyte := byte.toNat_lt
    have hlow : (byte.toNat + 256 * unpackUint bytes) % 256 = byte.toNat := by omega
    have hrest : (byte.toNat + 256 * unpackUint bytes) / 256 = unpackUint bytes := by omega
    simp only [List.length_cons, unpackUint, packUint, hlow, hrest, ih, UInt8.ofNat_toNat]

/-! ### Parts with their offsets -/

/-- The offsets of parts that follow each other from a start. -/
def offsets : Nat → List Buffer → List Nat
  | _, [] => []
  | start, part :: parts => start :: offsets (start + part.length) parts

/-- The bytes before the first part: the total and the offsets. -/
def headerSize (count : Nat) : Nat := 4 + 4 * count

def totalSize (parts : List Buffer) : Nat := headerSize parts.length + parts.flatten.length

/-- A list of words, one after the other. -/
def packWords (words : List Nat) : Buffer := (words.map (packUint 4)).flatten

/-- The layout of parts: the total, their offsets, and the parts themselves. -/
def layout (parts : List Buffer) : Buffer :=
  packWords (totalSize parts :: offsets (headerSize parts.length) parts) ++ parts.flatten

@[simp] theorem length_offsets (start : Nat) (parts : List Buffer) :
    (offsets start parts).length = parts.length := by
  induction parts generalizing start with
  | nil => rfl
  | cons part parts ih => simp [offsets, ih]

@[simp] theorem length_packWords (words : List Nat) : (packWords words).length = 4 * words.length := by
  induction words with
  | nil => rfl
  | cons word words ih =>
    simp only [packWords, List.map_cons, List.flatten_cons, List.length_append, length_packUint,
      List.length_cons] at ih ⊢
    omega

theorem length_layout (parts : List Buffer) : (layout parts).length = totalSize parts := by
  simp only [layout, totalSize, headerSize, List.length_append, length_packWords,
    List.length_cons, length_offsets]
  omega

theorem le_of_mem_offsets {start : Nat} {parts : List Buffer} {offset : Nat}
    (h : offset ∈ offsets start parts) : start ≤ offset ∧ offset ≤ start + parts.flatten.length := by
  induction parts generalizing start with
  | nil => simp [offsets] at h
  | cons part parts ih =>
    simp only [offsets, List.mem_cons] at h
    simp only [List.flatten_cons, List.length_append]
    rcases h with rfl | hrest
    · omega
    · have hbounds := ih hrest
      omega

/-! ### Reading a buffer by its offsets -/

/-- The word at an index: four bytes, little-endian. -/
def word (buffer : Buffer) (index : Nat) : Nat := unpackUint ((buffer.drop (4 * index)).take 4)

/-- `slice(start, stop)`: empty where the bounds are reversed, cut off at the end of the buffer. -/
def slice (buffer : Buffer) (start stop : Nat) : Buffer := (buffer.take stop).drop start

/-- The pieces between successive bounds. -/
def slices (buffer : Buffer) : List Nat → List Buffer
  | [] => []
  | [_] => []
  | start :: stop :: bounds => slice buffer start stop :: slices buffer (stop :: bounds)

/-- The bounds of the parts of a buffer: their offsets and its end. -/
def bounds (buffer : Buffer) (count : Nat) : List Nat :=
  (List.range count).map (fun i => word buffer (i + 1)) ++ [buffer.length]

/-- The parts of a buffer, by the offsets it declares. -/
def parts (buffer : Buffer) (count : Nat) : List Buffer := slices buffer (bounds buffer count)

/-- A buffer declares its own length, its first part follows the header, and no part starts
    before the one in front of it or ends outside the buffer. -/
structure Ordered (buffer : Buffer) (count : Nat) : Prop where
  total : word buffer 0 = buffer.length
  header : ∀ first ∈ (bounds buffer count).head?, first = headerSize count
  ascending : (bounds buffer count).Pairwise (· ≤ ·)

theorem word_packWords {words : List Nat} {index : Nat} (tail : Buffer)
    (hwords : ∀ w ∈ words, w < 2 ^ 32) (hindex : index < words.length) :
    word (packWords words ++ tail) index = words[index] := by
  induction words generalizing index with
  | nil => simp at hindex
  | cons first words ih =>
    have hpack : packWords (first :: words) ++ tail = packUint 4 first ++ (packWords words ++ tail) := by
      simp [packWords]
    rw [hpack]
    cases index with
    | zero =>
      have hfirst : first < 256 ^ 4 := by
        have := hwords first (by simp)
        norm_num at this ⊢
        exact this
      simp only [word, Nat.mul_zero, List.drop_zero, List.getElem_cons_zero]
      rw [List.take_left' (length_packUint 4 first)]
      exact unpackUint_packUint hfirst
    | succ index =>
      have hskip : 4 * (index + 1) = (packUint 4 first).length + 4 * index := by
        rw [length_packUint]
        omega
      have hdrop : (packUint 4 first ++ (packWords words ++ tail)).drop (4 * (index + 1)) =
          (packWords words ++ tail).drop (4 * index) := by
        rw [hskip, ← List.drop_drop, List.drop_left]
      simp only [word, hdrop, List.getElem_cons_succ]
      exact ih (fun w hw => hwords w (List.mem_cons_of_mem _ hw)) (by simpa using hindex)

theorem words_lt {parts : List Buffer} (htotal : totalSize parts < 2 ^ 32) :
    ∀ w ∈ totalSize parts :: offsets (headerSize parts.length) parts, w < 2 ^ 32 := by
  intro w hw
  rcases List.mem_cons.mp hw with rfl | hoffset
  · exact htotal
  · have hbounds := le_of_mem_offsets hoffset
    simp only [totalSize] at htotal
    omega

/-- A layout declares the bounds it was built with. -/
theorem bounds_layout {parts : List Buffer} (htotal : totalSize parts < 2 ^ 32) :
    bounds (layout parts) parts.length =
      offsets (headerSize parts.length) parts ++ [totalSize parts] := by
  have hoffsets : (List.range parts.length).map (fun i => word (layout parts) (i + 1)) =
      offsets (headerSize parts.length) parts := by
    apply List.ext_getElem
    · simp
    · intro i hleft hright
      have hword := word_packWords parts.flatten (words_lt htotal)
        (by simpa using hright : i + 1 <
          (totalSize parts :: offsets (headerSize parts.length) parts).length)
      simpa [layout] using hword
  rw [bounds, hoffsets, length_layout]

/-- The bounds of parts start where the first one does. -/
theorem bounds_head (start : Nat) (parts : List Buffer) :
    ∃ rest, offsets start parts ++ [start + parts.flatten.length] = start :: rest := by
  cases parts with
  | nil => exact ⟨[], by simp [offsets]⟩
  | cons part parts => exact ⟨_, rfl⟩

theorem slice_append (header part tail : Buffer) :
    slice (header ++ part ++ tail) header.length (header.length + part.length) = part := by
  have hstop : header.length + part.length = (header ++ part).length := by simp
  rw [slice, hstop, List.take_left, List.drop_left]

/-- The pieces between the offsets of parts that follow a header are the parts. -/
theorem slices_offsets (header : Buffer) (parts : List Buffer) :
    slices (header ++ parts.flatten)
        (offsets header.length parts ++ [header.length + parts.flatten.length]) = parts := by
  induction parts generalizing header with
  | nil => simp [offsets, slices]
  | cons part parts ih =>
    have hrest := ih (header ++ part)
    have hbuffer : header ++ (part :: parts).flatten = header ++ part ++ parts.flatten := by simp
    have hstop : header.length + (part :: parts).flatten.length =
        (header ++ part).length + parts.flatten.length := by
      simp only [List.flatten_cons, List.length_append]
      omega
    have hstart : header.length + part.length = (header ++ part).length := by simp
    obtain ⟨rest, hhead⟩ := bounds_head (header ++ part).length parts
    rw [hbuffer, hstop]
    simp only [offsets, List.cons_append, hstart]
    rw [hhead] at hrest ⊢
    rw [slices, hrest, ← hstart, slice_append]

/-- Reading a layout by its offsets gives back the parts. -/
theorem parts_layout {parts : List Buffer} (htotal : totalSize parts < 2 ^ 32) :
    Molecule.parts (layout parts) parts.length = parts := by
  have hheader : (packWords (totalSize parts :: offsets (headerSize parts.length) parts)).length =
      headerSize parts.length := by
    simp only [length_packWords, List.length_cons, length_offsets, headerSize]
    omega
  have hslices := slices_offsets
    (packWords (totalSize parts :: offsets (headerSize parts.length) parts)) parts
  rw [hheader] at hslices
  rw [Molecule.parts, bounds_layout htotal]
  exact hslices

theorem offsets_ascending (start : Nat) (parts : List Buffer) :
    (offsets start parts ++ [start + parts.flatten.length]).Pairwise (· ≤ ·) := by
  induction parts generalizing start with
  | nil => simp [offsets]
  | cons part parts ih =>
    have hrest := ih (start + part.length)
    have hstop : start + (part :: parts).flatten.length =
        start + part.length + parts.flatten.length := by
      simp only [List.flatten_cons, List.length_append]
      omega
    rw [hstop]
    refine List.pairwise_cons.mpr ⟨fun offset hoffset => ?_, hrest⟩
    rcases List.mem_append.mp hoffset with hin | hlast
    · have hbounds := le_of_mem_offsets hin
      omega
    · obtain rfl := List.mem_singleton.mp hlast
      omega

theorem word_layout {parts : List Buffer} (htotal : totalSize parts < 2 ^ 32) :
    word (layout parts) 0 = totalSize parts :=
  word_packWords parts.flatten (words_lt htotal) (by simp)

/-- The first offset of a layout is the size of its header. -/
theorem word_layout_first {part : Buffer} {parts : List Buffer}
    (htotal : totalSize (part :: parts) < 2 ^ 32) :
    word (layout (part :: parts)) 1 = headerSize (part :: parts).length :=
  word_packWords (part :: parts).flatten (words_lt htotal) (by simp [offsets])

/-- The length in front of a string of bytes. -/
theorem word_packUint {value : Nat} (h : value < 2 ^ 32) (content : Buffer) :
    word (packUint 4 value ++ content) 0 = value := by
  have hword := @word_packWords [value] 0 content (by simpa using h) (by simp)
  simpa [packWords] using hword

theorem layout_ordered {parts : List Buffer} (htotal : totalSize parts < 2 ^ 32) :
    Ordered (layout parts) parts.length where
  total := by rw [word_layout htotal, length_layout]
  header := by
    obtain ⟨rest, hhead⟩ := bounds_head (headerSize parts.length) parts
    have hbounds : bounds (layout parts) parts.length = headerSize parts.length :: rest := by
      rw [bounds_layout htotal, ← hhead, totalSize]
    intro first hfirst
    rw [hbounds] at hfirst
    exact (Option.mem_some_iff.mp hfirst).symm
  ascending := by
    rw [bounds_layout htotal]
    exact offsets_ascending _ _

/-! ### Parts of known lengths -/

/-- Cuts a buffer into pieces of the given lengths. -/
def cutLengths : List Nat → Buffer → List Buffer
  | [], _ => []
  | length :: lengths, buffer => buffer.take length :: cutLengths lengths (buffer.drop length)

theorem cutLengths_flatten (parts : List Buffer) :
    cutLengths (parts.map List.length) parts.flatten = parts := by
  induction parts with
  | nil => rfl
  | cons part parts ih => simp [cutLengths, ih]

end Molecule
