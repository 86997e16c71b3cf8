import CempMobile.Lib.Crc
import Mathlib.Tactic.Ring

/-! A reader of 8-bit greyscale PNG images whose scanlines are not filtered and whose data is
    not compressed. -/

/-- The sums of a byte string modulo 65521: the second adds up the first after each byte. -/
def Adler.first (bytes : List UInt8) : Nat := (1 + (bytes.map UInt8.toNat).sum) % 65521

def Adler.second (bytes : List UInt8) : Nat :=
  ((List.range bytes.length).map fun i => Adler.first (bytes.take (i + 1))).sum % 65521

def Adler.adler32 (bytes : List UInt8) : Nat := Adler.second bytes * 65536 + Adler.first bytes

namespace Png

/-- A number of four bytes, the highest first. -/
def readU32 : List UInt8 → Option (Nat × List UInt8)
  | a :: b :: c :: d :: rest =>
    some (a.toNat * 2 ^ 24 + b.toNat * 2 ^ 16 + c.toNat * 2 ^ 8 + d.toNat, rest)
  | _ => none

def takeBytes (n : Nat) (bytes : List UInt8) : Option (List UInt8 × List UInt8) :=
  if n ≤ bytes.length then some (bytes.take n, bytes.drop n) else none

structure Chunk where
  type : List UInt8
  data : List UInt8

/-- A length, a type, as much data, and the check of the type and the data. -/
def readChunk (bytes : List UInt8) : Option (Chunk × List UInt8) := do
  let (length, rest) ← readU32 bytes
  let (type, rest) ← takeBytes 4 rest
  let (data, rest) ← takeBytes length rest
  let (check, rest) ← readU32 rest
  if length < 2 ^ 31 ∧ check = (Crc.crc32 (type ++ data)).toNat then some (⟨type, data⟩, rest)
  else none

/-- Stored blocks up to the last of them: a flag, a length and its complement, and as much data. -/
def inflate : List UInt8 → Option (List UInt8 × List UInt8)
  | header :: l₀ :: l₁ :: n₀ :: n₁ :: rest =>
    let length := l₀.toNat + 256 * l₁.toNat
    if header.toNat / 2 % 4 = 0 ∧ length + (n₀.toNat + 256 * n₁.toNat) = 65535 ∧
        length ≤ rest.length then
      if header.toNat % 2 = 1 then some (rest.take length, rest.drop length)
      else match inflate (rest.drop length) with
        | none => none
        | some (out, after) => some (rest.take length ++ out, after)
    else none
  | _ => none
termination_by bytes => bytes.length
decreasing_by
  simp only [List.length_drop, List.length_cons]
  omega

/-- A zlib stream without a dictionary. -/
def unzlib : List UInt8 → Option (List UInt8)
  | cmf :: flg :: rest => do
    let (out, rest) ← inflate rest
    let (check, _) ← readU32 rest
    if cmf.toNat % 16 = 8 ∧ cmf.toNat / 16 ≤ 7 ∧ (cmf.toNat * 256 + flg.toNat) % 31 = 0 ∧
        flg.toNat / 32 % 2 = 0 ∧ check = Adler.adler32 out then some out
    else none
  | _ => none

/-- As many scanlines as the height, each behind its filter type, which is none. -/
def unfilter (width : Nat) : Nat → List UInt8 → Option (List UInt8)
  | 0, [] => some []
  | height + 1, 0 :: bytes => do
    let (row, rest) ← takeBytes width bytes
    let rows ← unfilter width height rest
    some (row ++ rows)
  | _, _ => none

def SIGNATURE : List UInt8 := [137, 80, 78, 71, 13, 10, 26, 10]

def IHDR : List UInt8 := [73, 72, 68, 82]

def IDAT : List UInt8 := [73, 68, 65, 84]

def IEND : List UInt8 := [73, 69, 78, 68]

/-- A chunk that a reader may pass over: its type begins with a small letter. -/
def Chunk.ancillary (chunk : Chunk) : Bool :=
  chunk.type.head?.any fun letter => letter.toNat / 32 % 2 = 1

/-- The dimensions, where the rest of the header says 8-bit greyscale without interlacing. -/
def readHeader (chunk : Chunk) : Option (Nat × Nat) := do
  let (width, rest) ← readU32 chunk.data
  let (height, rest) ← readU32 rest
  if chunk.type = IHDR ∧ rest = [8, 0, 0, 0, 0] ∧ 0 < width ∧ width < 2 ^ 31 ∧ 0 < height ∧
      height < 2 ^ 31 then some (width, height)
  else none

theorem length_readU32 {bytes rest : List UInt8} {n : Nat} (hread : readU32 bytes = some (n, rest)) :
    bytes.length = 4 + rest.length := by
  unfold readU32 at hread
  split at hread
  · cases hread
    simp only [List.length_cons]
    omega
  · cases hread

theorem takeBytes_eq_some_iff {n : Nat} {bytes taken rest : List UInt8} :
    takeBytes n bytes = some (taken, rest) ↔ bytes = taken ++ rest ∧ taken.length = n := by
  unfold takeBytes
  constructor
  · intro htake
    split at htake
    · next hlong =>
      cases htake
      exact ⟨(List.take_append_drop n bytes).symm, List.length_take_of_le hlong⟩
    · cases htake
  · rintro ⟨rfl, rfl⟩
    simp

@[simp] theorem takeBytes_append (taken rest : List UInt8) :
    takeBytes taken.length (taken ++ rest) = some (taken, rest) :=
  takeBytes_eq_some_iff.2 ⟨rfl, rfl⟩

theorem readChunk_eq_some {bytes body type data check after rest : List UInt8} {length : Nat}
    (hlength : readU32 bytes = some (length, body)) (htype : takeBytes 4 body = some (type, data))
    (hdata : takeBytes length data = some (check, after))
    (hcheck : readU32 after = some ((Crc.crc32 (type ++ check)).toNat, rest))
    (hsmall : length < 2 ^ 31) : readChunk bytes = some (⟨type, check⟩, rest) := by
  unfold readChunk
  simp only [hlength, htype, hdata, hcheck, Option.bind_eq_bind, Option.bind_some]
  exact if_pos ⟨hsmall, trivial⟩

/-- What a chunk took, and how long its data can be. -/
theorem length_readChunk {bytes rest : List UInt8} {chunk : Chunk}
    (hread : readChunk bytes = some (chunk, rest)) :
    bytes.length = 12 + chunk.data.length + rest.length ∧ chunk.data.length < 2 ^ 31 := by
  unfold readChunk at hread
  simp only [Option.bind_eq_bind, Option.bind_eq_some_iff, Prod.exists] at hread
  obtain ⟨length, rest₁, hlength, type, rest₂, htype, data, rest₃, hdata, check, rest₄, hcheck,
    hread⟩ := hread
  split at hread
  · next hvalid =>
    cases hread
    have h₁ := length_readU32 hlength
    obtain ⟨rfl, h₂⟩ := takeBytes_eq_some_iff.1 htype
    obtain ⟨rfl, h₃⟩ := takeBytes_eq_some_iff.1 hdata
    have h₄ := length_readU32 hcheck
    change bytes.length = 12 + data.length + rest.length ∧ data.length < 2 ^ 31
    simp only [List.length_append] at h₁ h₃
    omega
  · cases hread

/-- The data of the image chunks before the end of the image. -/
def readImageData (bytes : List UInt8) : Option (List UInt8) :=
  match _hread : readChunk bytes with
  | none => none
  | some (chunk, rest) =>
    if chunk.type = IEND then some []
    else if chunk.type = IDAT then
      match readImageData rest with
      | none => none
      | some data => some (chunk.data ++ data)
    else if chunk.ancillary then readImageData rest
    else none
termination_by bytes.length
decreasing_by
  all_goals
    have hlength := (length_readChunk _hread).1
    omega

theorem readImageData_end {bytes data rest : List UInt8}
    (hread : readChunk bytes = some (⟨IEND, data⟩, rest)) : readImageData bytes = some [] := by
  rw [readImageData]
  split
  · next hnone => rw [hread] at hnone; cases hnone
  · next hsome =>
    rw [hread] at hsome
    cases hsome
    exact if_pos rfl

theorem readImageData_data {bytes data tail rest : List UInt8}
    (hread : readChunk bytes = some (⟨IDAT, data⟩, rest)) (htail : readImageData rest = some tail) :
    readImageData bytes = some (data ++ tail) := by
  have hother : ¬IDAT = IEND := by decide
  rw [readImageData]
  split
  · next hnone => rw [hread] at hnone; cases hnone
  · next hsome =>
    rw [hread] at hsome
    cases hsome
    rw [if_neg hother, if_pos rfl, htail]

structure Image where
  width : Nat
  height : Nat
  pixels : List UInt8
  deriving DecidableEq

def decode (bytes : List UInt8) : Option Image := do
  let (signature, rest) ← takeBytes 8 bytes
  if signature = SIGNATURE then
    let (header, rest) ← readChunk rest
    let (width, height) ← readHeader header
    let data ← readImageData rest
    let raw ← unzlib data
    let pixels ← unfilter width height raw
    some ⟨width, height, pixels⟩
  else none

theorem unzlib_eq_some {cmf flg : UInt8} {body out rest after : List UInt8}
    (hheader : cmf.toNat % 16 = 8 ∧ cmf.toNat / 16 ≤ 7 ∧
      (cmf.toNat * 256 + flg.toNat) % 31 = 0 ∧ flg.toNat / 32 % 2 = 0)
    (hinflate : inflate body = some (out, rest))
    (hcheck : readU32 rest = some (Adler.adler32 out, after)) :
    unzlib (cmf :: flg :: body) = some out := by
  obtain ⟨hmethod, hwindow, hsum, hdictionary⟩ := hheader
  unfold unzlib
  simp only [hinflate, hcheck, Option.bind_eq_bind, Option.bind_some, hmethod, hwindow, hsum,
    hdictionary, and_self, if_true]

theorem decode_eq_some {bytes rest body data raw pixels : List UInt8} {header : Chunk}
    {width height : Nat} (hsignature : takeBytes 8 bytes = some (SIGNATURE, rest))
    (hheader : readChunk rest = some (header, body))
    (hdimensions : readHeader header = some (width, height))
    (hdata : readImageData body = some data) (hraw : unzlib data = some raw)
    (hpixels : unfilter width height raw = some pixels) :
    decode bytes = some ⟨width, height, pixels⟩ := by
  unfold decode
  simp only [hsignature, hheader, hdimensions, hdata, hraw, hpixels, Option.bind_eq_bind,
    Option.bind_some, if_true]

/-! What a reader accepts is no shorter than its contents. -/

/-- Stored blocks have five bytes each beside their data, of which none holds over 65535. -/
theorem length_inflate {bytes out rest : List UInt8} (hinflate : inflate bytes = some (out, rest)) :
    ∃ blocks, 0 < blocks ∧ out.length ≤ 65535 * blocks ∧
      bytes.length = 5 * blocks + out.length + rest.length := by
  fun_induction inflate bytes generalizing out rest with
  | case1 header l₀ l₁ n₀ n₁ body length hvalid =>
    cases hinflate
    refine ⟨1, Nat.one_pos, ?_, ?_⟩
    · rw [List.length_take]
      omega
    · simp only [List.length_cons, List.length_take, List.length_drop]
      omega
  | case2 => cases hinflate
  | case3 header l₀ l₁ n₀ n₁ body length hvalid hlast tail after hrest =>
    rename_i ih
    cases hinflate
    obtain ⟨blocks, hpos, hroom, hlength⟩ := ih hrest
    refine ⟨blocks + 1, Nat.succ_pos _, ?_, ?_⟩
    · rw [List.length_append, List.length_take]
      omega
    · rw [List.length_drop] at hlength
      simp only [List.length_cons, List.length_append, List.length_take]
      omega
  | case4 => cases hinflate
  | case5 => cases hinflate

theorem length_unzlib {bytes out : List UInt8} (hunzlib : unzlib bytes = some out) :
    ∃ blocks, 0 < blocks ∧ out.length ≤ 65535 * blocks ∧
      6 + 5 * blocks + out.length ≤ bytes.length := by
  unfold unzlib at hunzlib
  split at hunzlib
  · next cmf flg body =>
    simp only [Option.bind_eq_bind, Option.bind_eq_some_iff, Prod.exists] at hunzlib
    obtain ⟨out', rest, hinflate, check, rest', hcheck, hunzlib⟩ := hunzlib
    split at hunzlib
    · cases hunzlib
      obtain ⟨blocks, hpos, hroom, hlength⟩ := length_inflate hinflate
      have hfour := length_readU32 hcheck
      refine ⟨blocks, hpos, hroom, ?_⟩
      simp only [List.length_cons]
      omega
    · cases hunzlib
  · cases hunzlib

theorem length_unfilter {width height : Nat} {bytes pixels : List UInt8}
    (hunfilter : unfilter width height bytes = some pixels) :
    bytes.length = (width + 1) * height := by
  fun_induction unfilter width height bytes generalizing pixels with
  | case1 => rfl
  | case2 height bytes ih =>
    simp only [Option.bind_eq_bind, Option.bind_eq_some_iff, Prod.exists] at hunfilter
    obtain ⟨row, rest, hrow, rows, hrows, -⟩ := hunfilter
    obtain ⟨rfl, hwidth⟩ := takeBytes_eq_some_iff.1 hrow
    have hrest := ih rest hrows
    rw [List.length_cons, List.length_append, hrest, hwidth, Nat.mul_succ]
    omega
  | case3 => cases hunfilter

theorem length_readHeader {chunk : Chunk} {width height : Nat}
    (hread : readHeader chunk = some (width, height)) : chunk.data.length = 13 := by
  unfold readHeader at hread
  simp only [Option.bind_eq_bind, Option.bind_eq_some_iff, Prod.exists] at hread
  obtain ⟨width', rest₁, hwidth, height', rest₂, hheight, hread⟩ := hread
  split at hread
  · next hvalid =>
    have h₁ := length_readU32 hwidth
    have h₂ := length_readU32 hheight
    have h₃ : rest₂.length = 5 := congrArg List.length hvalid.2.1
    omega
  · cases hread

/-- Data too long for one chunk takes the frame of at least two. -/
theorem length_readImageData {bytes data : List UInt8} (hread : readImageData bytes = some data) :
    data.length + 12 ≤ bytes.length ∧ (data ≠ [] → data.length + 24 ≤ bytes.length) ∧
      (2 ^ 31 ≤ data.length → data.length + 36 ≤ bytes.length) := by
  fun_induction readImageData bytes generalizing data with
  | case1 => cases hread
  | case2 bytes chunk rest hchunk hend =>
    cases hread
    have hlength := length_readChunk hchunk
    rw [List.length_nil]
    exact ⟨by omega, fun hne => absurd rfl hne, by omega⟩
  | case3 => cases hread
  | case4 bytes chunk rest hchunk _ _ tail htail ih =>
    cases hread
    obtain ⟨hframe, hone, -⟩ := ih htail
    have hlength := length_readChunk hchunk
    rw [List.length_append]
    refine ⟨by omega, fun _ => by omega, fun hlong => ?_⟩
    -- one chunk does not hold it all, so some of it is in the chunks after
    have hmore : tail ≠ [] := by
      rintro rfl
      simp only [List.length_nil] at hlong
      omega
    have htwo := hone hmore
    omega
  | case5 bytes chunk rest hchunk _ _ _ ih =>
    obtain ⟨hframe, hone, htwo⟩ := ih hread
    have hlength := length_readChunk hchunk
    refine ⟨by omega, fun hne => ?_, fun hlong => ?_⟩
    · have hshort := hone hne
      omega
    · have hshort := htwo hlong
      omega
  | case6 => cases hread

/-- What an image takes: its signature, its header, and data that holds its scanlines. -/
theorem length_decode {bytes : List UInt8} {image : Image} (hdecode : decode bytes = some image) :
    ∃ blocks, (image.width + 1) * image.height ≤ 65535 * blocks ∧
      (2 ^ 31 ≤ 6 + 5 * blocks + (image.width + 1) * image.height →
        6 + 5 * blocks + (image.width + 1) * image.height + 69 ≤ bytes.length) := by
  unfold decode at hdecode
  simp only [Option.bind_eq_bind, Option.bind_eq_some_iff, Prod.exists] at hdecode
  obtain ⟨signature, rest₁, hsignature, hdecode⟩ := hdecode
  obtain ⟨rfl, height⟩ := takeBytes_eq_some_iff.1 hsignature
  split at hdecode
  · simp only [Option.bind_eq_some_iff, Prod.exists] at hdecode
    obtain ⟨header, rest₂, hheader, width, height, hdimensions, data, hdata, raw, hraw, pixels,
      hpixels, hdecode⟩ := hdecode
    cases hdecode
    have hfirst := length_readChunk hheader
    have hthirteen := length_readHeader hdimensions
    obtain ⟨blocks, -, hroom, hzlib⟩ := length_unzlib hraw
    have hlines := length_unfilter hpixels
    obtain ⟨-, -, hframe⟩ := length_readImageData hdata
    refine ⟨blocks, hlines ▸ hroom, fun hlong => ?_⟩
    rw [List.length_append]
    change 6 + 5 * blocks + (width + 1) * height + 69 ≤ _
    change 2 ^ 31 ≤ 6 + 5 * blocks + (width + 1) * height at hlong
    rw [← hlines] at hlong ⊢
    have hshort := hframe (by omega)
    omega
  · cases hdecode

end Png
