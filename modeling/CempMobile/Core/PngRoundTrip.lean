import CempMobile.Core.Png
import CempMobile.Lib.Png
import Mathlib.Data.List.Induction

open BitOps

namespace cemp.core.png

theorem readU32_u32 (value : ℤ) (rest : Bytes) :
    Png.readU32 (u32 value ++ rest) = some ((bits32 value).toNat, rest) := by
  have hsmall := (bits32 value).isLt
  simp only [u32, List.map_cons, List.map_nil, List.cons_append, List.nil_append, Png.readU32,
    toNat_toByte_and, bits32_shiftRight, BitVec.toNat_ushiftRight, Nat.shiftRight_eq_div_pow]
  congr 2
  omega

/-! Parts and rows are copied into a buffer of zeros, from its start to its end. -/

theorem setAt_append {done part hole rest : Bytes} (hfits : part.length = hole.length) :
    setAt (done ++ (hole ++ rest)) part done.length = done ++ part ++ rest := by
  unfold setAt
  rw [List.take_left, hfits, ← List.append_assoc, ← List.length_append, List.drop_left]

theorem foldl_setAt (parts : List Bytes) (done : Bytes) :
    (parts.foldl (fun (state : Bytes × Nat) part =>
      (setAt state.1 part state.2, state.2 + part.length))
        (done ++ List.replicate (parts.map List.length).sum 0, done.length)).1 =
      done ++ parts.flatten := by
  induction parts generalizing done with
  | nil => simp
  | cons part parts ih =>
    have hhole : part.length = (List.replicate part.length (0 : UInt8)).length :=
      List.length_replicate.symm
    rw [List.foldl_cons, List.map_cons, List.sum_cons, ← List.replicate_append_replicate, setAt_append hhole,
      ← List.length_append, ih, List.flatten_cons, List.append_assoc]

theorem concat_eq (parts : List Bytes) : concat parts = parts.flatten :=
  foldl_setAt parts []

/-! Checksums. -/

theorem Adler.first_append (bytes : Bytes) (byte : UInt8) :
    Adler.first (bytes ++ [byte]) = (Adler.first bytes + byte.toNat) % 65521 := by
  unfold Adler.first
  rw [List.map_append, List.sum_append]
  simp only [List.map_cons, List.map_nil, List.sum_cons, List.sum_nil]
  omega

theorem Adler.second_append (bytes : Bytes) (byte : UInt8) :
    Adler.second (bytes ++ [byte]) =
      (Adler.second bytes + Adler.first (bytes ++ [byte])) % 65521 := by
  unfold Adler.second
  have hinit : (List.range bytes.length).map (fun i => Adler.first ((bytes ++ [byte]).take (i + 1))) =
      (List.range bytes.length).map fun i => Adler.first (bytes.take (i + 1)) := by
    refine List.map_congr_left fun i hi => ?_
    rw [List.take_append_of_le_length (List.mem_range.1 hi)]
  rw [List.length_append, List.length_singleton, List.range_succ, List.map_append, hinit,
    List.sum_append, List.map_singleton, List.sum_singleton, List.take_of_length_le (by simp)]
  omega

/-- The loop holds both sums. -/
theorem foldl_adlerStep (bytes : Bytes) :
    bytes.foldl adlerStep (1, 0) = ((Adler.first bytes : ℤ), (Adler.second bytes : ℤ)) := by
  induction bytes using List.reverseRecOn with
  | nil => rfl
  | append_singleton bytes byte ih =>
    rw [List.foldl_append, ih, List.foldl_cons, List.foldl_nil, Adler.second_append,
      Adler.first_append]
    unfold adlerStep
    push_cast
    rfl

theorem adler32_eq (bytes : Bytes) : adler32 bytes = (Adler.adler32 bytes : ℤ) := by
  have hfirst : Adler.first bytes < 65521 := Nat.mod_lt _ (by decide)
  have hsecond : Adler.second bytes < 65521 := Nat.mod_lt _ (by decide)
  unfold adler32 Adler.adler32
  rw [foldl_adlerStep, shiftRight_zero, bits32_or, bits32_shiftLeft, BitVec.toNat_or,
    BitVec.toNat_shiftLeft, toNat_bits32_natCast, toNat_bits32_natCast, Nat.shiftLeft_eq]
  have hor := Nat.two_pow_add_eq_or_of_lt (show Adler.first bytes < 2 ^ 16 by omega)
    (Adler.second bytes)
  have hfits : Adler.second bytes % 2 ^ 32 * 2 ^ 16 % 2 ^ 32 = 2 ^ 16 * Adler.second bytes := by
    omega
  have hlow : Adler.first bytes % 2 ^ 32 = Adler.first bytes := by omega
  rw [hfits, hlow, ← hor]
  congr 1
  omega

/-! The zlib stream. -/

theorem toNat_toByte_flag (isFinal : Bool) :
    (toByte (if isFinal then 1 else 0)).toNat = if isFinal then 1 else 0 := by
  cases isFinal <;> rfl

/-- A stored block is read back, whatever follows it. -/
theorem inflate_storedHeader (isFinal : Bool) {slice : Bytes} (hsmall : slice.length ≤ 65535)
    (rest : Bytes) :
    Png.inflate (storedHeader isFinal slice.length ++ (slice ++ rest)) =
      if isFinal then some (slice, rest)
      else match Png.inflate rest with
        | none => none
        | some (out, after) => some (slice ++ out, after) := by
  have hlength : (toByte (BitOps.and (slice.length : ℤ) 0xff)).toNat +
      256 * (toByte (BitOps.and (shiftRight (slice.length : ℤ) 8) 0xff)).toNat = slice.length := by
    simp only [toNat_toByte_and, bits32_shiftRight, BitVec.toNat_ushiftRight,
      Nat.shiftRight_eq_div_pow, toNat_bits32_natCast]
    omega
  have hcomplement : (toByte (BitOps.and (BitOps.not (slice.length : ℤ)) 0xff)).toNat +
      256 * (toByte (BitOps.and (shiftRight (BitOps.not (slice.length : ℤ)) 8) 0xff)).toNat =
        65535 - slice.length := by
    simp only [toNat_toByte_and, bits32_shiftRight, bits32_not, BitVec.toNat_ushiftRight,
      BitVec.toNat_not, Nat.shiftRight_eq_div_pow, toNat_bits32_natCast]
    omega
  simp only [storedHeader, List.map_cons, List.map_nil, List.cons_append, List.nil_append]
  rw [Png.inflate]
  simp only [hlength, hcomplement, toNat_toByte_flag]
  have hvalid : (if isFinal then 1 else 0) / 2 % 4 = 0 ∧
      slice.length + (65535 - slice.length) = 65535 ∧ slice.length ≤ (slice ++ rest).length := by
    refine ⟨by cases isFinal <;> rfl, by omega, ?_⟩
    rw [List.length_append]
    omega
  rw [if_pos hvalid, List.take_left, List.drop_left]
  cases isFinal <;> rfl

theorem length_slice (raw : Bytes) (offset : Nat) :
    (subarray raw offset (min (offset + MAX_STORED_BLOCK) raw.length)).length =
      min MAX_STORED_BLOCK (raw.length - offset) := by
  unfold subarray
  rw [List.length_drop, List.length_take]
  omega

/-- The last slice is the rest of the bytes. -/
theorem subarray_last {raw : Bytes} {offset : Nat} (hlast : raw.length ≤ offset + MAX_STORED_BLOCK) :
    subarray raw offset (min (offset + MAX_STORED_BLOCK) raw.length) = raw.drop offset := by
  unfold subarray
  rw [Nat.min_eq_right hlast, List.take_length]

theorem storedBlocks_end {raw : Bytes} {offset : Nat} (hend : raw.length ≤ offset) :
    storedBlocks raw offset = [] := by
  rw [storedBlocks, if_neg (by omega)]

/-- A full slice and what is left after it. -/
theorem subarray_append_drop {raw : Bytes} {offset : Nat}
    (hmore : offset + MAX_STORED_BLOCK < raw.length) :
    subarray raw offset (min (offset + MAX_STORED_BLOCK) raw.length) ++
      raw.drop (offset + MAX_STORED_BLOCK) = raw.drop offset := by
  unfold subarray
  rw [Nat.min_eq_left hmore.le, List.drop_take, Nat.add_sub_cancel_left, ← List.drop_drop,
    List.take_append_drop]

/-- The blocks from an offset hold the rest of the bytes. -/
theorem inflate_storedBlocks (raw rest : Bytes) {offset : Nat} (hmore : offset < raw.length) :
    Png.inflate ((storedBlocks raw offset).flatten ++ rest) = some (raw.drop offset, rest) := by
  fun_induction storedBlocks raw offset with
  | case1 offset _ slice isFinal ih =>
    have hslice : slice.length = min MAX_STORED_BLOCK (raw.length - offset) :=
      length_slice raw offset
    have hsmall : slice.length ≤ 65535 := hslice.trans_le (Nat.min_le_left _ _)
    rw [List.flatten_cons, List.flatten_cons, List.append_assoc, List.append_assoc,
      inflate_storedHeader isFinal hsmall]
    by_cases hlast : raw.length ≤ offset + MAX_STORED_BLOCK
    · have hfinal : isFinal = true := by
        refine decide_eq_true ?_
        omega
      rw [if_pos hfinal, storedBlocks_end hlast, List.flatten_nil, List.nil_append]
      exact congrArg some (Prod.ext (subarray_last hlast) rfl)
    · have hfinal : isFinal = false := by
        refine decide_eq_false ?_
        omega
      rw [if_neg (by rw [hfinal]; decide), ih (by omega)]
      exact congrArg some (Prod.ext (subarray_append_drop (by omega)) rfl)
  | case2 offset hend => exact absurd hmore hend

theorem zlibStored_eq (raw : Bytes) :
    zlibStored raw = 0x78 :: 0x01 :: ((storedBlocks raw 0).flatten ++ u32 (adler32 raw)) := by
  unfold zlibStored
  rw [concat_eq]
  simp

theorem adler32_lt (bytes : Bytes) : Adler.adler32 bytes < 2 ^ 32 := by
  have hfirst : Adler.first bytes < 65521 := Nat.mod_lt _ (by decide)
  have hsecond : Adler.second bytes < 65521 := Nat.mod_lt _ (by decide)
  unfold Adler.adler32
  omega

theorem unzlib_zlibStored {raw : Bytes} (hne : raw ≠ []) : Png.unzlib (zlibStored raw) = some raw := by
  have hpos : 0 < raw.length := List.length_pos_iff.2 hne
  have hread := readU32_u32 (adler32 raw) []
  rw [List.append_nil, adler32_eq, toNat_bits32_natCast, Nat.mod_eq_of_lt (adler32_lt raw)] at hread
  have hinflate := inflate_storedBlocks raw (u32 (Adler.adler32 raw)) hpos
  rw [zlibStored_eq, adler32_eq]
  exact Png.unzlib_eq_some (by decide) hinflate hread

/-- The stream is as long as its blocks. -/
theorem length_storedBlocks (raw : Bytes) (offset : Nat) :
    (storedBlocks raw offset).flatten.length =
      raw.length - offset + 5 * ((raw.length - offset + 65534) / 65535) := by
  fun_induction storedBlocks raw offset with
  | case1 offset hmore slice isFinal ih =>
    have hslice : slice.length = min MAX_STORED_BLOCK (raw.length - offset) :=
      length_slice raw offset
    have hheader : (storedHeader isFinal slice.length).length = 5 := rfl
    rw [List.flatten_cons, List.flatten_cons, List.length_append, List.length_append, ih, hheader,
      hslice]
    unfold MAX_STORED_BLOCK
    omega
  | case2 offset hend =>
    rw [List.flatten_nil, List.length_nil]
    omega

theorem length_zlibStored (raw : Bytes) :
    (zlibStored raw).length = 6 + raw.length + 5 * ((raw.length + 65534) / 65535) := by
  have hlast : (u32 (adler32 raw)).length = 4 := rfl
  rw [zlibStored_eq]
  simp only [List.length_cons, List.length_append, length_storedBlocks, hlast]
  omega

/-! Scanlines. -/

/-- The scanline of a row. -/
def line (pixels : Bytes) (width row : Nat) : Bytes :=
  0 :: subarray pixels (row * width) ((row + 1) * width)

theorem length_line {pixels : Bytes} {width height row : Nat}
    (hlength : pixels.length = width * height) (hrow : row < height) :
    (line pixels width row).length = width + 1 := by
  have hfits : (row + 1) * width ≤ width * height := by
    rw [Nat.mul_comm width]
    exact Nat.mul_le_mul_right width hrow
  have hsucc : (row + 1) * width = row * width + width := Nat.succ_mul row width
  unfold line subarray
  rw [List.length_cons, List.length_drop, List.length_take]
  omega

theorem length_lines {pixels : Bytes} {width height rows : Nat}
    (hlength : pixels.length = width * height) (hrows : rows ≤ height) :
    ((List.range rows).flatMap (line pixels width)).length = rows * (width + 1) := by
  induction rows with
  | zero => rw [Nat.zero_mul, List.range_zero, List.flatMap_nil, List.length_nil]
  | succ rows ih =>
    rw [List.range_succ, List.flatMap_append, List.length_append, ih (by omega),
      List.flatMap_singleton, length_line hlength hrows, Nat.succ_mul]

/-- The rows so far are written, and the rest is zeros. -/
theorem foldl_setRow {pixels : Bytes} {width height rows : Nat}
    (hlength : pixels.length = width * height) (hrows : rows ≤ height) :
    (List.range rows).foldl (setRow pixels width) (List.replicate ((width + 1) * height) 0) =
      (List.range rows).flatMap (line pixels width) ++
        List.replicate ((width + 1) * (height - rows)) 0 := by
  induction rows with
  | zero => rfl
  | succ rows ih =>
    have hdone := length_lines hlength (Nat.le_of_succ_le hrows)
    have hline := length_line hlength hrows
    have hzeros : List.replicate ((width + 1) * (height - rows)) (0 : UInt8) =
        [0] ++ (List.replicate width 0 ++
          List.replicate ((width + 1) * (height - (rows + 1))) 0) := by
      have hsplit : (width + 1) * (height - rows) =
          1 + (width + (width + 1) * (height - (rows + 1))) := by
        have hsucc : height - rows = height - (rows + 1) + 1 := by omega
        rw [hsucc, Nat.mul_succ]
        omega
      rw [hsplit, ← List.replicate_append_replicate, ← List.replicate_append_replicate]
      rfl
    rw [List.range_succ, List.foldl_append, ih (by omega), List.foldl_cons, List.foldl_nil,
      List.flatMap_append, List.flatMap_singleton, hzeros]
    generalize (List.range rows).flatMap (line pixels width) = done at hdone ⊢
    unfold setRow
    -- the filter type is zero already
    have hfilter (rest : Bytes) : (done ++ ([0] ++ rest)).set (rows * (width + 1)) 0 =
        done ++ [0] ++ rest := by
      rw [← hdone, List.set_append_right _ _ le_rfl, Nat.sub_self]
      simp
    have hstart : rows * (width + 1) + 1 = (done ++ [0]).length := by
      rw [List.length_append, hdone]
      rfl
    rw [hfilter, hstart, setAt_append (by simpa [line] using hline)]
    simp [line]

theorem scanlines_eq {pixels : Bytes} {width height : Nat}
    (hlength : pixels.length = width * height) :
    scanlines pixels width height = (List.range height).flatMap (line pixels width) := by
  unfold scanlines
  rw [foldl_setRow hlength le_rfl, Nat.sub_self, Nat.mul_zero, List.replicate_zero,
    List.append_nil]

theorem unfilter_lines {pixels : Bytes} {width height : Nat}
    (hlength : pixels.length = width * height) :
    Png.unfilter width height ((List.range height).flatMap (line pixels width)) = some pixels := by
  induction height generalizing pixels with
  | zero =>
    have hnil : pixels = [] := List.length_eq_zero_iff.1 hlength
    rw [hnil]
    rfl
  | succ height ih =>
    have hroom : width ≤ pixels.length := by
      rw [hlength, Nat.mul_succ]
      omega
    have hrow : line pixels width 0 = 0 :: pixels.take width := by
      unfold line subarray
      rw [Nat.zero_mul, List.drop_zero, Nat.zero_add, Nat.one_mul]
    have hshift (row : Nat) : line pixels width (row + 1) = line (pixels.drop width) width row := by
      have hstop : (row + 1 + 1) * width = width + (row + 1) * width := by ring
      have hstart : (row + 1) * width = width + row * width := by ring
      unfold line subarray
      rw [hstop, hstart, ← List.drop_drop, List.drop_take, Nat.add_sub_cancel_left]
    have hrest := @ih (pixels.drop width) (by
      rw [List.length_drop, hlength, Nat.mul_succ, Nat.add_sub_cancel])
    rw [List.range_succ_eq_map, List.flatMap_cons, List.flatMap_map, hrow]
    simp only [hshift, List.cons_append, Png.unfilter]
    have htake := Png.takeBytes_append (pixels.take width)
      ((List.range height).flatMap (line (pixels.drop width) width))
    rw [List.length_take_of_le hroom] at htake
    rw [htake]
    simp only [Option.bind_eq_bind, Option.bind_some, hrest, List.take_append_drop]

theorem length_scanlines {pixels : Bytes} {width height : Nat}
    (hlength : pixels.length = width * height) :
    (scanlines pixels width height).length = (width + 1) * height := by
  rw [scanlines_eq hlength, length_lines hlength le_rfl, Nat.mul_comm]

/-! Chunks, and the whole image. -/

def typeBytes (type : String) : Bytes := type.toList.map fun ch => toByte ch.toNat

theorem chunk_eq (type : String) (data : Bytes) :
    chunk type data = u32 data.length ++ (typeBytes type ++ (data ++
      u32 (Crc.crc32 (typeBytes type ++ data)).toNat)) := by
  unfold chunk
  rw [concat_eq, concat_eq, crc32_eq]
  simp [typeBytes]

theorem length_chunk (type : String) (data : Bytes) :
    (chunk type data).length = 8 + (typeBytes type).length + data.length := by
  rw [chunk_eq]
  simp only [List.length_append, u32, List.length_map, List.length_cons, List.length_nil]
  omega

/-- A chunk is read back, whatever follows it, where its length fits. -/
theorem readChunk_chunk {type : String} {data : Bytes} (htype : (typeBytes type).length = 4)
    (hsmall : data.length < 2 ^ 31) (rest : Bytes) :
    Png.readChunk (chunk type data ++ rest) = some (⟨typeBytes type, data⟩, rest) := by
  have hlength : (bits32 (data.length : ℤ)).toNat = data.length := by
    rw [toNat_bits32_natCast]
    omega
  have hcheck (check : BitVec 32) : (bits32 (check.toNat : ℤ)).toNat = check.toNat := by
    rw [bits32_natCast]
  have htake := Png.takeBytes_append (typeBytes type)
    (data ++ (u32 (Crc.crc32 (typeBytes type ++ data)).toNat ++ rest))
  rw [htype] at htake
  rw [chunk_eq, List.append_assoc, List.append_assoc, List.append_assoc]
  refine Png.readChunk_eq_some ((readU32_u32 _ _).trans ?_) htake (Png.takeBytes_append data _)
    ((readU32_u32 _ _).trans ?_) hsmall
  · rw [hlength]
  · rw [hcheck]

theorem typeBytes_IHDR : typeBytes "IHDR" = Png.IHDR := by decide +kernel

theorem typeBytes_IDAT : typeBytes "IDAT" = Png.IDAT := by decide +kernel

theorem typeBytes_IEND : typeBytes "IEND" = Png.IEND := by decide +kernel

def header (width height : Nat) : Bytes := concat [u32 width, u32 height, [8, 0, 0, 0, 0]]

theorem length_header (width height : Nat) : (header width height).length = 13 := by
  unfold header
  rw [concat_eq]
  rfl

theorem readHeader_header {width height : Nat} (hwidth : 0 < width ∧ width < 2 ^ 31)
    (hheight : 0 < height ∧ height < 2 ^ 31) :
    Png.readHeader ⟨Png.IHDR, header width height⟩ = some (width, height) := by
  have hw : width % 2 ^ 32 = width := by omega
  have hh : height % 2 ^ 32 = height := by omega
  have hbytes : header width height = u32 width ++ (u32 height ++ [8, 0, 0, 0, 0]) := by
    unfold header
    rw [concat_eq]
    rfl
  unfold Png.readHeader
  simp only [hbytes, readU32_u32, toNat_bits32_natCast, hw, hh, Option.bind_eq_bind,
    Option.bind_some]
  exact if_pos ⟨trivial, trivial, hwidth.1, hwidth.2, hheight.1, hheight.2⟩

theorem readImageData_chunks {data : Bytes} (hsmall : data.length < 2 ^ 31) :
    Png.readImageData (chunk "IDAT" data ++ chunk "IEND" []) = some data := by
  have hdata := readChunk_chunk (congrArg List.length typeBytes_IDAT) hsmall (chunk "IEND" [])
  have hend := @readChunk_chunk "IEND" [] (congrArg List.length typeBytes_IEND) (by decide) []
  rw [typeBytes_IDAT] at hdata
  rw [typeBytes_IEND, List.append_nil] at hend
  rw [Png.readImageData_data hdata (Png.readImageData_end hend), List.append_nil]

/-- What the writer puts together, the dimensions and the length once checked. -/
def image (pixels : Bytes) (width height : Nat) : Bytes :=
  Png.SIGNATURE ++ (chunk "IHDR" (header width height) ++
    (chunk "IDAT" (zlibStored (scanlines pixels width height)) ++ chunk "IEND" []))

theorem encodeGreyscalePng_eq {pixels : Bytes} {width height : Nat} (hwidth : 0 < width)
    (hheight : 0 < height) (hlength : pixels.length = width * height) :
    encodeGreyscalePng pixels width height = .ok (image pixels width height) := by
  unfold encodeGreyscalePng
  rw [if_neg (by omega), if_neg (by rw [hlength, Nat.cast_mul]; exact fun hne => hne rfl)]
  simp only [Int.toNat_natCast]
  rw [concat_eq]
  unfold image header
  simp only [List.flatten_cons, List.flatten_nil, List.append_nil]
  rfl

/-- Bytes the data chunk holds for an image of these dimensions. -/
def dataBytes (width height : Nat) : Nat :=
  6 + (width + 1) * height + 5 * (((width + 1) * height + 65534) / 65535)

section RoundTrip

variable {pixels : Bytes} {width height : Nat}

theorem length_data (hlength : pixels.length = width * height) :
    (zlibStored (scanlines pixels width height)).length = dataBytes width height := by
  rw [length_zlibStored, length_scanlines hlength]
  rfl

theorem length_image (hlength : pixels.length = width * height) :
    (image pixels width height).length = dataBytes width height + 57 := by
  have hsignature : Png.SIGNATURE.length = 8 := rfl
  have hIHDR : (typeBytes "IHDR").length = 4 := congrArg List.length typeBytes_IHDR
  have hIDAT : (typeBytes "IDAT").length = 4 := congrArg List.length typeBytes_IDAT
  have hIEND : (typeBytes "IEND").length = 4 := congrArg List.length typeBytes_IEND
  unfold image
  simp only [List.length_append, length_chunk, length_header, length_data hlength, hsignature,
    hIHDR, hIDAT, hIEND, List.length_nil]
  omega

/-- An image whose data fits one chunk is read back. -/
theorem decode_image (hwidth : 0 < width ∧ width < 2 ^ 31) (hheight : 0 < height ∧ height < 2 ^ 31)
    (hlength : pixels.length = width * height) (hfits : dataBytes width height < 2 ^ 31) :
    Png.decode (image pixels width height) = some ⟨width, height, pixels⟩ := by
  have hthirteen : (header width height).length < 2 ^ 31 := by
    rw [length_header]
    decide
  have hheader := readChunk_chunk (congrArg List.length typeBytes_IHDR) hthirteen
    (chunk "IDAT" (zlibStored (scanlines pixels width height)) ++ chunk "IEND" [])
  have hdata := @readImageData_chunks (zlibStored (scanlines pixels width height))
    (by rw [length_data hlength]; exact hfits)
  have hne : scanlines pixels width height ≠ [] := by
    have hpos : 0 < (width + 1) * height := Nat.mul_pos (Nat.succ_pos _) hheight.1
    rw [← List.length_pos_iff, length_scanlines hlength]
    exact hpos
  have hpixels : Png.unfilter width height (scanlines pixels width height) = some pixels := by
    rw [scanlines_eq hlength]
    exact unfilter_lines hlength
  have hsignature := Png.takeBytes_append Png.SIGNATURE
    (chunk "IHDR" (header width height) ++
      (chunk "IDAT" (zlibStored (scanlines pixels width height)) ++ chunk "IEND" []))
  rw [typeBytes_IHDR] at hheader
  exact Png.decode_eq_some hsignature hheader (readHeader_header hwidth hheight) hdata
    (unzlib_zlibStored hne) hpixels

/-- Data too long for one chunk is not read back: a reader would need it in two. -/
theorem decode_image_ne (hlength : pixels.length = width * height)
    (hlong : 2 ^ 31 ≤ dataBytes width height) :
    Png.decode (image pixels width height) ≠ some ⟨width, height, pixels⟩ := by
  intro hdecode
  obtain ⟨blocks, hroom, hframe⟩ := Png.length_decode hdecode
  rw [length_image hlength] at hframe
  unfold dataBytes at hlong hframe
  change (width + 1) * height ≤ 65535 * blocks at hroom
  change 2 ^ 31 ≤ 6 + 5 * blocks + (width + 1) * height →
    6 + 5 * blocks + (width + 1) * height + 69 ≤ _ at hframe
  omega

end RoundTrip

/-- A reader recovers the pixels from what is written exactly where the data fits one chunk. -/
theorem decode_encodeGreyscalePng_iff {pixels : Bytes} {width height : ℤ}
    (hwidth : 0 < width ∧ width < 2 ^ 31) (hheight : 0 < height ∧ height < 2 ^ 31)
    (hlength : (pixels.length : ℤ) = width * height) :
    (∃ png, encodeGreyscalePng pixels width height = .ok png ∧
      Png.decode png = some ⟨width.toNat, height.toNat, pixels⟩) ↔
      dataBytes width.toNat height.toNat < 2 ^ 31 := by
  obtain ⟨w, rfl⟩ := Int.eq_ofNat_of_zero_le hwidth.1.le
  obtain ⟨h, rfl⟩ := Int.eq_ofNat_of_zero_le hheight.1.le
  have hpixels : pixels.length = w * h := by exact_mod_cast hlength
  have hencode := encodeGreyscalePng_eq (by omega) (by omega) hpixels
  rw [Int.toNat_natCast, Int.toNat_natCast]
  constructor
  · rintro ⟨png, hpng, hdecode⟩
    rw [hencode] at hpng
    cases hpng
    by_contra hlong
    exact decode_image_ne hpixels (not_lt.1 hlong) hdecode
  · intro hfits
    exact ⟨_, hencode, decode_image (by omega) (by omega) hpixels hfits⟩

theorem decode_encodeGreyscalePng_two :
    (∃ png, encodeGreyscalePng [17, 34] 2 1 = .ok png ∧
      Png.decode png = some ⟨Int.toNat 2, Int.toNat 1, [17, 34]⟩) ↔
      dataBytes (Int.toNat 2) (Int.toNat 1) < 2 ^ 31 :=
  decode_encodeGreyscalePng_iff (by decide) (by decide) rfl

/-- 2 ^ 31 pixels that are all black are written with a length that no chunk can have. -/
theorem encodeGreyscalePng_not_decoded :
    ¬ ∀ (pixels : Bytes) (width height : ℤ), 0 < width ∧ width < 2 ^ 31 →
      0 < height ∧ height < 2 ^ 31 → (pixels.length : ℤ) = width * height →
      ∃ png, encodeGreyscalePng pixels width height = .ok png ∧
        Png.decode png = some ⟨width.toNat, height.toNat, pixels⟩ := by
  intro hclaim
  obtain ⟨w, hw⟩ : ∃ w : Nat, w = 65536 := ⟨_, rfl⟩
  obtain ⟨h, hh⟩ : ∃ h : Nat, h = 32768 := ⟨_, rfl⟩
  have hlength : (List.replicate (w * h) (0 : UInt8)).length = w * h := List.length_replicate
  obtain ⟨png, hpng, hdecode⟩ := hclaim (List.replicate (w * h) 0) w h (by omega) (by omega)
    (by rw [hlength, Nat.cast_mul])
  rw [encodeGreyscalePng_eq (by omega) (by omega) hlength] at hpng
  cases hpng
  rw [Int.toNat_natCast, Int.toNat_natCast] at hdecode
  refine decode_image_ne hlength ?_ hdecode
  unfold dataBytes
  rw [hw, hh]
  decide

end cemp.core.png
