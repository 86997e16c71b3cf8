import CempMobile.Core.Codec
import CempMobile.Core.Error
import CempMobile.Lib.BitOps
import Mathlib.Algebra.GroupWithZero.Nat

open BitOps

/-! A writer of 8-bit greyscale PNG images with uncompressed data. -/

namespace cemp.core.png

def SIGNATURE : Bytes := [0x89, 0x50, 0x4e, 0x47, 0x0d, 0x0a, 0x1a, 0x0a]

def MAX_STORED_BLOCK : Nat := 0xffff

def CRC_TABLE : List ℤ := crcTable 0xedb88320

def crc32 (bytes : Bytes) : ℤ := crcOf CRC_TABLE bytes

/-- Both sums, reduced after each byte. -/
def adlerStep (sums : ℤ × ℤ) (byte : UInt8) : ℤ × ℤ :=
  let a := (sums.1 + byte.toNat) % 65521
  (a, (sums.2 + a) % 65521)

def adler32 (bytes : Bytes) : ℤ :=
  let sums := bytes.foldl adlerStep (1, 0)
  shiftRight (BitOps.or (shiftLeft sums.2 16) sums.1) 0

def u32 (value : ℤ) : Bytes :=
  [BitOps.and (shiftRight value 24) 0xff, BitOps.and (shiftRight value 16) 0xff,
    BitOps.and (shiftRight value 8) 0xff, BitOps.and value 0xff].map toByte

/-- `out.set(part, offset)`, where the part fits. -/
def setAt (out part : Bytes) (offset : Nat) : Bytes :=
  out.take offset ++ part ++ out.drop (offset + part.length)

/-- `bytes.subarray(start, stop)`. -/
def subarray (bytes : Bytes) (start stop : Nat) : Bytes := (bytes.take stop).drop start

/-- The parts, each copied behind the one before it. -/
def concat (parts : List Bytes) : Bytes :=
  let total := (parts.map List.length).sum
  (parts.foldl (fun (state : Bytes × Nat) part =>
    (setAt state.1 part state.2, state.2 + part.length)) (List.replicate total 0, 0)).1

def chunk (type : String) (data : Bytes) : Bytes :=
  let typeBytes := type.toList.map fun ch => toByte ch.toNat
  let body := concat [typeBytes, data]
  concat [u32 data.length, body, u32 (crc32 body)]

def storedHeader (isFinal : Bool) (len : Nat) : Bytes :=
  [if isFinal then 1 else 0, BitOps.and len 0xff, BitOps.and (shiftRight len 8) 0xff,
    BitOps.and (BitOps.not len) 0xff, BitOps.and (shiftRight (BitOps.not len) 8) 0xff].map toByte

/-- The loop of `zlibStored`, from an offset. -/
def storedBlocks (raw : Bytes) (offset : Nat) : List Bytes :=
  if offset < raw.length then
    let slice := subarray raw offset (min (offset + MAX_STORED_BLOCK) raw.length)
    let isFinal := decide (raw.length ≤ offset + slice.length)
    storedHeader isFinal slice.length :: slice :: storedBlocks raw (offset + MAX_STORED_BLOCK)
  else []
termination_by raw.length - offset
decreasing_by
  unfold MAX_STORED_BLOCK
  omega

def zlibStored (raw : Bytes) : Bytes :=
  concat ([[0x78, 0x01]] ++ storedBlocks raw 0 ++ [u32 (adler32 raw)])

/-- One turn of the loop over the rows. -/
def setRow (pixels : Bytes) (width : Nat) (raw : Bytes) (row : Nat) : Bytes :=
  setAt (raw.set (row * (width + 1)) 0) (subarray pixels (row * width) ((row + 1) * width))
    (row * (width + 1) + 1)

/-- The scanlines, each behind filter type 0. -/
def scanlines (pixels : Bytes) (width height : Nat) : Bytes :=
  (List.range height).foldl (setRow pixels width) (List.replicate ((width + 1) * height) 0)

def encodeGreyscalePng (pixels : Bytes) (width height : ℤ) : Except Error Bytes :=
  if width ≤ 0 ∨ height ≤ 0 then
    .error (.other "encodeGreyscalePng: dimensions must be positive")
  else if (pixels.length : ℤ) ≠ width * height then
    .error (.other ("encodeGreyscalePng: pixel length " ++ toString pixels.length ++
      " does not match " ++ toString width ++ "x" ++ toString height))
  else
    let raw := scanlines pixels width.toNat height.toNat
    let ihdr := concat [u32 width, u32 height, [8, 0, 0, 0, 0]]
    .ok (concat [SIGNATURE, chunk "IHDR" ihdr, chunk "IDAT" (zlibStored raw), chunk "IEND" []])

theorem crc32_eq (bytes : Bytes) : crc32 bytes = ((Crc.crc32 bytes).toNat : ℤ) :=
  crcOf_crcTable bytes

end cemp.core.png
