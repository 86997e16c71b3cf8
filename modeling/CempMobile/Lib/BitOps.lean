import CempMobile.Lib.Crc
import Mathlib.Algebra.Group.Nat.Defs
import Mathlib.Data.Int.Notation

/-! Numbers under bit operators that work on 32 bits and answer signed, and a table-driven
    cyclic redundancy check written with them. -/

namespace BitOps

/-- The 32 bits of a number. -/
def bits32 (x : ℤ) : BitVec 32 := BitVec.ofInt 32 x

def and (x y : ℤ) : ℤ := (bits32 x &&& bits32 y).toInt

def or (x y : ℤ) : ℤ := (bits32 x ||| bits32 y).toInt

def xor (x y : ℤ) : ℤ := (bits32 x ^^^ bits32 y).toInt

def not (x : ℤ) : ℤ := (~~~bits32 x).toInt

def shiftLeft (x : ℤ) (n : Nat) : ℤ := (bits32 x <<< n).toInt

/-- The shift to the right that answers unsigned. -/
def shiftRight (x : ℤ) (n : Nat) : ℤ := ((bits32 x >>> n).toNat : ℤ)

/-- What an element of a byte array keeps of a number. -/
def toByte (x : ℤ) : UInt8 := UInt8.ofNat (x % 256).toNat

variable (x y : ℤ) (n : Nat)

@[simp] theorem bits32_toInt (v : BitVec 32) : bits32 v.toInt = v := BitVec.ofInt_toInt

@[simp] theorem bits32_natCast (v : BitVec 32) : bits32 (v.toNat : ℤ) = v := by
  unfold bits32
  rw [BitVec.ofInt_natCast, BitVec.ofNat_toNat, BitVec.setWidth_eq]

@[simp] theorem bits32_byte (byte : UInt8) :
    bits32 (byte.toNat : ℤ) = byte.toBitVec.setWidth 32 := by
  unfold bits32
  rw [BitVec.ofInt_natCast]
  exact BitVec.ofNat_toNat 32 byte.toBitVec

@[simp] theorem bits32_and : bits32 (and x y) = bits32 x &&& bits32 y := bits32_toInt _

@[simp] theorem bits32_or : bits32 (or x y) = bits32 x ||| bits32 y := bits32_toInt _

@[simp] theorem bits32_xor : bits32 (xor x y) = bits32 x ^^^ bits32 y := bits32_toInt _

@[simp] theorem bits32_not : bits32 (not x) = ~~~bits32 x := bits32_toInt _

@[simp] theorem bits32_shiftLeft : bits32 (shiftLeft x n) = bits32 x <<< n := bits32_toInt _

@[simp] theorem bits32_shiftRight : bits32 (shiftRight x n) = bits32 x >>> n := bits32_natCast _

@[simp] theorem toNat_bits32_natCast (n : Nat) : (bits32 (n : ℤ)).toNat = n % 2 ^ 32 := by
  unfold bits32
  rw [BitVec.ofInt_natCast, BitVec.toNat_ofNat]

/-- A shift by nothing makes the answer of an operator unsigned. -/
theorem shiftRight_zero : shiftRight x 0 = ((bits32 x).toNat : ℤ) := rfl

/-- The lowest bit, as a test on a number sees it. -/
theorem and_one_ne_zero_iff : and x 1 ≠ 0 ↔ (bits32 x).getLsbD 0 = true := by
  have hone : bits32 x &&& bits32 1 = if (bits32 x).getLsbD 0 then 1#32 else 0#32 := by
    change bits32 x &&& 1#32 = _
    rw [BitVec.and_one_eq_setWidth_ofBool_getLsbD]
    cases (bits32 x).getLsbD 0 <;> rfl
  unfold and
  rw [hone]
  cases (bits32 x).getLsbD 0 <;> simp

/-- One step of a table entry: `c & 1 ? poly ^ (c >>> 1) : c >>> 1`. -/
def entryStep (poly c : ℤ) : ℤ :=
  if and c 1 ≠ 0 then xor poly (shiftRight c 1) else shiftRight c 1

/-- The 256 entries, each eight steps from its index and then made unsigned. -/
def crcTable (poly : ℤ) : List ℤ :=
  (List.range 256).map fun n : Nat => shiftRight ((entryStep poly)^[8] (n : ℤ)) 0

/-- `crc = table[(crc ^ byte) & 0xff] ^ (crc >>> 8)`. -/
def crcStep (table : List ℤ) (crc : ℤ) (byte : UInt8) : ℤ :=
  xor (table.getD (and (xor crc byte.toNat) 0xff).toNat 0) (shiftRight crc 8)

/-- The loop over the bytes, then `(crc ^ 0xffffffff) >>> 0`. -/
def crcOf (table : List ℤ) (bytes : List UInt8) : ℤ :=
  shiftRight (xor (bytes.foldl (crcStep table) 0xffffffff) 0xffffffff) 0

variable {poly : ℤ}

theorem bits32_entryStep (c : ℤ) :
    bits32 (entryStep poly c) = Crc.shiftOut (bits32 poly) (bits32 c) := by
  unfold entryStep Crc.shiftOut
  by_cases hbit : (bits32 c).getLsbD 0 = true
  · rw [if_pos ((and_one_ne_zero_iff c).2 hbit), if_pos hbit]
    simp
  · rw [if_neg (mt (and_one_ne_zero_iff c).1 hbit), if_neg hbit]
    simp

theorem bits32_iterate_entryStep (k : Nat) (c : ℤ) :
    bits32 ((entryStep poly)^[k] c) = (Crc.shiftOut (bits32 poly))^[k] (bits32 c) := by
  induction k generalizing c with
  | zero => rfl
  | succ k ih =>
    rw [Function.iterate_succ_apply, ih, bits32_entryStep, Function.iterate_succ_apply]

theorem toNat_lowByte (v : BitVec 32) : (Crc.lowByte v).toNat = v.toNat % 256 := by
  unfold Crc.lowByte
  rw [BitVec.toNat_and]
  exact Nat.and_two_pow_sub_one_eq_mod v.toNat 8

theorem toNat_lowByte_lt (v : BitVec 32) : (Crc.lowByte v).toNat < 256 := by
  rw [toNat_lowByte]
  omega

/-- A byte taken out of a number is not negative. -/
theorem and_byte (x : ℤ) : and x 0xff = ((Crc.lowByte (bits32 x)).toNat : ℤ) := by
  have hsmall := toNat_lowByte_lt (bits32 x)
  have hand : and x 0xff = (Crc.lowByte (bits32 x)).toInt := rfl
  rw [hand, BitVec.toInt_eq_toNat_of_lt (by omega)]

theorem toNat_and_byte (x : ℤ) : (and x 0xff).toNat = (Crc.lowByte (bits32 x)).toNat := by
  rw [and_byte, Int.toNat_natCast]

theorem toNat_toByte_and (x : ℤ) : (toByte (and x 0xff)).toNat = (bits32 x).toNat % 256 := by
  unfold toByte
  rw [and_byte, toNat_lowByte, UInt8.toNat_ofNat']
  omega

/-- The table holds, at the lowest byte of a register, what the register's bits come to. -/
theorem bits32_crcTable (v : BitVec 32) :
    bits32 ((crcTable poly).getD (Crc.lowByte v).toNat 0) =
      Crc.entry (bits32 poly) (Crc.lowByte v) := by
  unfold crcTable
  rw [List.getD_eq_getElem?_getD, List.getElem?_map, List.getElem?_range (toNat_lowByte_lt v)]
  simp only [Option.map_some, Option.getD_some, bits32_shiftRight, BitVec.ushiftRight_zero]
  rw [bits32_iterate_entryStep, bits32_natCast]
  rfl

theorem bits32_crcStep (crc : ℤ) (byte : UInt8) :
    bits32 (crcStep (crcTable poly) crc byte) =
      Crc.byteStep (bits32 poly) (bits32 crc) byte := by
  unfold crcStep Crc.byteStep
  rw [bits32_xor, toNat_and_byte, bits32_crcTable, bits32_xor, bits32_byte, bits32_shiftRight]

/-- Written with signed operators and a table, the check is the one bit by bit. -/
theorem crcOf_crcTable (bytes : List UInt8) :
    crcOf (crcTable poly) bytes =
      ((Crc.bitSerial (bits32 poly) 0xffffffff bytes ^^^ 0xffffffff).toNat : ℤ) := by
  have hloop (init : ℤ) : bits32 (bytes.foldl (crcStep (crcTable poly)) init) =
      bytes.foldl (Crc.byteStep (bits32 poly)) (bits32 init) := by
    induction bytes generalizing init with
    | nil => rfl
    | cons byte bytes ih => rw [List.foldl_cons, ih, bits32_crcStep, List.foldl_cons]
  unfold crcOf
  rw [shiftRight_zero, bits32_xor, hloop, Crc.foldl_byteStep (by decide)]
  rfl

end BitOps
