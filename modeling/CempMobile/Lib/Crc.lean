import Mathlib.Logic.Function.Iterate
import Mathlib.Tactic.Common

/-! Reflected cyclic redundancy checks: the check bit by bit, and a byte at a time with a table. -/

namespace Crc

variable {w : Nat}

/-- The lowest `n` bits, the lowest first. -/
def bits (n : Nat) {k : Nat} (v : BitVec k) : List Bool := (List.range n).map v.getLsbD

/-- One bit of a message enters the register. -/
def bitStep (poly register : BitVec w) (bit : Bool) : BitVec w :=
  if register.getLsbD 0 ^^ bit then poly ^^^ (register >>> 1) else register >>> 1

/-- The register after the bits of a message, each byte with its lowest bit first. -/
def bitSerial (poly init : BitVec w) (bytes : List UInt8) : BitVec w :=
  (bytes.flatMap fun byte => bits 8 byte.toBitVec).foldl (bitStep poly) init

/-- The check of width 32 with the polynomial `0xEDB88320`, `0xFFFFFFFF` at both ends. -/
def crc32 (bytes : List UInt8) : BitVec 32 :=
  bitSerial 0xedb88320 0xffffffff bytes ^^^ 0xffffffff

/-- One bit leaves the register. -/
def shiftOut (poly register : BitVec w) : BitVec w :=
  if register.getLsbD 0 then poly ^^^ (register >>> 1) else register >>> 1

/-- The table at a byte. -/
def entry (poly v : BitVec w) : BitVec w := (shiftOut poly)^[8] v

/-- The lowest byte of a register. -/
def lowByte (v : BitVec w) : BitVec w := v &&& (BitVec.allOnes 8).setWidth w

/-- One byte of a message enters the register by way of the table. -/
def byteStep (poly register : BitVec w) (byte : UInt8) : BitVec w :=
  entry poly (lowByte (register ^^^ byte.toBitVec.setWidth w)) ^^^ (register >>> 8)

variable {poly : BitVec w}

theorem bits_succ (n : Nat) {k : Nat} (v : BitVec k) :
    bits (n + 1) v = v.getLsbD 0 :: bits n (v >>> 1) := by
  unfold bits
  rw [List.range_succ_eq_map, List.map_cons, List.map_map]
  congr 1
  refine List.map_congr_left fun i _ => ?_
  simp [Nat.add_comm 1 i]

theorem bits_setWidth {n k : Nat} (hn : n ≤ w) (v : BitVec k) :
    bits n (v.setWidth w) = bits n v := by
  refine List.map_congr_left fun i hi => ?_
  have hlow : i < w := Nat.lt_of_lt_of_le (List.mem_range.1 hi) hn
  simp [hlow]

theorem getLsbD_lowByte {v : BitVec w} {i : Nat} :
    (lowByte v).getLsbD i = (decide (i < 8) && v.getLsbD i) := by
  unfold lowByte
  rw [BitVec.getLsbD_and, BitVec.getLsbD_setWidth, BitVec.getLsbD_allOnes]
  by_cases hw : i < w
  · simp [hw, Bool.and_comm]
  · simp [BitVec.getLsbD_of_ge v i (Nat.le_of_not_lt hw)]

theorem bits_lowByte (v : BitVec w) : bits 8 (lowByte v) = bits 8 v := by
  refine List.map_congr_left fun i hi => ?_
  simp [getLsbD_lowByte, List.mem_range.1 hi]

theorem lowByte_shift (v : BitVec w) : lowByte v >>> 8 = 0 := by
  refine BitVec.eq_of_getLsbD_eq fun i _ => ?_
  have hhigh : ¬8 + i < 8 := by omega
  simp [getLsbD_lowByte, hhigh]

theorem setWidth_shift (byte : UInt8) : byte.toBitVec.setWidth w >>> 8 = 0 := by
  refine BitVec.eq_of_getLsbD_eq fun i _ => ?_
  simp

/-- What leaves the register of a sum is one bit of one part entering the other. -/
theorem shiftOut_xor (register v : BitVec w) :
    shiftOut poly (register ^^^ v) = bitStep poly register (v.getLsbD 0) ^^^ (v >>> 1) := by
  have hshift : (register ^^^ v) >>> 1 = (register >>> 1) ^^^ (v >>> 1) :=
    BitVec.ushiftRight_xor_distrib ..
  unfold shiftOut bitStep
  rw [BitVec.getLsbD_xor, hshift]
  split
  · rw [BitVec.xor_assoc]
  · rfl

theorem foldl_bitStep (n : Nat) (register v : BitVec w) :
    (bits n v).foldl (bitStep poly) register =
      (shiftOut poly)^[n] (register ^^^ v) ^^^ (v >>> n) := by
  induction n generalizing register v with
  | zero => simp [bits, BitVec.xor_assoc]
  | succ n ih =>
    rw [bits_succ, List.foldl_cons, ih, Function.iterate_succ_apply, shiftOut_xor,
      Nat.add_comm n 1, BitVec.shiftRight_add]

/-- The higher bits only move down while a byte leaves. -/
theorem entry_eq (v : BitVec w) : entry poly v = entry poly (lowByte v) ^^^ (v >>> 8) := by
  have hall := @foldl_bitStep w poly 8 0#w v
  have hlow := @foldl_bitStep w poly 8 0#w (lowByte v)
  rw [bits_lowByte, hall, lowByte_shift, BitVec.zero_xor, BitVec.zero_xor] at hlow
  replace hlow : (shiftOut poly)^[8] v ^^^ (v >>> 8) = (shiftOut poly)^[8] (lowByte v) :=
    hlow.trans BitVec.xor_zero
  unfold entry
  rw [← hlow, BitVec.xor_assoc, BitVec.xor_self, BitVec.xor_zero]

/-- A byte by way of the table is its eight bits. -/
theorem byteStep_eq (hw : 8 ≤ w) (register : BitVec w) (byte : UInt8) :
    byteStep poly register byte = (bits 8 byte.toBitVec).foldl (bitStep poly) register := by
  have hhigh : (register ^^^ byte.toBitVec.setWidth w) >>> 8 = register >>> 8 := by
    rw [BitVec.ushiftRight_xor_distrib, setWidth_shift]
    exact BitVec.xor_zero
  have hentry := @entry_eq w poly (register ^^^ byte.toBitVec.setWidth w)
  rw [hhigh] at hentry
  unfold byteStep
  rw [← hentry, ← bits_setWidth hw, foldl_bitStep, setWidth_shift]
  exact BitVec.xor_zero.symm

theorem foldl_byteStep (hw : 8 ≤ w) (init : BitVec w) (bytes : List UInt8) :
    bytes.foldl (byteStep poly) init = bitSerial poly init bytes := by
  induction bytes generalizing init with
  | nil => rfl
  | cons byte bytes ih =>
    unfold bitSerial at ih ⊢
    rw [List.foldl_cons, ih, byteStep_eq hw, List.flatMap_cons, List.foldl_append]

end Crc
