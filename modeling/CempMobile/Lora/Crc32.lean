import CempMobile.Core.Png
import CempMobile.Lora.Transport

/-! The checksum of a gateway's objects in the numbers the source computes it with. -/

namespace cemp.lora.numbers

def CRC32_TABLE : List ℤ := BitOps.crcTable 0xedb88320

/-- `crc32`, with signed bit operators. -/
def crc32 (bytes : core.Bytes) : ℤ := BitOps.crcOf CRC32_TABLE bytes

end cemp.lora.numbers

namespace cemp.lora

/-- One of an entry's eight steps. -/
theorem toBitVec_step (c : UInt32) :
    (if c &&& 1 = 1 then (0xedb88320 : UInt32) ^^^ (c >>> 1) else c >>> 1).toBitVec =
      Crc.shiftOut 0xedb88320 c.toBitVec := by
  have hbit : c &&& 1 = 1 ↔ c.toBitVec.getLsbD 0 = true := by
    rw [← UInt32.toBitVec_inj]
    change c.toBitVec &&& 1#32 = 1#32 ↔ _
    rw [BitVec.and_one_eq_setWidth_ofBool_getLsbD]
    cases c.toBitVec.getLsbD 0 <;> decide
  unfold Crc.shiftOut
  by_cases hone : c.toBitVec.getLsbD 0 = true
  · rw [if_pos (hbit.2 hone), if_pos hone]
    rfl
  · rw [if_neg (mt hbit.1 hone), if_neg hone]
    rfl

theorem toBitVec_crc32Entry (n : UInt32) :
    (crc32Entry n).toBitVec = Crc.entry 0xedb88320 n.toBitVec := by
  have hloop (k : Nat) (c : UInt32) :
      ((List.range k).foldl (fun (c : UInt32) _ => if c &&& 1 = 1 then (0xedb88320 : UInt32) ^^^ (c >>> 1)
        else c >>> 1) c).toBitVec = (Crc.shiftOut 0xedb88320)^[k] c.toBitVec := by
    induction k with
    | zero => rfl
    | succ k ih =>
      rw [List.range_succ, List.foldl_append, List.foldl_cons, List.foldl_nil, toBitVec_step, ih,
        Function.iterate_succ_apply']
  exact hloop 8 n

/-- The transport's check is the one bit by bit. -/
theorem crc32_eq (bytes : core.Bytes) : crc32 bytes = (Crc.crc32 bytes).toNat := by
  have hloop (init : UInt32) :
      (bytes.foldl (fun crc b => crc32Entry ((crc ^^^ b.toUInt32) &&& 0xff) ^^^ (crc >>> 8))
        init).toBitVec = bytes.foldl (Crc.byteStep 0xedb88320) init.toBitVec := by
    induction bytes generalizing init with
    | nil => rfl
    | cons byte bytes ih =>
      rw [List.foldl_cons, ih, List.foldl_cons, UInt32.toBitVec_xor, toBitVec_crc32Entry]
      rfl
  unfold crc32 Crc.crc32
  rw [← Crc.foldl_byteStep (by decide)]
  exact congrArg (fun v => (v ^^^ 0xffffffff).toNat) (hloop 0xffffffff)

/-- Both checksums are the one bit by bit, and the transport's is the first of them. -/
theorem crc32_bitSerial (bytes : core.Bytes) :
    numbers.crc32 bytes = ((Crc.crc32 bytes).toNat : ℤ) ∧
      core.png.crc32 bytes = ((Crc.crc32 bytes).toNat : ℤ) ∧
      crc32 bytes = (Crc.crc32 bytes).toNat :=
  ⟨BitOps.crcOf_crcTable bytes, core.png.crc32_eq bytes, crc32_eq bytes⟩

end cemp.lora
