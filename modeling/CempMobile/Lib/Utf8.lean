import Mathlib.Tactic.TypeStar
import Mathlib.Data.List.Basic

/-! UTF-8 as a text decoder reads it: bytes that are no text become replacement characters, and a
    byte order mark in front is dropped. -/

namespace Utf8

def encode (text : List Char) : List UInt8 := text.flatMap String.utf8EncodeChar

def byteOrderMark : Char := Char.ofNat 0xFEFF

def replacement : Char := Char.ofNat 0xFFFD

/-- A sequence that has begun: how many bytes it still needs, what they come to so far, and where
    the next of them lies. -/
structure Pending where
  needed : Nat
  codePoint : Nat
  lower : Nat
  upper : Nat

/-- The first byte of a sequence. -/
def start (b : Nat) : List Char × Option Pending :=
  if b ≤ 0x7F then ([Char.ofNat b], none)
  else if 0xC2 ≤ b ∧ b ≤ 0xDF then ([], some ⟨1, b % 0x20, 0x80, 0xBF⟩)
  else if 0xE0 ≤ b ∧ b ≤ 0xEF then
    ([], some ⟨2, b % 0x10, if b = 0xE0 then 0xA0 else 0x80, if b = 0xED then 0x9F else 0xBF⟩)
  else if 0xF0 ≤ b ∧ b ≤ 0xF4 then
    ([], some ⟨3, b % 0x08, if b = 0xF0 then 0x90 else 0x80, if b = 0xF4 then 0x8F else 0xBF⟩)
  else ([replacement], none)

/-- A byte that a sequence does not allow ends it, and is read again as a first byte. -/
def feed (pending : Option Pending) (b : Nat) : List Char × Option Pending :=
  match pending with
  | none => start b
  | some p =>
    if p.lower ≤ b ∧ b ≤ p.upper then
      if p.needed = 1 then ([Char.ofNat (p.codePoint * 0x40 + b % 0x40)], none)
      else ([], some ⟨p.needed - 1, p.codePoint * 0x40 + b % 0x40, 0x80, 0xBF⟩)
    else (replacement :: (start b).1, (start b).2)

def decodeFrom : Option Pending → List UInt8 → List Char
  | none, [] => []
  | some _, [] => [replacement]
  | pending, b :: bytes =>
    (feed pending b.toNat).1 ++ decodeFrom (feed pending b.toNat).2 bytes

/-- What a text decoder makes of bytes. -/
def decode (bytes : List UInt8) : List Char :=
  if (encode [byteOrderMark]).isPrefixOf bytes then decodeFrom none (bytes.drop 3)
  else decodeFrom none bytes

theorem toNat_ofNat {n : Nat} (h : n < 256) : (UInt8.ofNat n).toNat = n := by
  rw [UInt8.toNat_ofNat', Nat.mod_eq_of_lt h]

theorem decodeFrom_cons {pending : Option Pending} {n : Nat} (h : n < 256) (bytes : List UInt8) :
    decodeFrom pending (UInt8.ofNat n :: bytes) =
      (feed pending n).1 ++ decodeFrom (feed pending n).2 bytes := by
  cases pending <;> rw [decodeFrom, toNat_ofNat h]

section Continuation

variable {codePoint lower upper b : Nat} (hlower : lower ≤ b) (hupper : b ≤ upper)

include hlower hupper

/-- The last byte of a sequence. -/
theorem feed_last : feed (some ⟨1, codePoint, lower, upper⟩) b =
    ([Char.ofNat (codePoint * 0x40 + b % 0x40)], none) := by
  rw [feed, if_pos ⟨hlower, hupper⟩, if_pos rfl]

theorem feed_more {needed : Nat} (hneeded : needed ≠ 1) :
    feed (some ⟨needed, codePoint, lower, upper⟩) b =
      ([], some ⟨needed - 1, codePoint * 0x40 + b % 0x40, 0x80, 0xBF⟩) := by
  rw [feed, if_pos ⟨hlower, hupper⟩, if_neg hneeded]

end Continuation

/-- The encoding of a character is read back as it, and nothing of what follows. -/
theorem decodeFrom_encodeChar (c : Char) (bytes : List UInt8) :
    decodeFrom none (String.utf8EncodeChar c ++ bytes) = c :: decodeFrom none bytes := by
  have hvalid : c.val.toNat < 0xD800 ∨ (0xDFFF < c.val.toNat ∧ c.val.toNat < 0x110000) := c.valid
  have hchar : Char.ofNat c.val.toNat = c := Char.ofNat_toNat c
  unfold String.utf8EncodeChar
  generalize c.val.toNat = v at hvalid hchar
  dsimp only
  by_cases h1 : v ≤ 0x7F
  · rw [if_pos h1, List.singleton_append, decodeFrom_cons (by omega), feed, start, if_pos h1, hchar]
    rfl
  rw [if_neg h1]
  by_cases h2 : v ≤ 0x7FF
  · rw [if_pos h2, List.cons_append, decodeFrom_cons (by omega)]
    have hstart : feed none (v / 64 % 0x20 + 0xC0) =
        ([], some ⟨1, (v / 64 % 0x20 + 0xC0) % 0x20, 0x80, 0xBF⟩) := by
      rw [feed, start, if_neg (by omega), if_pos (by omega)]
    rw [hstart, List.cons_append, decodeFrom_cons (by omega), feed_last (by omega) (by omega)]
    have hvalue : (v / 64 % 0x20 + 0xC0) % 0x20 * 0x40 + (v % 0x40 + 0x80) % 0x40 = v := by omega
    simp only [hvalue, hchar, List.nil_append, List.singleton_append]
  rw [if_neg h2]
  by_cases h3 : v ≤ 0xFFFF
  · rw [if_pos h3, List.cons_append, decodeFrom_cons (by omega)]
    have hstart : feed none (v / 4096 % 0x10 + 0xE0) =
        ([], some ⟨2, (v / 4096 % 0x10 + 0xE0) % 0x10,
          if v / 4096 % 0x10 + 0xE0 = 0xE0 then 0xA0 else 0x80,
          if v / 4096 % 0x10 + 0xE0 = 0xED then 0x9F else 0xBF⟩) := by
      rw [feed, start, if_neg (by omega), if_neg (by omega), if_pos (by omega)]
    -- No shorter encoding, and no surrogate.
    rw [hstart, List.cons_append, decodeFrom_cons (by omega),
      feed_more (by split <;> omega) (by split <;> omega) (by decide), List.cons_append,
      decodeFrom_cons (by omega), feed_last (by omega) (by omega)]
    have hvalue : ((v / 4096 % 0x10 + 0xE0) % 0x10 * 0x40 + (v / 64 % 0x40 + 0x80) % 0x40) * 0x40 +
        (v % 0x40 + 0x80) % 0x40 = v := by omega
    simp only [hvalue, hchar, List.nil_append, List.singleton_append]
  rw [if_neg h3, List.cons_append, decodeFrom_cons (by omega)]
  have hstart : feed none (v / 262144 % 0x08 + 0xF0) =
      ([], some ⟨3, (v / 262144 % 0x08 + 0xF0) % 0x08,
        if v / 262144 % 0x08 + 0xF0 = 0xF0 then 0x90 else 0x80,
        if v / 262144 % 0x08 + 0xF0 = 0xF4 then 0x8F else 0xBF⟩) := by
    rw [feed, start, if_neg (by omega), if_neg (by omega), if_neg (by omega), if_pos (by omega)]
  rw [hstart, List.cons_append, decodeFrom_cons (by omega),
    feed_more (by split <;> omega) (by split <;> omega) (by decide), List.cons_append,
    decodeFrom_cons (by omega), feed_more (by omega) (by omega) (by decide), List.cons_append,
    decodeFrom_cons (by omega), feed_last (by omega) (by omega)]
  have hvalue : (((v / 262144 % 0x08 + 0xF0) % 0x08 * 0x40 + (v / 4096 % 0x40 + 0x80) % 0x40) * 0x40 +
      (v / 64 % 0x40 + 0x80) % 0x40) * 0x40 + (v % 0x40 + 0x80) % 0x40 = v := by omega
  simp only [hvalue, hchar, List.nil_append, List.singleton_append]

theorem decodeFrom_encode (text : List Char) : decodeFrom none (encode text) = text := by
  induction text with
  | nil => rfl
  | cons c text ih =>
    have hencode : encode (c :: text) = String.utf8EncodeChar c ++ encode text := rfl
    rw [hencode, decodeFrom_encodeChar, ih]

/-- A decoder reads back every text but those with a byte order mark in front. -/
theorem decode_encode_eq_iff {text : List Char} :
    decode (encode text) = text ↔ text.head? ≠ some byteOrderMark := by
  have hmark : encode [byteOrderMark] = String.utf8EncodeChar byteOrderMark :=
    List.append_nil _
  unfold decode
  by_cases hprefix : (encode [byteOrderMark]).isPrefixOf (encode text)
  · rw [if_pos hprefix]
    obtain ⟨rest, hrest⟩ := List.isPrefixOf_iff_prefix.1 hprefix
    have htext : text = byteOrderMark :: decodeFrom none rest := by
      rw [← decodeFrom_encode text, ← hrest, hmark, decodeFrom_encodeChar]
    have hdrop : (encode text).drop 3 = rest := by
      rw [← hrest]
      rfl
    rw [hdrop]
    constructor
    · intro hsame
      have hlength := congrArg List.length (htext.symm.trans hsame.symm)
      rw [List.length_cons] at hlength
      omega
    · intro hhead
      rw [htext] at hhead
      exact absurd rfl hhead
  · rw [if_neg hprefix, decodeFrom_encode]
    refine ⟨fun _ hhead => hprefix ?_, fun _ => rfl⟩
    obtain ⟨rest, rfl⟩ : ∃ rest, text = byteOrderMark :: rest := by
      cases text with
      | nil => cases hhead
      | cons c rest => exact ⟨rest, by rw [Option.some.inj hhead]⟩
    rw [List.isPrefixOf_iff_prefix, hmark]
    exact ⟨encode rest, rfl⟩

end Utf8
