import CempMobile.Core.JsonText
import CempMobile.Vault.Format
import Mathlib.Tactic.IntervalCases

open cemp.core

/-! The text of a document, read back by the runtime. -/

namespace cemp.core.JSON

/-! ### Strings -/

theorem ofUnits_units (c : Char) (rest : List Nat) : ofUnits (units c ++ rest) = c :: ofUnits rest := by
  have hvalid := c.valid
  have hnat : c.toNat < 0xD800 ∨ 0xDFFF < c.toNat ∧ c.toNat < 0x110000 := hvalid
  have hchar : Char.ofNat c.toNat = c := Char.ofNat_toNat c
  unfold units
  by_cases hone : c.toNat < 0x10000
  · have hhigh : ¬(0xD800 ≤ c.toNat ∧ c.toNat < 0xE000) := by omega
    have hpair : ∀ low, ¬(0xD800 ≤ c.toNat ∧ c.toNat < 0xDC00 ∧ 0xDC00 ≤ low ∧ low < 0xE000) := by
      omega
    rw [if_pos hone]
    cases rest with
    | nil => simp [ofUnits, hhigh, hchar]
    | cons low rest => simp [ofUnits, hhigh, hpair, hchar]
  · have hhigh : 0xD800 ≤ 0xD800 + (c.toNat - 0x10000) / 0x400 ∧
        0xD800 + (c.toNat - 0x10000) / 0x400 < 0xDC00 ∧
        0xDC00 ≤ 0xDC00 + (c.toNat - 0x10000) % 0x400 ∧
        0xDC00 + (c.toNat - 0x10000) % 0x400 < 0xE000 := by omega
    have hsum : 0x10000 + (0xD800 + (c.toNat - 0x10000) / 0x400 - 0xD800) * 0x400 +
        (0xDC00 + (c.toNat - 0x10000) % 0x400 - 0xDC00) = c.toNat := by omega
    rw [if_neg hone, List.cons_append, List.cons_append, List.nil_append, ofUnits, if_pos hhigh,
      hsum, hchar]

theorem ofUnits_flatMap (text : List Char) : ofUnits (text.flatMap units) = text := by
  induction text with
  | nil => rfl
  | cons c text ih => rw [List.flatMap_cons, ofUnits_units, ih]

theorem hexDigit_digitChar {n : Nat} (h : n < 16) : hexDigit? (Nat.digitChar n) = some n := by
  interval_cases n <;> rfl

/-! ### Numbers -/

/-- A natural number up to 2 ^ 53 is a number of the runtime. -/
theorem toNumber_natCast {n : Nat} (hn : n ≤ 2 ^ 53) : toNumber n = .number n := by
  unfold toNumber
  by_cases hzero : n = 0
  · rw [hzero, Nat.cast_zero, if_pos rfl]
  · have hne : (n : ℚ) ≠ 0 := Nat.cast_ne_zero.2 hzero
    have hlog : max (Int.log 2 |(n : ℚ)|) (-1022) - 52 = (Nat.log 2 n : ℤ) - 52 := by
      rw [Nat.abs_cast, Int.log_natCast]
      omega
    obtain ⟨z, hz⟩ := Binary64.exists_units_eq hzero hn
    have hulp : (2 : ℚ) ^ ((Nat.log 2 n : ℤ) - 52) ≠ 0 := by positivity
    have hround : (Binary64.nearestEven ((n : ℚ) / 2 ^ ((Nat.log 2 n : ℤ) - 52)) : ℚ) *
        2 ^ ((Nat.log 2 n : ℤ) - 52) = n := by
      have hquotient : (n : ℚ) / 2 ^ ((Nat.log 2 n : ℤ) - 52) = z := by
        rw [div_eq_iff hulp]
        exact hz
      rw [hquotient, Binary64.nearestEven_intCast, ← hz]
    have hsmall : ¬(2 : ℚ) ^ (1024 : ℕ) ≤ |(n : ℚ)| := by
      rw [Nat.abs_cast, not_le]
      calc (n : ℚ) ≤ 2 ^ (53 : ℕ) := by exact_mod_cast hn
        _ < 2 ^ (1024 : ℕ) := pow_lt_pow_right₀ (by norm_num) (by norm_num)
    simp only [if_neg hne, hlog, hround, if_neg hsmall]

/-- What may follow a value: nothing, or the punctuation after it. -/
def Ends (rest : List Char) : Prop := ∀ c ∈ rest.head?, c = ',' ∨ c = ']' ∨ c = '\x7d'

theorem someDigits_append {digits rest : List Char} (hne : digits ≠ [])
    (hdigits : ∀ c ∈ digits, c.isDigit = true) (hrest : Ends rest) :
    someDigits (digits ++ rest) = some (digits, rest) := by
  have hnone : rest.takeWhile Char.isDigit = [] ∧ rest.dropWhile Char.isDigit = rest := by
    cases rest with
    | nil => exact ⟨rfl, rfl⟩
    | cons c rest =>
      have hc : c.isDigit = false := by rcases hrest c rfl with rfl | rfl | rfl <;> rfl
      exact ⟨List.takeWhile_cons_of_neg (by rw [hc]; decide),
        List.dropWhile_cons_of_neg (by rw [hc]; decide)⟩
  unfold someDigits
  rw [List.takeWhile_append_of_pos hdigits, List.dropWhile_append_of_pos hdigits, hnone.1, hnone.2,
    List.append_nil, if_neg hne]

theorem fraction_ends {rest : List Char} (hrest : Ends rest) : fraction rest = some ([], rest) := by
  cases rest with
  | nil => rfl
  | cons c rest => rcases hrest c rfl with rfl | rfl | rfl <;> rfl

theorem exponent_ends {rest : List Char} (hrest : Ends rest) : exponent rest = some (0, rest) := by
  cases rest with
  | nil => rfl
  | cons c rest => rcases hrest c rfl with rfl | rfl | rfl <;> rfl

theorem isDigit_toDigits {n : Nat} : ∀ c ∈ Nat.toDigits 10 n, c.isDigit = true :=
  fun _ hc => Nat.isDigit_of_mem_toDigits (by decide) (by decide) hc

/-- Only zero is written with a leading zero. -/
theorem head_toDigits {n : Nat} (hhead : (Nat.toDigits 10 n).head? = some '0') : n = 0 := by
  induction n using Nat.strongRecOn with
  | ind n ih =>
    rw [Nat.toDigits_eq_if (by decide)] at hhead
    split at hhead
    · next hsmall =>
      interval_cases n
      · rfl
      all_goals exact absurd hhead (by decide)
    · next hlarge =>
      have hne : Nat.toDigits 10 (n / 10) ≠ [] := Nat.toDigits_ne_nil
      rw [List.head?_append_of_ne_nil _ hne] at hhead
      have hzero := ih (n / 10) (by omega) hhead
      omega

theorem unsigned_toDigits (n : Nat) {rest : List Char} (hrest : Ends rest) :
    unsigned (Nat.toDigits 10 n ++ rest) = some ((n : ℚ), rest) := by
  have hvalid : ¬((Nat.toDigits 10 n).head? = some '0' ∧ Nat.toDigits 10 n ≠ ['0']) := by
    rintro ⟨hhead, hne⟩
    rw [head_toDigits hhead] at hne
    exact hne rfl
  have hvalue : digitsValue (Nat.toDigits 10 n ++ []) = n := by
    rw [List.append_nil]
    exact Nat.ofDigitChars_ten_toDigits
  unfold unsigned
  simp only [someDigits_append Nat.toDigits_ne_nil isDigit_toDigits hrest, if_neg hvalid, fraction_ends hrest,
    exponent_ends hrest, Option.bind_eq_bind, Option.bind_some, hvalue]
  norm_num

theorem number_toDigits {n : Nat} (hn : n ≤ 2 ^ 53) {rest : List Char} (hrest : Ends rest) :
    number (Nat.toDigits 10 n ++ rest) = some (.number n, rest) := by
  have hunsigned := unsigned_toDigits n hrest
  rw [number]
  · rw [hunsigned]
    simp only [Option.bind_eq_bind, Option.bind_some, toNumber_natCast hn]
  · intro tail heq
    obtain ⟨c, digits, hdigits⟩ := List.exists_cons_of_ne_nil (@Nat.toDigits_ne_nil n 10)
    have hdigit := @isDigit_toDigits n c (hdigits ▸ List.mem_cons_self)
    rw [hdigits, List.cons_append] at heq
    rw [(List.cons.inj heq).1] at hdigit
    exact absurd hdigit (by decide)

end cemp.core.JSON

namespace cemp.secureVault

/-- A short escape is read as the character it stands for. -/
theorem stringBody_escaped {c e : Char} (hescaped : JSON.escaped? e = some c.toNat)
    (hsmall : c.toNat < 0x10000) {body : List Nat} {text rest : List Char}
    (hbody : JSON.stringBody text = some (body, rest)) :
    JSON.stringBody ('\\' :: e :: text) = some (JSON.units c ++ body, rest) := by
  have hnotUnit : ∀ a b c d tail, ¬(e :: text = 'u' :: a :: b :: c :: d :: tail) := by
    rintro a b c' d tail heq
    obtain ⟨rfl, -⟩ := List.cons.inj heq
    have hnone : JSON.escaped? 'u' = none := by decide
    rw [hnone] at hescaped
    cases hescaped
  have hunits : JSON.units c = [c.toNat] := if_pos hsmall
  rw [JSON.stringBody]
  · simp only [hescaped, hbody, hunits, Option.bind_eq_bind, Option.bind_some, List.singleton_append]
  · intro a b c d tail he htext
    exact hnotUnit a b c d tail (by rw [he, htext])

/-- A control character without a short escape is read from its four digits. -/
theorem stringBody_control {c : Char} (hcontrol : c.toNat < 32) {body : List Nat}
    {text rest : List Char} (hbody : JSON.stringBody text = some (body, rest)) :
    JSON.stringBody ('\\' :: 'u' :: '0' :: '0' :: Nat.digitChar (c.toNat / 16) ::
      Nat.digitChar (c.toNat % 16) :: text) = some (JSON.units c ++ body, rest) := by
  have hzero : JSON.hexDigit? '0' = some 0 := by decide
  have hhigh := JSON.hexDigit_digitChar (show c.toNat / 16 < 16 by omega)
  have hlow := JSON.hexDigit_digitChar (show c.toNat % 16 < 16 by omega)
  have hvalue : ((16 * 0 + 0) * 16 + c.toNat / 16) * 16 + c.toNat % 16 = c.toNat := by omega
  have hunits : JSON.units c = [c.toNat] := if_pos (by omega)
  rw [JSON.stringBody]
  simp only [hzero, hhigh, hlow, hbody, hunits, hvalue, Option.bind_eq_bind, Option.bind_some,
    List.singleton_append]

/-- A character written as itself is read as itself. -/
theorem stringBody_plain {c : Char} (hquote : c ≠ '"') (hbackslash : c ≠ '\\')
    (hplain : ¬c.toNat < 32) {body : List Nat} {text rest : List Char}
    (hbody : JSON.stringBody text = some (body, rest)) :
    JSON.stringBody (c :: text) = some (JSON.units c ++ body, rest) := by
  rw [JSON.stringBody]
  · have hread : ¬(c.toNat < 32 ∨ c = '\\') := by tauto
    rw [if_neg hread]
    simp only [hbody, Option.bind_eq_bind, Option.bind_some]
  all_goals tauto

/-- A written character is read as its code units. -/
theorem stringBody_quoteChar (c : Char) {body : List Nat} {text rest : List Char}
    (hbody : JSON.stringBody text = some (body, rest)) :
    JSON.stringBody (quoteChar c ++ text) = some (JSON.units c ++ body, rest) := by
  have hescape {e : Char} {n : Nat} (hn : c.toNat = n) (hescaped : JSON.escaped? e = some n)
      (hsmall : n < 0x10000) :
      JSON.stringBody (['\\', e] ++ text) = some (JSON.units c ++ body, rest) :=
    stringBody_escaped (hn ▸ hescaped) (hn ▸ hsmall) hbody
  unfold quoteChar
  split
  · next hc => exact hescape (n := 34) (by rw [hc]; rfl) (by decide) (by decide)
  split
  · next hc => exact hescape (n := 92) (by rw [hc]; rfl) (by decide) (by decide)
  split
  · next hc => exact hescape hc (by decide) (by decide)
  split
  · next hc => exact hescape hc (by decide) (by decide)
  split
  · next hc => exact hescape hc (by decide) (by decide)
  split
  · next hc => exact hescape hc (by decide) (by decide)
  split
  · next hc => exact hescape hc (by decide) (by decide)
  split
  · next hcontrol => exact stringBody_control hcontrol hbody
  · next hquote hbackslash _ _ _ _ _ hplain => exact stringBody_plain hquote hbackslash hplain hbody

theorem stringBody_quote (chars rest : List Char) :
    JSON.stringBody (chars.flatMap quoteChar ++ '"' :: rest) =
      some (chars.flatMap JSON.units, rest) := by
  induction chars with
  | nil => simp [JSON.stringBody]
  | cons c chars ih =>
    rw [List.flatMap_cons, List.append_assoc, List.flatMap_cons]
    exact stringBody_quoteChar c ih

theorem string_quote (name : String) (rest : List Char) :
    JSON.string (name.toList.flatMap quoteChar ++ '"' :: rest) = some (name, rest) := by
  unfold JSON.string
  rw [stringBody_quote]
  simp [JSON.ofUnits_flatMap]

/-! ### Values -/

mutual

/-- A document that its text spells: its numbers are natural and no larger than 2 ^ 53, and no
    object has a name twice. -/
def Readable : Json → Prop
  | .number value => ∃ n : Nat, n ≤ 2 ^ 53 ∧ value = n
  | .infinite => False
  | .array items => ReadableItems items
  | .object fields => (fields.map Prod.fst).Nodup ∧ ReadableFields fields
  | _ => True

def ReadableItems : List Json → Prop
  | [] => True
  | item :: items => Readable item ∧ ReadableItems items

def ReadableFields : List (String × Json) → Prop
  | [] => True
  | (_, value) :: fields => Readable value ∧ ReadableFields fields

end

variable {other : ℚ → List Char}

theorem skipSpace_cons {c : Char} (hc : JSON.isSpace c = false) (rest : List Char) :
    JSON.skipSpace (c :: rest) = c :: rest :=
  List.dropWhile_cons_of_neg (by rw [hc]; decide)

theorem skipSpace_ends {rest : List Char} (hrest : JSON.Ends rest) : JSON.skipSpace rest = rest := by
  cases rest with
  | nil => rfl
  | cons c rest => exact skipSpace_cons (by rcases hrest c rfl with rfl | rfl | rfl <;> rfl) rest

theorem numberText_natCast {n : Nat} (hn : n ≤ 2 ^ 53) :
    numberText other n = Nat.toDigits 10 n := by
  have hsmall : (n : ℤ) < 10 ^ 21 := by
    norm_num at hn ⊢
    omega
  unfold numberText
  rw [if_pos ⟨Rat.den_natCast n, by simp, by simpa using hsmall⟩]
  simp

theorem value_digits {c : Char} (hdigit : c.isDigit = true) (fuel : Nat) (text : List Char) :
    JSON.value (fuel + 1) (c :: text) = JSON.number (c :: text) := by
  have hspace : JSON.isSpace c = false := by
    by_contra hspace
    simp only [JSON.isSpace, Bool.not_eq_false, Bool.or_eq_true, decide_eq_true_eq] at hspace
    rcases hspace with ((rfl | rfl) | rfl) | rfl <;> exact absurd hdigit (by decide)
  unfold JSON.value
  rw [skipSpace_cons hspace]
  split
  all_goals first
    | rfl
    | next heq =>
      rw [(List.cons.inj heq).1] at hdigit
      exact absurd hdigit (by decide)

/-- A text begins with neither space nor the end of what holds it. -/
theorem head_stringify {document : Json} (hdocument : Readable document) :
    ∃ c text, stringify other document = c :: text ∧ JSON.isSpace c = false ∧ c ≠ ']' := by
  cases document with
  | null => exact ⟨'n', _, rfl, rfl, by decide⟩
  | bool value => cases value <;> exact ⟨_, _, rfl, rfl, by decide⟩
  | number value =>
    obtain ⟨n, hn, rfl⟩ := hdocument
    obtain ⟨c, digits, hdigits⟩ := List.exists_cons_of_ne_nil (@Nat.toDigits_ne_nil n 10)
    have hdigit := @JSON.isDigit_toDigits n c (hdigits ▸ List.mem_cons_self)
    refine ⟨c, digits, (numberText_natCast hn).trans hdigits, ?_, ?_⟩
    · by_contra hspace
      simp only [JSON.isSpace, Bool.not_eq_false, Bool.or_eq_true, decide_eq_true_eq] at hspace
      rcases hspace with ((rfl | rfl) | rfl) | rfl <;> exact absurd hdigit (by decide)
    · rintro rfl
      exact absurd hdigit (by decide)
  | infinite => exact hdocument.elim
  | string value => exact ⟨'"', _, rfl, rfl, by decide⟩
  | array items => exact ⟨'[', _, rfl, rfl, by decide⟩
  | object fields => exact ⟨'\x7b', _, rfl, rfl, by decide⟩

theorem foldl_define {fields done : List (String × Json)}
    (hnodup : ((done ++ fields).map Prod.fst).Nodup) :
    fields.foldl JSON.define done = done ++ fields := by
  induction fields generalizing done with
  | nil => simp
  | cons field fields ih =>
    have hnew : field.1 ∉ done.map Prod.fst := by
      rw [List.map_append, List.map_cons] at hnodup
      exact fun hmem => (List.disjoint_of_nodup_append hnodup) hmem List.mem_cons_self
    rw [List.foldl_cons, JSON.define, if_neg hnew, ih (by simpa using hnodup), List.append_assoc]
    rfl

theorem skipSpace_colon (rest : List Char) : JSON.skipSpace (':' :: rest) = ':' :: rest :=
  skipSpace_cons rfl rest

theorem stringifyItems_cons (item second : Json) (items : List Json) :
    stringifyItems other (item :: second :: items) =
      stringify other item ++ ',' :: stringifyItems other (second :: items) := by
  rw [stringifyItems]
  exact fun hnil => List.cons_ne_nil _ _ hnil

theorem stringifyFields_cons (name : String) (item : Json) (second : String × Json)
    (fields : List (String × Json)) :
    stringifyFields other ((name, item) :: second :: fields) =
      quote name ++ ':' :: (stringify other item ++
        ',' :: stringifyFields other (second :: fields)) := by
  rw [stringifyFields]
  exact fun hnil => List.cons_ne_nil _ _ hnil

theorem head_items {item : Json} {items : List Json} (hitems : ReadableItems (item :: items)) :
    ∃ c text, stringifyItems other (item :: items) = c :: text ∧ JSON.isSpace c = false ∧
      c ≠ ']' := by
  obtain ⟨c, text, htext, hc⟩ := @head_stringify other item hitems.1
  cases items with
  | nil => exact ⟨c, text, htext, hc⟩
  | cons second items =>
    refine ⟨c, text ++ ',' :: stringifyItems other (second :: items), ?_, hc⟩
    rw [stringifyItems_cons, htext]
    rfl

theorem head_fields (field : String × Json) (fields : List (String × Json)) :
    ∃ text, stringifyFields other (field :: fields) = '"' :: text := by
  cases fields with
  | nil => exact ⟨_, rfl⟩
  | cons second fields => exact ⟨_, rfl⟩

/-- After an item, the others or the end. -/
theorem ends_close (rest : List Char) : JSON.Ends (']' :: rest) := by
  rintro c ⟨⟩
  exact .inr (.inl rfl)

theorem ends_brace (rest : List Char) : JSON.Ends ('\x7d' :: rest) := by
  rintro c ⟨⟩
  exact .inr (.inr rfl)

theorem ends_comma (rest : List Char) : JSON.Ends (',' :: rest) := by
  rintro c ⟨⟩
  exact .inl rfl

mutual

/-- A document is read back from its text, whatever follows it. -/
theorem value_stringify {document : Json} (hdocument : Readable document) {fuel : Nat}
    (hfuel : 2 * (stringify other document).length ≤ fuel) {rest : List Char}
    (hrest : JSON.Ends rest) :
    JSON.value fuel (stringify other document ++ rest) = some (document, rest) := by
  obtain ⟨fuel, rfl⟩ : ∃ k, fuel = k + 1 := by
    obtain ⟨c, text, htext, -⟩ := @head_stringify other document hdocument
    rw [htext, List.length_cons] at hfuel
    exact ⟨fuel - 1, by omega⟩
  cases document with
  | null => rfl
  | bool value => cases value <;> rfl
  | number value =>
    obtain ⟨n, hn, rfl⟩ := hdocument
    obtain ⟨c, digits, hdigits⟩ := List.exists_cons_of_ne_nil (@Nat.toDigits_ne_nil n 10)
    have hdigit := @JSON.isDigit_toDigits n c (hdigits ▸ List.mem_cons_self)
    rw [stringify, numberText_natCast hn, hdigits, List.cons_append, value_digits hdigit,
      ← List.cons_append, ← hdigits, JSON.number_toDigits hn hrest]
  | infinite => exact hdocument.elim
  | string value =>
    have hstring := string_quote value rest
    rw [stringify, quote, List.cons_append, List.append_assoc, JSON.value, skipSpace_cons rfl]
    simp only [List.singleton_append, hstring, Option.bind_eq_bind, Option.bind_some]
  | array items =>
    rw [stringify, List.length_cons, List.length_append] at hfuel
    rw [stringify, List.cons_append, List.append_assoc, JSON.value, skipSpace_cons rfl]
    cases items with
    | nil => rfl
    | cons item items =>
      have hitems : JSON.items fuel (stringifyItems other (item :: items) ++ ']' :: rest) =
          some (item :: items, rest) := items_stringify hdocument (by omega) rest
      obtain ⟨c, text, htext, hspace, hclose⟩ := @head_items other item items hdocument
      simp only [htext, List.cons_append, List.nil_append, skipSpace_cons hspace] at hitems ⊢
      split
      · next heq => exact absurd (List.cons.inj heq).1 hclose
      · simp only [hitems, Option.bind_eq_bind, Option.bind_some]
  | object fields =>
    rw [stringify, List.length_cons, List.length_append] at hfuel
    rw [stringify, List.cons_append, List.append_assoc, JSON.value, skipSpace_cons rfl]
    match fields with
    | [] => rfl
    | (name, item) :: fields =>
      have hmembers : JSON.members fuel (stringifyFields other ((name, item) :: fields) ++
          '\x7d' :: rest) = some ((name, item) :: fields, rest) :=
        members_stringify hdocument.2 (by omega) rest
      obtain ⟨text, htext⟩ := @head_fields other (name, item) fields
      have hdefine : ((name, item) :: fields).foldl JSON.define [] = (name, item) :: fields :=
        foldl_define hdocument.1
      simp only [htext, List.cons_append, List.nil_append] at hmembers ⊢
      rw [skipSpace_cons rfl]
      simp only [hmembers, hdefine, Option.bind_eq_bind, Option.bind_some]
      rfl
termination_by fuel

theorem items_stringify {item : Json} {items : List Json} (hitems : ReadableItems (item :: items))
    {fuel : Nat} (hfuel : 2 * (stringifyItems other (item :: items)).length + 1 ≤ fuel)
    (rest : List Char) :
    JSON.items fuel (stringifyItems other (item :: items) ++ ']' :: rest) =
      some (item :: items, rest) := by
  obtain ⟨fuel, rfl⟩ : ∃ k, fuel = k + 1 := ⟨fuel - 1, by omega⟩
  obtain ⟨hitem, hothers⟩ := hitems
  cases items with
  | nil =>
    rw [stringifyItems] at hfuel
    have hvalue : JSON.value fuel (stringify other item ++ ']' :: rest) =
        some (item, ']' :: rest) := value_stringify hitem (by omega) (ends_close rest)
    rw [stringifyItems, JSON.items, hvalue]
    rfl
  | cons second items =>
    rw [stringifyItems_cons, List.length_append, List.length_cons] at hfuel
    have hvalue : JSON.value fuel (stringify other item ++
        ',' :: (stringifyItems other (second :: items) ++ ']' :: rest)) =
          some (item, ',' :: (stringifyItems other (second :: items) ++ ']' :: rest)) :=
      value_stringify hitem (by omega) (ends_comma _)
    have htail : JSON.items fuel (stringifyItems other (second :: items) ++ ']' :: rest) =
        some (second :: items, rest) := items_stringify hothers (by omega) rest
    rw [stringifyItems_cons, List.append_assoc, List.cons_append, JSON.items, hvalue]
    simp only [skipSpace_ends (ends_comma _), htail, Option.bind_eq_bind, Option.bind_some]
termination_by fuel

theorem members_stringify {name : String} {item : Json} {fields : List (String × Json)}
    (hfields : ReadableFields ((name, item) :: fields)) {fuel : Nat}
    (hfuel : 2 * (stringifyFields other ((name, item) :: fields)).length + 1 ≤ fuel)
    (rest : List Char) :
    JSON.members fuel (stringifyFields other ((name, item) :: fields) ++ '\x7d' :: rest) =
      some ((name, item) :: fields, rest) := by
  obtain ⟨fuel, rfl⟩ : ∃ k, fuel = k + 1 := ⟨fuel - 1, by omega⟩
  obtain ⟨hitem, hothers⟩ := hfields
  cases fields with
  | nil =>
    rw [stringifyFields, List.length_append, List.length_cons] at hfuel
    have hvalue : JSON.value fuel (stringify other item ++ '\x7d' :: rest) =
        some (item, '\x7d' :: rest) := value_stringify hitem (by omega) (ends_brace rest)
    have hname := string_quote name (':' :: (stringify other item ++ '\x7d' :: rest))
    rw [stringifyFields, quote, List.cons_append, List.cons_append, List.append_assoc,
      List.append_assoc, JSON.members, skipSpace_cons rfl]
    simp only [List.cons_append, List.nil_append, hname, skipSpace_colon, hvalue,
      Option.bind_eq_bind, Option.bind_some, skipSpace_ends (ends_brace _)]
  | cons second fields =>
    obtain ⟨nextName, nextItem⟩ := second
    rw [stringifyFields_cons, List.length_append, List.length_cons, List.length_append,
      List.length_cons] at hfuel
    have hvalue : JSON.value fuel (stringify other item ++
        ',' :: (stringifyFields other ((nextName, nextItem) :: fields) ++ '\x7d' :: rest)) =
          some (item, ',' :: (stringifyFields other ((nextName, nextItem) :: fields) ++ '\x7d' :: rest)) :=
      value_stringify hitem (by omega) (ends_comma _)
    have htail : JSON.members fuel (stringifyFields other ((nextName, nextItem) :: fields) ++ '\x7d' :: rest) =
        some ((nextName, nextItem) :: fields, rest) := members_stringify hothers (by omega) rest
    have hname := string_quote name (':' :: (stringify other item ++
      ',' :: (stringifyFields other ((nextName, nextItem) :: fields) ++ '\x7d' :: rest)))
    rw [stringifyFields_cons, quote, List.cons_append, List.cons_append, List.append_assoc,
      List.append_assoc, JSON.members, skipSpace_cons rfl]
    simp only [List.cons_append, List.nil_append, List.append_assoc, hname, skipSpace_colon,
      hvalue, Option.bind_eq_bind, Option.bind_some, skipSpace_ends (ends_comma _), htail]
termination_by fuel

end

/-- What `JSON.stringify` writes, `JSON.parse` reads. -/
theorem parse_stringify {document : Json} (hdocument : Readable document) :
    JSON.parse (stringify other document) = some document := by
  have hends : JSON.Ends [] := by
    rintro c ⟨⟩
  have hvalue := @value_stringify other document hdocument
    (2 * (stringify other document).length + 1) (by omega) [] hends
  rw [List.append_nil] at hvalue
  unfold JSON.parse
  rw [hvalue]
  rfl

end cemp.secureVault
