import CempMobile.Vault.FormatText
import Mathlib.Data.List.DropRight

/-! `trim`, and `Number` of a text. -/

namespace cemp.core.text

/-- White space and line ends, as `trim` takes them. -/
def isTrimmed (c : Char) : Bool :=
  (9 ≤ c.toNat && c.toNat ≤ 13) || (0x2000 ≤ c.toNat && c.toNat ≤ 0x200a) ||
    c.toNat ∈ [0x20, 0xa0, 0x1680, 0x2028, 0x2029, 0x202f, 0x205f, 0x3000, 0xfeff]

def trim (text : List Char) : List Char := (text.dropWhile isTrimmed).rdropWhile isTrimmed

/-- A decimal literal without its sign. -/
def decimal (text : List Char) : Option ℚ :=
  let whole := text.takeWhile Char.isDigit
  let (decimals, rest) : List Char × List Char :=
    match text.dropWhile Char.isDigit with
    | '.' :: rest => (rest.takeWhile Char.isDigit, rest.dropWhile Char.isDigit)
    | rest => ([], rest)
  if whole = [] ∧ decimals = [] then none
  else
    match JSON.exponent rest with
    | some (power, []) => some (JSON.digitsValue (whole ++ decimals) * 10 ^ (power - decimals.length))
    | _ => none

/-- The digits behind a prefix such as 0x. -/
def inRadix (radix : Nat) (digits : List Char) : Option ℚ := do
  let values ← digits.mapM JSON.hexDigit?
  if digits = [] ∨ ¬ values.all (· < radix) then none
  else some (values.foldl (fun value digit => radix * value + digit) 0 : Nat)

/-- The exact value of a literal, where it is finite. -/
def literal : List Char → Option ℚ
  | [] => some 0
  | '0' :: 'x' :: digits => inRadix 16 digits
  | '0' :: 'X' :: digits => inRadix 16 digits
  | '0' :: 'o' :: digits => inRadix 8 digits
  | '0' :: 'O' :: digits => inRadix 8 digits
  | '0' :: 'b' :: digits => inRadix 2 digits
  | '0' :: 'B' :: digits => inRadix 2 digits
  | '+' :: text => decimal text
  | '-' :: text => (decimal text).map (- ·)
  | text => decimal text

/-- `Number(text)`, where it is neither infinite nor no number. -/
def number (text : List Char) : Option ℚ :=
  match (literal (trim text)).map JSON.toNumber with
  | some (.number value) => some value
  | _ => none

theorem not_isTrimmed_of_isDigit {c : Char} (h : c.isDigit = true) : isTrimmed c = false := by
  rw [Char.isDigit, Bool.and_eq_true, decide_eq_true_eq, decide_eq_true_eq] at h
  have hlow : 48 ≤ c.toNat := h.1
  have hhigh : c.toNat ≤ 57 := h.2
  unfold isTrimmed
  generalize c.toNat = n at hlow hhigh
  interval_cases n <;> rfl

theorem trim_of_digits {text : List Char} (h : ∀ c ∈ text, c.isDigit = true) : trim text = text := by
  have hdrop : text.dropWhile isTrimmed = text := by
    cases text with
    | nil => rfl
    | cons c text =>
      refine List.dropWhile_cons_of_neg ?_
      rw [not_isTrimmed_of_isDigit (h c List.mem_cons_self)]
      decide
  unfold trim
  rw [hdrop]
  induction text using List.reverseRecOn with
  | nil => rfl
  | append_singleton text c ih =>
    refine List.rdropWhile_concat_neg _ _ _ ?_
    rw [not_isTrimmed_of_isDigit (h c (List.mem_append_right _ (List.mem_singleton_self c)))]
    decide

theorem decimal_toDigits (n : Nat) : decimal (Nat.toDigits 10 n) = some (n : ℚ) := by
  have hwhole : (Nat.toDigits 10 n).takeWhile Char.isDigit = Nat.toDigits 10 n :=
    List.takeWhile_eq_self_iff.2 JSON.isDigit_toDigits
  have hrest : (Nat.toDigits 10 n).dropWhile Char.isDigit = [] :=
    List.dropWhile_eq_nil_iff.2 JSON.isDigit_toDigits
  have hvalue : JSON.digitsValue (Nat.toDigits 10 n) = n := Nat.ofDigitChars_ten_toDigits
  unfold decimal
  simp only [hwhole, hrest, Nat.toDigits_ne_nil, false_and, if_false, List.append_nil, hvalue,
    JSON.exponent]
  norm_num

/-- No literal but a decimal one is all digits. -/
theorem literal_of_digits {text : List Char} (hne : text ≠ []) (h : ∀ c ∈ text, c.isDigit = true) :
    literal text = decimal text := by
  unfold literal
  split
  · exact absurd rfl hne
  all_goals first
    | rfl
    | exact absurd (h _ List.mem_cons_self) (by decide)
    | exact absurd (h _ (List.mem_cons_of_mem _ List.mem_cons_self)) (by decide)

theorem number_toDigits {n : Nat} (hn : n ≤ 2 ^ 53) : number (Nat.toDigits 10 n) = some (n : ℚ) := by
  unfold number
  rw [trim_of_digits JSON.isDigit_toDigits,
    literal_of_digits Nat.toDigits_ne_nil JSON.isDigit_toDigits, decimal_toDigits, Option.map_some,
    JSON.toNumber_natCast hn]

end cemp.core.text
