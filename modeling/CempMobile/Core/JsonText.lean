import CempMobile.Core.Json
import CempMobile.Lib.Binary64

/-! `JSON.parse`. A text is its characters; the parts of a surrogate pair that stand alone are read
    as the replacement character. -/

namespace cemp.core.JSON

def isSpace (c : Char) : Bool := c = ' ' || c = '\t' || c = '\n' || c = '\r'

def skipSpace (text : List Char) : List Char := text.dropWhile isSpace

/-! ### Numbers -/

/-- The number of the runtime nearest to an exact one. -/
def toNumber (x : ℚ) : Json :=
  if x = 0 then .number 0
  else
    let ulp : ℚ := 2 ^ (max (Int.log 2 |x|) (-1022) - 52)
    let nearest := Binary64.nearestEven (x / ulp) * ulp
    if 2 ^ (1024 : ℕ) ≤ |nearest| then .infinite else .number nearest

def digitsValue (digits : List Char) : Nat :=
  digits.foldl (fun value c => 10 * value + (c.toNat - '0'.toNat)) 0

/-- One digit or more. -/
def someDigits (text : List Char) : Option (List Char × List Char) :=
  if text.takeWhile Char.isDigit = [] then none
  else some (text.takeWhile Char.isDigit, text.dropWhile Char.isDigit)

/-- The digits behind a point, where there is one. -/
def fraction : List Char → Option (List Char × List Char)
  | '.' :: rest => someDigits rest
  | rest => some ([], rest)

def signedDigits : List Char → Option (ℤ × List Char)
  | '+' :: rest => (someDigits rest).map fun (digits, rest) => ((digitsValue digits : ℤ), rest)
  | '-' :: rest => (someDigits rest).map fun (digits, rest) => (-(digitsValue digits : ℤ), rest)
  | rest => (someDigits rest).map fun (digits, rest) => ((digitsValue digits : ℤ), rest)

def exponent : List Char → Option (ℤ × List Char)
  | 'e' :: rest => signedDigits rest
  | 'E' :: rest => signedDigits rest
  | rest => some (0, rest)

/-- A number without its sign. Leading zeros are refused. -/
def unsigned (text : List Char) : Option (ℚ × List Char) := do
  let (whole, rest) ← someDigits text
  if whole.head? = some '0' ∧ whole ≠ ['0'] then none
  else
    let (decimals, rest) ← fraction rest
    let (power, rest) ← exponent rest
    some (digitsValue (whole ++ decimals) * 10 ^ (power - decimals.length), rest)

def number : List Char → Option (Json × List Char)
  | '-' :: rest => do
    let (value, rest) ← unsigned rest
    some (toNumber (-value), rest)
  | rest => do
    let (value, rest) ← unsigned rest
    some (toNumber value, rest)

/-! ### Strings -/

def hexDigit? (c : Char) : Option Nat :=
  if '0' ≤ c ∧ c ≤ '9' then some (c.toNat - '0'.toNat)
  else if 'a' ≤ c ∧ c ≤ 'f' then some (c.toNat - 'a'.toNat + 10)
  else if 'A' ≤ c ∧ c ≤ 'F' then some (c.toNat - 'A'.toNat + 10)
  else none

/-- The UTF-16 code units of a character. -/
def units (c : Char) : List Nat :=
  if c.toNat < 0x10000 then [c.toNat]
  else [0xD800 + (c.toNat - 0x10000) / 0x400, 0xDC00 + (c.toNat - 0x10000) % 0x400]

/-- The characters of a sequence of code units. -/
def ofUnits : List Nat → List Char
  | [] => []
  | [unit] => [Char.ofNat (if 0xD800 ≤ unit ∧ unit < 0xE000 then 0xFFFD else unit)]
  | high :: low :: rest =>
    if 0xD800 ≤ high ∧ high < 0xDC00 ∧ 0xDC00 ≤ low ∧ low < 0xE000 then
      Char.ofNat (0x10000 + (high - 0xD800) * 0x400 + (low - 0xDC00)) :: ofUnits rest
    else if 0xD800 ≤ high ∧ high < 0xE000 then Char.ofNat 0xFFFD :: ofUnits (low :: rest)
    else Char.ofNat high :: ofUnits (low :: rest)

/-- What a character behind a backslash stands for. -/
def escaped? (c : Char) : Option Nat :=
  if c = '"' ∨ c = '\\' ∨ c = '/' then some c.toNat
  else if c = 'b' then some 8
  else if c = 't' then some 9
  else if c = 'n' then some 10
  else if c = 'f' then some 12
  else if c = 'r' then some 13
  else none

/-- The code units of a string literal, from behind its opening quote. -/
def stringBody : List Char → Option (List Nat × List Char)
  | [] => none
  | '"' :: rest => some ([], rest)
  | '\\' :: 'u' :: a :: b :: c :: d :: rest => do
    let a ← hexDigit? a
    let b ← hexDigit? b
    let c ← hexDigit? c
    let d ← hexDigit? d
    let (body, rest) ← stringBody rest
    some ((((16 * a + b) * 16 + c) * 16 + d) :: body, rest)
  | '\\' :: c :: rest => do
    let unit ← escaped? c
    let (body, rest) ← stringBody rest
    some (unit :: body, rest)
  | c :: rest => do
    if c.toNat < 32 ∨ c = '\\' then none
    else
      let (body, rest) ← stringBody rest
      some (units c ++ body, rest)

def string (text : List Char) : Option (String × List Char) := do
  let (body, rest) ← stringBody text
  some (String.ofList (ofUnits body), rest)

/-! ### Values -/

/-- Adds a property. A name that is there already keeps its place and takes the new value. -/
def define (fields : List (String × Json)) (field : String × Json) : List (String × Json) :=
  if field.1 ∈ fields.map Prod.fst then
    fields.map fun old => if old.1 = field.1 then field else old
  else fields ++ [field]

mutual

/-- A value and what follows it. The fuel bounds the depth of the calls. -/
def value : Nat → List Char → Option (Json × List Char)
  | 0, _ => none
  | fuel + 1, text =>
    match skipSpace text with
    | 'n' :: 'u' :: 'l' :: 'l' :: rest => some (.null, rest)
    | 't' :: 'r' :: 'u' :: 'e' :: rest => some (.bool true, rest)
    | 'f' :: 'a' :: 'l' :: 's' :: 'e' :: rest => some (.bool false, rest)
    | '"' :: rest => do
      let (text, rest) ← string rest
      some (.string text, rest)
    | '[' :: rest =>
      match skipSpace rest with
      | ']' :: rest => some (.array [], rest)
      | _ => do
        let (found, rest) ← items fuel rest
        some (.array found, rest)
    | '\x7b' :: rest =>
      match skipSpace rest with
      | '\x7d' :: rest => some (.object [], rest)
      | _ => do
        let (found, rest) ← members fuel rest
        some (.object (found.foldl define []), rest)
    | text => number text

/-- The items of an array, up to its closing bracket. -/
def items : Nat → List Char → Option (List Json × List Char)
  | 0, _ => none
  | fuel + 1, text => do
    let (item, rest) ← value fuel text
    match skipSpace rest with
    | ',' :: rest => do
      let (others, rest) ← items fuel rest
      some (item :: others, rest)
    | ']' :: rest => some ([item], rest)
    | _ => none

/-- The members of an object, up to its closing brace. -/
def members : Nat → List Char → Option (List (String × Json) × List Char)
  | 0, _ => none
  | fuel + 1, text =>
    match skipSpace text with
    | '"' :: rest => do
      let (name, rest) ← string rest
      match skipSpace rest with
      | ':' :: rest => do
        let (item, rest) ← value fuel rest
        match skipSpace rest with
        | ',' :: rest => do
          let (others, rest) ← members fuel rest
          some ((name, item) :: others, rest)
        | '\x7d' :: rest => some ([(name, item)], rest)
        | _ => none
      | _ => none
    | _ => none

end

/-- The value of a text. Where there is none, the runtime throws. -/
def parse (text : List Char) : Option Json :=
  match value (2 * text.length + 1) text with
  | some (found, rest) => if skipSpace rest = [] then some found else none
  | none => none

/-! ### The fuel is enough -/

theorem length_skipSpace_le (text : List Char) : (skipSpace text).length ≤ text.length :=
  (List.dropWhile_suffix _).length_le

theorem length_someDigits {text digits rest : List Char}
    (hread : someDigits text = some (digits, rest)) : rest.length < text.length := by
  unfold someDigits at hread
  split at hread
  · cases hread
  · next hne =>
    cases hread
    have hsplit := congrArg List.length (@List.takeWhile_append_dropWhile _ Char.isDigit text)
    have hpos := List.length_pos_iff.2 hne
    rw [List.length_append] at hsplit
    omega

theorem length_fraction_le {text digits rest : List Char}
    (hread : fraction text = some (digits, rest)) : rest.length ≤ text.length := by
  unfold fraction at hread
  split at hread
  · have hlength := length_someDigits hread
    rw [List.length_cons]
    omega
  · cases hread
    exact le_rfl

theorem length_signedDigits_le {text rest : List Char} {power : ℤ}
    (hread : signedDigits text = some (power, rest)) : rest.length ≤ text.length := by
  unfold signedDigits at hread
  split at hread
  all_goals
    obtain ⟨⟨digits, tail⟩, hdigits, heq⟩ := Option.map_eq_some_iff.1 hread
    cases heq
    have hlength := length_someDigits hdigits
    try rw [List.length_cons]
    omega

theorem length_exponent_le {text rest : List Char} {power : ℤ}
    (hread : exponent text = some (power, rest)) : rest.length ≤ text.length := by
  unfold exponent at hread
  split at hread
  · exact Nat.le_succ_of_le (length_signedDigits_le hread)
  · exact Nat.le_succ_of_le (length_signedDigits_le hread)
  · cases hread
    exact le_rfl

theorem length_unsigned {text rest : List Char} {value : ℚ}
    (hread : unsigned text = some (value, rest)) : rest.length < text.length := by
  unfold unsigned at hread
  simp only [Option.bind_eq_bind, Option.bind_eq_some_iff, Prod.exists] at hread
  obtain ⟨whole, rest₁, hwhole, hread⟩ := hread
  split at hread
  · cases hread
  · simp only [Option.bind_eq_some_iff, Prod.exists] at hread
    obtain ⟨decimals, rest₂, hdecimals, power, rest₃, hpower, heq⟩ := hread
    cases heq
    have h₁ := length_someDigits hwhole
    have h₂ := length_fraction_le hdecimals
    have h₃ := length_exponent_le hpower
    omega

theorem length_number {text rest : List Char} {found : Json}
    (hread : number text = some (found, rest)) : rest.length < text.length := by
  unfold number at hread
  split at hread
  all_goals
    simp only [Option.bind_eq_bind, Option.bind_eq_some_iff, Prod.exists] at hread
    obtain ⟨value, tail, hvalue, heq⟩ := hread
    cases heq
    have hlength := length_unsigned hvalue
    try rw [List.length_cons]
    omega

theorem length_stringBody {text rest : List Char} {body : List Nat}
    (hread : stringBody text = some (body, rest)) : rest.length < text.length := by
  fun_induction stringBody text generalizing body rest with
  | case1 => cases hread
  | case2 => 
    cases hread
    exact Nat.lt_succ_self _
  | case3 a b c d tail ih =>
    simp only [Option.bind_eq_bind, Option.bind_eq_some_iff, Prod.exists] at hread
    obtain ⟨_, _, _, _, _, _, _, _, body', tail', hbody, heq⟩ := hread
    cases heq
    have hlength := ih hbody
    simp only [List.length_cons]
    omega
  | case4 c tail _ ih =>
    simp only [Option.bind_eq_bind, Option.bind_eq_some_iff, Prod.exists] at hread
    obtain ⟨_, _, body', tail', hbody, heq⟩ := hread
    cases heq
    have hlength := ih hbody
    simp only [List.length_cons]
    omega
  | case5 => cases hread
  | case6 c tail _ _ _ _ ih =>
    simp only [Option.bind_eq_bind, Option.bind_eq_some_iff, Prod.exists] at hread
    obtain ⟨body', tail', hbody, heq⟩ := hread
    cases heq
    have hlength := ih hbody
    simp only [List.length_cons]
    omega

theorem length_string {text rest : List Char} {found : String}
    (hread : string text = some (found, rest)) : rest.length < text.length := by
  unfold string at hread
  simp only [Option.bind_eq_bind, Option.bind_eq_some_iff, Prod.exists] at hread
  obtain ⟨body, tail, hbody, heq⟩ := hread
  cases heq
  exact length_stringBody hbody

mutual

theorem length_value {fuel : Nat} {text rest : List Char} {found : Json}
    (hread : value fuel text = some (found, rest)) : rest.length < text.length := by
  match fuel with
  | 0 => cases hread
  | fuel + 1 =>
    have hspace := length_skipSpace_le text
    rw [value] at hread
    split at hread
    · next heq =>
      cases hread
      simp only [heq, List.length_cons] at hspace
      omega
    · next heq =>
      cases hread
      simp only [heq, List.length_cons] at hspace
      omega
    · next heq =>
      cases hread
      simp only [heq, List.length_cons] at hspace
      omega
    · next heq =>
      simp only [Option.bind_eq_bind, Option.bind_eq_some_iff, Prod.exists] at hread
      obtain ⟨_, _, hstring, hsame⟩ := hread
      cases hsame
      have hlength := length_string hstring
      rw [heq, List.length_cons] at hspace
      omega
    · next tail heq =>
      have hinner := length_skipSpace_le tail
      rw [heq, List.length_cons] at hspace
      split at hread
      · next hclose =>
        cases hread
        rw [hclose, List.length_cons] at hinner
        omega
      · simp only [Option.bind_eq_bind, Option.bind_eq_some_iff, Prod.exists] at hread
        obtain ⟨_, _, hitems, hsame⟩ := hread
        cases hsame
        have hlength := length_items hitems
        omega
    · next tail heq =>
      have hinner := length_skipSpace_le tail
      rw [heq, List.length_cons] at hspace
      split at hread
      · next hclose =>
        cases hread
        rw [hclose, List.length_cons] at hinner
        omega
      · simp only [Option.bind_eq_bind, Option.bind_eq_some_iff, Prod.exists] at hread
        obtain ⟨_, _, hmembers, hsame⟩ := hread
        cases hsame
        have hlength := length_members hmembers
        omega
    · have hlength := length_number hread
      omega
termination_by fuel

theorem length_items {fuel : Nat} {text rest : List Char} {found : List Json}
    (hread : items fuel text = some (found, rest)) : rest.length < text.length := by
  match fuel with
  | 0 => cases hread
  | fuel + 1 =>
    rw [items] at hread
    simp only [Option.bind_eq_bind, Option.bind_eq_some_iff, Prod.exists] at hread
    obtain ⟨item, tail, hitem, hread⟩ := hread
    have hfirst := length_value hitem
    have hspace := length_skipSpace_le tail
    split at hread
    · next heq =>
      simp only [Option.bind_eq_some_iff, Prod.exists] at hread
      obtain ⟨others, after, hothers, hsame⟩ := hread
      cases hsame
      have hlength := length_items hothers
      rw [heq, List.length_cons] at hspace
      omega
    · next heq =>
      cases hread
      rw [heq, List.length_cons] at hspace
      omega
    · cases hread
termination_by fuel

theorem length_members {fuel : Nat} {text rest : List Char} {found : List (String × Json)}
    (hread : members fuel text = some (found, rest)) : rest.length < text.length := by
  match fuel with
  | 0 => cases hread
  | fuel + 1 =>
    have hspace := length_skipSpace_le text
    rw [members] at hread
    split at hread
    · next heq =>
      rw [heq, List.length_cons] at hspace
      simp only [Option.bind_eq_bind, Option.bind_eq_some_iff, Prod.exists] at hread
      obtain ⟨name, tail, hname, hread⟩ := hread
      have hfirst := length_string hname
      have hbefore := length_skipSpace_le tail
      split at hread
      · next hcolon =>
        rw [hcolon, List.length_cons] at hbefore
        simp only [Option.bind_eq_some_iff, Prod.exists] at hread
        obtain ⟨item, after, hitem, hread⟩ := hread
        have hsecond := length_value hitem
        have hbehind := length_skipSpace_le after
        split at hread
        · next hcomma =>
          simp only [Option.bind_eq_some_iff, Prod.exists] at hread
          obtain ⟨others, last, hothers, hsame⟩ := hread
          cases hsame
          have hlength := length_members hothers
          rw [hcomma, List.length_cons] at hbehind
          omega
        · next hclose =>
          cases hread
          rw [hclose, List.length_cons] at hbehind
          omega
        · cases hread
      · cases hread
    · cases hread
termination_by fuel

end

mutual

/-- More fuel than a text has use for changes nothing. -/
theorem value_succ {fuel : Nat} {text : List Char} (hfuel : 2 * text.length + 1 ≤ fuel) :
    value (fuel + 1) text = value fuel text := by
  match fuel with
  | fuel + 1 =>
    have hspace := length_skipSpace_le text
    rw [value, value]
    split
    · rfl
    · rfl
    · rfl
    · rfl
    · next tail heq =>
      rw [heq, List.length_cons] at hspace
      rw [@items_succ fuel tail (by omega)]
    · next tail heq =>
      rw [heq, List.length_cons] at hspace
      rw [@members_succ fuel tail (by omega)]
    · rfl
termination_by fuel

theorem items_succ {fuel : Nat} {text : List Char} (hfuel : 2 * text.length + 2 ≤ fuel) :
    items (fuel + 1) text = items fuel text := by
  match fuel with
  | fuel + 1 =>
    rw [items, items, @value_succ fuel text (by omega)]
    refine Option.bind_congr fun ⟨item, tail⟩ hitem => ?_
    dsimp only
    have hfirst := length_value hitem
    have hspace := length_skipSpace_le tail
    split
    · next heq =>
      rw [heq, List.length_cons] at hspace
      rw [@items_succ fuel _ (by omega)]
    · rfl
    · rfl
termination_by fuel

theorem members_succ {fuel : Nat} {text : List Char} (hfuel : 2 * text.length + 2 ≤ fuel) :
    members (fuel + 1) text = members fuel text := by
  match fuel with
  | fuel + 1 =>
    have hspace := length_skipSpace_le text
    rw [members, members]
    split
    · next tail heq =>
      rw [heq, List.length_cons] at hspace
      refine Option.bind_congr fun ⟨name, after⟩ hname => ?_
      dsimp only
      have hfirst := length_string hname
      have hbefore := length_skipSpace_le after
      split
      · next hcolon =>
        rw [hcolon, List.length_cons] at hbefore
        rw [@value_succ fuel _ (by omega)]
        refine Option.bind_congr fun ⟨item, last⟩ hitem => ?_
        dsimp only
        have hsecond := length_value hitem
        have hbehind := length_skipSpace_le last
        split
        · next hcomma =>
          rw [hcomma, List.length_cons] at hbehind
          rw [@members_succ fuel _ (by omega)]
        · rfl
        · rfl
      · rfl
    · rfl
termination_by fuel

end

/-- With any fuel that the text's length allows for, the value is the same. -/
theorem value_eq_of_le {fuel : Nat} {text : List Char} (hfuel : 2 * text.length + 1 ≤ fuel) :
    value fuel text = value (2 * text.length + 1) text := by
  induction fuel, hfuel using Nat.le_induction with
  | base => rfl
  | succ fuel hfuel ih => rw [value_succ hfuel, ih]

end cemp.core.JSON
