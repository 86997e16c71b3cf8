import CempMobile.Lib.MolCodec

/-! Encodings that end where they say: what is written first can be told from what follows. -/

namespace Molecule

open mol

variable {α β : Type}

/-- Whatever follows two encodings, the values and the rest of the buffer can be told. -/
def Delimits (writes : α → Buffer → Prop) : Prop :=
  ∀ ⦃v w b c r s⦄, writes v b → writes w c → b ++ r = c ++ s → v = w ∧ r = s

/-- A string of bytes behind its length. -/
def Prefixed (content b : Buffer) : Prop :=
  content.length < 2 ^ 32 ∧ b = packUint 4 content.length ++ content

/-- Two values, one after the other. -/
def WritesPair (first : α → Buffer → Prop) (second : β → Buffer → Prop) (v : α × β) (b : Buffer) :
    Prop :=
  ∃ b₁ b₂, first v.1 b₁ ∧ second v.2 b₂ ∧ b = b₁ ++ b₂

/-- The values of a list, one after the other. -/
inductive WritesAll (writes : α → Buffer → Prop) : List α → Buffer → Prop where
  | nil : WritesAll writes [] []
  | cons {v vs b bs} (hfirst : writes v b) (hrest : WritesAll writes vs bs) :
    WritesAll writes (v :: vs) (b ++ bs)

section Delimits

variable {writes : α → Buffer → Prop}

theorem Delimits.injective (h : Delimits writes) {v w : α} {b : Buffer} (hv : writes v b)
    (hw : writes w b) : v = w :=
  (h hv hw rfl : v = w ∧ ([] : Buffer) = []).1

theorem Delimits.pair {second : β → Buffer → Prop} (h : Delimits writes) (hsecond : Delimits second) :
    Delimits (WritesPair writes second) := by
  rintro ⟨v₁, v₂⟩ ⟨w₁, w₂⟩ b c r s ⟨b₁, b₂, hb₁, hb₂, rfl⟩ ⟨c₁, c₂, hc₁, hc₂, rfl⟩ heq
  rw [List.append_assoc, List.append_assoc] at heq
  obtain ⟨hfirst, hrest⟩ := h hb₁ hc₁ heq
  obtain ⟨hlast, hrest⟩ := hsecond hb₂ hc₂ hrest
  exact ⟨Prod.ext hfirst hlast, hrest⟩

theorem Delimits.comap (h : Delimits writes) {f : β → α} (hf : f.Injective) :
    Delimits fun v b => writes (f v) b := by
  intro v w b c r s hv hw heq
  obtain ⟨hsame, hrest⟩ := h hv hw heq
  exact ⟨hf hsame, hrest⟩

/-- Lists of one length can be told from what follows them. -/
theorem Delimits.all (h : Delimits writes) {vs ws : List α} {b c r s : Buffer}
    (hvs : WritesAll writes vs b) (hws : WritesAll writes ws c) (hlength : vs.length = ws.length)
    (heq : b ++ r = c ++ s) : vs = ws ∧ r = s := by
  induction hvs generalizing ws c with
  | nil =>
    cases hws with
    | nil => exact ⟨rfl, heq⟩
    | cons hfirst hrest => cases hlength
  | cons hfirst hrest ih =>
    cases hws with
    | nil => cases hlength
    | cons hfirst' hrest' =>
      rw [List.append_assoc, List.append_assoc] at heq
      obtain ⟨rfl, heq⟩ := h hfirst hfirst' heq
      obtain ⟨rfl, heq⟩ := ih hrest' (Nat.succ.inj hlength) heq
      exact ⟨rfl, heq⟩

/-- Where no encoding is empty, a list can be told up to the end of a buffer. -/
theorem Delimits.all_injective (h : Delimits writes) (hne : ∀ {v b}, writes v b → b ≠ [])
    {vs ws : List α} {b : Buffer} (hvs : WritesAll writes vs b) (hws : WritesAll writes ws b) :
    vs = ws := by
  induction hvs generalizing ws with
  | nil =>
    generalize hb : ([] : Buffer) = b at hws
    cases hws with
    | nil => rfl
    | cons hfirst hrest => exact absurd (List.append_eq_nil_iff.1 hb.symm).1 (hne hfirst)
  | @cons v vs b bs hfirst hrest ih =>
    generalize hb : b ++ bs = whole at hws
    cases hws with
    | nil => exact absurd (List.append_eq_nil_iff.1 hb).1 (hne hfirst)
    | cons hfirst' hrest' =>
      obtain ⟨rfl, rfl⟩ := h hfirst hfirst' hb
      rw [ih hrest']

/-- What is written of a value is determined by it. -/
theorem WritesAll.functional {vs : List α} {b c : Buffer} (hb : WritesAll writes vs b)
    (h : ∀ {v b c}, writes v b → writes v c → b = c) (hc : WritesAll writes vs c) : b = c := by
  induction hb generalizing c with
  | nil =>
    cases hc with
    | nil => rfl
  | cons hfirst hrest ih =>
    cases hc with
    | cons hfirst' hrest' => rw [h hfirst hfirst', ih hrest']

end Delimits

/-- The length tells where the content ends. -/
theorem prefixed_delimits : Delimits Prefixed := by
  rintro v w b c r s ⟨hv, rfl⟩ ⟨hw, rfl⟩ heq
  rw [List.append_assoc, List.append_assoc] at heq
  obtain ⟨hlength, heq⟩ := List.append_inj heq (by simp)
  have hsame : v.length = w.length := by
    have hword := congrArg unpackUint hlength
    rwa [unpackUint_packUint (by omega), unpackUint_packUint (by omega)] at hword
  exact List.append_inj heq hsame

theorem Prefixed.functional {content b c : Buffer} (hb : Prefixed content b)
    (hc : Prefixed content c) : b = c :=
  hb.2.trans hc.2.symm

theorem Prefixed.ne_nil {content b : Buffer} (h : Prefixed content b) : b ≠ [] := by
  obtain ⟨-, rfl⟩ := h
  intro hnil
  have hlength := congrArg List.length hnil
  simp at hlength

/-- A table declares its total in front. -/
theorem table_delimits {reader : Reader} {fields : Fields α} (h : (table reader fields).Lawful) :
    Delimits fun v b => (table reader fields).encode v = .ok b := by
  intro v w b c r s hv hw heq
  obtain ⟨parts, hparts, hlayout⟩ := bind_eq_ok hv
  obtain ⟨parts', hparts', hlayout'⟩ := bind_eq_ok hw
  obtain ⟨htotal, rfl⟩ := encodeLayout_eq_ok.1 hlayout
  obtain ⟨htotal', rfl⟩ := encodeLayout_eq_ok.1 hlayout'
  have hfirst : ∀ (ps : List Buffer) (tail : Buffer), totalSize ps < 2 ^ 32 →
      unpackUint ((layout ps ++ tail).take 4) = (layout ps).length := by
    intro ps tail hps
    have hword := word_layout hps
    have hlong : 4 ≤ (layout ps).length := by
      rw [length_layout]
      simp only [totalSize, headerSize]
      omega
    rw [word, Nat.mul_zero, List.drop_zero] at hword
    rw [List.take_append_of_le_length hlong, hword, length_layout]
  have hlength : (layout parts).length = (layout parts').length := by
    rw [← hfirst parts r htotal, ← hfirst parts' s htotal', heq]
  obtain ⟨hsame, hrest⟩ := List.append_inj heq hlength
  refine ⟨?_, hrest⟩
  have hdecode := h.decodes hv
  rw [hsame] at hdecode
  exact Except.ok.inj (hdecode.symm.trans (h.decodes hw))

end Molecule
