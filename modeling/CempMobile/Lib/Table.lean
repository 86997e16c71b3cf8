import Mathlib.Data.List.Basic
import Mathlib.Data.List.Pairwise
import Mathlib.Tactic.Common

/-- A database table: rows in the order of their ids, no id used twice, and no value of the
    unique column `key` used twice. A row without a key is exempt, as a NULL is in SQL. -/
@[ext] structure Table {α κ : Type} (key : α → Option κ) where
  rows : List (Nat × α)
  sorted : rows.Pairwise fun r r' => r.1 < r'.1
  unique : rows.Pairwise fun r r' => key r.2 = key r'.2 → key r.2 = none

namespace Table

variable {α κ : Type} {key : α → Option κ}

def empty : Table key := ⟨[], .nil, .nil⟩

/-- The table of one row. -/
def singleton (a : α) : Table key :=
  ⟨[(1, a)], List.pairwise_singleton _ _, List.pairwise_singleton _ _⟩

/-- The row with a given id. -/
def get? (t : Table key) (id : Nat) : Option α :=
  (t.rows.find? fun r => r.1 == id).map (·.2)

/-- The first row, in id order, that `p` selects. -/
def first? (t : Table key) (p : α → Bool) : Option (Nat × α) :=
  t.rows.find? fun r => p r.2

/-- The last row, in id order, that `p` selects. -/
def last? (t : Table key) (p : α → Bool) : Option (Nat × α) :=
  (t.rows.filter fun r => p r.2).getLast?

/-- The rows that `p` selects, in id order. -/
def select (t : Table key) (p : α → Bool) : List (Nat × α) :=
  t.rows.filter fun r => p r.2

/-- The id an inserted row gets: one more than the largest in use. -/
def nextId (t : Table key) : Nat :=
  match t.rows.getLast? with
  | none => 1
  | some r => r.1 + 1

/-- Changes the selected rows in place. The unique column is not among what is changed. -/
def update (t : Table key) (p : Nat → α → Bool) (f : α → α) (keeps : ∀ a, key (f a) = key a) :
    Table key where
  rows := t.rows.map fun r => if p r.1 r.2 then (r.1, f r.2) else r
  sorted := by
    refine List.pairwise_map.2 (t.sorted.imp ?_)
    intro r r' h
    split <;> split <;> exact h
  unique := by
    refine List.pairwise_map.2 (t.unique.imp ?_)
    intro r r' h
    split <;> split <;> simpa only [keeps] using h

/-- Removes the selected rows. -/
def delete (t : Table key) (p : α → Bool) : Table key where
  rows := t.rows.filter fun r => !p r.2
  sorted := t.sorted.filter _
  unique := t.unique.filter _

theorem lt_nextId {t : Table key} {r : Nat × α} (hr : r ∈ t.rows) : r.1 < t.nextId := by
  obtain ⟨front, last, hrows⟩ : ∃ front last, t.rows = front ++ [last] := by
    rcases List.eq_nil_or_concat t.rows with h | ⟨front, last, h⟩
    · rw [h] at hr
      cases hr
    · exact ⟨front, last, by simpa using h⟩
  have hsorted := t.sorted
  rw [hrows, List.pairwise_append] at hsorted
  rw [hrows] at hr
  simp only [nextId, hrows, List.getLast?_concat]
  rcases List.mem_append.1 hr with h | h
  · have := hsorted.2.2 r h last (by simp)
    omega
  · simp only [List.mem_singleton] at h
    subst h
    omega

/-- No row has the key of `a`. -/
def Fresh (t : Table key) (a : α) : Prop :=
  ∀ r ∈ t.rows, key r.2 = key a → key a = none

instance [DecidableEq κ] (t : Table key) (a : α) : Decidable (t.Fresh a) :=
  inferInstanceAs (Decidable (∀ r ∈ t.rows, key r.2 = key a → key a = none))

/-- Appends a row whose key is not in use. -/
def insert (t : Table key) (a : α) (fresh : t.Fresh a) : Table key where
  rows := t.rows ++ [(t.nextId, a)]
  sorted := by
    refine List.pairwise_append.2 ⟨t.sorted, List.pairwise_singleton _ _, ?_⟩
    intro r hr r' hr'
    simp only [List.mem_singleton] at hr'
    subst hr'
    exact lt_nextId hr
  unique := by
    refine List.pairwise_append.2 ⟨t.unique, List.pairwise_singleton _ _, ?_⟩
    intro r hr r' hr' h
    simp only [List.mem_singleton] at hr'
    subst hr'
    exact h.trans (fresh r hr h)

/-- Appends a row, or merges it into the row that has its key. -/
def upsert [DecidableEq κ] (t : Table key) (a : α) (merge : α → α → α)
    (keeps : ∀ old, key (merge a old) = key old) : Table key :=
  if fresh : t.Fresh a then t.insert a fresh
  else t.update (fun _ old => key old == key a) (merge a) keeps

section Lemmas

variable {t : Table key} {id id' : Nat} {a b : α} {r r' : Nat × α}

@[simp] theorem rows_empty : (empty : Table key).rows = [] := rfl

@[simp] theorem rows_insert (fresh : t.Fresh a) :
    (t.insert a fresh).rows = t.rows ++ [(t.nextId, a)] := rfl

theorem mem_insert {fresh : t.Fresh a} :
    r ∈ (t.insert a fresh).rows ↔ r ∈ t.rows ∨ r = (t.nextId, a) := by
  simp

theorem mem_update {p : Nat → α → Bool} {f : α → α} {keeps : ∀ a, key (f a) = key a} :
    (id, b) ∈ (t.update p f keeps).rows ↔
      ∃ a, (id, a) ∈ t.rows ∧ b = if p id a then f a else a := by
  simp only [update, List.mem_map, Prod.exists]
  constructor
  · rintro ⟨id', a, hmem, h⟩
    by_cases hp : p id' a
    · simp only [hp, if_true, Prod.mk.injEq] at h
      obtain ⟨rfl, rfl⟩ := h
      exact ⟨a, hmem, by simp [hp]⟩
    · simp only [hp, Bool.false_eq_true, if_false, Prod.mk.injEq] at h
      obtain ⟨rfl, rfl⟩ := h
      exact ⟨a, hmem, by simp [hp]⟩
  · rintro ⟨a, hmem, rfl⟩
    refine ⟨id, a, hmem, ?_⟩
    by_cases hp : p id a <;> simp [hp]

theorem rows_update {p : Nat → α → Bool} {f : α → α} {keeps : ∀ a, key (f a) = key a} :
    (t.update p f keeps).rows = t.rows.map fun r => if p r.1 r.2 then (r.1, f r.2) else r := rfl

/-- Two updates are equal when they do the same to every row there is. -/
theorem update_congr {p p' : Nat → α → Bool} {f f' : α → α} {keeps : ∀ a, key (f a) = key a}
    {keeps' : ∀ a, key (f' a) = key a}
    (h : ∀ r ∈ t.rows, (if p r.1 r.2 then f r.2 else r.2) = if p' r.1 r.2 then f' r.2 else r.2) :
    t.update p f keeps = t.update p' f' keeps' := by
  refine Table.ext (List.map_congr_left fun r hr => ?_)
  have hsame := h r hr
  by_cases hp : p r.1 r.2 <;> by_cases hp' : p' r.1 r.2 <;>
    simp only [hp, hp', if_true, if_false, Bool.false_eq_true] at hsame ⊢
  · rw [hsame]
  · rw [hsame]
  · rw [← hsame]

/-- An update that changes no row is none. -/
theorem update_eq_self {p : Nat → α → Bool} {f : α → α} {keeps : ∀ a, key (f a) = key a}
    (h : ∀ r ∈ t.rows, p r.1 r.2 → f r.2 = r.2) : t.update p f keeps = t := by
  refine Table.ext ?_
  rw [rows_update]
  conv_rhs => rw [← List.map_id t.rows]
  refine List.map_congr_left fun r hr => ?_
  by_cases hp : p r.1 r.2
  · simp [hp, h r hr hp]
  · simp [hp]

/-- Two updates by the same idempotent change are one update of the rows of either. -/
theorem update_update {p p' : Nat → α → Bool} {f : α → α} {keeps : ∀ a, key (f a) = key a}
    (hidem : ∀ a, f (f a) = f a) (hstable : ∀ id a, p' id (f a) = p' id a) :
    (t.update p f keeps).update p' f keeps = t.update (fun id a => p' id a || p id a) f keeps := by
  refine Table.ext ?_
  simp only [rows_update, List.map_map]
  refine List.map_congr_left fun r _ => ?_
  by_cases hp : p r.1 r.2 <;> by_cases hp' : p' r.1 r.2 <;> simp [hp, hp', hstable, hidem]

/-- An update leaves every id where it is. -/
theorem nextId_update {p : Nat → α → Bool} {f : α → α} {keeps : ∀ a, key (f a) = key a} :
    (t.update p f keeps).nextId = t.nextId := by
  simp only [nextId, rows_update, List.getLast?_map]
  cases t.rows.getLast? with
  | none => rfl
  | some r =>
    by_cases hp : p r.1 r.2 <;> simp [hp]

/-- A selection that an update does not affect finds the same row, as updated. -/
theorem first?_update {p : Nat → α → Bool} {f : α → α} {keeps : ∀ a, key (f a) = key a}
    {q : α → Bool} (hq : ∀ a, q (f a) = q a) :
    (t.update p f keeps).first? q =
      (t.first? q).map fun r => if p r.1 r.2 then (r.1, f r.2) else r := by
  simp only [first?, rows_update, List.find?_map]
  congr 2
  funext r
  by_cases hp : p r.1 r.2 <;> simp [hp, hq]

/-- The same holds for all the rows it finds. -/
theorem select_update {p : Nat → α → Bool} {f : α → α} {keeps : ∀ a, key (f a) = key a}
    {q : α → Bool} (hq : ∀ a, q (f a) = q a) :
    (t.update p f keeps).select q =
      (t.select q).map fun r => if p r.1 r.2 then (r.1, f r.2) else r := by
  simp only [select, rows_update, List.filter_map]
  congr 2
  funext r
  by_cases hp : p r.1 r.2 <;> simp [hp, hq]

/-- An insert does not hide a row that was selected before. -/
theorem first?_insert {fresh : t.Fresh a} {q : α → Bool} :
    (t.insert a fresh).first? q =
      (t.first? q).or (if q a then some (t.nextId, a) else none) := by
  simp only [first?, rows_insert, List.find?_append]
  by_cases hq : q a <;> simp [hq]

theorem mem_of_first? {p : α → Bool} (h : t.first? p = some r) : r ∈ t.rows ∧ p r.2 := by
  have hp := List.find?_some (show List.find? (fun r => p r.2) t.rows = some r from h)
  exact ⟨List.mem_of_find?_eq_some h, hp⟩

/-- A selection is not affected by an update of rows it selects neither before nor after. -/
theorem first?_update_of_ne {p : Nat → α → Bool} {f : α → α} {keeps : ∀ a, key (f a) = key a}
    {q : α → Bool} (hq : ∀ id a, p id a → q a = false ∧ q (f a) = false) :
    (t.update p f keeps).first? q = t.first? q := by
  have hrow : ∀ r : Nat × α, q (if p r.1 r.2 then (r.1, f r.2) else r).2 = q r.2 := by
    intro r
    by_cases hp : p r.1 r.2
    · simp [hp, hq r.1 r.2 hp]
    · simp [hp]
  simp only [first?, rows_update, List.find?_map, Function.comp_def, hrow]
  cases hfind : t.rows.find? fun r => q r.2 with
  | none => rfl
  | some r =>
    have hfirst : t.first? q = some r := hfind
    have hqr := (mem_of_first? hfirst).2
    have hp : ¬p r.1 r.2 := fun hp => by simp [(hq r.1 r.2 hp).1] at hqr
    simp [hp]

/-- A selection among other keys is not affected by an upsert. -/
theorem first?_upsert_of_ne [DecidableEq κ] {merge : α → α → α}
    {keeps : ∀ old, key (merge a old) = key old} {q : α → Bool}
    (hq : ∀ b, key b = key a → q b = false) :
    (t.upsert a merge keeps).first? q = t.first? q := by
  unfold upsert
  split
  · simp [first?_insert, hq a rfl]
  · refine first?_update_of_ne fun id b hb => ?_
    rw [beq_iff_eq] at hb
    exact ⟨hq b hb, hq _ ((keeps b).trans hb)⟩

theorem select_upsert_of_ne [DecidableEq κ] {merge : α → α → α}
    {keeps : ∀ old, key (merge a old) = key old} {q : α → Bool}
    (hq : ∀ b, key b = key a → q b = false) :
    (t.upsert a merge keeps).select q = t.select q := by
  unfold upsert
  split
  · simp [select, hq a rfl]
  · have hrow : ∀ r ∈ t.rows, q (if key r.2 == key a then (r.1, merge a r.2) else r).2 = q r.2 := by
      intro r _
      split
      next hkey =>
        rw [hq r.2 (beq_iff_eq.1 hkey), hq _ ((keeps r.2).trans (beq_iff_eq.1 hkey))]
      next => rfl
    simp only [select, rows_update, List.filter_map, Function.comp_def]
    rw [List.filter_congr hrow]
    refine (List.map_congr_left fun r hr => ?_).trans (List.map_id _)
    have hqr : q r.2 = true := (List.mem_filter.1 hr).2
    have hne : ¬key r.2 = key a := fun hkey => by simp [hq r.2 hkey] at hqr
    simp [hne]

/-- Two rows with the same id are the same row. -/
theorem eq_of_id (hr : r ∈ t.rows) (hr' : r' ∈ t.rows) (h : r.1 = r'.1) : r = r' := by
  have hall : ∀ ⦃r⦄, r ∈ t.rows → ∀ ⦃r'⦄, r' ∈ t.rows → r.1 = r'.1 → r = r' :=
    List.Pairwise.forall_of_forall_of_flip (fun _ _ _ => rfl)
      (t.sorted.imp fun hlt heq => absurd heq (Nat.ne_of_lt hlt))
      (t.sorted.imp fun hlt heq => absurd heq.symm (Nat.ne_of_lt hlt))
  exact hall hr hr' h

theorem val_of_id (ha : (id, a) ∈ t.rows) (hb : (id, b) ∈ t.rows) : a = b :=
  congrArg Prod.snd (eq_of_id ha hb rfl)

/-- Two rows with the same key are the same row. -/
theorem eq_of_key (hr : r ∈ t.rows) (hr' : r' ∈ t.rows) (h : key r.2 = key r'.2)
    (hkey : key r.2 ≠ none) : r = r' := by
  have hall : ∀ ⦃r⦄, r ∈ t.rows → ∀ ⦃r'⦄, r' ∈ t.rows → key r.2 = key r'.2 →
      key r.2 ≠ none → r = r' :=
    List.Pairwise.forall_of_forall_of_flip (fun _ _ _ _ => rfl)
      (t.unique.imp fun himp heq hne => absurd (himp heq) hne)
      (t.unique.imp fun himp heq hne => absurd (heq.trans (himp heq.symm)) hne)
  exact hall hr hr' h hkey

theorem get?_eq_some : t.get? id = some a ↔ (id, a) ∈ t.rows := by
  simp only [get?, Option.map_eq_some_iff, Prod.exists]
  constructor
  · rintro ⟨id', a', hfind, rfl⟩
    have hid := List.find?_some hfind
    simp only [beq_iff_eq] at hid
    exact hid ▸ List.mem_of_find?_eq_some hfind
  · intro hmem
    cases hfind : t.rows.find? fun r => r.1 == id with
    | none =>
      have := List.find?_eq_none.1 hfind _ hmem
      simp at this
    | some r =>
      have hid := List.find?_some hfind
      simp only [beq_iff_eq] at hid
      have heq := eq_of_id (List.mem_of_find?_eq_some hfind) hmem hid
      exact ⟨id, a, by rw [heq], rfl⟩

theorem get?_update {p : Nat → α → Bool} {f : α → α} {keeps : ∀ a, key (f a) = key a} :
    (t.update p f keeps).get? id = (t.get? id).map fun a => if p id a then f a else a := by
  cases h : (t.update p f keeps).get? id with
  | some b =>
    obtain ⟨a, ha, rfl⟩ := mem_update.1 (get?_eq_some.1 h)
    simp [get?_eq_some.2 ha]
  | none =>
    cases h' : t.get? id with
    | none => rfl
    | some a =>
      have := get?_eq_some.2 (mem_update.2 ⟨a, get?_eq_some.1 h', rfl⟩ :
        (id, if p id a then f a else a) ∈ (t.update p f keeps).rows)
      rw [h] at this
      cases this

theorem get?_insert {fresh : t.Fresh a} :
    (t.insert a fresh).get? id = if id = t.nextId then some a else t.get? id := by
  by_cases hid : id = t.nextId
  · subst hid
    simp only [if_true]
    exact get?_eq_some.2 (mem_insert.2 (.inr rfl))
  · simp only [hid, if_false]
    refine Option.ext fun b => ?_
    rw [get?_eq_some, get?_eq_some, mem_insert]
    simp [hid]

@[simp] theorem get?_insert_self (fresh : t.Fresh a) :
    (t.insert a fresh).get? t.nextId = some a := by
  simp [get?_insert]

/-- An insert leaves the rows there are. -/
theorem get?_insert_of_some (fresh : t.Fresh a) (h : t.get? id = some b) :
    (t.insert a fresh).get? id = some b := by
  have hlt := lt_nextId (get?_eq_some.1 h)
  rw [get?_insert, if_neg (by omega), h]

theorem get?_eq_none : t.get? id = none ↔ ∀ a, (id, a) ∉ t.rows := by
  rw [Option.eq_none_iff_forall_ne_some]
  exact forall_congr' fun a => not_congr get?_eq_some

theorem first?_eq_none {p : α → Bool} : t.first? p = none ↔ ∀ r ∈ t.rows, ¬p r.2 :=
  List.find?_eq_none

/-- The next id is not in use. -/
theorem get?_nextId : t.get? t.nextId = none :=
  get?_eq_none.2 fun _ hmem => Nat.lt_irrefl _ (lt_nextId hmem)

/-- A selection by key finds the only row that has the key. -/
theorem first?_of_key {p : α → Bool} {k : κ} (hp : ∀ a, p a = true ↔ key a = some k)
    (hr : r ∈ t.rows) (hk : key r.2 = some k) : t.first? p = some r := by
  cases h : t.first? p with
  | none => exact absurd ((hp _).2 hk) (first?_eq_none.1 h r hr)
  | some r' =>
    obtain ⟨hr', hp'⟩ := mem_of_first? h
    have hk' := (hp _).1 hp'
    rw [eq_of_key hr' hr (hk'.trans hk.symm) (by simp [hk'])]

theorem mem_select {p : α → Bool} : r ∈ t.select p ↔ r ∈ t.rows ∧ p r.2 :=
  List.mem_filter

/-- A selection by key selects at most one row. -/
theorem select_of_key {p : α → Bool} (hp : ∀ b, p b = true → key b = key a) (hkey : key a ≠ none)
    (hr : r ∈ t.rows) (hpr : p r.2) : t.select p = [r] := by
  have hmem : r ∈ t.select p := mem_select.2 ⟨hr, hpr⟩
  have honly : ∀ r' ∈ t.select p, r' = r := by
    intro r' hr'
    obtain ⟨hrow, hp'⟩ := mem_select.1 hr'
    have hkey' := hp _ hp'
    exact eq_of_key hrow hr (hkey'.trans (hp _ hpr).symm) (hkey' ▸ hkey)
  have hnodup : (t.select p).Nodup := by
    refine (t.sorted.imp fun hlt heq => ?_).filter _
    rw [heq] at hlt
    exact Nat.lt_irrefl _ hlt
  have hrep : t.select p = List.replicate (t.select p).length r :=
    List.eq_replicate_iff.2 ⟨rfl, honly⟩
  rw [hrep, List.nodup_replicate] at hnodup
  have hpos := List.length_pos_of_mem hmem
  have hone : (t.select p).length = 1 := by omega
  rw [hrep, hone]
  rfl

/-- An upsert leaves a row under the key: the new one, or one it was merged into. -/
theorem exists_mem_upsert [DecidableEq κ] (t : Table key) (a : α) {merge : α → α → α}
    (keeps : ∀ old, key (merge a old) = key old) :
    ∃ r ∈ (t.upsert a merge keeps).rows, key r.2 = key a ∧ (r.2 = a ∨ ∃ old, r.2 = merge a old) := by
  unfold upsert
  split
  next fresh => exact ⟨(t.nextId, a), by simp, rfl, .inl rfl⟩
  next hold =>
    simp only [Fresh, not_forall] at hold
    obtain ⟨r, hr, hsame, -⟩ := hold
    refine ⟨(r.1, merge a r.2), mem_update.2 ⟨r.2, hr, ?_⟩, (keeps _).trans hsame, .inr ⟨_, rfl⟩⟩
    simp [hsame]

/-- An upsert that replaces the row under a key is found under the key. -/
theorem first?_upsert_self [DecidableEq κ] {merge : α → α → α}
    {keeps : ∀ old, key (merge a old) = key old} {p : α → Bool} {k : κ}
    (hp : ∀ b, p b = true ↔ key b = some k) (hkey : key a = some k)
    (hreplaces : ∀ old, key old = key a → merge a old = a) :
    ((t.upsert a merge keeps).first? p).map (·.2) = some a := by
  obtain ⟨r, hr, hrow, hcases⟩ := exists_mem_upsert t a keeps
  have hval : r.2 = a := by
    rcases hcases with h | ⟨old, h⟩
    · exact h
    · have hold : key old = key a := by rw [← keeps old, ← h, hrow]
      rw [h, hreplaces old hold]
  rw [first?_of_key hp hr (hrow.trans hkey), Option.map_some, hval]

/-- What stays in a sorted list as others leave it does not move back. -/
theorem mem_take_of_sorted {xs ys : List Nat} (hxs : xs.Pairwise (· < ·)) (hys : ys.Pairwise (· < ·))
    (hsub : ∀ y ∈ ys, y ∈ xs) {x n : Nat} (hx : x ∈ xs.take n) (hy : x ∈ ys) : x ∈ ys.take n := by
  induction xs generalizing ys n with
  | nil => simp at hx
  | cons a xs ih =>
    cases n with
    | zero => simp at hx
    | succ n =>
      cases ys with
      | nil => cases hy
      | cons b ys =>
        obtain ⟨ha, hxs⟩ := List.pairwise_cons.1 hxs
        obtain ⟨hb, hys⟩ := List.pairwise_cons.1 hys
        rw [List.take_succ_cons] at hx ⊢
        rcases List.mem_cons.1 hy with rfl | hy
        · exact List.mem_cons_self
        have hle : a ≤ b := by
          rcases List.mem_cons.1 (hsub b List.mem_cons_self) with rfl | h
          · exact Nat.le_refl _
          · exact Nat.le_of_lt (ha b h)
        have hrest : ∀ y ∈ ys, y ∈ xs := by
          intro y hy
          have hlt := hb y hy
          exact (List.mem_cons.1 (hsub y (List.mem_cons_of_mem _ hy))).resolve_left (by omega)
        have hlt := hb x hy
        have hx' : x ∈ xs.take n := (List.mem_cons.1 hx).resolve_left (by omega)
        exact List.mem_cons_of_mem _ (ih hxs hys hrest hx' hy)

theorem last?_eq_none {p : α → Bool} : t.last? p = none ↔ ∀ r ∈ t.rows, ¬p r.2 := by
  simp [last?]

/-- The last selected row is selected and has the largest id of those. -/
theorem last?_eq_some {p : α → Bool} :
    t.last? p = some r ↔ r ∈ t.rows ∧ p r.2 ∧ ∀ r' ∈ t.rows, p r'.2 → r'.1 ≤ r.1 := by
  have hsorted := t.sorted.filter fun r => p r.2
  constructor
  · intro h
    obtain ⟨front, hfront⟩ := List.getLast?_eq_some_iff.1 h
    have hmem : r ∈ t.rows.filter fun r => p r.2 := by simp [hfront]
    refine ⟨(List.mem_filter.1 hmem).1, (List.mem_filter.1 hmem).2, fun r' hr' hp' => ?_⟩
    have hmem' : r' ∈ t.rows.filter fun r => p r.2 := List.mem_filter.2 ⟨hr', hp'⟩
    rw [hfront] at hsorted hmem'
    rcases List.mem_append.1 hmem' with hf | hl
    · exact Nat.le_of_lt ((List.pairwise_append.1 hsorted).2.2 r' hf r (by simp))
    · simp only [List.mem_singleton] at hl
      exact hl ▸ Nat.le_refl _
  · rintro ⟨hr, hp, hmax⟩
    cases h : t.last? p with
    | none => exact absurd hp (last?_eq_none.1 h r hr)
    | some last =>
      obtain ⟨front, hfront⟩ := List.getLast?_eq_some_iff.1 h
      have hlast : last ∈ t.rows.filter fun r => p r.2 := by simp [hfront]
      obtain ⟨hlastMem, hlastP⟩ := List.mem_filter.1 hlast
      have hle := hmax last hlastMem hlastP
      have hmem : r ∈ t.rows.filter fun r => p r.2 := List.mem_filter.2 ⟨hr, hp⟩
      rw [hfront] at hsorted hmem
      rcases List.mem_append.1 hmem with hf | hl
      · have := (List.pairwise_append.1 hsorted).2.2 r hf last (by simp)
        omega
      · simp only [List.mem_singleton] at hl
        rw [hl]

end Lemmas

end Table
