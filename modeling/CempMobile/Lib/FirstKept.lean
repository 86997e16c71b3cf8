import Mathlib.Data.Finset.Card
import Mathlib.Tactic.Common

/-! Keeping the first of the elements with each key, up to a number of them. -/

namespace FirstKept

variable {α κ : Type} [DecidableEq κ] (key : α → κ) (cap : Nat)

/-- Keeps an element unless its key is kept already or the list is full. -/
def keep (kept : List α) (x : α) : List α :=
  if kept.any (key · == key x) then kept
  else if cap ≤ kept.length then kept
  else kept ++ [x]

def keepAll (xs : List α) : List α := xs.foldl (keep key cap) []

/-- The number of different keys. -/
def keys (xs : List α) : Nat := (xs.map key).toFinset.card

variable {key cap} {kept xs : List α} {x y : α}

theorem keep_cases (kept : List α) (x : α) :
    ((∃ y ∈ kept, key y = key x) ∧ keep key cap kept x = kept) ∨
      ((∀ y ∈ kept, key y ≠ key x) ∧ cap ≤ kept.length ∧ keep key cap kept x = kept) ∨
        ((∀ y ∈ kept, key y ≠ key x) ∧ kept.length < cap ∧ keep key cap kept x = kept ++ [x]) := by
  unfold keep
  split
  · next hseen =>
    obtain ⟨y, hmem, hkey⟩ := List.any_eq_true.1 hseen
    exact .inl ⟨⟨y, hmem, by simpa using hkey⟩, rfl⟩
  · next hnew =>
    have hnew : ∀ y ∈ kept, key y ≠ key x := by simpa using hnew
    split
    · next hfull => exact .inr (.inl ⟨hnew, hfull, rfl⟩)
    · next hroom => exact .inr (.inr ⟨hnew, not_le.1 hroom, rfl⟩)

theorem keepAll_append_singleton (xs : List α) (x : α) :
    keepAll key cap (xs ++ [x]) = keep key cap (keepAll key cap xs) x := by
  rw [keepAll, List.foldl_append]
  rfl

theorem mem_of_mem_keepAll (h : y ∈ keepAll key cap xs) : y ∈ xs := by
  induction xs using List.reverseRecOn with
  | nil => cases h
  | append_singleton xs x ih =>
    rw [keepAll_append_singleton] at h
    obtain ⟨-, hkeep⟩ | ⟨-, -, hkeep⟩ | ⟨-, -, hkeep⟩ :=
      @keep_cases _ _ _ key cap (keepAll key cap xs) x
    · rw [hkeep] at h
      exact List.mem_append_left _ (ih h)
    · rw [hkeep] at h
      exact List.mem_append_left _ (ih h)
    · rw [hkeep] at h
      obtain h | h := List.mem_append.1 h
      · exact List.mem_append_left _ (ih h)
      · exact List.mem_append_right _ h

theorem nodup_keepAll (xs : List α) : ((keepAll key cap xs).map key).Nodup := by
  induction xs using List.reverseRecOn with
  | nil => exact List.nodup_nil
  | append_singleton xs x ih =>
    rw [keepAll_append_singleton]
    obtain ⟨-, hkeep⟩ | ⟨-, -, hkeep⟩ | ⟨hnew, -, hkeep⟩ :=
      @keep_cases _ _ _ key cap (keepAll key cap xs) x
    · rwa [hkeep]
    · rwa [hkeep]
    · rw [hkeep, List.map_append, List.map_singleton]
      refine List.Nodup.append ih (List.nodup_singleton _) ?_
      rw [List.disjoint_singleton]
      intro hmem
      obtain ⟨y, hmem, hkey⟩ := List.mem_map.1 hmem
      exact hnew y hmem hkey

theorem keys_append_seen (h : key x ∈ xs.map key) : keys key (xs ++ [x]) = keys key xs := by
  unfold keys
  congr 1
  ext k
  simp only [List.map_append, List.map_cons, List.map_nil, List.mem_toFinset, List.mem_append,
    List.mem_singleton]
  exact ⟨fun hk => hk.elim id fun hk => hk ▸ h, .inl⟩

theorem keys_append_new (h : key x ∉ xs.map key) : keys key (xs ++ [x]) = keys key xs + 1 := by
  unfold keys
  rw [← List.mem_toFinset] at h
  rw [← Finset.card_insert_of_notMem h]
  congr 1
  ext k
  simp only [List.map_append, List.map_cons, List.map_nil, List.mem_toFinset, List.mem_append,
    List.mem_singleton, Finset.mem_insert, or_comm]

theorem keys_le_append (xs : List α) (x : α) : keys key xs ≤ keys key (xs ++ [x]) := by
  by_cases h : key x ∈ xs.map key
  · rw [keys_append_seen h]
  · rw [keys_append_new h]
    omega

/-- As many are kept as there are keys, up to the cap, and as long as it is not passed every key
    is kept. -/
theorem keepAll_keys (xs : List α) :
    (keepAll key cap xs).length = min cap (keys key xs) ∧
      (keys key xs ≤ cap → ∀ y ∈ xs, ∃ first ∈ keepAll key cap xs, key first = key y) := by
  induction xs using List.reverseRecOn with
  | nil => exact ⟨(Nat.min_zero _).symm, fun _ _ hmem => by cases hmem⟩
  | append_singleton xs x ih =>
    obtain ⟨hlength, hkept⟩ := ih
    have hle := @keys_le_append _ _ _ key xs x
    rw [keepAll_append_singleton]
    obtain ⟨⟨first, hmem, hkey⟩, hkeep⟩ | ⟨hnew, hfull, hkeep⟩ | ⟨hnew, hroom, hkeep⟩ :=
      @keep_cases _ _ _ key cap (keepAll key cap xs) x
    · have hseen : key x ∈ xs.map key := List.mem_map.2 ⟨first, mem_of_mem_keepAll hmem, hkey⟩
      rw [hkeep, keys_append_seen hseen]
      refine ⟨hlength, fun hcap y hy => ?_⟩
      obtain hy | hy := List.mem_append.1 hy
      · exact hkept hcap y hy
      · obtain rfl := List.mem_singleton.1 hy
        exact ⟨first, hmem, hkey⟩
    · rw [hkeep]
      refine ⟨by omega, fun hcap => ?_⟩
      have hseen : key x ∉ xs.map key := fun hseen => by
        obtain ⟨y, hy, hkey⟩ := List.mem_map.1 hseen
        obtain ⟨first, hmem, hfirst⟩ := hkept (hle.trans hcap) y hy
        exact hnew first hmem (hfirst.trans hkey)
      rw [keys_append_new hseen] at hcap
      omega
    · have hunseen : key x ∉ xs.map key := fun hseen => by
        obtain ⟨y, hy, hkey⟩ := List.mem_map.1 hseen
        obtain ⟨first, hmem, hfirst⟩ := hkept (by omega) y hy
        exact hnew first hmem (hfirst.trans hkey)
      rw [hkeep, keys_append_new hunseen, List.length_append, List.length_singleton]
      refine ⟨by omega, fun _ y hy => ?_⟩
      obtain hy | hy := List.mem_append.1 hy
      · obtain ⟨first, hmem, hfirst⟩ := hkept (by omega) y hy
        exact ⟨first, List.mem_append_left _ hmem, hfirst⟩
      · exact ⟨y, List.mem_append_right _ hy, rfl⟩

theorem length_keepAll_le (xs : List α) : (keepAll key cap xs).length ≤ cap := by
  rw [(keepAll_keys xs).1]
  exact Nat.min_le_left ..

/-- The last element is kept if its key is new and the cap is not reached. -/
theorem mem_keepAll_append_iff {last : α} :
    x ∈ keepAll key cap (xs ++ [last]) ↔
      x ∈ keepAll key cap xs ∨ x = last ∧ key last ∉ xs.map key ∧ keys key xs < cap := by
  obtain ⟨hlength, hkept⟩ := @keepAll_keys _ _ _ key cap xs
  rw [keepAll_append_singleton]
  obtain ⟨⟨first, hmem, hkey⟩, hkeep⟩ | ⟨hnew, hfull, hkeep⟩ | ⟨hnew, hroom, hkeep⟩ :=
    @keep_cases _ _ _ key cap (keepAll key cap xs) last
  · have hseen : key last ∈ xs.map key := List.mem_map.2 ⟨first, mem_of_mem_keepAll hmem, hkey⟩
    rw [hkeep]
    exact ⟨.inl, fun h => h.elim id fun h => absurd hseen h.2.1⟩
  · rw [hkeep]
    refine ⟨.inl, fun h => h.elim id fun h => ?_⟩
    obtain ⟨-, -, hroom⟩ := h
    omega
  · have hunseen : key last ∉ xs.map key := fun hseen => by
      obtain ⟨y, hy, hkey⟩ := List.mem_map.1 hseen
      obtain ⟨first, hmem, hfirst⟩ := hkept (by omega) y hy
      exact hnew first hmem (hfirst.trans hkey)
    rw [hkeep, List.mem_append, List.mem_singleton]
    exact or_congr_right ⟨fun h => ⟨h, hunseen, by omega⟩, fun h => h.1⟩

/-- What is kept are the elements whose key no element before them has, and before which there are
    fewer keys than the cap. -/
theorem mem_keepAll_iff :
    x ∈ keepAll key cap xs ↔ ∃ front back, xs = front ++ x :: back ∧
      key x ∉ front.map key ∧ keys key front < cap := by
  induction xs using List.reverseRecOn with
  | nil => simp [keepAll]
  | append_singleton xs last ih =>
    rw [mem_keepAll_append_iff, ih]
    constructor
    · rintro (⟨front, back, rfl, hnew, hroom⟩ | ⟨rfl, hnew, hroom⟩)
      · exact ⟨front, back ++ [last], by simp, hnew, hroom⟩
      · exact ⟨xs, [], rfl, hnew, hroom⟩
    · rintro ⟨front, back, hsplit, hnew, hroom⟩
      induction back using List.reverseRecOn with
      | nil =>
        obtain ⟨rfl, heq⟩ := List.append_inj' hsplit rfl
        obtain rfl := List.singleton_inj.1 heq
        exact .inr ⟨rfl, hnew, hroom⟩
      | append_singleton back final =>
        rw [← List.cons_append, ← List.append_assoc] at hsplit
        obtain ⟨rfl, -⟩ := List.append_inj' hsplit rfl
        exact .inl ⟨front, back, rfl, hnew, hroom⟩

end FirstKept
