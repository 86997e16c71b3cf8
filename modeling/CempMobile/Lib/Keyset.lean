import Mathlib.Data.List.Basic
import Mathlib.Data.List.Pairwise
import Mathlib.Tactic.Common

/-! Keyset pagination: pages of the rows of a sorted list, newest first, each asked for before
the smallest id of the page that precedes it, while rows are appended between the pages. -/

namespace Keyset

variable {α : Type}

/-- Whether a row is before the cursor. Without a cursor every row is. -/
def before (cursor : Option Nat) (r : Nat × α) : Bool := cursor.all (r.1 < ·)

/-- The selected rows before the cursor, newest first. -/
def remaining (p : α → Bool) (rows : List (Nat × α)) (cursor : Option Nat) : List (Nat × α) :=
  (rows.filter fun r => before cursor r && p r.2).reverse

/-- What a `LIMIT` leaves. A negative one is no limit. -/
def limited (limit : Int) (rows : List (Nat × α)) : List (Nat × α) :=
  if limit < 0 then rows else rows.take limit.toNat

def page (p : α → Bool) (limit : Int) (rows : List (Nat × α)) (cursor : Option Nat) :
    List (Nat × α) :=
  limited limit (remaining p rows cursor)

/-- The smallest id of the last page. -/
def cursorOf (pages : List (List (Nat × α))) : Option Nat :=
  pages.getLast?.bind fun last => (last.map Prod.fst).min?

/-- The pages taken so far, none of them empty, and the rows there are now. -/
inductive Run (p : α → Bool) (start : List (Nat × α)) :
    List (List (Nat × α)) → List (Nat × α) → Prop
  | start : Run p start [] start
  | grow {pages : List (List (Nat × α))} {rows rows' : List (Nat × α)} (run : Run p start pages rows)
      (hpages : pages ≠ []) (hgrows : rows <+: rows')
      (hsorted : rows'.Pairwise fun r r' => r.1 < r'.1) : Run p start pages rows'
  | next {pages : List (List (Nat × α))} {rows : List (Nat × α)} (run : Run p start pages rows)
      (limit : Int) (hpage : page p limit rows (cursorOf pages) ≠ []) :
      Run p start (pages ++ [page p limit rows (cursorOf pages)]) rows

variable {p : α → Bool} {limit : Int} {start rows rows' xs ys : List (Nat × α)} {r : Nat × α}
  {cursor : Option Nat} {pages : List (List (Nat × α))}

theorem mem_remaining :
    r ∈ remaining p rows cursor ↔ r ∈ rows ∧ before cursor r = true ∧ p r.2 = true := by
  simp [remaining]

theorem remaining_congr {q : α → Bool} (h : ∀ r ∈ rows, p r.2 = q r.2) :
    remaining p rows cursor = remaining q rows cursor := by
  unfold remaining
  congr 1
  refine List.filter_congr fun r hr => ?_
  rw [h r hr]

/-- The ids of what remains descend. -/
theorem remaining_sorted (hsorted : rows.Pairwise fun r r' => r.1 < r'.1) :
    (remaining p rows cursor).Pairwise fun r r' => r'.1 < r.1 :=
  List.pairwise_reverse.2 (hsorted.filter _)

/-- Appended rows have ids above the cursor, so nothing is added to what remains. -/
theorem remaining_grow (hgrows : rows <+: rows') (hsorted : rows'.Pairwise fun r r' => r.1 < r'.1)
    (hr : r ∈ rows) : remaining p rows' (some r.1) = remaining p rows (some r.1) := by
  obtain ⟨added, rfl⟩ := hgrows
  have hnone : added.filter (fun r' => before (some r.1) r' && p r'.2) = [] := by
    rw [List.filter_eq_nil_iff]
    intro r' hr' hbefore
    have hlt := (List.pairwise_append.1 hsorted).2.2 r hr r' hr'
    simp only [before, Option.all_some, Bool.and_eq_true, decide_eq_true_eq] at hbefore
    omega
  rw [remaining, remaining, List.filter_append, hnone, List.append_nil]

theorem limited_append (limit : Int) (rows : List (Nat × α)) :
    ∃ rest, rows = limited limit rows ++ rest := by
  unfold limited
  split
  · exact ⟨[], (List.append_nil rows).symm⟩
  · exact ⟨_, (List.take_append_drop limit.toNat rows).symm⟩

theorem limited_eq_nil (hlimit : limit ≠ 0) (h : limited limit rows = []) : rows = [] := by
  unfold limited at h
  split at h
  · exact h
  · next hpos =>
    obtain h | h := List.take_eq_nil_iff.1 h
    · omega
    · exact h

theorem exists_smallest (h : xs ≠ []) : ∃ r ∈ xs, (xs.map Prod.fst).min? = some r.1 := by
  obtain ⟨smallest, hmin⟩ : ∃ smallest, (xs.map Prod.fst).min? = some smallest :=
    Option.isSome_iff_exists.1 (List.isSome_min?_of_ne_nil (mt List.map_eq_nil_iff.1 h))
  obtain ⟨r, hr, rfl⟩ := List.mem_map.1 (List.min?_mem hmin)
  exact ⟨r, hr, hmin⟩

/-- What remains after a page is what is before its smallest id. -/
theorem remaining_of_append (hsorted : rows.Pairwise fun r r' => r.1 < r'.1)
    (hsplit : remaining p rows cursor = xs ++ ys) {smallest : Nat}
    (hmin : (xs.map Prod.fst).min? = some smallest) :
    remaining p rows (some smallest) = ys := by
  obtain ⟨hmem, hle⟩ := List.min?_eq_some_iff.1 hmin
  obtain ⟨last, hlast, rfl⟩ := List.mem_map.1 hmem
  have hdescends : (remaining p rows cursor).Pairwise fun r r' => r'.1 < r.1 :=
    remaining_sorted hsorted
  have hbefore := (mem_remaining.1 (hsplit ▸ List.mem_append_left ys hlast)).2.1
  have hfilter : remaining p rows (some last.1) =
      (remaining p rows cursor).filter fun r => r.1 < last.1 := by
    rw [remaining, remaining, List.filter_reverse, List.filter_filter]
    congr 1
    refine List.filter_congr fun r _ => ?_
    cases cursor with
    | none => simp [before]
    | some cursor =>
      simp only [before, Option.all_some, decide_eq_true_eq] at hbefore ⊢
      by_cases hlt : r.1 < last.1
      · simp [hlt, Nat.lt_trans hlt hbefore]
      · simp [hlt]
  rw [hsplit] at hdescends
  rw [hfilter, hsplit, List.filter_append]
  have hpage : xs.filter (fun r => decide (r.1 < last.1)) = [] := by
    rw [List.filter_eq_nil_iff]
    intro r hr hlt
    have := hle r.1 (List.mem_map_of_mem hr)
    simp only [decide_eq_true_eq] at hlt
    omega
  have hrest : ys.filter (fun r => decide (r.1 < last.1)) = ys := by
    rw [List.filter_eq_self]
    intro r hr
    exact decide_eq_true ((List.pairwise_append.1 hdescends).2.2 last hlast r hr)
  rw [hpage, hrest, List.nil_append]

namespace Run

theorem sorted (run : Run p start pages rows)
    (hsorted : start.Pairwise fun r r' => r.1 < r'.1) : rows.Pairwise fun r r' => r.1 < r'.1 := by
  induction run with
  | start => exact hsorted
  | grow _ _ _ hsorted' => exact hsorted'
  | next _ _ _ ih => exact ih

/-- No page is empty. -/
theorem ne_nil (run : Run p start pages rows) : ∀ page ∈ pages, page ≠ [] := by
  induction run with
  | start =>
    intro page hmem
    cases hmem
  | grow _ _ _ _ ih => exact ih
  | next _ limit hpage ih =>
    intro page hmem
    obtain hmem | hmem := List.mem_append.1 hmem
    · exact ih page hmem
    · obtain rfl := List.mem_singleton.1 hmem
      exact hpage

/-- After a page, the cursor is the id of one of its rows. -/
theorem cursorOf_eq (run : Run p start pages rows) (hpages : pages ≠ []) :
    ∃ page ∈ pages, ∃ r ∈ page, cursorOf pages = some r.1 := by
  obtain ⟨front, last, rfl⟩ := (List.eq_nil_or_concat' pages).resolve_left hpages
  have hlast := run.ne_nil last (by simp)
  have hcursor : cursorOf (front ++ [last]) = (last.map Prod.fst).min? := by
    rw [cursorOf, List.getLast?_concat, Option.bind_some]
  obtain ⟨r, hr, hmin⟩ := exists_smallest hlast
  exact ⟨last, by simp, r, hr, hcursor.trans hmin⟩

/-- The pages so far, and then what remains before the cursor, are what there was at the start. -/
theorem accounts (run : Run p start pages rows)
    (hsorted : start.Pairwise fun r r' => r.1 < r'.1) :
    remaining p start none = pages.flatten ++ remaining p rows (cursorOf pages) ∧
      ∀ page ∈ pages, ∀ r ∈ page, r ∈ rows := by
  induction run with
  | start => exact ⟨rfl, fun page hmem => by cases hmem⟩
  | grow run hpages hgrows hsorted' ih =>
    obtain ⟨haccount, hpage⟩ := ih
    obtain ⟨page, hmem, r, hr, hcursor⟩ := run.cursorOf_eq hpages
    refine ⟨?_, fun page hmem r hr => hgrows.subset (hpage page hmem r hr)⟩
    rw [haccount, hcursor, remaining_grow hgrows hsorted' (hpage page hmem r hr)]
  | @next pages rows run limit hpage ih =>
    obtain ⟨haccount, hmem⟩ := ih
    obtain ⟨rest, hrest⟩ := limited_append limit (remaining p rows (cursorOf pages))
    have hrun := Run.next run limit hpage
    obtain ⟨smallest, -, hmin⟩ := exists_smallest hpage
    have hcursor : cursorOf (pages ++ [page p limit rows (cursorOf pages)]) = some smallest.1 := by
      rw [cursorOf, List.getLast?_concat, Option.bind_some, hmin]
    constructor
    · rw [hcursor, remaining_of_append (run.sorted hsorted) hrest hmin, List.flatten_append,
        List.flatten_singleton, List.append_assoc, haccount]
      exact congrArg _ hrest
    · intro page' hpage' r hr
      obtain hpage' | hpage' := List.mem_append.1 hpage'
      · exact hmem page' hpage' r hr
      · obtain rfl := List.mem_singleton.1 hpage'
        exact (mem_remaining.1 (hrest ▸ List.mem_append_left rest hr)).1

/-- A page with nothing on it ends the run, and then everything there was has been listed. -/
theorem complete (run : Run p start pages rows)
    (hsorted : start.Pairwise fun r r' => r.1 < r'.1) (hlimit : limit ≠ 0)
    (hend : page p limit rows (cursorOf pages) = []) : pages.flatten = remaining p start none := by
  rw [(run.accounts hsorted).1, limited_eq_nil hlimit hend, List.append_nil]

/-- A run has no more pages than there were rows. -/
theorem length_le (run : Run p start pages rows)
    (hsorted : start.Pairwise fun r r' => r.1 < r'.1) :
    pages.length ≤ (remaining p start none).length := by
  have hlength : ∀ pages : List (List (Nat × α)), (∀ page ∈ pages, page ≠ []) →
      pages.length ≤ pages.flatten.length := by
    intro pages
    induction pages with
    | nil => exact fun _ => Nat.le_refl _
    | cons page pages ih =>
      intro hne
      have hpage := List.length_pos_of_ne_nil (hne page List.mem_cons_self)
      have hpages := ih fun page hmem => hne page (List.mem_cons_of_mem _ hmem)
      simp only [List.length_cons, List.flatten_cons, List.length_append]
      omega
  rw [(run.accounts hsorted).1, List.length_append]
  exact Nat.le_trans (hlength pages run.ne_nil) (Nat.le_add_right ..)

theorem mem_start (run : Run p start pages rows)
    (hsorted : start.Pairwise fun r r' => r.1 < r'.1) {page : List (Nat × α)} (hpage : page ∈ pages)
    (hr : r ∈ page) : r ∈ start ∧ p r.2 = true := by
  have hmem : r ∈ remaining p start none := by
    rw [(run.accounts hsorted).1]
    exact List.mem_append_left _ (List.mem_flatten.2 ⟨page, hpage, hr⟩)
  exact ⟨(mem_remaining.1 hmem).1, (mem_remaining.1 hmem).2.2⟩

/-- Nothing is left after a first page without a limit. -/
theorem page_after_unlimited (hsorted : start.Pairwise fun r r' => r.1 < r'.1)
    (hpage : page p (-1) start none ≠ []) :
    page p (-1) start (cursorOf [page p (-1) start none]) = [] := by
  have hrun := (Run.start.next (-1) hpage).accounts hsorted
  have haccount := hrun.1
  rw [List.nil_append, List.flatten_singleton] at haccount
  exact List.append_cancel_left (haccount.symm.trans (List.append_nil _).symm)

end Run

end Keyset
