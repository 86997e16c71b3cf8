import Mathlib.Logic.Relation

/-! Links that are one to one: what they connect lies on one chain. -/

namespace Relation

variable {α : Type*} {r : α → α → Prop} {a b : α}

theorem ReflTransGen.total_of_left_unique (hleft : Relator.LeftUnique r) {c : α}
    (hac : ReflTransGen r a c) (hbc : ReflTransGen r b c) :
    ReflTransGen r a b ∨ ReflTransGen r b a := by
  have hright : Relator.RightUnique (Function.swap r) := fun _ _ _ hb hc => hleft hb hc
  rcases ReflTransGen.total_of_right_unique hright (reflTransGen_swap.2 hac)
    (reflTransGen_swap.2 hbc) with hba | hab
  · exact .inr (reflTransGen_swap.1 hba)
  · exact .inl (reflTransGen_swap.1 hab)

/-- Where every element has at most one link each way, of two that are connected one leads to the
    other. By induction on how they are connected. -/
theorem EqvGen.total_of_unique (hleft : Relator.LeftUnique r) (hright : Relator.RightUnique r)
    (h : EqvGen r a b) : ReflTransGen r a b ∨ ReflTransGen r b a := by
  induction h with
  | rel a b hab => exact .inl (.single hab)
  | refl a => exact .inl .refl
  | symm a b _ ih => exact ih.symm
  | trans a b c _ _ ihab ihbc =>
    rcases ihab with hab | hba
    · rcases ihbc with hbc | hcb
      · exact .inl (hab.trans hbc)
      · exact ReflTransGen.total_of_left_unique hleft hab hcb
    · rcases ihbc with hbc | hcb
      · exact ReflTransGen.total_of_right_unique hright hba hbc
      · exact .inr (hcb.trans hba)

/-- An element without a link is the end of everything that it is connected to. -/
theorem EqvGen.leads_to_end (hleft : Relator.LeftUnique r) (hright : Relator.RightUnique r)
    (hend : ∀ c, ¬ r a c) (h : EqvGen r a b) : ReflTransGen r b a := by
  rcases h.total_of_unique hleft hright with hab | hba
  · rcases ReflTransGen.cases_head hab with rfl | ⟨c, hac, -⟩
    · exact .refl
    · exact absurd hac (hend c)
  · exact hba

end Relation
