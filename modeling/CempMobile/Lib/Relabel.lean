import CempMobile.Lib.Conforms
import CempMobile.Lib.Pool

/-- An automaton over other operations, watching these by their translation. -/
def Automaton.comap {Op Op' : Type → Type*} {ε S : Type} (A : Automaton Op' ε S)
    (f : ∀ β : Type, Op β → Op' β) : Automaton Op ε S where
  allowed β s op := A.allowed β s (f β op)
  next β s op := A.next β s (f β op)

namespace Program

variable {Op Op' : Type → Type*} {ε α β S : Type}

/-- The program with each operation translated. -/
def relabel (f : ∀ β : Type, Op β → Op' β) : Program Op ε α → Program Op' ε α
  | ret a => ret a
  | throw e => throw e
  | call op k => call (f _ op) fun r => (k r).relabel f

variable {f : ∀ β : Type, Op β → Op' β}

theorem relabel_bind (p : Program Op ε α) (g : α → Program Op ε β) :
    (p.bind g).relabel f = (p.relabel f).bind fun a => (g a).relabel f := by
  induction p with
  | ret a => rfl
  | throw e => rfl
  | call op k ih => simp only [bind, relabel, ih]

/-- A translated program conforms where the program itself does under the automaton that sees
    the translations. -/
theorem conforms_relabel {A : Automaton Op' ε S} {p : Program Op ε α} {s : S}
    {post : S → Except ε α → Prop} :
    Conforms A s (p.relabel f) post ↔ Conforms (A.comap f) s p post := by
  induction p generalizing s with
  | ret a => rfl
  | throw e => rfl
  | call op k ih => simp only [relabel, conforms_call, Automaton.comap, ih]

end Program

namespace System

variable {Op : Type → Type*} {ε J S W : Type} {sys : System Op ε J S W}

/-- What a schedule may ask for next: that a job starts as a thread, or that a thread's next
    operation is answered. -/
inductive Turn (J : Type) where
  | spawn (i : Nat) (job : J)
  | answer (i : Nat)

/-- A turn of a schedule whose operations a handler answers. -/
def play (sys : System Op ε J S W) (handle : Program.Handler Op ε W) (p : Pool Op ε J S W) :
    Turn J → Pool Op ε J S W
  | .spawn i job =>
    if (p.threads i).isNone then ⟨Function.update p.threads i (some (sys.launch job)), p.world⟩
    else p
  | .answer i =>
    match p.threads i with
    | some ⟨job, s, .call op k⟩ =>
      let (r, w) := handle _ op p.world
      ⟨Function.update p.threads i (some ⟨job, sys.watch.next _ s op r, k r⟩), w⟩
    | _ => p

/-- What a condition asks of a turn. -/
def Turn.Meets (cond : StepCondition Op ε J S W) (handle : Program.Handler Op ε W)
    (p : Pool Op ε J S W) : Turn J → Prop
  | .spawn _ job => cond.spawn p.crew p.world job
  | .answer i =>
    match p.threads i with
    | some ⟨job, s, .call op _⟩ =>
      cond.answer _ p.crew job s op p.world (handle _ op p.world).1 (handle _ op p.world).2
    | _ => True

/-- A schedule all of whose turns meet the condition is a run. -/
theorem reaches_play {cond : StepCondition Op ε J S W} {handle : Program.Handler Op ε W}
    (allowed : ∀ {β : Type} (op : Op β) (w : W),
      sys.effect β op w (handle β op w).1 (handle β op w).2)
    {p q : Pool Op ε J S W} (hrun : Reaches sys cond p q) {turn : Turn J}
    (hmeets : turn.Meets cond handle q) : Reaches sys cond p (sys.play handle q turn) := by
  cases turn with
  | spawn i job =>
    simp only [play]
    by_cases hfree : q.threads i = none
    · rw [if_pos (Option.isNone_iff_eq_none.2 hfree)]
      exact hrun.tail (.spawn i job hfree hmeets)
    · rw [if_neg (fun h => hfree (Option.isNone_iff_eq_none.1 h))]
      exact hrun
  | answer i =>
    simp only [play]
    simp only [Turn.Meets] at hmeets
    cases hthread : q.threads i with
    | none => exact hrun
    | some t =>
      obtain ⟨job, s, rest⟩ := t
      cases rest with
      | ret a => exact hrun
      | throw e => exact hrun
      | call op k =>
        simp only [hthread] at hmeets
        exact hrun.tail (.answer i hthread (allowed op q.world) hmeets)

/-- What a condition asks of the turns of a schedule, one after the other. -/
def AllMeet (sys : System Op ε J S W) (cond : StepCondition Op ε J S W)
    (handle : Program.Handler Op ε W) : Pool Op ε J S W → List (Turn J) → Prop
  | _, [] => True
  | p, turn :: turns =>
    turn.Meets cond handle p ∧ AllMeet sys cond handle (sys.play handle p turn) turns

theorem reaches_schedule {cond : StepCondition Op ε J S W} {handle : Program.Handler Op ε W}
    (allowed : ∀ {β : Type} (op : Op β) (w : W),
      sys.effect β op w (handle β op w).1 (handle β op w).2)
    {p q : Pool Op ε J S W} (hrun : Reaches sys cond p q) {turns : List (Turn J)}
    (hmeet : sys.AllMeet cond handle q turns) :
    Reaches sys cond p (turns.foldl (sys.play handle) q) := by
  induction turns generalizing q with
  | nil => exact hrun
  | cons turn turns ih => exact ih (reaches_play allowed hrun hmeet.1) hmeet.2

/-- No condition at all. -/
def Anyhow : StepCondition Op ε J S W := {}

/-- A schedule is a run. -/
theorem reaches_anyhow {handle : Program.Handler Op ε W}
    (allowed : ∀ {β : Type} (op : Op β) (w : W),
      sys.effect β op w (handle β op w).1 (handle β op w).2)
    (turns : List (Turn J)) (p : Pool Op ε J S W) :
    Reaches sys Anyhow p (turns.foldl (sys.play handle) p) := by
  have hmeets : ∀ (turn : Turn J) (p : Pool Op ε J S W), turn.Meets Anyhow handle p := by
    intro turn p
    cases turn with
    | spawn i job => trivial
    | answer i =>
      simp only [Turn.Meets]
      split <;> trivial
  have hmeet : ∀ (turns : List (Turn J)) (p : Pool Op ε J S W), sys.AllMeet Anyhow handle p turns := by
    intro turns
    induction turns with
    | nil => exact fun _ => trivial
    | cons turn turns ih => exact fun p => ⟨hmeets turn p, ih _⟩
  exact reaches_schedule allowed (.refl p) (hmeet turns p)

end System
