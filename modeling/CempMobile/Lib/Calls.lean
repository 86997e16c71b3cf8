import CempMobile.Lib.Crash

namespace Program

variable {Op : Type → Type*} {ε α ι σ : Type}

/-- A call of a program: its input, the state it starts in, how it ended unless it was cut short,
    and the state it leaves. -/
structure Call (ι ε α σ : Type) where
  input : ι
  before : σ
  out : Option (Except ε α)
  after : σ

/-- The call ran to its end, or was cut short before some operation. -/
def Call.Ends (effect : Effect Op ε σ) (program : ι → Program Op ε α) (c : Call ι ε α σ) : Prop :=
  match c.out with
  | some out => Runs effect (program c.input) c.before out c.after
  | none => Interrupted effect Anywhere (program c.input) c.before c.after

/-- Calls one after the other, with what `between` allows before each. -/
def Calls (effect : Effect Op ε σ) (program : ι → Program Op ε α) (between : σ → ι → σ → Prop) :
    σ → List (Call ι ε α σ) → Prop
  | _, [] => True
  | s, c :: calls =>
    between s c.input c.before ∧ c.Ends effect program ∧ Calls effect program between c.after calls

variable {effect : Effect Op ε σ} {program : ι → Program Op ε α} {c : Call ι ε α σ} {s : σ}
  {between : σ → ι → σ → Prop} {calls : List (Call ι ε α σ)}

/-- What is known along a call is known of the state it leaves: by the postcondition if it ended. -/
theorem Call.Ends.known (known : σ → Prop) {during : ∀ β : Type, Op β → σ → Prop}
    {post : Except ε α → σ → Prop} (hends : c.Ends effect program)
    (h : Always effect during (program c.input) c.before post)
    (hduring : c.out = none → ∀ (β : Type) (op : Op β) s, during β op s → s = c.after → known s)
    (hpost : ∀ out, c.out = some out → post out c.after → known c.after) : known c.after := by
  unfold Call.Ends at hends
  cases hout : c.out with
  | some out =>
    rw [hout] at hends
    exact hpost out hout (h.runs hends)
  | none =>
    rw [hout] at hends
    have hcut : ∀ s, Interrupted effect Anywhere (program c.input) c.before s → s = c.after → known s :=
      fun s hrun => h.interrupted
        (fun β op s _ hnow hs => hduring hout β op s hnow hs) hrun
    exact hcut c.after hends rfl

/-- What every operation keeps, a call keeps, also one that is cut short. -/
theorem Call.Ends.keeps {invariant : σ → Prop} (hends : c.Ends effect program)
    (hkeeps : ∀ (β : Type) (op : Op β) (s : σ) (r : Except ε β) (s' : σ), effect β op s r s' →
      invariant s → invariant s')
    (h : invariant c.before) : invariant c.after := by
  have halways := (always_invariant hkeeps (program c.input) h).invariant
    (fun β op s r s' _ => hkeeps β op s r s') h
  exact hends.known invariant halways (fun _ _ _ _ hnow hs => hs ▸ hnow.2) fun _ _ hpost => hpost.2

/-- An invariant of the calls, and of what lies between them, holds before and after every call. -/
theorem Calls.invariant {invariant : σ → Prop} (hruns : Calls effect program between s calls)
    (hbetween : ∀ s input s', between s input s' → invariant s → invariant s')
    (hcall : ∀ c ∈ calls, c.Ends effect program → invariant c.before → invariant c.after)
    (hs : invariant s) : ∀ c ∈ calls, c.Ends effect program ∧ invariant c.before ∧ invariant c.after := by
  induction calls generalizing s with
  | nil => exact fun c hc => absurd hc List.not_mem_nil
  | cons first calls ih =>
    obtain ⟨hfirst, hends, hrest⟩ := hruns
    have hbefore := hbetween s first.input first.before hfirst hs
    have hafter := hcall first List.mem_cons_self hends hbefore
    intro c hc
    obtain rfl | hc := List.mem_cons.1 hc
    · exact ⟨hends, hbefore, hafter⟩
    · exact ih hrest (fun c hc => hcall c (List.mem_cons_of_mem _ hc)) hafter c hc

/-- What lies between the calls happened before each of them. -/
theorem Calls.between_of_mem (hruns : Calls effect program between s calls) :
    ∀ c ∈ calls, ∃ s', between s' c.input c.before := by
  induction calls generalizing s with
  | nil => exact fun c hc => absurd hc List.not_mem_nil
  | cons first calls ih =>
    intro c hc
    obtain rfl | hc := List.mem_cons.1 hc
    · exact ⟨s, hruns.1⟩
    · exact ih hruns.2.2 c hc

end Program
