import CempMobile.Lib.Conforms

namespace Program

variable {Op : Type → Type*} {ε α β σ τ ι : Type}

/-- What one operation may do to a state: from `s` it may answer `r` and leave `s'`. -/
abbrev Effect (Op : Type → Type*) (ε σ : Type) : Type _ :=
  ∀ β : Type, Op β → σ → Except ε β → σ → Prop

/-- The complete runs of a program when every operation acts as `effect` allows. -/
def Runs (effect : Effect Op ε σ) : Program Op ε α → σ → Except ε α → σ → Prop
  | ret a, s, out, s' => out = .ok a ∧ s' = s
  | throw e, s, out, s' => out = .error e ∧ s' = s
  | call op k, s, out, s' => ∃ r mid, effect _ op s r mid ∧ Runs effect (k r) mid out s'

variable {effect : Effect Op ε σ} {s s' : σ}

@[simp] theorem runs_ret {a : α} {out : Except ε α} :
    Runs effect (ret a) s out s' ↔ out = .ok a ∧ s' = s := Iff.rfl

@[simp] theorem runs_throw {e : ε} {out : Except ε α} :
    Runs effect (throw e : Program Op ε α) s out s' ↔ out = .error e ∧ s' = s := Iff.rfl

theorem runs_call {op : Op β} {k : Except ε β → Program Op ε α} {out : Except ε α} :
    Runs effect (call op k) s out s' ↔
      ∃ r mid, effect β op s r mid ∧ Runs effect (k r) mid out s' := Iff.rfl

theorem runs_ofExcept {r out : Except ε α} :
    Runs effect (ofExcept r : Program Op ε α) s out s' ↔ out = r ∧ s' = s := by
  cases r <;> rfl

@[simp] theorem runs_perform {op : Op β} {out : Except ε β} :
    Runs effect (perform op) s out s' ↔ effect β op s out s' := by
  simp only [perform, runs_call, runs_ofExcept]
  constructor
  · rintro ⟨r, mid, answered, rfl, rfl⟩
    exact answered
  · intro answered
    exact ⟨out, s', answered, rfl, rfl⟩

/-- A sequence either ran both parts, or stopped at the error of the first. -/
theorem runs_bind {p : Program Op ε α} {f : α → Program Op ε β} {out : Except ε β} :
    Runs effect (p.bind f) s out s' ↔
      (∃ a mid, Runs effect p s (.ok a) mid ∧ Runs effect (f a) mid out s') ∨
        ∃ e, Runs effect p s (.error e) s' ∧ out = .error e := by
  induction p generalizing s with
  | ret a => simp [bind, and_assoc]
  | throw e => simp [bind, and_assoc, and_comm]
  | call op k ih =>
    simp only [bind, runs_call, ih]
    constructor
    · rintro ⟨r, mid, answered, (⟨a, later, hp, hf⟩ | ⟨e, hp, rfl⟩)⟩
      · exact .inl ⟨a, later, ⟨r, mid, answered, hp⟩, hf⟩
      · exact .inr ⟨e, ⟨r, mid, answered, hp⟩, rfl⟩
    · rintro (⟨a, later, ⟨r, mid, answered, hp⟩, hf⟩ | ⟨e, ⟨r, mid, answered, hp⟩, rfl⟩)
      · exact ⟨r, mid, answered, .inl ⟨a, later, hp, hf⟩⟩
      · exact ⟨r, mid, answered, .inr ⟨e, hp, rfl⟩⟩

/-- A sequence that returns a value ran both parts. -/
theorem runs_bind_ok {p : Program Op ε α} {f : α → Program Op ε β} {b : β} :
    Runs effect (p.bind f) s (.ok b) s' ↔
      ∃ a mid, Runs effect p s (.ok a) mid ∧ Runs effect (f a) mid (.ok b) s' := by
  simp [runs_bind]

/-- A loop stops at the first element whose body throws. -/
theorem runs_forEach_error {body : ι → Program Op ε Unit} {front behind : List ι} {x : ι} {mid : σ}
    {e : ε} (hfront : Runs effect (forEach body front) s (.ok ()) mid)
    (hx : Runs effect (body x) mid (.error e) s') :
    Runs effect (forEach body (front ++ x :: behind)) s (.error e) s' := by
  induction front generalizing s with
  | nil =>
    obtain ⟨-, rfl⟩ := hfront
    exact runs_bind.2 (.inr ⟨e, hx, rfl⟩)
  | cons y front ih =>
    rw [forEach_cons, runs_bind_ok] at hfront
    obtain ⟨a, next, hy, hrest⟩ := hfront
    rw [List.cons_append, forEach_cons, runs_bind]
    exact .inl ⟨a, next, hy, ih hrest⟩

/-- A loop that threw stopped at the first element whose body threw. -/
theorem runs_forEach_split {body : ι → Program Op ε Unit} {xs : List ι} {e : ε}
    (h : Runs effect (forEach body xs) s (.error e) s') :
    ∃ front x behind mid, xs = front ++ x :: behind ∧
      Runs effect (forEach body front) s (.ok ()) mid ∧ Runs effect (body x) mid (.error e) s' := by
  induction xs generalizing s with
  | nil =>
    obtain ⟨h, -⟩ := h
    cases h
  | cons x xs ih =>
    rw [forEach_cons, runs_bind] at h
    rcases h with ⟨a, mid, hx, hrest⟩ | ⟨e', hx, heq⟩
    · obtain ⟨front, y, behind, later, rfl, hfront, hy⟩ := ih hrest
      refine ⟨x :: front, y, behind, later, rfl, ?_, hy⟩
      rw [forEach_cons, runs_bind_ok]
      exact ⟨a, mid, hx, hfront⟩
    · cases heq
      exact ⟨[], x, xs, s, rfl, ⟨rfl, rfl⟩, hx⟩

/-- A guarded program either returned, or its handler ran on the state the failure left. -/
theorem runs_catchError {p : Program Op ε α} {h : ε → Program Op ε α} {out : Except ε α} :
    Runs effect (p.catchError h) s out s' ↔
      (∃ a, Runs effect p s (.ok a) s' ∧ out = .ok a) ∨
        ∃ e mid, Runs effect p s (.error e) mid ∧ Runs effect (h e) mid out s' := by
  induction p generalizing s with
  | ret a => simp [catchError, and_assoc, and_comm]
  | throw e => simp [catchError, and_assoc]
  | call op k ih =>
    simp only [catchError, runs_call, ih]
    constructor
    · rintro ⟨r, mid, answered, (⟨a, hp, rfl⟩ | ⟨e, later, hp, hh⟩)⟩
      · exact .inl ⟨a, ⟨r, mid, answered, hp⟩, rfl⟩
      · exact .inr ⟨e, later, ⟨r, mid, answered, hp⟩, hh⟩
    · rintro (⟨a, ⟨r, mid, answered, hp⟩, rfl⟩ | ⟨e, later, ⟨r, mid, answered, hp⟩, hh⟩)
      · exact ⟨r, mid, answered, .inl ⟨a, hp, rfl⟩⟩
      · exact ⟨r, mid, answered, .inr ⟨e, later, hp, hh⟩⟩

theorem runs_attempt {p : Program Op ε α} {out : Except ε (Except ε α)} :
    Runs effect p.attempt s out s' ↔ ∃ r, out = .ok r ∧ Runs effect p s r s' := by
  induction p generalizing s with
  | ret a =>
    constructor
    · rintro ⟨rfl, rfl⟩
      exact ⟨.ok a, rfl, rfl, rfl⟩
    · rintro ⟨_, rfl, rfl, rfl⟩
      exact ⟨rfl, rfl⟩
  | throw e =>
    constructor
    · rintro ⟨rfl, rfl⟩
      exact ⟨.error e, rfl, rfl, rfl⟩
    · rintro ⟨_, rfl, rfl, rfl⟩
      exact ⟨rfl, rfl⟩
  | call op k ih =>
    simp only [attempt] at ih
    simp only [attempt, bind, catchError, runs_call, ih]
    constructor
    · rintro ⟨r, mid, answered, out', rfl, rest⟩
      exact ⟨out', rfl, r, mid, answered, rest⟩
    · rintro ⟨out', rfl, r, mid, answered, rest⟩
      exact ⟨r, mid, answered, out', rfl, rest⟩

/-- An effect whose answers are those of a handler has exactly the handler's run. -/
theorem runs_handler (handle : Handler Op ε σ) (p : Program Op ε α) {out : Except ε α} :
    Runs (fun β op s r s' => handle β op s = (r, s')) p s out s' ↔ run handle p s = (out, s') := by
  induction p generalizing s with
  | ret a => simp [eq_comm]
  | throw e => simp [eq_comm]
  | call op k ih =>
    simp only [runs_call, ih, run]
    constructor
    · rintro ⟨r, mid, answered, rest⟩
      rw [answered]
      exact rest
    · intro rest
      exact ⟨_, _, rfl, rest⟩

/-- The run of a handler is a run of every effect that allows the handler's answers. The
    handler may keep a state of its own, of which `view` is the part the effect speaks about. -/
theorem runs_of_run (handle : Handler Op ε τ) (view : τ → σ)
    (allowed : ∀ {β : Type} (op : Op β) (t : τ),
      effect β op (view t) (handle β op t).1 (view (handle β op t).2))
    (p : Program Op ε α) (t : τ) :
    Runs effect p (view t) (run handle p t).1 (view (run handle p t).2) := by
  induction p generalizing t with
  | ret a => exact ⟨rfl, rfl⟩
  | throw e => exact ⟨rfl, rfl⟩
  | call op k ih => exact ⟨_, _, allowed op t, ih _ _⟩

/-- Induction over a run: what every operation the program uses preserves, the run preserves. -/
theorem Runs.preserves {ok : ∀ β : Type, Op β → Prop} {invariant : σ → Prop}
    {p : Program Op ε α} {out : Except ε α} (h : Runs effect p s out s') (huses : Uses ok p)
    (step : ∀ (β : Type) (op : Op β) (s : σ) (r : Except ε β) (s' : σ), ok β op →
      effect β op s r s' → invariant s → invariant s')
    (hs : invariant s) : invariant s' := by
  induction p generalizing s with
  | ret a => exact h.2 ▸ hs
  | throw e => exact h.2 ▸ hs
  | call op k ih =>
    obtain ⟨r, mid, answered, rest⟩ := h
    exact ih r rest (huses.2 r) (step _ op s r mid huses.1 answered hs)

end Program
