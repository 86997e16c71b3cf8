import CempMobile.Lib.Program

/-- An automaton that watches a program: which operations it allows in a state, and the state
    it is in after an operation and its answer. A state is a summary of the history so far. -/
structure Automaton (Op : Type → Type*) (ε S : Type) where
  /-- Operations a program may perform next. -/
  allowed : ∀ β : Type, S → Op β → Prop
  /-- The state after an operation was answered. -/
  next : ∀ β : Type, S → Op β → Except ε β → S

namespace Program

variable {Op : Type → Type*} {ε α β ι S : Type}

/-- Started in state `s`, the program only performs allowed operations whatever they answer,
    and where it stops, the automaton's state and the outcome satisfy `post`. -/
def Conforms (A : Automaton Op ε S) :
    S → Program Op ε α → (S → Except ε α → Prop) → Prop
  | s, ret a, post => post s (.ok a)
  | s, throw e, post => post s (.error e)
  | s, call op k, post => A.allowed _ s op ∧ ∀ r, Conforms A (A.next _ s op r) (k r) post

variable {A : Automaton Op ε S} {s : S} {post : S → Except ε α → Prop}

@[simp] theorem conforms_ret {a : α} : Conforms A s (ret a) post ↔ post s (.ok a) := Iff.rfl

@[simp] theorem conforms_throw {e : ε} : Conforms A s (throw e) post ↔ post s (.error e) := Iff.rfl

theorem conforms_call {op : Op β} {k : Except ε β → Program Op ε α} :
    Conforms A s (call op k) post ↔
      A.allowed β s op ∧ ∀ r, Conforms A (A.next β s op r) (k r) post := Iff.rfl

theorem conforms_ofExcept {r : Except ε α} : Conforms A s (ofExcept r) post ↔ post s r := by
  cases r <;> rfl

@[simp] theorem conforms_perform {op : Op α} :
    Conforms A s (perform op) post ↔ A.allowed α s op ∧ ∀ r, post (A.next α s op r) r := by
  simp only [perform, conforms_call, conforms_ofExcept]

/-- A sequence that starts with a computation, by its value if it has one. -/
theorem Conforms.ofExcept {r : Except ε β} {f : β → Program Op ε α}
    (herror : ∀ e, post s (.error e)) (hok : ∀ b, r = .ok b → Conforms A s (f b) post) :
    Conforms A s ((Program.ofExcept r).bind f) post := by
  cases r with
  | ok b => exact hok b rfl
  | error e => exact herror e

/-- A sequence that starts with one operation, by what the operation may answer. -/
theorem Conforms.step {op : Op β} {f : β → Program Op ε α} (hallowed : A.allowed β s op)
    (herror : ∀ e, post (A.next β s op (.error e)) (.error e))
    (hok : ∀ b, Conforms A (A.next β s op (.ok b)) (f b) post) :
    Conforms A s ((perform op).bind f) post := by
  refine ⟨hallowed, fun r => ?_⟩
  cases r with
  | ok b => exact hok b
  | error e => exact herror e

/-- A sequence conforms when its first part does and leaves the second able to. -/
theorem conforms_bind {p : Program Op ε α} {f : α → Program Op ε β}
    {post : S → Except ε β → Prop} :
    Conforms A s (p.bind f) post ↔
      Conforms A s p fun s' r =>
        match r with
        | .ok a => Conforms A s' (f a) post
        | .error e => post s' (.error e) := by
  induction p generalizing s with
  | ret a => rfl
  | throw e => rfl
  | call op k ih => simp only [bind, conforms_call, ih]

theorem conforms_catchError {p : Program Op ε α} {h : ε → Program Op ε α} :
    Conforms A s (p.catchError h) post ↔
      Conforms A s p fun s' r =>
        match r with
        | .ok a => post s' (.ok a)
        | .error e => Conforms A s' (h e) post := by
  induction p generalizing s with
  | ret a => rfl
  | throw e => rfl
  | call op k ih => simp only [catchError, conforms_call, ih]

@[simp] theorem conforms_attempt {p : Program Op ε α} {post : S → Except ε (Except ε α) → Prop} :
    Conforms A s p.attempt post ↔ Conforms A s p fun s' r => post s' (.ok r) := by
  induction p generalizing s with
  | ret a => rfl
  | throw e => rfl
  | call op k ih =>
    simp only [attempt] at ih
    simp only [attempt, bind, catchError, conforms_call, ih]

/-- A weaker postcondition is conformed to as well. -/
theorem Conforms.mono {p : Program Op ε α} {post' : S → Except ε α → Prop}
    (h : Conforms A s p post) (hpost : ∀ s' r, post s' r → post' s' r) :
    Conforms A s p post' := by
  induction p generalizing s with
  | ret a => exact hpost _ _ h
  | throw e => exact hpost _ _ h
  | call op k ih => exact ⟨h.1, fun r => ih r (h.2 r)⟩

/-- The sequence rule in the form that proofs about a function's callers use: the callee
    is known by its postcondition alone. -/
theorem Conforms.bind {p : Program Op ε α} {f : α → Program Op ε β}
    {post' : S → Except ε β → Prop} (h : Conforms A s p post)
    (hok : ∀ s' a, post s' (.ok a) → Conforms A s' (f a) post')
    (herror : ∀ s' e, post s' (.error e) → post' s' (.error e)) :
    Conforms A s (p.bind f) post' := by
  refine conforms_bind.2 (h.mono ?_)
  intro s' r hr
  cases r with
  | ok a => exact hok s' a hr
  | error e => exact herror s' e hr

/-- The rule for a guarded program, in the same form. -/
theorem Conforms.catchError {p : Program Op ε α} {handler : ε → Program Op ε α}
    {post' : S → Except ε α → Prop} (h : Conforms A s p post)
    (hok : ∀ s' a, post s' (.ok a) → post' s' (.ok a))
    (herror : ∀ s' e, post s' (.error e) → Conforms A s' (handler e) post') :
    Conforms A s (p.catchError handler) post' := by
  refine conforms_catchError.2 (h.mono ?_)
  intro s' r hr
  cases r with
  | ok a => exact hok s' a hr
  | error e => exact herror s' e hr

/-- The loop rule: a body that conforms from the invariant and restores it, looped over a list. -/
theorem Conforms.forEach {invariant : S → Prop} {failed : S → ε → Prop}
    {xs : List ι} {body : ι → Program Op ε Unit}
    (hbody : ∀ x ∈ xs, ∀ s, invariant s → Conforms A s (body x) fun s' r =>
      match r with
      | .ok _ => invariant s'
      | .error e => failed s' e)
    (hs : invariant s) :
    Conforms A s (Program.forEach body xs) fun s' r =>
      match r with
      | .ok _ => invariant s'
      | .error e => failed s' e := by
  induction xs generalizing s with
  | nil => exact hs
  | cons x xs ih =>
    refine (hbody x List.mem_cons_self s hs).bind ?_ ?_
    · intro s' _ hs'
      exact ih (fun y hy => hbody y (List.mem_cons_of_mem _ hy)) hs'
    · intro s' e he
      exact he

/-- In a state the automaton never leaves, a program conforms when all its operations are
    allowed there; `Uses` lists them without the states. -/
def Uses (ok : ∀ β : Type, Op β → Prop) : Program Op ε α → Prop
  | ret _ => True
  | throw _ => True
  | call op k => ok _ op ∧ ∀ r, Uses ok (k r)

variable {ok : ∀ β : Type, Op β → Prop}

@[simp] theorem uses_ret {a : α} : Uses ok (ret a : Program Op ε α) := trivial

@[simp] theorem uses_throw {e : ε} : Uses ok (throw e : Program Op ε α) := trivial

theorem uses_call {op : Op β} {k : Except ε β → Program Op ε α} :
    Uses ok (call op k) ↔ ok β op ∧ ∀ r, Uses ok (k r) := Iff.rfl

@[simp] theorem uses_perform {op : Op α} :
    Uses ok (perform op : Program Op ε α) ↔ ok α op := by
  simp only [perform, uses_call]
  constructor
  · exact fun h => h.1
  · intro h
    exact ⟨h, fun r => by cases r <;> trivial⟩

theorem Uses.bind {p : Program Op ε α} {f : α → Program Op ε β} (hp : Uses ok p)
    (hf : ∀ a, Uses ok (f a)) : Uses ok (p.bind f) := by
  induction p with
  | ret a => exact hf a
  | throw e => trivial
  | call op k ih => exact ⟨hp.1, fun r => ih r (hp.2 r)⟩

theorem Uses.catchError {p : Program Op ε α} {h : ε → Program Op ε α} (hp : Uses ok p)
    (hh : ∀ e, Uses ok (h e)) : Uses ok (p.catchError h) := by
  induction p with
  | ret a => trivial
  | throw e => exact hh e
  | call op k ih => exact ⟨hp.1, fun r => ih r (hp.2 r)⟩

theorem Uses.forEach {xs : List ι} {body : ι → Program Op ε Unit}
    (hbody : ∀ x ∈ xs, Uses ok (body x)) : Uses ok (Program.forEach body xs) := by
  induction xs with
  | nil => trivial
  | cons x xs ih =>
    exact (hbody x List.mem_cons_self).bind
      fun _ => ih fun y hy => hbody y (List.mem_cons_of_mem _ hy)

theorem Uses.mono {ok' : ∀ β : Type, Op β → Prop} {p : Program Op ε α} (h : Uses ok p)
    (hsub : ∀ (β : Type) (op : Op β), ok β op → ok' β op) : Uses ok' p := by
  induction p with
  | ret a => trivial
  | throw e => trivial
  | call op k ih => exact ⟨hsub _ op h.1, fun r => ih r (h.2 r)⟩

/-- A program whose operations all keep an invariant of the automaton keeps it. -/
theorem Uses.conforms {p : Program Op ε α} (h : Uses ok p) {invariant : S → Prop}
    (hkeeps : ∀ (β : Type) (op : Op β) (s : S), ok β op → invariant s →
      A.allowed β s op ∧ ∀ r, invariant (A.next β s op r))
    (hs : invariant s) : Conforms A s p fun s' _ => invariant s' := by
  induction p generalizing s with
  | ret a => exact hs
  | throw e => exact hs
  | call op k ih =>
    obtain ⟨hallowed, hnext⟩ := hkeeps _ op s h.1 hs
    exact ⟨hallowed, fun r => ih r (h.2 r) (hnext r)⟩

end Program
