import CempMobile.Lib.Runs

namespace Program

variable {Op : Type → Type*} {ε α β ι σ : Type}

/-- Started in `s`, the program satisfies `during` whenever it is about to perform an operation,
    and `post` where it stops, however the operations answer. A crash leaves a state of which
    `during` is known; a run that is not cut short leaves one of which `post` is known. -/
def Always (effect : Effect Op ε σ) (during : ∀ β : Type, Op β → σ → Prop) :
    Program Op ε α → σ → (Except ε α → σ → Prop) → Prop
  | ret a, s, post => post (.ok a) s
  | throw e, s, post => post (.error e) s
  | call op k, s, post =>
    during _ op s ∧ ∀ r s', effect _ op s r s' → Always effect during (k r) s' post

/-- The states in which a program may be cut short, right before an operation, as `may` allows. -/
def Interrupted (effect : Effect Op ε σ) (may : ∀ β : Type, Op β → σ → Prop) :
    Program Op ε α → σ → σ → Prop
  | ret _, _, _ => False
  | throw _, _, _ => False
  | call op k, s, s' =>
    (may _ op s ∧ s' = s) ∨ ∃ r mid, effect _ op s r mid ∧ Interrupted effect may (k r) mid s'

/-- The state after the first `n` operations, which a handler answers. -/
def runFor (handle : Handler Op ε σ) : Nat → Program Op ε α → σ → σ
  | n + 1, call op k, s => runFor handle n (k (handle _ op s).1) (handle _ op s).2
  | _, _, s => s

/-- Whether an operation follows the first `n`, and may be where the program is cut short. -/
def CutAfter (handle : Handler Op ε σ) (may : ∀ β : Type, Op β → σ → Prop) :
    Nat → Program Op ε α → σ → Prop
  | 0, call op _, s => may _ op s
  | n + 1, call op k, s => CutAfter handle may n (k (handle _ op s).1) (handle _ op s).2
  | _, _, _ => False

instance (handle : Handler Op ε σ) (may : ∀ β : Type, Op β → σ → Prop)
    [∀ (β : Type) (op : Op β) (s : σ), Decidable (may β op s)] : (n : Nat) → (p : Program Op ε α) →
    (s : σ) → Decidable (CutAfter handle may n p s)
  | 0, call op _, s => inferInstanceAs (Decidable (may _ op s))
  | n + 1, call op k, s =>
    have := instDecidableCutAfter handle may n (k (handle _ op s).1) (handle _ op s).2
    inferInstanceAs (Decidable (CutAfter handle may n (k (handle _ op s).1) (handle _ op s).2))
  | 0, ret _, _ => isFalse fun h => h
  | 0, throw _, _ => isFalse fun h => h
  | _ + 1, ret _, _ => isFalse fun h => h
  | _ + 1, throw _, _ => isFalse fun h => h

/-- Nothing is asked of the states in between. -/
abbrev Anywhere : ∀ β : Type, Op β → σ → Prop := fun _ _ _ => True

/-- A postcondition in two parts: where the program returned, and where it threw. -/
def OkOr (returned : σ → Prop) (threw : ε → σ → Prop) : Except ε α → σ → Prop
  | .ok _, s => returned s
  | .error e, s => threw e s

@[simp] theorem okOr_ok {returned : σ → Prop} {threw : ε → σ → Prop} {a : α} {s : σ} :
    OkOr returned threw (.ok a) s ↔ returned s := Iff.rfl

@[simp] theorem okOr_error {returned : σ → Prop} {threw : ε → σ → Prop} {e : ε} {s : σ} :
    OkOr returned threw (.error e : Except ε α) s ↔ threw e s := Iff.rfl

section Always

variable {effect : Effect Op ε σ} {during : ∀ β : Type, Op β → σ → Prop} {s s' : σ}
  {post : Except ε α → σ → Prop}

@[simp] theorem always_ret {a : α} : Always effect during (ret a) s post ↔ post (.ok a) s := Iff.rfl

@[simp] theorem always_throw {e : ε} :
    Always effect during (throw e) s post ↔ post (.error e) s := Iff.rfl

theorem always_call {op : Op β} {k : Except ε β → Program Op ε α} :
    Always effect during (call op k) s post ↔
      during β op s ∧ ∀ r s', effect β op s r s' → Always effect during (k r) s' post := Iff.rfl

theorem always_ofExcept {r : Except ε α} :
    Always effect during (ofExcept r) s post ↔ post r s := by
  cases r <;> rfl

@[simp] theorem always_perform {op : Op α} :
    Always effect during (perform op) s post ↔
      during α op s ∧ ∀ r s', effect α op s r s' → post r s' := by
  simp only [perform, always_call, always_ofExcept]

/-- A sequence that starts with one operation, by what the operation may answer. -/
theorem Always.step {op : Op β} {f : β → Program Op ε α} (hnow : during β op s)
    (herror : ∀ e s', effect β op s (.error e) s' → post (.error e) s')
    (hok : ∀ b s', effect β op s (.ok b) s' → Always effect during (f b) s' post) :
    Always effect during ((perform op).bind f) s post := by
  refine ⟨hnow, fun r s' answered => ?_⟩
  cases r with
  | ok b => exact hok b s' answered
  | error e => exact herror e s' answered

/-- The sequence rule. -/
theorem Always.bind {p : Program Op ε α} {f : α → Program Op ε β} {post' : Except ε β → σ → Prop}
    (h : Always effect during p s post)
    (hok : ∀ a s', post (.ok a) s' → Always effect during (f a) s' post')
    (herror : ∀ e s', post (.error e) s' → post' (.error e) s') :
    Always effect during (p.bind f) s post' := by
  induction p generalizing s with
  | ret a => exact hok a s h
  | throw e => exact herror e s h
  | call op k ih => exact ⟨h.1, fun r s' answered => ih r (h.2 r s' answered)⟩

/-- The rule for a guarded program. -/
theorem Always.catchError {p : Program Op ε α} {handler : ε → Program Op ε α}
    {post' : Except ε α → σ → Prop} (h : Always effect during p s post)
    (hok : ∀ a s', post (.ok a) s' → post' (.ok a) s')
    (herror : ∀ e s', post (.error e) s' → Always effect during (handler e) s' post') :
    Always effect during (p.catchError handler) s post' := by
  induction p generalizing s with
  | ret a => exact hok a s h
  | throw e => exact herror e s h
  | call op k ih => exact ⟨h.1, fun r s' answered => ih r (h.2 r s' answered)⟩

/-- A program whose error is swallowed does not throw. -/
theorem Always.swallow {p : Program Op ε α} {a : α} {known : σ → Prop}
    (h : Always effect during p s fun _ s' => known s') :
    Always effect during (p.catchError fun _ => ret a) s (OkOr known fun _ _ => False) :=
  h.catchError (fun _ _ h => h) fun _ _ h => h

theorem Always.mono {p : Program Op ε α} {post' : Except ε α → σ → Prop}
    (h : Always effect during p s post) (hpost : ∀ r s', post r s' → post' r s') :
    Always effect during p s post' := by
  induction p generalizing s with
  | ret a => exact hpost _ _ h
  | throw e => exact hpost _ _ h
  | call op k ih => exact ⟨h.1, fun r s' answered => ih r (h.2 r s' answered)⟩

theorem Always.attempt {p : Program Op ε α} {post : Except ε (Except ε α) → σ → Prop}
    (h : Always effect during p s fun r s' => post (.ok r) s') :
    Always effect during p.attempt s post := by
  induction p generalizing s with
  | ret a => exact h
  | throw e => exact h
  | call op k ih => exact ⟨h.1, fun r s' answered => ih r (h.2 r s' answered)⟩

/-- The loop rule. -/
theorem Always.forEach (invariant : σ → Prop) (failed : ε → σ → Prop) {xs : List ι}
    {body : ι → Program Op ε Unit}
    (hbody : ∀ x ∈ xs, ∀ s, invariant s → Always effect during (body x) s (OkOr invariant failed))
    (hs : invariant s) :
    Always effect during (Program.forEach body xs) s (OkOr invariant failed) := by
  induction xs generalizing s with
  | nil => exact hs
  | cons x xs ih =>
    refine (hbody x List.mem_cons_self s hs).bind ?_ ?_
    · intro _ s' hs'
      exact ih (fun y hy => hbody y (List.mem_cons_of_mem _ hy)) hs'
    · intro e s' he
      exact he

/-- A loop that returns has reached what one of its rounds reaches and the later ones keep. -/
theorem Always.forEach_mem (known reached : σ → Prop) (failed : ε → σ → Prop) {xs : List ι} {x : ι}
    {body : ι → Program Op ε Unit} (hx : x ∈ xs)
    (hknown : ∀ y ∈ xs, ∀ s, known s → Always effect during (body y) s (OkOr known failed))
    (hreach : ∀ s, known s → Always effect during (body x) s (OkOr reached failed))
    (hkeep : ∀ y ∈ xs, ∀ s, reached s → Always effect during (body y) s (OkOr reached failed))
    (hs : known s) : Always effect during (Program.forEach body xs) s (OkOr reached failed) := by
  induction xs generalizing s with
  | nil => cases hx
  | cons y xs ih =>
    obtain rfl | hx := List.mem_cons.1 hx
    · refine (hreach s hs).bind (fun _ s' hs' => ?_) fun e s' he => he
      exact Always.forEach reached failed (fun z hz => hkeep z (List.mem_cons_of_mem _ hz)) hs'
    · refine (hknown y List.mem_cons_self s hs).bind (fun _ s' hs' => ?_) fun e s' he => he
      exact ih hx (fun z hz => hknown z (List.mem_cons_of_mem _ hz))
        (fun z hz => hkeep z (List.mem_cons_of_mem _ hz)) hs'

/-- A program all of whose operations keep an invariant. -/
theorem Uses.always {ok : ∀ β : Type, Op β → Prop} {p : Program Op ε α} (h : Uses ok p)
    {invariant : σ → Prop}
    (hkeeps : ∀ (β : Type) (op : Op β) (s : σ), ok β op → invariant s →
      during β op s ∧ ∀ r s', effect β op s r s' → invariant s')
    (hs : invariant s) : Always effect during p s fun _ s' => invariant s' := by
  induction p generalizing s with
  | ret a => exact hs
  | throw e => exact hs
  | call op k ih =>
    obtain ⟨hnow, hnext⟩ := hkeeps _ op s h.1 hs
    exact ⟨hnow, fun r s' answered => ih r (h.2 r) (hnext r s' answered)⟩

/-- What is known of a program when its operations are of a kind is known, when they are. -/
theorem Uses.always_of {ok : ∀ β : Type, Op β → Prop} {p : Program Op ε α} (huses : Uses ok p)
    (h : Always (fun β op s r s' => effect β op s r s' ∧ ok β op) during p s post) :
    Always effect during p s post := by
  induction p generalizing s with
  | ret a => exact h
  | throw e => exact h
  | call op k ih =>
    exact ⟨h.1, fun r s' answered => ih r (huses.2 r) (h.2 r s' ⟨answered, huses.1⟩)⟩

/-- What is known of all operations of a program is known wherever it is. -/
theorem Uses.along {ok : ∀ β : Type, Op β → Prop} {p : Program Op ε α} (h : Uses ok p) (s : σ) :
    Always effect (fun β op _ => ok β op) p s fun _ _ => True := by
  induction p generalizing s with
  | ret a => trivial
  | throw e => trivial
  | call op k ih => exact ⟨h.1, fun r s' _ => ih r (h.2 r) s'⟩

/-- An invariant of every operation is one of every program. -/
theorem always_invariant {invariant : σ → Prop}
    (hkeeps : ∀ (β : Type) (op : Op β) (s : σ) (r : Except ε β) (s' : σ), effect β op s r s' →
      invariant s → invariant s')
    (p : Program Op ε α) (hs : invariant s) :
    Always effect Anywhere p s fun _ s' => invariant s' := by
  induction p generalizing s with
  | ret a => exact hs
  | throw e => exact hs
  | call op k ih => exact ⟨trivial, fun r s' answered => ih r (hkeeps _ op s r s' answered hs)⟩

/-- An invariant of the operations a program performs is one of the program. -/
theorem Always.invariant {p : Program Op ε α} {invariant : σ → Prop}
    (h : Always effect during p s post)
    (hkeeps : ∀ (β : Type) (op : Op β) (s : σ) (r : Except ε β) (s' : σ), during β op s →
      effect β op s r s' → invariant s → invariant s')
    (hs : invariant s) :
    Always effect (fun β op s => during β op s ∧ invariant s) p s
      fun r s' => post r s' ∧ invariant s' := by
  induction p generalizing s with
  | ret a => exact ⟨h, hs⟩
  | throw e => exact ⟨h, hs⟩
  | call op k ih =>
    exact ⟨⟨h.1, hs⟩, fun r s' answered => ih r (h.2 r s' answered)
      (hkeeps _ op s r s' h.1 answered hs)⟩

/-- Two facts that are each known along a program. -/
theorem Always.and {p : Program Op ε α} {during' : ∀ β : Type, Op β → σ → Prop}
    {post' : Except ε α → σ → Prop} (h : Always effect during p s post)
    (h' : Always effect during' p s post') :
    Always effect (fun β op s => during β op s ∧ during' β op s) p s
      fun r s' => post r s' ∧ post' r s' := by
  induction p generalizing s with
  | ret a => exact ⟨h, h'⟩
  | throw e => exact ⟨h, h'⟩
  | call op k ih =>
    exact ⟨⟨h.1, h'.1⟩, fun r s' answered => ih r (h.2 r s' answered) (h'.2 r s' answered)⟩

theorem Always.weaken {p : Program Op ε α} {during' : ∀ β : Type, Op β → σ → Prop}
    (h : Always effect during p s post)
    (hduring : ∀ (β : Type) (op : Op β) (s : σ), during β op s → during' β op s) :
    Always effect during' p s post := by
  induction p generalizing s with
  | ret a => exact h
  | throw e => exact h
  | call op k ih =>
    exact ⟨hduring _ op s h.1, fun r s' answered => ih r (h.2 r s' answered)⟩

/-- What is known however the operations answer is known when they answer in fewer ways. -/
theorem Always.narrow {effect' : Effect Op ε σ} {p : Program Op ε α}
    (h : Always effect during p s post)
    (hsub : ∀ (β : Type) (op : Op β) (s : σ) (r : Except ε β) (s' : σ), effect' β op s r s' →
      effect β op s r s') :
    Always effect' during p s post := by
  induction p generalizing s with
  | ret a => exact h
  | throw e => exact h
  | call op k ih =>
    exact ⟨h.1, fun r s' answered => ih r (h.2 r s' (hsub _ op s r s' answered))⟩

/-- Where a program stops, it has run. -/
theorem always_runs (p : Program Op ε α) (s : σ) :
    Always effect Anywhere p s fun out s' => Runs effect p s out s' := by
  induction p generalizing s with
  | ret a => exact ⟨rfl, rfl⟩
  | throw e => exact ⟨rfl, rfl⟩
  | call op k ih =>
    refine ⟨trivial, fun r mid answered => (ih r mid).mono fun out s' hrun => ?_⟩
    exact ⟨r, mid, answered, hrun⟩

/-- What is known on a part of the state is known on the whole. -/
theorem Always.view {τ : Type} {effect' : Effect Op ε τ} {p : Program Op ε α} (view : τ → σ) {t : τ}
    (h : Always effect during p (view t) post)
    (hview : ∀ (β : Type) (op : Op β) (t : τ) (r : Except ε β) (t' : τ), effect' β op t r t' →
      effect β op (view t) r (view t')) :
    Always effect' (fun β op t => during β op (view t)) p t fun r t' => post r (view t') := by
  induction p generalizing t with
  | ret a => exact h
  | throw e => exact h
  | call op k ih =>
    exact ⟨h.1, fun r t' answered => ih r (h.2 r (view t') (hview _ op t r t' answered))⟩

/-- What is known where a program stops holds of each of its runs. -/
theorem Always.runs {p : Program Op ε α} {out : Except ε α} (h : Always effect during p s post)
    (hrun : Runs effect p s out s') : post out s' := by
  induction p generalizing s with
  | ret a =>
    obtain ⟨rfl, rfl⟩ := hrun
    exact h
  | throw e =>
    obtain ⟨rfl, rfl⟩ := hrun
    exact h
  | call op k ih =>
    obtain ⟨r, mid, answered, hrest⟩ := hrun
    exact ih r (h.2 r mid answered) hrest

/-- What is known along a program holds wherever it is cut short. -/
theorem Always.interrupted {p : Program Op ε α} {may : ∀ β : Type, Op β → σ → Prop}
    {known : σ → Prop} (h : Always effect during p s post)
    (hmay : ∀ (β : Type) (op : Op β) (s : σ), may β op s → during β op s → known s)
    (hcut : Interrupted effect may p s s') : known s' := by
  induction p generalizing s with
  | ret a => exact hcut.elim
  | throw e => exact hcut.elim
  | call op k ih =>
    obtain ⟨hop, rfl⟩ | ⟨r, mid, answered, hrest⟩ := hcut
    · exact hmay _ op s' hop h.1
    · exact ih r (h.2 r mid answered) hrest

end Always

/-- A sequence may be cut short in its second part, once the first one has run. -/
theorem Runs.interrupted_bind {effect : Effect Op ε σ} {may : ∀ β : Type, Op β → σ → Prop}
    {p : Program Op ε α} {f : α → Program Op ε β} {s mid s' : σ} {a : α}
    (h : Runs effect p s (.ok a) mid) (hcut : Interrupted effect may (f a) mid s') :
    Interrupted effect may (p.bind f) s s' := by
  induction p generalizing s with
  | ret b =>
    obtain ⟨hb, rfl⟩ := h
    obtain rfl := Except.ok.inj hb
    exact hcut
  | throw e => exact absurd h.1 (fun h => by cases h)
  | call op k ih =>
    obtain ⟨r, next, answered, hrest⟩ := h
    exact .inr ⟨r, next, answered, ih r hrest⟩

/-- A sequence may be cut short in its first part. -/
theorem Interrupted.bind {effect : Effect Op ε σ} {may : ∀ β : Type, Op β → σ → Prop}
    {p : Program Op ε α} {s s' : σ} (h : Interrupted effect may p s s') (f : α → Program Op ε β) :
    Interrupted effect may (p.bind f) s s' := by
  induction p generalizing s with
  | ret a => exact h.elim
  | throw e => exact h.elim
  | call op k ih => exact h.imp id fun ⟨r, mid, answered, hrest⟩ => ⟨r, mid, answered, ih r hrest⟩

/-- A program that a handler executes can be cut short after any number of operations. -/
theorem CutAfter.interrupted {effect : Effect Op ε σ} {may : ∀ β : Type, Op β → σ → Prop}
    {handle : Handler Op ε σ} {n : Nat} {p : Program Op ε α} {s : σ} (h : CutAfter handle may n p s)
    (allowed : ∀ (β : Type) (op : Op β) (s : σ), effect β op s (handle β op s).1 (handle β op s).2) :
    Interrupted effect may p s (runFor handle n p s) := by
  induction n generalizing p s with
  | zero =>
    cases p with
    | ret a => exact h.elim
    | throw e => exact h.elim
    | call op k => exact .inl ⟨h, rfl⟩
  | succ n ih =>
    cases p with
    | ret a => exact h.elim
    | throw e => exact h.elim
    | call op k => exact .inr ⟨_, _, allowed _ op s, ih h⟩

end Program
