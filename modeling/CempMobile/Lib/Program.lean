import Mathlib.Control.Basic
import Mathlib.Tactic.TypeStar

/-- A program over the operations `Op`. It returns a value, throws an error, or performs
    one operation and goes on with the answer: the operation's value or its error. -/
inductive Program (Op : Type → Type*) (ε α : Type) : Type _ where
  | ret (a : α) : Program Op ε α
  | throw (e : ε) : Program Op ε α
  | call {β : Type} (op : Op β) (k : Except ε β → Program Op ε α) : Program Op ε α

namespace Program

variable {Op : Type → Type*} {ε α β γ σ ι : Type}

/-- Sequencing: an error of the first program skips the second. -/
def bind : Program Op ε α → (α → Program Op ε β) → Program Op ε β
  | ret a, f => f a
  | throw e, _ => throw e
  | call op k, f => call op fun r => (k r).bind f

/-- Runs `handler` on the error of the first program, if it throws one. -/
def catchError : Program Op ε α → (ε → Program Op ε α) → Program Op ε α
  | ret a, _ => ret a
  | throw e, handler => handler e
  | call op k, handler => call op fun r => (k r).catchError handler

instance : Monad (Program Op ε) where
  pure := ret
  bind := bind

instance : MonadExceptOf ε (Program Op ε) where
  throw := throw
  tryCatch := catchError

/-- The program that stops with `r`: it returns the value or throws the error. -/
def ofExcept : Except ε α → Program Op ε α
  | .ok a => ret a
  | .error e => throw e

/-- Performs one operation and rethrows its error. -/
def perform (op : Op β) : Program Op ε β :=
  call op ofExcept

/-- Runs a program to its end and hands its outcome on as a value. -/
def attempt (p : Program Op ε α) : Program Op ε (Except ε α) :=
  catchError (p.bind fun a => ret (.ok a)) fun e => ret (.error e)

/-- Runs `body` for every element of a list in order, stopping at the first error. -/
def forEach (body : ι → Program Op ε Unit) : List ι → Program Op ε Unit
  | [] => ret ()
  | x :: xs => (body x).bind fun _ => forEach body xs

@[simp] theorem pure_eq_ret (a : α) : (pure a : Program Op ε α) = ret a := rfl

@[simp] theorem bind_eq_bind (p : Program Op ε α) (f : α → Program Op ε β) : p >>= f = p.bind f :=
  rfl

@[simp] theorem throw_eq_throw (e : ε) :
    (MonadExcept.throw e : Program Op ε α) = throw e := rfl

@[simp] theorem throwThe_eq_throw (e : ε) :
    (throwThe ε e : Program Op ε α) = throw e := rfl

@[simp] theorem tryCatch_eq_catchError (p : Program Op ε α) (h : ε → Program Op ε α) :
    tryCatch p h = p.catchError h := rfl

@[simp] theorem tryCatchThe_eq_catchError (p : Program Op ε α) (h : ε → Program Op ε α) :
    tryCatchThe ε p h = p.catchError h := rfl

theorem bind_ret (p : Program Op ε α) : p.bind ret = p := by
  induction p with
  | ret a => rfl
  | throw e => rfl
  | call op k ih => simp only [bind, ih]

theorem bind_assoc (p : Program Op ε α) (f : α → Program Op ε β) (g : β → Program Op ε γ) :
    (p.bind f).bind g = p.bind fun a => (f a).bind g := by
  induction p with
  | ret a => rfl
  | throw e => rfl
  | call op k ih => simp only [bind, ih]

@[simp] theorem ret_bind (a : α) (f : α → Program Op ε β) : (ret a).bind f = f a := rfl

@[simp] theorem forEach_nil (body : ι → Program Op ε Unit) : forEach body [] = ret () := rfl

theorem forEach_cons (body : ι → Program Op ε Unit) (x : ι) (xs : List ι) :
    forEach body (x :: xs) = (body x).bind fun _ => forEach body xs := rfl

/-- A loop over two lists is two loops. -/
theorem forEach_append (body : ι → Program Op ε Unit) (xs ys : List ι) :
    forEach body (xs ++ ys) = (forEach body xs).bind fun _ => forEach body ys := by
  induction xs with
  | nil => rfl
  | cons x xs ih => simp only [List.cons_append, forEach_cons, ih, bind_assoc]

@[simp] theorem bind_ret_unit (p : Program Op ε Unit) : (p.bind fun _ => ret ()) = p := bind_ret p

theorem map_eq_bind (f : α → β) (p : Program Op ε α) :
    f <$> p = p.bind fun a => ret (f a) := rfl

/-- A deterministic meaning of the operations over a state: the answer and the next state. -/
abbrev Handler (Op : Type → Type*) (ε σ : Type) : Type _ :=
  ∀ β : Type, Op β → σ → Except ε β × σ

/-- Executes a program on a state by a handler that answers every operation. -/
def run (handle : Handler Op ε σ) : Program Op ε α → σ → Except ε α × σ
  | ret a, s => (.ok a, s)
  | throw e, s => (.error e, s)
  | call op k, s => run handle (k (handle _ op s).1) (handle _ op s).2

section Run

variable (handle : Handler Op ε σ)

@[simp] theorem run_ret (a : α) (s : σ) : run handle (ret a : Program Op ε α) s = (.ok a, s) := rfl

@[simp] theorem run_throw (e : ε) (s : σ) :
    run handle (throw e : Program Op ε α) s = (.error e, s) := rfl

@[simp] theorem run_ofExcept (r : Except ε α) (s : σ) :
    run handle (ofExcept r : Program Op ε α) s = (r, s) := by
  cases r <;> rfl

@[simp] theorem run_perform (op : Op β) (s : σ) :
    run handle (perform op : Program Op ε β) s = handle β op s := by
  simp only [perform, run, run_ofExcept]

/-- A sequence runs its second part on the state the first one left. -/
theorem run_bind (p : Program Op ε α) (f : α → Program Op ε β) (s : σ) :
    run handle (p.bind f) s =
      match run handle p s with
      | (.ok a, s') => run handle (f a) s'
      | (.error e, s') => (.error e, s') := by
  induction p generalizing s with
  | ret a => rfl
  | throw e => rfl
  | call op k ih => exact ih _ _

/-- Computing a value from a program's outcome does not touch the state. -/
theorem run_bind_ret_snd (p : Program Op ε α) (f : α → β) (s : σ) :
    (run handle (p.bind fun a => ret (f a)) s).2 = (run handle p s).2 := by
  rw [run_bind]
  obtain ⟨r, s'⟩ := run handle p s
  cases r <;> rfl

/-- A handler starts on the state the failed program left: nothing is rolled back. -/
theorem run_catchError (p : Program Op ε α) (h : ε → Program Op ε α) (s : σ) :
    run handle (p.catchError h) s =
      match run handle p s with
      | (.ok a, s') => (.ok a, s')
      | (.error e, s') => run handle (h e) s' := by
  induction p generalizing s with
  | ret a => rfl
  | throw e => rfl
  | call op k ih => exact ih _ _

@[simp] theorem run_attempt (p : Program Op ε α) (s : σ) :
    run handle p.attempt s = (.ok (run handle p s).1, (run handle p s).2) := by
  simp only [attempt, run_catchError, run_bind]
  obtain ⟨r, s'⟩ := run handle p s
  cases r <;> rfl

end Run

end Program
