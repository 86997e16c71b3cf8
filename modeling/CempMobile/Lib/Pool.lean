import CempMobile.Lib.Conforms
import CempMobile.Lib.Runs
import Mathlib.Logic.Function.Basic

open Program

/-- Who is at work: for each thread its job and the automaton state its history led to. -/
abbrev Crew (J S : Type) : Type := Nat → Option (J × S)

/-- A program in flight: the job it does, the automaton state its history led to, and
    what is left of it. -/
structure Thread (Op : Type → Type*) (ε J S : Type) : Type _ where
  job : J
  state : S
  rest : Program Op ε Unit

/-- Threads that interleave over one world, one operation at a time. -/
structure Pool (Op : Type → Type*) (ε J S W : Type) : Type _ where
  threads : Nat → Option (Thread Op ε J S)
  world : W

/-- A system of jobs: the program and the watching automaton of each, what an operation does
    to the world, how the world moves on its own and what a restart leaves of it. -/
structure System (Op : Type → Type*) (ε J S W : Type) : Type _ where
  body : J → Program Op ε Unit
  watch : Automaton Op ε S
  start : J → S
  effect : Effect Op ε W
  drift : W → W → Prop
  restart : W → W

/-- A condition on the steps of a run: when a job may start, an operation may be answered,
    the world may move and a crash may happen. -/
structure StepCondition (Op : Type → Type*) (ε J S W : Type) : Type _ where
  spawn : Crew J S → W → J → Prop := fun _ _ _ => True
  answer : ∀ β : Type, Crew J S → J → S → Op β → W → Except ε β → W → Prop :=
    fun _ _ _ _ _ _ _ _ => True
  drift : Crew J S → W → W → Prop := fun _ _ _ => True
  crash : Crew J S → W → Prop := fun _ _ => True

/-- A condition that is at least as strong as another one. -/
structure StepCondition.Implies {Op : Type → Type*} {ε J S W : Type}
    (strong weak : StepCondition Op ε J S W) : Prop where
  spawn : ∀ (crew : Crew J S) (w : W) (job : J), strong.spawn crew w job → weak.spawn crew w job
  answer : ∀ (β : Type) (crew : Crew J S) (job : J) (s : S) (op : Op β) (w : W) (r : Except ε β)
    (w' : W), strong.answer β crew job s op w r w' → weak.answer β crew job s op w r w'
  drift : ∀ (crew : Crew J S) (w w' : W), strong.drift crew w w' → weak.drift crew w w'
  crash : ∀ (crew : Crew J S) (w : W), strong.crash crew w → weak.crash crew w

namespace Pool

variable {Op : Type → Type*} {ε J S W : Type}

/-- The pool without any thread. -/
def idle (w : W) : Pool Op ε J S W := ⟨fun _ => none, w⟩

/-- A pool's threads without what is left of their programs. -/
def crew (p : Pool Op ε J S W) : Crew J S :=
  fun i => (p.threads i).map fun t => (t.job, t.state)

@[simp] theorem crew_idle (w : W) : (idle w : Pool Op ε J S W).crew = fun _ => none := rfl

@[simp] theorem world_idle (w : W) : (idle w : Pool Op ε J S W).world = w := rfl

theorem crew_update [DecidableEq Nat] (p : Pool Op ε J S W) (i : Nat)
    (t : Option (Thread Op ε J S)) (w : W) :
    (⟨Function.update p.threads i t, w⟩ : Pool Op ε J S W).crew =
      Function.update p.crew i (t.map fun t => (t.job, t.state)) := by
  funext j
  by_cases h : j = i
  · subst h
    simp [crew]
  · simp [crew, Function.update_of_ne h]

end Pool

namespace System

variable {Op : Type → Type*} {ε J S W : Type}

/-- A new thread at the start of `job`. -/
def launch (sys : System Op ε J S W) (job : J) : Thread Op ε J S :=
  ⟨job, sys.start job, sys.body job⟩

/-- One step of a pool: a job starts, a thread's next operation is answered, a thread ends,
    the world moves, or everything in flight is lost and the world restarts. -/
inductive Step (sys : System Op ε J S W) (cond : StepCondition Op ε J S W) :
    Pool Op ε J S W → Pool Op ε J S W → Prop where
  | spawn {p : Pool Op ε J S W} (i : Nat) (job : J) (free : p.threads i = none)
      (met : cond.spawn p.crew p.world job) :
      Step sys cond p ⟨Function.update p.threads i (some (sys.launch job)), p.world⟩
  | answer {p : Pool Op ε J S W} (i : Nat) {job : J} {s : S} {β : Type} {op : Op β}
      {k : Except ε β → Program Op ε Unit} {r : Except ε β} {w : W}
      (next : p.threads i = some ⟨job, s, .call op k⟩)
      (answered : sys.effect β op p.world r w)
      (met : cond.answer β p.crew job s op p.world r w) :
      Step sys cond p
        ⟨Function.update p.threads i (some ⟨job, sys.watch.next β s op r, k r⟩), w⟩
  | finish {p : Pool Op ε J S W} (i : Nat) {job : J} {s : S} {out : Except ε Unit}
      (ended : p.threads i = some ⟨job, s, .ofExcept out⟩) :
      Step sys cond p ⟨Function.update p.threads i none, p.world⟩
  | drift {p : Pool Op ε J S W} {w : W} (moved : sys.drift p.world w)
      (met : cond.drift p.crew p.world w) : Step sys cond p ⟨p.threads, w⟩
  | crash {p : Pool Op ε J S W} (met : cond.crash p.crew p.world) :
      Step sys cond p (Pool.idle (sys.restart p.world))

/-- The runs all of whose steps meet the condition. -/
inductive Reaches (sys : System Op ε J S W) (cond : StepCondition Op ε J S W) :
    Pool Op ε J S W → Pool Op ε J S W → Prop where
  | refl (p : Pool Op ε J S W) : Reaches sys cond p p
  | tail {p q r : Pool Op ε J S W} (run : Reaches sys cond p q) (step : Step sys cond q r) :
      Reaches sys cond p r

theorem Reaches.trans {sys : System Op ε J S W} {cond : StepCondition Op ε J S W}
    {p q r : Pool Op ε J S W} (hpq : Reaches sys cond p q) (hqr : Reaches sys cond q r) :
    Reaches sys cond p r := by
  induction hqr with
  | refl => exact hpq
  | tail _ step ih => exact ih.tail step

/-- What an invariant over jobs, automaton states and the world has to be preserved by, `given`
    what is known of the state before each step. The programs themselves do not occur: a
    thread performs what its automaton allows. -/
structure Inductive (sys : System Op ε J S W) (cond : StepCondition Op ε J S W)
    (done : J → S → Prop) (given invariant : Crew J S → W → Prop) : Prop where
  spawn : ∀ (crew : Crew J S) (w : W) (i : Nat) (job : J), given crew w → invariant crew w →
    crew i = none → cond.spawn crew w job →
    invariant (Function.update crew i (some (job, sys.start job))) w
  answer : ∀ (β : Type) (crew : Crew J S) (w : W) (i : Nat) (job : J) (s : S) (op : Op β)
    (r : Except ε β) (w' : W), given crew w → invariant crew w → crew i = some (job, s) →
    sys.watch.allowed β s op → sys.effect β op w r w' → cond.answer β crew job s op w r w' →
    invariant (Function.update crew i (some (job, sys.watch.next β s op r))) w'
  finish : ∀ (crew : Crew J S) (w : W) (i : Nat) (job : J) (s : S), given crew w →
    invariant crew w → crew i = some (job, s) → done job s →
    invariant (Function.update crew i none) w
  drift : ∀ (crew : Crew J S) (w w' : W), given crew w → invariant crew w → sys.drift w w' →
    cond.drift crew w w' → invariant crew w'
  crash : ∀ (crew : Crew J S) (w : W), given crew w → invariant crew w → cond.crash crew w →
    invariant (fun _ => none) (sys.restart w)

/-- Nothing but the invariant itself is known. -/
def Unconditional : Crew J S → W → Prop := fun _ _ => True

section Soundness

variable {sys : System Op ε J S W} {cond : StepCondition Op ε J S W} {done : J → S → Prop}
  {given invariant : Crew J S → W → Prop}

/-- An invariant that holds given another one holds together with it. -/
theorem Inductive.and (hgiven : Inductive sys cond done Unconditional given)
    (hinv : Inductive sys cond done given invariant) :
    Inductive sys cond done Unconditional fun crew w => given crew w ∧ invariant crew w where
  spawn crew w i job _ h free met :=
    ⟨hgiven.spawn crew w i job trivial h.1 free met, hinv.spawn crew w i job h.1 h.2 free met⟩
  answer β crew w i job s op r w' _ h next allowed answered met :=
    ⟨hgiven.answer β crew w i job s op r w' trivial h.1 next allowed answered met,
      hinv.answer β crew w i job s op r w' h.1 h.2 next allowed answered met⟩
  finish crew w i job s _ h next ended :=
    ⟨hgiven.finish crew w i job s trivial h.1 next ended,
      hinv.finish crew w i job s h.1 h.2 next ended⟩
  drift crew w w' _ h moved met :=
    ⟨hgiven.drift crew w w' trivial h.1 moved met, hinv.drift crew w w' h.1 h.2 moved met⟩
  crash crew w _ h met :=
    ⟨hgiven.crash crew w trivial h.1 met, hinv.crash crew w h.1 h.2 met⟩

theorem Inductive.of_implies {weak : StepCondition Op ε J S W}
    (hinv : Inductive sys weak done given invariant) (h : cond.Implies weak) :
    Inductive sys cond done given invariant where
  spawn crew w i job hg hi free met := hinv.spawn crew w i job hg hi free (h.spawn crew w job met)
  answer β crew w i job s op r w' hg hi next allowed answered met :=
    hinv.answer β crew w i job s op r w' hg hi next allowed answered
      (h.answer β crew job s op w r w' met)
  finish := hinv.finish
  drift crew w w' hg hi moved met := hinv.drift crew w w' hg hi moved (h.drift crew w w' met)
  crash crew w hg hi met := hinv.crash crew w hg hi (h.crash crew w met)

/-- Every thread still conforms to its automaton, and the invariant holds. -/
private def Sound (sys : System Op ε J S W) (done : J → S → Prop)
    (invariant : Crew J S → W → Prop) (p : Pool Op ε J S W) : Prop :=
  (∀ i t, p.threads i = some t → Conforms sys.watch t.state t.rest fun s _ => done t.job s) ∧
    invariant p.crew p.world

private theorem Step.sound (hbody : ∀ job,
      Conforms sys.watch (sys.start job) (sys.body job) fun s _ => done job s)
    (hinv : Inductive sys cond done Unconditional invariant) {p q : Pool Op ε J S W}
    (hstep : Step sys cond p q) (hp : Sound sys done invariant p) :
    Sound sys done invariant q := by
  have conforms_update : ∀ (i : Nat) (t : Option (Thread Op ε J S)),
      (∀ t', t = some t' → Conforms sys.watch t'.state t'.rest fun s _ => done t'.job s) →
      ∀ j t', Function.update p.threads i t j = some t' →
        Conforms sys.watch t'.state t'.rest fun s _ => done t'.job s := by
    intro i t ht j t' hj
    by_cases hji : j = i
    · subst hji
      exact ht t' (by simpa using hj)
    · rw [Function.update_of_ne hji] at hj
      exact hp.1 j t' hj
  cases hstep with
  | spawn i job free met =>
    refine ⟨conforms_update i _ ?_, ?_⟩
    · rintro t' h
      cases h
      exact hbody job
    · rw [Pool.crew_update]
      exact hinv.spawn p.crew p.world i job trivial hp.2 (by simp [Pool.crew, free]) met
  | @answer i job s β op k r w next answered met =>
    have hconf := hp.1 i _ next
    refine ⟨conforms_update i _ ?_, ?_⟩
    · rintro t' h
      cases h
      exact hconf.2 r
    · rw [Pool.crew_update]
      exact hinv.answer β p.crew p.world i job s op r w trivial hp.2 (by simp [Pool.crew, next])
        hconf.1 answered met
  | @finish i job s out ended =>
    have hconf := conforms_ofExcept.1 (hp.1 i _ ended)
    refine ⟨conforms_update i none (by simp), ?_⟩
    rw [Pool.crew_update]
    exact hinv.finish p.crew p.world i job s trivial hp.2 (by simp [Pool.crew, ended]) hconf
  | @drift w moved met => exact ⟨hp.1, hinv.drift p.crew p.world w trivial hp.2 moved met⟩
  | crash met => exact ⟨by simp [Pool.idle], hinv.crash p.crew p.world trivial hp.2 met⟩

/-- The invariant rule: when every job's program conforms to its automaton, an invariant that
    the automata preserve holds in every pool that a run from an idle one reaches. -/
theorem Inductive.holds (hinv : Inductive sys cond done Unconditional invariant)
    (hbody : ∀ job, Conforms sys.watch (sys.start job) (sys.body job) fun s _ => done job s)
    {w : W} {p : Pool Op ε J S W} (hrun : Reaches sys cond (Pool.idle w) p)
    (hw : invariant (fun _ => none) w) : invariant p.crew p.world := by
  have hsound : Sound sys done invariant p := by
    induction hrun with
    | refl => exact ⟨by simp [Pool.idle], hw⟩
    | tail _ step ih => exact step.sound hbody hinv ih
  exact hsound.2

end Soundness

end System
