import CempMobile.Ckb.Op
import CempMobile.Lib.Crash

open cemp.core cemp.database

namespace cemp.ckb

/-- What a program does to the database alone, while the clock reads `nowMs`: its accesses are
    carried out, any other call may answer anything and leaves the database as it is. -/
def localEffect (nowMs : Nat) : Program.Effect Op Error Db := fun _ op db answer db' =>
  match op with
  | .store access => access.exec db = (answer, db')
  | .now => answer = .ok nowMs ∧ db' = db
  | _ => db' = db

/-- What a program does to the database alone: its accesses are carried out, any other call may
    answer anything and leaves the database as it is. -/
def storeEffect : Program.Effect Op Error Db := fun _ op db answer db' =>
  match op with
  | .store access => access.exec db = (answer, db')
  | _ => db' = db

/-- Executes the database accesses of a program that makes no other call. -/
def localHandler : Program.Handler Op Error Db := fun _ op db =>
  match op with
  | .store access => access.exec db
  | _ => (.error (.other "not a database access"), db)

/-- The run of a program that only accesses the database. -/
abbrev runLocal {α : Type} (p : Prog α) (db : Db) : Except Error α × Db :=
  Program.run localHandler p db

/-- Whether a step is a database access. -/
def IsAccess : (β : Type) → Op β → Prop
  | _, .store _ => True
  | _, _ => False

@[simp] theorem isAccess_store {β : Type} (access : StoreOp β) : IsAccess β (.store access) :=
  trivial

theorem uses_store {β : Type} (access : StoreOp β) : Program.Uses IsAccess (store access) :=
  Program.uses_perform.2 (isAccess_store access)

@[simp] theorem runLocal_store {β : Type} (access : StoreOp β) (db : Db) :
    runLocal (store access) db = access.exec db := by
  simp [runLocal, store, localHandler]

/-- An access that succeeds hands its answer to the rest of the program. -/
theorem runLocal_bind_ok {α β : Type} {p : Prog β} {f : β → Prog α} {db db' : Db} {b : β}
    (h : runLocal p db = (.ok b, db')) : runLocal (p.bind f) db = runLocal (f b) db' := by
  simp only [runLocal, Program.run_bind] at h ⊢
  rw [h]

/-- An access that fails ends the program. -/
theorem runLocal_bind_error {α β : Type} {p : Prog β} {f : β → Prog α} {db db' : Db} {e : Error}
    (h : runLocal p db = (.error e, db')) : runLocal (p.bind f) db = (.error e, db') := by
  simp only [runLocal, Program.run_bind] at h ⊢
  rw [h]

/-- A program that only accesses the database has one run, the executed one. -/
theorem runs_localEffect_iff {α : Type} {p : Prog α} (huses : Program.Uses IsAccess p)
    {nowMs : Nat} {db db' : Db} {out : Except Error α} :
    Program.Runs (localEffect nowMs) p db out db' ↔ runLocal p db = (out, db') := by
  induction p generalizing db with
  | ret a => simp [runLocal, eq_comm]
  | throw e => simp [runLocal, eq_comm]
  | call op k ih =>
    obtain ⟨hop, hk⟩ := huses
    cases op with
    | store access =>
      simp only [Program.runs_call, ih _ (hk _), runLocal, Program.run]
      constructor
      · rintro ⟨r, mid, answered, rest⟩
        simp only [localEffect] at answered
        simpa only [localHandler, answered] using rest
      · intro rest
        exact ⟨_, _, rfl, rest⟩
    | _ => exact absurd hop id

/-- Where accesses succeed, a run goes on with the rest of the program. -/
theorem runs_localEffect_bind {α β : Type} {p : Prog β} {f : β → Prog α}
    (huses : Program.Uses IsAccess p) {nowMs : Nat} {db mid db' : Db} {b : β} {out : Except Error α}
    (h : runLocal p db = (.ok b, mid)) :
    Program.Runs (localEffect nowMs) (p.bind f) db out db' ↔
      Program.Runs (localEffect nowMs) (f b) mid out db' := by
  simp only [Program.runs_bind, runs_localEffect_iff huses, h, Prod.mk.injEq]
  constructor
  · rintro (⟨b', mid', ⟨hb, hmid⟩, hrest⟩ | ⟨e, ⟨he, -⟩, -⟩)
    · obtain rfl := Except.ok.inj hb
      exact hmid ▸ hrest
    · cases he
  · intro hrest
    exact .inl ⟨b, mid, ⟨rfl, rfl⟩, hrest⟩

/-- A read of the clock answers what it reads. -/
theorem runs_localEffect_now {α : Type} {f : Nat → Prog α} {nowMs : Nat} {db db' : Db}
    {out : Except Error α} :
    Program.Runs (localEffect nowMs) ((call .now).bind f) db out db' ↔
      Program.Runs (localEffect nowMs) (f nowMs) db out db' := by
  simp only [Program.runs_bind, Program.runs_perform, localEffect]
  constructor
  · rintro (⟨now, mid, ⟨hnow, hmid⟩, hrest⟩ | ⟨e, ⟨he, -⟩, -⟩)
    · obtain rfl := Except.ok.inj hnow
      exact hmid ▸ hrest
    · cases he
  · intro hrest
    exact .inl ⟨nowMs, db, ⟨rfl, rfl⟩, hrest⟩

/-- An effect that carries out the accesses to the database. -/
def Executes (effect : Program.Effect Op Error Db) : Prop :=
  ∀ (β : Type) (access : StoreOp β) (db : Db) (r : Except Error β) (db' : Db),
    effect β (.store access) db r db' → access.exec db = (r, db')

theorem executes_storeEffect : Executes storeEffect := fun _ _ _ _ _ h => h

section Always

variable {α β : Type} {db : Db} {effect : Program.Effect Op Error Db}
  {during : ∀ β : Type, Op β → Db → Prop} {post : Except Error α → Db → Prop}

/-- A program that starts with an access, by what the access answers. -/
theorem always_store {access : StoreOp β} {f : β → Prog α} (hexecutes : Executes effect)
    (hnow : during β (.store access) db)
    (hok : ∀ b, (access.exec db).1 = .ok b →
      Program.Always effect during (f b) (access.exec db).2 post)
    (herror : ∀ e, (access.exec db).1 = .error e → post (.error e) (access.exec db).2) :
    Program.Always effect during ((store access).bind f) db post := by
  refine Program.Always.step hnow ?_ ?_
  · intro e db' hanswered
    have hanswer := herror e
    rw [hexecutes _ _ _ _ _ hanswered] at hanswer
    exact hanswer rfl
  · intro b db' hanswered
    have hanswer := hok b
    rw [hexecutes _ _ _ _ _ hanswered] at hanswer
    exact hanswer rfl

/-- An access on its own. -/
theorem always_store_last {access : StoreOp α} (hexecutes : Executes effect)
    (hnow : during α (.store access) db) (hpost : post (access.exec db).1 (access.exec db).2) :
    Program.Always effect during (store access) db post := by
  refine Program.always_perform.2 ⟨hnow, fun r db' hanswered => ?_⟩
  rw [hexecutes _ _ _ _ _ hanswered] at hpost
  exact hpost

/-- A program that starts with a call outside the database. -/
theorem always_outside {op : Op β} {f : β → Prog α} (houtside : ¬IsAccess β op) (hnow : during β op db)
    (hok : ∀ b, Program.Always storeEffect during (f b) db post)
    (herror : ∀ e, post (.error e) db) :
    Program.Always storeEffect during ((call op).bind f) db post := by
  refine Program.Always.step hnow ?_ ?_
  · intro e db' hsame
    cases op with
    | store access => exact absurd trivial houtside
    | _ =>
      obtain rfl : db' = db := hsame
      exact herror e
  · intro b db' hsame
    cases op with
    | store access => exact absurd trivial houtside
    | _ =>
      obtain rfl : db' = db := hsame
      exact hok b

/-- A program that only accesses the database ends as its execution does. -/
theorem always_access {p : Prog α} (huses : Program.Uses IsAccess p) (db : Db) :
    Program.Always storeEffect Program.Anywhere p db fun r db' => runLocal p db = (r, db') := by
  induction p generalizing db with
  | ret a => rfl
  | throw e => rfl
  | call op k ih =>
    obtain ⟨hop, hk⟩ := huses
    refine ⟨trivial, fun r db' heffect => ?_⟩
    cases op with
    | store access =>
      have hrest := ih r (hk r) db'
      simp only [runLocal, Program.run, localHandler]
      rw [show access.exec db = (r, db') from heffect]
      exact hrest
    | _ => exact absurd hop id

end Always

/-- A run in which the clock reads `nowMs`, the notifier works and no other call succeeds. -/
def clockedHandler (nowMs : Nat) : Program.Handler Op Error Db := fun _ op db =>
  match op with
  | .store access => access.exec db
  | .now => (.ok nowMs, db)
  | .notify _ => (.ok (), db)
  | _ => (.error (.other "no such call"), db)

theorem runs_clockedHandler {α : Type} (nowMs : Nat) (p : Prog α) (db : Db) :
    Program.Runs (localEffect nowMs) p db (Program.run (clockedHandler nowMs) p db).1
      (Program.run (clockedHandler nowMs) p db).2 := by
  refine Program.runs_of_run (clockedHandler nowMs) id ?_ p db
  intro β op db
  cases op <;> first | rfl | exact ⟨rfl, rfl⟩

/-- A walk along legal moves is one change of state. -/
theorem walk_run {rowId : Nat} {m : Message} {db : Db} {path : List MessageState}
    (hget : db.messages.get? rowId = some m) (hpath : LegalPath m.direction m.state path) :
    runLocal (Program.forEach (fun state => store (.transitionMessage rowId state)) path) db =
      (.ok (), MessageRepository.setMessageState db rowId (path.getLastD m.state)) := by
  induction path generalizing db m with
  | nil =>
    simp [Program.forEach, MessageRepository.setMessageState_self hget]
  | cons next path ih =>
    obtain ⟨hne, hcan, hrest⟩ := hpath
    have hfits := canTransitionMessage_fits hcan
    have hnext := ih (MessageRepository.get?_setMessageState_self hget hfits) hrest
    have hmove := MessageRepository.transitionState_move hget hne hcan
    simp only [Program.forEach, Program.run_bind, runLocal_store, StoreOp.exec, hmove, hnext]
    rw [MessageRepository.setMessageState_setMessageState hget hfits (hrest.fits hfits),
      List.getLastD_cons]

end cemp.ckb
