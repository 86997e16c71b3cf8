import CempMobile.Database.Contacts
import CempMobile.Lib.Chains
import Mathlib.Data.List.Perm.Subperm

/-! The rotation lineages of the own profiles. -/

open cemp.core

namespace cemp.database

/-- What the statements of one call throw. -/
structure StatementFaults where
  BEGIN : Option Error
  SELECT : Option Error
  UPDATE : Option Error
  INSERT : Option Error
  COMMIT : Option Error

/-- A statement that may throw, and then changes nothing. -/
def Method.orThrow {β : Type} (fault : Option Error) (method : Method β) : Method β := fun db =>
  match fault with
  | some thrown => (.error thrown, db)
  | none => method db

/-- `transaction`: where the body or the `COMMIT` throws, `ROLLBACK` leaves the database as it was. -/
def Method.transaction {β : Type} (faults : StatementFaults) (body : Method β) : Method β := fun db =>
  match faults.BEGIN with
  | some thrown => (.error thrown, db)
  | none =>
    match body db with
    | (.error thrown, _) => (.error thrown, db)
    | (.ok value, db') =>
      match faults.COMMIT with
      | some thrown => (.error thrown, db)
      | none => (.ok value, db')

def ProfileState.text : ProfileState → String
  | active => "active"
  | rotated => "rotated"
  | revoked => "revoked"

/-- The profile that `rotate` is given. -/
structure Successor where
  profileIdHex : ProfileId
  typeIdHex : Option Bytes
  outpointTxHash : Option Hash
  outpointIndex : Option Nat

namespace ProfileRepository

def idText (profileIdHex : ProfileId) : String := "0x" ++ bytesToHex profileIdHex

def byId (db : Db) (profileIdHex : ProfileId) : Option (Nat × StoredProfile) :=
  db.profiles.first? fun p => p.profileIdHex == profileIdHex

/-- Whatever the `INSERT` throws, `create` throws its own error. -/
def createOrThrow (fault : Option Error) (input : StoredProfile) : Method StoredProfile := fun db =>
  match Method.orThrow (fault.map fun _ => .database .constraint_violation
    "profile insert failed (profile id already used?)") (create input) db with
  | (.error thrown, db') => (.error thrown, db')
  | (.ok _, db') => (.ok input, db')

def setState (db : Db) (selected : Nat → StoredProfile → Bool) (state : ProfileState) : Db :=
  { db with profiles := db.profiles.update selected (fun p => { p with state := state }) fun _ => rfl }

/-- A rotation marks the row it leaves behind. -/
def retire (db : Db) (id : Nat) : Db := setState db (fun rowId _ => rowId == id) .rotated

/-- The row that a rotation inserts. -/
def successorRow (old : StoredProfile) (successor : Successor) : StoredProfile where
  accountId := old.accountId
  profileIdHex := successor.profileIdHex
  typeIdHex := successor.typeIdHex
  outpointTxHash := successor.outpointTxHash
  outpointIndex := successor.outpointIndex
  state := .active
  previousProfileIdHex := some old.profileIdHex

def rotateBody (faults : StatementFaults) (oldProfileIdHex : ProfileId) (successor : Successor) :
    Method StoredProfile := fun db =>
  match faults.SELECT, byId db oldProfileIdHex with
  | some thrown, _ => (.error thrown, db)
  | none, none =>
    (.error (.database .not_found ("profile " ++ idText oldProfileIdHex ++ " does not exist")), db)
  | none, some (id, old) =>
    if old.state ≠ .active then
      (.error (.database .illegal_state_transition ("profile " ++ idText oldProfileIdHex ++ " is " ++
        old.state.text ++ ", only an active profile rotates")), db)
    else
      match faults.UPDATE with
      | some thrown => (.error thrown, db)
      | none =>
        createOrThrow faults.INSERT (successorRow old successor)
          (retire db id)

def rotate (faults : StatementFaults) (oldProfileIdHex : ProfileId) (successor : Successor) :
    Method StoredProfile :=
  .transaction faults (rotateBody faults oldProfileIdHex successor)

def markRevoked (faults : StatementFaults) (profileIdHex : ProfileId) : Method Unit :=
  .orThrow faults.UPDATE fun db =>
    if (byId db profileIdHex).isNone then
      (.error (.database .not_found ("profile " ++ idText profileIdHex ++ " does not exist")), db)
    else
      (.ok (), setState db (fun _ p => p.profileIdHex == profileIdHex) .revoked)

/-- The loop of `getLineage`, in at most `fuel` rounds: there is no answer where they do not
    suffice. `faults` is what the read of a round throws. -/
def lineageLoop (db : Db) (faults : Nat → Option Error) :
    Nat → List ProfileId → List StoredProfile → Option ProfileId →
      Option (Except Error (List StoredProfile))
  | _, _, lineage, none => some (.ok lineage)
  | 0, _, _, some _ => none
  | fuel + 1, seen, lineage, some cursor =>
    if cursor ∈ seen then
      some (.error (.database .constraint_violation "profile lineage contains a cycle"))
    else
      match faults seen.length, byId db cursor with
      | some thrown, _ => some (.error thrown)
      | none, none =>
        some (.error (.database .not_found ("lineage references unknown profile " ++ idText cursor)))
      | none, some (_, profile) =>
        lineageLoop db faults fuel (cursor :: seen) (profile :: lineage) profile.previousProfileIdHex

def getLineage (db : Db) (faults : Nat → Option Error) (fuel : Nat) (profileIdHex : ProfileId) :
    Option (Except Error (List StoredProfile)) :=
  lineageLoop db faults fuel [] [] (some profileIdHex)

/-- A call, with what its statements throw. -/
inductive Operation where
  | create (input : StoredProfile)
  | rotate (oldProfileIdHex : ProfileId) (successor : Successor)
  | markRevoked (profileIdHex : ProfileId)

/-- A profile that is created has no predecessor. -/
def Operation.Rooted : Operation → Prop
  | create input => input.previousProfileIdHex = none
  | _ => True

def perform (faults : StatementFaults) (db : Db) : Operation → Db
  | .create input => (createOrThrow faults.INSERT input db).2
  | .rotate oldProfileIdHex successor => (rotate faults oldProfileIdHex successor db).2
  | .markRevoked profileIdHex => (markRevoked faults profileIdHex db).2

/-- The databases that sequences of calls lead to, any of which may have failed. -/
inductive Reachable : Db → Prop where
  | empty : Reachable .empty
  | perform {db} {operation : Operation} (hdb : Reachable db) (hrooted : operation.Rooted)
    (faults : StatementFaults) : Reachable (perform faults db operation)

/-- A row that names another as its predecessor. -/
def Succeeds (db : Db) (old new : Nat × StoredProfile) : Prop :=
  old ∈ db.profiles.rows ∧ new ∈ db.profiles.rows ∧
    new.2.previousProfileIdHex = some old.2.profileIdHex

/-- A lineage: the rows that links connect. -/
def SameLineage (db : Db) : Nat × StoredProfile → Nat × StoredProfile → Prop :=
  Relation.EqvGen (Succeeds db)

/-- The path from a row without a predecessor to another. -/
inductive Path (db : Db) : List StoredProfile → Nat × StoredProfile → Prop where
  | root {row} (hrow : row ∈ db.profiles.rows) (hroot : row.2.previousProfileIdHex = none) :
    Path db [row.2] row
  | step {path old new} (hpath : Path db path old) (hsucceeds : Succeeds db old new) :
    Path db (path ++ [new.2]) new

/-- The invariant: a link leads to an earlier row that is not active, and no two lead to one row. -/
structure Linked (db : Db) : Prop where
  earlier : ∀ {row : Nat × StoredProfile} {previous : ProfileId}, row ∈ db.profiles.rows →
    row.2.previousProfileIdHex = some previous →
      ∃ old ∈ db.profiles.rows, old.1 < row.1 ∧ old.2.profileIdHex = previous ∧
        old.2.state ≠ .active
  single : ∀ {row row' : Nat × StoredProfile} {previous : ProfileId}, row ∈ db.profiles.rows →
    row' ∈ db.profiles.rows → row.2.previousProfileIdHex = some previous →
      row'.2.previousProfileIdHex = some previous → row = row'

def insertRow (db : Db) (input : StoredProfile) (fresh : db.profiles.Fresh input) : Db :=
  { db with profiles := db.profiles.insert input fresh }

variable {db : Db}

theorem mem_insertRow {input : StoredProfile} {fresh : db.profiles.Fresh input}
    {row : Nat × StoredProfile} : row ∈ (insertRow db input fresh).profiles.rows ↔
      row ∈ db.profiles.rows ∨ row = (db.profiles.nextId, input) :=
  @Table.mem_insert _ _ _ db.profiles _ _ fresh

theorem createOrThrow_cases (fault : Option Error) (input : StoredProfile) (db : Db) :
    (∃ thrown, createOrThrow fault input db = (.error thrown, db)) ∨
      ∃ fresh, createOrThrow fault input db = (.ok input, insertRow db input fresh) := by
  unfold createOrThrow Method.orThrow create
  cases fault with
  | some thrown => exact .inl ⟨_, rfl⟩
  | none =>
    by_cases fresh : db.profiles.Fresh input
    · refine .inr ⟨fresh, ?_⟩
      simp only [Option.map_none, dif_pos fresh]
      rfl
    · refine .inl ⟨.database .constraint_violation
        "profile insert failed (profile id already used?)", ?_⟩
      simp only [Option.map_none, dif_neg fresh]

theorem mem_of_byId {profileIdHex : ProfileId} {row : Nat × StoredProfile}
    (h : byId db profileIdHex = some row) :
    row ∈ db.profiles.rows ∧ row.2.profileIdHex = profileIdHex := by
  obtain ⟨hrow, hid⟩ := Table.mem_of_first? h
  exact ⟨hrow, beq_iff_eq.1 hid⟩

theorem byId_of_mem {row : Nat × StoredProfile} (hrow : row ∈ db.profiles.rows) :
    byId db row.2.profileIdHex = some row := by
  refine Table.first?_of_key (fun p => ?_) hrow rfl
  rw [beq_iff_eq]
  exact Option.some_inj.symm

theorem eq_of_profileIdHex {row row' : Nat × StoredProfile} (hrow : row ∈ db.profiles.rows)
    (hrow' : row' ∈ db.profiles.rows) (h : row.2.profileIdHex = row'.2.profileIdHex) : row = row' :=
  Table.eq_of_key hrow hrow' (congrArg some h) (Option.some_ne_none _)

theorem rotateBody_cases (faults : StatementFaults) (oldProfileIdHex : ProfileId)
    (successor : Successor) (db : Db) :
    (∃ thrown db', rotateBody faults oldProfileIdHex successor db = (.error thrown, db')) ∨
      ∃ row ∈ db.profiles.rows, row.2.state = .active ∧
        rotateBody faults oldProfileIdHex successor db =
          createOrThrow faults.INSERT (successorRow row.2 successor) (retire db row.1) := by
  unfold rotateBody
  cases faults.SELECT with
  | some thrown => exact .inl ⟨_, _, rfl⟩
  | none =>
    cases hbyId : byId db oldProfileIdHex with
    | none => exact .inl ⟨_, _, rfl⟩
    | some row =>
      by_cases hactive : row.2.state = .active
      · cases faults.UPDATE with
        | some thrown => exact .inl ⟨thrown, db, if_neg (not_not.2 hactive)⟩
        | none =>
          exact .inr ⟨row, (mem_of_byId hbyId).1, hactive, if_neg (not_not.2 hactive)⟩
      · exact .inl ⟨_, _, if_pos hactive⟩

/-- A rotation fails and leaves the database, or it has marked an active profile and stored its
    successor. -/
theorem rotate_cases (faults : StatementFaults) (oldProfileIdHex : ProfileId) (successor : Successor)
    (db : Db) :
    (∃ thrown, rotate faults oldProfileIdHex successor db = (.error thrown, db)) ∨
      ∃ row ∈ db.profiles.rows, row.2.state = .active ∧
        ∃ fresh, rotate faults oldProfileIdHex successor db =
          (.ok (successorRow row.2 successor),
            insertRow (retire db row.1) (successorRow row.2 successor) fresh) := by
  unfold rotate Method.transaction
  cases faults.BEGIN with
  | some thrown => exact .inl ⟨thrown, rfl⟩
  | none =>
    rcases rotateBody_cases faults oldProfileIdHex successor db with ⟨thrown, db', heq⟩ |
      ⟨row, hrow, hactive, heq⟩
    · exact .inl ⟨thrown, by rw [heq]⟩
    · rcases createOrThrow_cases faults.INSERT (successorRow row.2 successor)
        (retire db row.1) with ⟨thrown, hcreate⟩ | ⟨fresh, hcreate⟩
      · exact .inl ⟨thrown, by rw [heq, hcreate]⟩
      · cases faults.COMMIT with
        | some thrown => exact .inl ⟨thrown, by rw [heq, hcreate]⟩
        | none => exact .inr ⟨row, hrow, hactive, fresh, by rw [heq, hcreate]⟩

theorem linked_empty : Linked .empty := by
  constructor
  · intro row previous hrow
    cases hrow
  · intro row row' previous hrow
    cases hrow

/-- What a change of states keeps of a row. -/
theorem mem_setState {selected : Nat → StoredProfile → Bool} {state : ProfileState}
    (hstate : state ≠ .active) {row : Nat × StoredProfile}
    (hrow : row ∈ (setState db selected state).profiles.rows) :
    ∃ old ∈ db.profiles.rows, row.1 = old.1 ∧ row.2.profileIdHex = old.2.profileIdHex ∧
      row.2.previousProfileIdHex = old.2.previousProfileIdHex ∧
      (old.2.state ≠ .active → row.2.state ≠ .active) := by
  obtain ⟨a, hold, hvalue⟩ := Table.mem_update.1 hrow
  refine ⟨(row.1, a), hold, rfl, ?_⟩
  split at hvalue
  · rw [hvalue]
    exact ⟨rfl, rfl, fun _ => hstate⟩
  · rw [hvalue]
    exact ⟨rfl, rfl, id⟩

theorem exists_mem_setState {selected : Nat → StoredProfile → Bool} {state : ProfileState}
    (hstate : state ≠ .active) {old : Nat × StoredProfile} (hold : old ∈ db.profiles.rows) :
    ∃ row ∈ (setState db selected state).profiles.rows, row.1 = old.1 ∧
      row.2.profileIdHex = old.2.profileIdHex ∧
      (selected old.1 old.2 = true ∨ old.2.state ≠ .active → row.2.state ≠ .active) := by
  refine ⟨(old.1, _), Table.mem_update.2 ⟨old.2, hold, rfl⟩, rfl, ?_⟩
  by_cases hselected : selected old.1 old.2 = true
  · rw [if_pos hselected]
    exact ⟨rfl, fun _ => hstate⟩
  · rw [if_neg hselected]
    exact ⟨rfl, fun h => h.resolve_left hselected⟩

theorem Linked.setState (h : Linked db) (selected : Nat → StoredProfile → Bool) {state : ProfileState}
    (hstate : state ≠ .active) : Linked (setState db selected state) := by
  constructor
  · intro row previous hrow hprevious
    obtain ⟨before, hbefore, hid, -, hlink, -⟩ := mem_setState hstate hrow
    obtain ⟨old, hold, hlt, hnamed, hinactive⟩ := h.earlier hbefore (hlink ▸ hprevious)
    obtain ⟨after, hafter, hid', hnamed', hinactive'⟩ := exists_mem_setState hstate hold
    exact ⟨after, hafter, by rw [hid, hid']; exact hlt, hnamed'.trans hnamed,
      hinactive' (.inr hinactive)⟩
  · intro row row' previous hrow hrow' hprevious hprevious'
    obtain ⟨before, hbefore, hid, -, hlink, -⟩ := mem_setState hstate hrow
    obtain ⟨before', hbefore', hid', -, hlink', -⟩ := mem_setState hstate hrow'
    have hsame := h.single hbefore hbefore' (hlink ▸ hprevious) (hlink' ▸ hprevious')
    exact Table.eq_of_id hrow hrow' (hid.trans ((congrArg Prod.fst hsame).trans hid'.symm))

/-- A row is stored that has no predecessor, or one that is not active and has no successor. -/
theorem Linked.insert (h : Linked db) {input : StoredProfile} (fresh : db.profiles.Fresh input)
    (hinput : ∀ previous, input.previousProfileIdHex = some previous →
      (∃ old ∈ db.profiles.rows, old.2.profileIdHex = previous ∧ old.2.state ≠ .active) ∧
        ∀ row ∈ db.profiles.rows, row.2.previousProfileIdHex ≠ some previous) :
    Linked (insertRow db input fresh) := by
  constructor
  · intro row previous hrow hprevious
    rcases mem_insertRow.1 hrow with hold | rfl
    · obtain ⟨old, hold, hlt, hnamed, hinactive⟩ := h.earlier hold hprevious
      exact ⟨old, mem_insertRow.2 (.inl hold), hlt, hnamed, hinactive⟩
    · obtain ⟨⟨old, hold, hnamed, hinactive⟩, -⟩ := hinput previous hprevious
      exact ⟨old, mem_insertRow.2 (.inl hold), Table.lt_nextId hold, hnamed, hinactive⟩
  · intro row row' previous hrow hrow' hprevious hprevious'
    rcases mem_insertRow.1 hrow with hold | rfl
    · rcases mem_insertRow.1 hrow' with hold' | rfl
      · exact h.single hold hold' hprevious hprevious'
      · exact absurd hprevious ((hinput previous hprevious').2 row hold)
    · rcases mem_insertRow.1 hrow' with hold' | rfl
      · exact absurd hprevious' ((hinput previous hprevious).2 row' hold')
      · rfl

/-- No row names an active one. -/
theorem Linked.unnamed (h : Linked db) {active row : Nat × StoredProfile}
    (hmem : active ∈ db.profiles.rows) (hactive : active.2.state = .active)
    (hrow : row ∈ db.profiles.rows) :
    row.2.previousProfileIdHex ≠ some active.2.profileIdHex := by
  intro hprevious
  obtain ⟨old, hold, -, hnamed, hinactive⟩ := h.earlier hrow hprevious
  rw [eq_of_profileIdHex hold hmem hnamed] at hinactive
  exact hinactive hactive

theorem Linked.perform (h : Linked db) {operation : Operation} (hrooted : operation.Rooted)
    (faults : StatementFaults) : Linked (perform faults db operation) := by
  cases operation with
  | create input =>
    rcases createOrThrow_cases faults.INSERT input db with ⟨thrown, heq⟩ | ⟨fresh, heq⟩
    · simpa only [ProfileRepository.perform, heq] using h
    · simp only [ProfileRepository.perform, heq]
      refine h.insert fresh fun previous hprevious => ?_
      have hroot : input.previousProfileIdHex = none := hrooted
      rw [hroot] at hprevious
      cases hprevious
  | rotate oldProfileIdHex successor =>
    rcases rotate_cases faults oldProfileIdHex successor db with ⟨thrown, heq⟩ |
      ⟨row, hrow, hactive, fresh, heq⟩
    · simpa only [ProfileRepository.perform, heq] using h
    · simp only [ProfileRepository.perform, heq]
      have hrotated : ProfileState.rotated ≠ .active := by decide
      refine (h.setState _ hrotated).insert fresh fun previous hprevious => ?_
      obtain rfl := Option.some.inj hprevious
      constructor
      · obtain ⟨after, hafter, -, hnamed, hinactive⟩ :=
          @exists_mem_setState db (fun rowId _ => rowId == row.1) _ hrotated row hrow
        exact ⟨after, hafter, hnamed, hinactive (.inl (beq_self_eq_true _))⟩
      · intro other hother hnames
        obtain ⟨before, hbefore, -, -, hlink, -⟩ := mem_setState hrotated hother
        exact h.unnamed hrow hactive hbefore (hlink ▸ hnames)
  | markRevoked profileIdHex =>
    unfold ProfileRepository.perform markRevoked Method.orThrow
    cases faults.UPDATE with
    | some thrown => exact h
    | none =>
      dsimp only
      split
      · exact h
      · exact h.setState _ (by decide)

theorem Reachable.linked (h : Reachable db) : Linked db := by
  induction h with
  | empty => exact linked_empty
  | perform _ hrooted faults ih => exact ih.perform hrooted faults

theorem Linked.leftUnique (_h : Linked db) : Relator.LeftUnique (Succeeds db) := by
  rintro old old' new ⟨hold, -, hlink⟩ ⟨hold', -, hlink'⟩
  exact eq_of_profileIdHex hold hold' (Option.some.inj (hlink.symm.trans hlink'))

theorem Linked.rightUnique (h : Linked db) : Relator.RightUnique (Succeeds db) := by
  rintro old new new' ⟨-, hnew, hlink⟩ ⟨-, hnew', hlink'⟩
  exact h.single hnew hnew' hlink hlink'

/-- An active row is the tip: all of its lineage leads to it. -/
theorem Linked.leads_to_active (h : Linked db) {active row : Nat × StoredProfile}
    (hmem : active ∈ db.profiles.rows) (hactive : active.2.state = .active)
    (hsame : SameLineage db active row) : Relation.ReflTransGen (Succeeds db) row active := by
  refine Relation.EqvGen.leads_to_end h.leftUnique h.rightUnique (fun next hnext => ?_) hsame
  exact h.unnamed hmem hactive hnext.2.1 hnext.2.2

theorem Linked.active_unique (h : Linked db) {active active' : Nat × StoredProfile}
    (hmem : active ∈ db.profiles.rows) (hmem' : active' ∈ db.profiles.rows)
    (hactive : active.2.state = .active) (hactive' : active'.2.state = .active)
    (hsame : SameLineage db active active') : active = active' := by
  rcases Relation.ReflTransGen.cases_head (h.leads_to_active hmem hactive hsame) with heq |
    ⟨next, hnext, -⟩
  · exact heq.symm
  · exact absurd hnext.2.2 (h.unnamed hmem' hactive' hnext.2.1)

/-- Of the rounds that the loop has gone through, each has read another row. -/
theorem lineageLoop_isSome (faults : Nat → Option Error) {fuel : Nat} {seen : List ProfileId}
    {lineage : List StoredProfile} {cursor : Option ProfileId} (hnodup : seen.Nodup)
    (hseen : seen ⊆ db.profiles.rows.map (·.2.profileIdHex))
    (hfuel : db.profiles.rows.length < seen.length + fuel) :
    (lineageLoop db faults fuel seen lineage cursor).isSome := by
  induction fuel generalizing seen lineage cursor with
  | zero =>
    have hlength := (List.subperm_of_subset hnodup hseen).length_le
    rw [List.length_map] at hlength
    omega
  | succ fuel ih =>
    cases cursor with
    | none => rfl
    | some cursor =>
      unfold lineageLoop
      split
      · rfl
      · next hnew =>
        split
        · rfl
        · rfl
        · next row hread =>
          obtain ⟨hrow, hid⟩ := mem_of_byId hread
          refine ih (List.nodup_cons.2 ⟨hnew, hnodup⟩) (List.cons_subset.2 ⟨?_, hseen⟩) ?_
          · exact List.mem_map.2 ⟨_, hrow, hid⟩
          · rw [List.length_cons]
            omega

theorem getLineage_isSome (db : Db) (faults : Nat → Option Error) (profileIdHex : ProfileId) :
    (getLineage db faults (db.profiles.rows.length + 1) profileIdHex).isSome :=
  lineageLoop_isSome faults .nil (List.nil_subset _) (by simp)

/-- From any row the loop returns the path to it in front of what it has collected. By induction on
    the id: the rows that were seen are later ones. -/
theorem Linked.lineageLoop_path (h : Linked db) {row : Nat × StoredProfile} {fuel : Nat}
    {seen : List ProfileId} {lineage : List StoredProfile} (hrow : row ∈ db.profiles.rows)
    (hseen : ∀ later ∈ db.profiles.rows, later.2.profileIdHex ∈ seen → row.1 < later.1)
    (hsome : (lineageLoop db (fun _ => none) fuel seen lineage (some row.2.profileIdHex)).isSome) :
    ∃ path, Path db path row ∧
      lineageLoop db (fun _ => none) fuel seen lineage (some row.2.profileIdHex) =
        some (.ok (path ++ lineage)) := by
  induction fuel generalizing row seen lineage with
  | zero => cases hsome
  | succ fuel ih =>
    have hnew : row.2.profileIdHex ∉ seen := fun hmem => Nat.lt_irrefl _ (hseen row hrow hmem)
    have hround : lineageLoop db (fun _ => none) (fuel + 1) seen lineage (some row.2.profileIdHex) =
        lineageLoop db (fun _ => none) fuel (row.2.profileIdHex :: seen) (row.2 :: lineage)
          row.2.previousProfileIdHex := by
      rw [lineageLoop, if_neg hnew, byId_of_mem hrow]
    rw [hround] at hsome ⊢
    cases hprevious : row.2.previousProfileIdHex with
    | none =>
      exact ⟨[row.2], .root hrow hprevious, by simp only [lineageLoop]; rfl⟩
    | some previous =>
      obtain ⟨old, hold, hlt, rfl, -⟩ := h.earlier hrow hprevious
      rw [hprevious] at hsome
      have hseen' : ∀ later ∈ db.profiles.rows,
          later.2.profileIdHex ∈ row.2.profileIdHex :: seen → old.1 < later.1 := by
        intro later hlater hmem
        rcases List.mem_cons.1 hmem with hsame | hmem
        · exact eq_of_profileIdHex hlater hrow hsame ▸ hlt
        · exact Nat.lt_trans hlt (hseen later hlater hmem)
      obtain ⟨path, hpath, hloop⟩ := ih hold hseen' hsome
      refine ⟨path ++ [row.2], .step hpath ⟨hold, hrow, hprevious⟩, hloop.trans ?_⟩
      rw [List.append_assoc, List.singleton_append]

theorem Linked.getLineage_path (h : Linked db) {row : Nat × StoredProfile}
    (hrow : row ∈ db.profiles.rows) :
    ∃ path, Path db path row ∧ getLineage db (fun _ => none) (db.profiles.rows.length + 1)
      row.2.profileIdHex = some (.ok path) := by
  obtain ⟨path, hpath, hloop⟩ := h.lineageLoop_path hrow (fun _ _ hmem => absurd hmem List.not_mem_nil)
    (getLineage_isSome db (fun _ => none) row.2.profileIdHex)
  exact ⟨path, hpath, by rw [getLineage, hloop, List.append_nil]⟩

theorem rotate_error {faults : StatementFaults} {oldProfileIdHex : ProfileId} {successor : Successor}
    {db' : Db} {thrown : Error}
    (h : rotate faults oldProfileIdHex successor db = (.error thrown, db')) : db' = db := by
  rcases rotate_cases faults oldProfileIdHex successor db with ⟨thrown', heq⟩ | ⟨row, -, -, fresh, heq⟩
  · rw [heq] at h
    exact (congrArg Prod.snd h).symm
  · rw [heq] at h
    cases h

/-- Whatever the calls and their failures were, the active profile of a lineage is its only one and
    its tip, and the lineage of a profile is read as the path to it. A rotation that fails changes
    nothing, and of any rows a lineage is read in as many rounds as there are rows and one. -/
theorem lineages_sound :
    (∀ db, Reachable db →
      (∀ active ∈ db.profiles.rows, active.2.state = .active →
        (∀ row, ¬ Succeeds db active row) ∧
        ∀ row, SameLineage db active row → Relation.ReflTransGen (Succeeds db) row active ∧
          (row ∈ db.profiles.rows → row.2.state = .active → active = row)) ∧
      ∀ row ∈ db.profiles.rows, ∃ path, Path db path row ∧
        getLineage db (fun _ => none) (db.profiles.rows.length + 1) row.2.profileIdHex =
          some (.ok path)) ∧
    (∀ db faults oldProfileIdHex successor db' thrown,
      rotate faults oldProfileIdHex successor db = (.error thrown, db') → db' = db) ∧
    ∀ db faults profileIdHex,
      (getLineage db faults (db.profiles.rows.length + 1) profileIdHex).isSome := by
  refine ⟨fun db hdb => ⟨?_, ?_⟩, ?_, getLineage_isSome⟩
  · intro active hmem hactive
    have hlinked := hdb.linked
    refine ⟨fun row hsucceeds => hlinked.unnamed hmem hactive hsucceeds.2.1 hsucceeds.2.2, ?_⟩
    intro row hsame
    exact ⟨hlinked.leads_to_active hmem hactive hsame,
      fun hrow hrowActive => hlinked.active_unique hmem hrow hactive hrowActive hsame⟩
  · intro row hrow
    exact hdb.linked.getLineage_path hrow
  · intro db faults oldProfileIdHex successor db' thrown h
    exact rotate_error h

def noFaults : StatementFaults := ⟨none, none, none, none, none⟩

/-- A profile that was created and rotated. -/
def rotatedOnce : Db :=
  perform noFaults (perform noFaults .empty (.create ⟨1, [1], none, none, none, .active, none⟩))
    (.rotate [1] ⟨[2], none, none, none⟩)

theorem lineages_sound_sample :
    (2, (⟨1, [2], none, none, none, .active, some [1]⟩ : StoredProfile)) ∈ rotatedOnce.profiles.rows ∧
    (∀ row, ¬ Succeeds rotatedOnce (2, ⟨1, [2], none, none, none, .active, some [1]⟩) row) ∧
    ∃ path, Path rotatedOnce path (2, ⟨1, [2], none, none, none, .active, some [1]⟩) ∧
      getLineage rotatedOnce (fun _ => none) 3 [2] = some (.ok path) := by
  have hrooted : (Operation.create ⟨1, [1], none, none, none, .active, none⟩).Rooted := rfl
  have hrotated : (Operation.rotate [1] ⟨[2], none, none, none⟩).Rooted := trivial
  have hreachable : Reachable rotatedOnce :=
    .perform (.perform .empty hrooted noFaults) hrotated noFaults
  have hmem : (2, (⟨1, [2], none, none, none, .active, some [1]⟩ : StoredProfile)) ∈
      rotatedOnce.profiles.rows := by decide +kernel
  obtain ⟨hactive, hpath⟩ := lineages_sound.1 rotatedOnce hreachable
  exact ⟨hmem, (hactive _ hmem rfl).1, hpath _ hmem⟩

end ProfileRepository

end cemp.database
