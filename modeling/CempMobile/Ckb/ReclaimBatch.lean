import CempMobile.Ckb.Lifecycle
import CempMobile.Ckb.Local
import CempMobile.Ckb.PublisherSteps
import CempMobile.Database.Rows
import CempMobile.Database.Standing

open cemp.core cemp.database cemp.database.MessageRepository

namespace cemp.ckb

/-- A wallet's database, with what its node has reported and its signer has signed. -/
structure ReclaimWorld where
  db : Db
  dead : List OutPoint
  /-- The cells the node reported live or dead in the present pass. -/
  answered : List OutPoint
  committed : List Hash
  signed : List Transaction

/-- What is learnt from the answer of a call. -/
def ReclaimWorld.observe : {β : Type} → Op β → Except Error β → ReclaimWorld → ReclaimWorld
  | _, .getLiveCell outPoint, .ok (.live _), w => { w with answered := outPoint :: w.answered }
  | _, .getLiveCell outPoint, .ok .dead, w =>
    { w with dead := outPoint :: w.dead, answered := outPoint :: w.answered }
  | _, .getTransaction txHash, .ok .committed, w => { w with committed := txHash :: w.committed }
  | _, .signTransaction _, .ok tx, w => { w with signed := tx :: w.signed }
  | _, _, _, w => w

/-- The signer signs what it is given. A hash commits to its transaction: one that is journaled is
    journaled for a reclaim. -/
def SignsHonestly : {β : Type} → Op β → Except Error β → Db → Prop
  | _, .signTransaction tx, .ok signed, db =>
    signed.toRawTransaction = tx ∧
      ∀ record ∈ db.journal, record.txHash = signed.hash → record.purpose.startsWith .reclaim = true
  | _, _, _, _ => True

/-- The steps of a reclaim batch. Whatever the node answers is allowed. -/
def reclaimEffect : Program.Effect Op Error ReclaimWorld := fun _ op w answer w' =>
  match op with
  | .store access => answer = (access.exec w.db).1 ∧ w' = { w with db := (access.exec w.db).2 }
  | op => SignsHonestly op answer w.db ∧ w' = w.observe op answer

/-- What a batch keeps: reports are not forgotten, the journal only grows, and no message's chain
    reference changes. -/
structure Grows (w w' : ReclaimWorld) : Prop where
  dead : w.dead ⊆ w'.dead
  answered : w.answered ⊆ w'.answered
  committed : w.committed ⊆ w'.committed
  signed : w.signed ⊆ w'.signed
  journal : w.db.journal ⊆ w'.db.journal
  chainRefs : w'.db.chainRefs = w.db.chainRefs

/-- The batch that a pass resumes: the latest journaled one, if it is still submitted. -/
def resumedBatch (db : Db) : Option OutgoingTransaction :=
  (OutgoingTransactionRepository.latestByPurposePrefix db .reclaim).filter
    fun tx => tx.state == .submitted

/-- What `listOutgoingByState` answers. -/
def listedAt (db : Db) (state : MessageState) : List LifecycleMessage :=
  (selectByState db [state] 500).map fun row => ⟨row.1, row.2.state, lifecycleChainRef db row.1⟩

/-- The rows a pass without a batch to resume collects. -/
def reclaimCandidates (db : Db) : List (Nat × OutPoint) :=
  withChainRef (listedAt db .reclaim_queued ++ listedAt db .reclaim_pending)

/-- A pass collects no queued row, or few enough that all rows then waiting can be listed. -/
def BatchFits (db : Db) : Prop :=
  withChainRef (listedAt db .reclaim_queued) = [] ∨
    (db.rowsAt .reclaim_pending).length + (withChainRef (listedAt db .reclaim_queued)).length ≤ 500

/-- What a row is reclaimed on: its cell was reported dead, or the transaction of a journaled
    batch that names the row spends the cell, and was reported committed. -/
def Spent (w : ReclaimWorld) (rowId : Nat) (cell : OutPoint) : Prop :=
  cell ∈ w.dead ∨ ∃ record ∈ w.db.journal, ∃ ids, record.purpose = .reclaim ids ∧ rowId ∈ ids ∧
    record.txHash ∈ w.committed ∧ ∃ tx ∈ w.signed, tx.hash = record.txHash ∧ cell ∈ tx.inputs

/-- Why a pass may move a row: it was told that the row's cell is live or dead, or it resumes a
    batch that names the row. -/
def Handled (w₀ w : ReclaimWorld) (rowId : Nat) : Prop :=
  (∃ cell, lifecycleChainRef w.db rowId = some cell ∧ cell ∈ w.answered) ∨
    ∃ record, resumedBatch w₀.db = some record ∧ rowId ∈ parseReclaimPurpose record.purpose

/-- Every submitted batch is the latest one, and spends the cells of the rows it names. -/
structure Journaled (w : ReclaimWorld) : Prop where
  latest : ∀ r ∈ w.db.outgoingTransactions.rows, r.2.purpose.startsWith .reclaim = true →
    r.2.state = .submitted → ∀ r' ∈ w.db.outgoingTransactions.rows,
      r'.2.purpose.startsWith .reclaim = true → r'.1 ≤ r.1
  spends : ∀ r ∈ w.db.outgoingTransactions.rows, ∀ ids, r.2.purpose = .reclaim ids →
    r.2.state = .submitted → ∃ tx ∈ w.signed, tx.hash = r.2.txHash ∧
      ∀ rowId ∈ ids, ∃ cell, lifecycleChainRef w.db rowId = some cell ∧ cell ∈ tx.inputs

/-- What holds of a pass wherever it is. -/
structure Within (w₀ w : ReclaimWorld) : Prop where
  journaled : Journaled w
  grows : Grows w₀ w
  rows : ∀ rowId, w.db.stateOf rowId = w₀.db.stateOf rowId ∨
    Handled w₀ w rowId ∧ (w.db.stateOf rowId = some .reclaimed →
      ∃ cell, lifecycleChainRef w.db rowId = some cell ∧ Spent w rowId cell)

/-- What a pass has done before it journals its batch: it moved candidates forward. -/
structure Collected (w₀ w : ReclaimWorld) : Prop extends Within w₀ w where
  unchanged : w.db.outgoingTransactions = w₀.db.outgoingTransactions
  forward : ∀ rowId, w.db.stateOf rowId = w₀.db.stateOf rowId ∨
    rowId ∈ (reclaimCandidates w₀.db).map (·.1) ∧
      (w.db.stateOf rowId = some .reclaimed ∨
        w₀.db.stateOf rowId = some .reclaim_queued ∧ w.db.stateOf rowId = some .reclaim_pending)

section Rules

variable {α β : Type} {w w' : ReclaimWorld} {during : ∀ β : Type, Op β → ReclaimWorld → Prop}
  {post : Except Error α → ReclaimWorld → Prop}

theorem Grows.refl (w : ReclaimWorld) : Grows w w := by
  constructor <;> first | exact List.Subset.refl _ | rfl

theorem Grows.trans {w'' : ReclaimWorld} (h : Grows w w') (h' : Grows w' w'') : Grows w w'' where
  dead := List.Subset.trans h.dead h'.dead
  answered := List.Subset.trans h.answered h'.answered
  committed := List.Subset.trans h.committed h'.committed
  signed := List.Subset.trans h.signed h'.signed
  journal := List.Subset.trans h.journal h'.journal
  chainRefs := h'.chainRefs.trans h.chainRefs

theorem lifecycleChainRef_congr {db db' : Db} (h : db'.chainRefs = db.chainRefs) (rowId : Nat) :
    lifecycleChainRef db' rowId = lifecycleChainRef db rowId := by
  unfold lifecycleChainRef chainRef?
  rw [h]

theorem Grows.chainRef (h : Grows w w') (rowId : Nat) :
    lifecycleChainRef w'.db rowId = lifecycleChainRef w.db rowId :=
  lifecycleChainRef_congr h.chainRefs rowId

/-- A call leaves the database. -/
theorem db_observe (op : Op β) (answer : Except Error β) (w : ReclaimWorld) :
    (w.observe op answer).db = w.db := by
  cases op with
  | getLiveCell outPoint =>
    cases answer with
    | ok status => cases status <;> rfl
    | error e => rfl
  | getTransaction txHash =>
    cases answer with
    | ok status => cases status <;> rfl
    | error e => rfl
  | signTransaction tx => cases answer <;> rfl
  | _ => rfl

theorem grows_observe (op : Op β) (answer : Except Error β) (w : ReclaimWorld) :
    Grows w (w.observe op answer) := by
  cases op with
  | getLiveCell outPoint =>
    cases answer with
    | ok status =>
      cases status with
      | live cell => exact { Grows.refl w with answered := List.subset_cons_self _ _ }
      | dead =>
        exact { Grows.refl w with
          dead := List.subset_cons_self _ _
          answered := List.subset_cons_self _ _ }
      | unknown => exact .refl w
    | error e => exact .refl w
  | getTransaction txHash =>
    cases answer with
    | ok status =>
      cases status with
      | committed => exact { Grows.refl w with committed := List.subset_cons_self _ _ }
      | _ => exact .refl w
    | error e => exact .refl w
  | signTransaction tx =>
    cases answer with
    | ok signed => exact { Grows.refl w with signed := List.subset_cons_self _ _ }
    | error e => exact .refl w
  | _ => exact .refl w

/-- An access that writes no chain reference. -/
theorem grows_exec {access : StoreOp β} (hrefers : access.refers = none) (w : ReclaimWorld) :
    Grows w { w with db := (access.exec w.db).2 } where
  dead := List.Subset.refl _
  answered := List.Subset.refl _
  committed := List.Subset.refl _
  signed := List.Subset.refl _
  journal := by
    obtain h | ⟨tx, -, h⟩ := journal_exec access w.db
    · exact h ▸ List.Subset.refl _
    · exact h ▸ List.subset_append_left _ _
  chainRefs := chainRefs_exec hrefers w.db

/-- A batch that goes on with an access. -/
theorem always_reclaim_store {access : StoreOp β} {f : β → Prog α} (hnow : during β (.store access) w)
    (hok : ∀ b, (access.exec w.db).1 = .ok b →
      Program.Always reclaimEffect during (f b) { w with db := (access.exec w.db).2 } post)
    (herror : ∀ e, (access.exec w.db).1 = .error e →
      post (.error e) { w with db := (access.exec w.db).2 }) :
    Program.Always reclaimEffect during ((store access).bind f) w post := by
  refine Program.Always.step hnow ?_ ?_
  · rintro e w' ⟨hanswer, rfl⟩
    exact herror e hanswer.symm
  · rintro b w' ⟨hanswer, rfl⟩
    exact hok b hanswer.symm

/-- A batch that ends with an access. -/
theorem always_reclaim_last {access : StoreOp α} (hnow : during α (.store access) w)
    (hpost : post (access.exec w.db).1 { w with db := (access.exec w.db).2 }) :
    Program.Always reclaimEffect during (store access) w post := by
  refine Program.always_perform.2 ⟨hnow, ?_⟩
  rintro answer w' ⟨rfl, rfl⟩
  exact hpost

/-- What a call to the node or the signer does. -/
theorem reclaimEffect_call {op : Op β} {answer : Except Error β} (hop : ¬IsAccess β op)
    (heffect : reclaimEffect β op w answer w') :
    SignsHonestly op answer w.db ∧ w' = w.observe op answer := by
  cases op with
  | store access => exact absurd trivial hop
  | _ => exact heffect

/-- A batch that goes on with a call to the node or the signer. -/
theorem always_reclaim_call {op : Op β} {f : β → Prog α} (hop : ¬IsAccess β op)
    (hnow : during β op w)
    (hok : ∀ b, SignsHonestly op (.ok b) w.db →
      Program.Always reclaimEffect during (f b) (w.observe op (.ok b)) post)
    (herror : ∀ e, post (.error e) (w.observe op (.error e))) :
    Program.Always reclaimEffect during ((call op).bind f) w post := by
  refine Program.Always.step hnow ?_ ?_
  · intro e w' heffect
    obtain ⟨-, rfl⟩ := reclaimEffect_call hop heffect
    exact herror e
  · intro b w' heffect
    obtain ⟨hsigns, rfl⟩ := reclaimEffect_call hop heffect
    exact hok b hsigns

/-- What only depends on the database, and on reports that are there, is kept by every call. -/
def Steady (known : ReclaimWorld → Prop) : Prop :=
  ∀ w w', w'.db = w.db → Grows w w' → known w → known w'

theorem Steady.observe {known : ReclaimWorld → Prop} (h : Steady known) (hw : known w) (op : Op β)
    (answer : Except Error β) : known (w.observe op answer) :=
  h _ _ (db_observe op answer w) (grows_observe op answer w) hw

/-- Programs that only call the node and the signer's wallet. -/
theorem Steady.always {known : ReclaimWorld → Prop} (h : Steady known) {p : Prog α}
    (huses : Program.Uses (fun β op => ¬IsAccess β op) p) (hw : known w) :
    Program.Always reclaimEffect (fun _ _ => known) p w fun _ w' => known w' := by
  refine huses.always (fun β op w hop hw => ⟨hw, fun answer w' heffect => ?_⟩) hw
  obtain ⟨-, rfl⟩ := reclaimEffect_call hop heffect
  exact h.observe hw op answer

end Rules

section Within

variable {β : Type} {w₀ w w' : ReclaimWorld} {rowId : Nat} {cell : OutPoint}

theorem Spent.grows (hgrows : Grows w w') (h : Spent w rowId cell) : Spent w' rowId cell := by
  obtain hdead | ⟨record, hrecord, ids, hpurpose, hid, hcommitted, tx, htx, hhash, hspends⟩ := h
  · exact .inl (hgrows.dead hdead)
  · exact .inr ⟨record, hgrows.journal hrecord, ids, hpurpose, hid, hgrows.committed hcommitted, tx,
      hgrows.signed htx, hhash, hspends⟩

theorem Handled.grows (hgrows : Grows w w') (h : Handled w₀ w rowId) : Handled w₀ w' rowId := by
  obtain ⟨cell, href, hanswered⟩ | hnamed := h
  · exact .inl ⟨cell, (hgrows.chainRef rowId).trans href, hgrows.answered hanswered⟩
  · exact .inr hnamed

/-- The journal holds the records from before, and none of them was made submitted. -/
theorem Journaled.grows (h : Journaled w) (hgrows : Grows w w')
    (hrecords : ∀ r ∈ w'.db.outgoingTransactions.rows, ∃ r' ∈ w.db.outgoingTransactions.rows,
      r'.1 = r.1 ∧ r'.2.core = r.2.core ∧ (r = r' ∨ r.2.state ≠ .submitted)) : Journaled w' where
  latest r hr hreclaim hstate r' hr' hreclaim' := by
    obtain ⟨old, hold, -, -, hcases⟩ := hrecords r hr
    obtain rfl := hcases.resolve_right fun h => h hstate
    obtain ⟨old', hold', hid, hcore, -⟩ := hrecords r' hr'
    have hpurpose : old'.2.core.purpose = r'.2.core.purpose := by rw [hcore]
    rw [← hid]
    refine h.latest r hold hreclaim hstate old' hold' ?_
    exact (congrArg (fun purpose => TxPurpose.startsWith purpose .reclaim) hpurpose).trans hreclaim'
  spends r hr ids hpurpose hstate := by
    obtain ⟨old, hold, -, -, hcases⟩ := hrecords r hr
    obtain rfl := hcases.resolve_right fun h => h hstate
    obtain ⟨tx, htx, hhash, hcells⟩ := h.spends r hold ids hpurpose hstate
    refine ⟨tx, hgrows.signed htx, hhash, fun rowId hid => ?_⟩
    obtain ⟨cell, href, hcell⟩ := hcells rowId hid
    exact ⟨cell, (hgrows.chainRef rowId).trans href, hcell⟩

theorem Journaled.steady : Steady Journaled := by
  intro w w' hdb hgrows h
  refine h.grows hgrows fun r hr => ?_
  rw [hdb] at hr
  exact ⟨r, hr, rfl, rfl, .inl rfl⟩

theorem Within.start (h : Journaled w₀) : Within w₀ w₀ := ⟨h, .refl w₀, fun _ => .inl rfl⟩

/-- A pass goes on to a world where no further row has been moved. -/
theorem Within.same (h : Within w₀ w) (hjournaled : Journaled w') (hgrows : Grows w w')
    (hstates : ∀ rowId, w'.db.stateOf rowId = w.db.stateOf rowId) : Within w₀ w' where
  journaled := hjournaled
  grows := h.grows.trans hgrows
  rows rowId := by
    rw [hstates]
    obtain hsame | ⟨hhandled, hspent⟩ := h.rows rowId
    · exact .inl hsame
    · refine .inr ⟨hhandled.grows hgrows, fun hreclaimed => ?_⟩
      obtain ⟨cell, href, hcell⟩ := hspent hreclaimed
      exact ⟨cell, (hgrows.chainRef rowId).trans href, hcell.grows hgrows⟩

theorem Within.steady (w₀ : ReclaimWorld) : Steady (Within w₀) := fun w w' hdb hgrows h =>
  h.same (Journaled.steady w w' hdb hgrows h.journaled) hgrows fun rowId => by rw [hdb]

/-- An access that neither records a transaction nor makes one submitted. -/
theorem Journaled.exec {access : StoreOp β} (h : Journaled w) (hrecords : access.records = none)
    (hmarks : access.marks ≠ some .submitted) (hrefers : access.refers = none) :
    Journaled { w with db := (access.exec w.db).2 } := by
  refine h.grows (grows_exec hrefers w) fun r hr => ?_
  obtain ⟨r', hr', hid, hcore, hcases⟩ := mem_exec hrecords hr
  exact ⟨r', hr', hid, hcore, hcases.imp id fun h hstate => hmarks (hstate ▸ h)⟩

/-- An access that does nothing a batch is judged by. -/
theorem Within.exec {access : StoreOp β} (h : Within w₀ w) (hmoves : access.moves = none)
    (hinserts : access.inserts = none) (hrecords : access.records = none)
    (hmarks : access.marks ≠ some .submitted) (hrefers : access.refers = none) :
    Within w₀ { w with db := (access.exec w.db).2 } :=
  h.same (h.journaled.exec hrecords hmarks hrefers) (grows_exec hrefers w)
    (stateOf_exec hmoves hinserts w.db)

/-- A move of a row that the pass may move. A row is only moved to `reclaimed` when it is spent. -/
theorem Within.move {target : MessageState} (h : Within w₀ w) (hhandled : Handled w₀ w rowId)
    (hspent : target = .reclaimed →
      ∃ cell, lifecycleChainRef w.db rowId = some cell ∧ Spent w rowId cell) :
    Within w₀ { w with db := (transitionState rowId target w.db).2 } := by
  let access : StoreOp Unit := .transitionMessage rowId target
  have hgrows : Grows w { w with db := (access.exec w.db).2 } := grows_exec rfl w
  have hjournaled : Journaled { w with db := (access.exec w.db).2 } :=
    h.journaled.exec rfl (fun h => by cases h) rfl
  refine ⟨hjournaled, h.grows.trans hgrows, fun id => ?_⟩
  obtain hsame | ⟨rfl, hmoved, -⟩ := stateOf_transition rowId target w.db id
  · rw [hsame]
    obtain hsame | ⟨hhandled, hspent⟩ := h.rows id
    · exact .inl hsame
    · refine .inr ⟨hhandled.grows hgrows, fun hreclaimed => ?_⟩
      obtain ⟨cell, href, hcell⟩ := hspent hreclaimed
      exact ⟨cell, (hgrows.chainRef id).trans href, hcell.grows hgrows⟩
  · refine .inr ⟨hhandled.grows hgrows, fun hreclaimed => ?_⟩
    rw [hmoved] at hreclaimed
    obtain ⟨cell, href, hcell⟩ := hspent (Option.some.inj hreclaimed)
    exact ⟨cell, (hgrows.chainRef id).trans href, hcell.grows hgrows⟩

end Within

section Candidates

variable {db : Db} {state : MessageState} {candidate : Nat × OutPoint}

theorem mem_listedAt :
    candidate ∈ withChainRef (listedAt db state) ↔
      candidate.1 ∈ (db.rowsAt state).take 500 ∧
        lifecycleChainRef db candidate.1 = some candidate.2 := by
  obtain ⟨rowId, cell⟩ := candidate
  simp only [withChainRef, listedAt, selectByState, Db.rowsAt, List.mem_filterMap, List.mem_map,
    ← List.map_take, Option.map_eq_some_iff, Prod.mk.injEq]
  constructor
  · rintro ⟨_, ⟨row, hrow, rfl⟩, ref, href, rfl, rfl⟩
    exact ⟨⟨row, hrow, rfl⟩, href⟩
  · rintro ⟨⟨row, hrow, rfl⟩, href⟩
    exact ⟨_, ⟨row, hrow, rfl⟩, cell, href, rfl, rfl⟩

theorem mem_reclaimCandidates :
    candidate ∈ reclaimCandidates db ↔
      candidate ∈ withChainRef (listedAt db .reclaim_queued) ∨
        candidate ∈ withChainRef (listedAt db .reclaim_pending) := by
  rw [reclaimCandidates, withChainRef, List.filterMap_append, List.mem_append]
  rfl

theorem state_of_listed (h : candidate ∈ withChainRef (listedAt db state)) :
    db.stateOf candidate.1 = some state :=
  mem_rowsAt.1 (List.mem_of_mem_take (mem_listedAt.1 h).1)

theorem chainRef_of_candidate (h : candidate ∈ reclaimCandidates db) :
    lifecycleChainRef db candidate.1 = some candidate.2 := by
  obtain h | h := mem_reclaimCandidates.1 h
  · exact (mem_listedAt.1 h).2
  · exact (mem_listedAt.1 h).2

end Candidates

section Collected

variable {w₀ w w' : ReclaimWorld} {candidate : Nat × OutPoint}

theorem Collected.start (h : Journaled w₀) : Collected w₀ w₀ :=
  ⟨.start h, rfl, fun _ => .inl rfl⟩

theorem Collected.steady (w₀ : ReclaimWorld) : Steady (Collected w₀) := by
  intro w w' hdb hgrows h
  refine ⟨Within.steady w₀ w w' hdb hgrows h.toWithin, ?_, fun rowId => ?_⟩
  · rw [hdb]
    exact h.unchanged
  · rw [hdb]
    exact h.forward rowId

/-- Only a queued row can be moved to `reclaim_pending`. -/
theorem queued_of_pending_move {direction : MessageDirection} {state : MessageState}
    (h : canTransitionMessage direction state .reclaim_pending) : state = .reclaim_queued := by
  cases direction <;> cases state <;> first | rfl | exact absurd h (by decide)

/-- A pass moves a candidate it was told about forward. -/
theorem Collected.move {target : MessageState} (h : Collected w₀ w)
    (hcandidate : candidate ∈ reclaimCandidates w₀.db) (hanswered : candidate.2 ∈ w.answered)
    (htarget : target = .reclaim_pending ∨ target = .reclaimed ∧ candidate.2 ∈ w.dead) :
    Collected w₀ { w with db := (transitionState candidate.1 target w.db).2 } := by
  have href := (h.grows.chainRef candidate.1).trans (chainRef_of_candidate hcandidate)
  have hspent : target = .reclaimed →
      ∃ cell, lifecycleChainRef w.db candidate.1 = some cell ∧ Spent w candidate.1 cell := by
    intro hreclaimed
    obtain hpending | ⟨-, hdead⟩ := htarget
    · rw [hreclaimed] at hpending
      cases hpending
    · exact ⟨_, href, .inl hdead⟩
  refine ⟨h.toWithin.move (.inl ⟨_, href, hanswered⟩) hspent, ?_, fun rowId => ?_⟩
  · let access : StoreOp Unit := .transitionMessage candidate.1 target
    have hsame : (access.exec w.db).2.outgoingTransactions = w.db.outgoingTransactions :=
      outgoingTransactions_exec rfl rfl w.db
    exact hsame.trans h.unchanged
  · obtain hsame | ⟨rfl, hmoved, m, hget, hcan⟩ :=
      stateOf_transition candidate.1 target w.db rowId
    · rw [hsame]
      exact h.forward rowId
    · refine .inr ⟨List.mem_map_of_mem hcandidate, ?_⟩
      obtain rfl | ⟨rfl, -⟩ := htarget
      · have hqueued : w.db.stateOf candidate.1 = some .reclaim_queued := by
          rw [Db.stateOf, hget, Option.map_some, queued_of_pending_move hcan]
        refine .inr ⟨?_, hmoved⟩
        obtain hsame | ⟨-, hreclaimed | ⟨-, hpending⟩⟩ := h.forward candidate.1
        · exact hsame.symm.trans hqueued
        · rw [hqueued] at hreclaimed
          cases hreclaimed
        · rw [hqueued] at hpending
          cases hpending
      · exact .inl hmoved

/-- A row that was moved to `reclaim_pending` was listed as a queued one. -/
theorem Collected.listed (h : Collected w₀ w) {rowId : Nat}
    (hpending : w.db.stateOf rowId = some .reclaim_pending)
    (hnew : w₀.db.stateOf rowId ≠ some .reclaim_pending) :
    rowId ∈ (withChainRef (listedAt w₀.db .reclaim_queued)).map (·.1) := by
  obtain hsame | ⟨hmem, -⟩ := h.forward rowId
  · exact absurd (hsame.symm.trans hpending) hnew
  · obtain ⟨candidate, hcandidate, rfl⟩ := List.mem_map.1 hmem
    obtain hqueued | hlisted := mem_reclaimCandidates.1 hcandidate
    · exact List.mem_map_of_mem hqueued
    · exact absurd (state_of_listed hlisted) hnew

/-- No queued row is new. -/
theorem Collected.queued (h : Collected w₀ w) {rowId : Nat}
    (hqueued : w.db.stateOf rowId = some .reclaim_queued) :
    w₀.db.stateOf rowId = some .reclaim_queued := by
  obtain hsame | ⟨-, hreclaimed | ⟨-, hpending⟩⟩ := h.forward rowId
  · exact hsame.symm.trans hqueued
  · rw [hqueued] at hreclaimed
    cases hreclaimed
  · rw [hqueued] at hpending
    cases hpending

/-- Where a batch fits, the rows left waiting are few enough, or none is new. -/
theorem Collected.waiting (h : Collected w₀ w) (hfits : BatchFits w₀.db) :
    (∀ rowId ∈ w.db.rowsAt .reclaim_pending, rowId ∈ w₀.db.rowsAt .reclaim_pending) ∨
      (w.db.rowsAt .reclaim_pending).length ≤ 500 := by
  have hsub : ∀ rowId ∈ w.db.rowsAt .reclaim_pending, rowId ∈ w₀.db.rowsAt .reclaim_pending ++
      (withChainRef (listedAt w₀.db .reclaim_queued)).map (·.1) := by
    intro rowId hrow
    rw [List.mem_append]
    by_cases hnew : w₀.db.stateOf rowId = some .reclaim_pending
    · exact .inl (mem_rowsAt.2 hnew)
    · exact .inr (h.listed (mem_rowsAt.1 hrow) hnew)
  obtain hnone | hroom := hfits
  · left
    intro rowId hrow
    have hmem := hsub rowId hrow
    rw [hnone] at hmem
    simpa using hmem
  · right
    have hnodup : (w.db.rowsAt .reclaim_pending).Nodup :=
      (rowsAt_sorted w.db .reclaim_pending).imp Nat.ne_of_lt
    have hlength := hnodup.length_le_of_subset hsub
    rw [List.length_append, List.length_map] at hlength
    omega

/-- A pass that stops before it journals its batch leaves every candidate reclaimed, or a candidate
    of the next pass. -/
theorem Collected.candidates (h : Collected w₀ w) (hfits : BatchFits w₀.db)
    (hcandidate : candidate ∈ reclaimCandidates w₀.db) :
    w.db.stateOf candidate.1 = some .reclaimed ∨ candidate ∈ reclaimCandidates w.db := by
  have href := (h.grows.chainRef candidate.1).trans (chainRef_of_candidate hcandidate)
  have hlists : w.db.stateOf candidate.1 = some .reclaim_pending →
      (candidate.1 ∈ w₀.db.rowsAt .reclaim_pending →
        candidate.1 ∈ (w₀.db.rowsAt .reclaim_pending).take 500) →
      candidate ∈ reclaimCandidates w.db := by
    intro hpending htake
    refine mem_reclaimCandidates.2 (.inr (mem_listedAt.2 ⟨?_, href⟩))
    obtain hsub | hfew := h.waiting hfits
    · exact Table.mem_take_of_sorted (rowsAt_sorted _ _) (rowsAt_sorted _ _) hsub
        (htake (hsub _ (mem_rowsAt.2 hpending))) (mem_rowsAt.2 hpending)
    · rw [List.take_of_length_le hfew]
      exact mem_rowsAt.2 hpending
  obtain hqueued | hlisted := mem_reclaimCandidates.1 hcandidate
  · have hstate := state_of_listed hqueued
    obtain hsame | ⟨-, hreclaimed | ⟨-, hpending⟩⟩ := h.forward candidate.1
    · refine .inr (mem_reclaimCandidates.2 (.inl (mem_listedAt.2 ⟨?_, href⟩)))
      exact Table.mem_take_of_sorted (rowsAt_sorted _ _) (rowsAt_sorted _ _)
        (fun rowId hrow => mem_rowsAt.2 (h.queued (mem_rowsAt.1 hrow)))
        (mem_listedAt.1 hqueued).1 (mem_rowsAt.2 (hsame.trans hstate))
    · exact .inl hreclaimed
    · refine .inr (hlists hpending fun hwaiting => ?_)
      rw [mem_rowsAt, hstate] at hwaiting
      cases hwaiting
  · have hstate := state_of_listed hlisted
    obtain hsame | ⟨-, hreclaimed | ⟨hqueued, -⟩⟩ := h.forward candidate.1
    · exact .inr (hlists (hsame.trans hstate) fun _ => (mem_listedAt.1 hlisted).1)
    · exact .inl hreclaimed
    · rw [hstate] at hqueued
      cases hqueued

end Collected

end cemp.ckb
