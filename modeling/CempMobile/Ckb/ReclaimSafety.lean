import CempMobile.Ckb.ReclaimPass

open cemp.core cemp.database cemp.database.MessageRepository

namespace cemp.ckb

/-- What other workers may do between two passes: anything but to record a batch, to make one
    submitted, or to rewrite the chain reference of a row that a submitted batch names. -/
structure Elsewhere (db db' : Db) : Prop where
  records : ∀ r ∈ db'.outgoingTransactions.rows, r.2.purpose.startsWith .reclaim = true →
    ∃ r' ∈ db.outgoingTransactions.rows, r'.1 = r.1 ∧ r'.2.core = r.2.core ∧
      (r = r' ∨ r.2.state ≠ .submitted)
  chainRefs : ∀ r ∈ db.outgoingTransactions.rows, ∀ ids, r.2.purpose = .reclaim ids →
    r.2.state = .submitted → ∀ rowId ∈ ids, lifecycleChainRef db' rowId = lifecycleChainRef db rowId

theorem Elsewhere.refl (db : Db) : Elsewhere db db :=
  ⟨fun r hr _ => ⟨r, hr, rfl, rfl, .inl rfl⟩, fun _ _ _ _ _ _ _ => rfl⟩

/-- One pass: the database it finds, and the world it leaves, complete or cut short. -/
structure ReclaimPass where
  found : Db
  timeoutMs : Option Nat
  completed : Bool
  after : ReclaimWorld

/-- The world a pass starts in. -/
def ReclaimWorld.found (w : ReclaimWorld) (db : Db) : ReclaimWorld :=
  { w with db := db, answered := [] }

/-- Passes that run one after the other. Any of them may be cut short, anywhere. -/
def ReclaimRuns (deps : PipelineDeps) : ReclaimWorld → List ReclaimPass → Prop
  | _, [] => True
  | w, pass :: passes =>
    Elsewhere w.db pass.found ∧
    (if pass.completed then
      ∃ out, Program.Runs reclaimEffect (executeReclaimBatch deps pass.timeoutMs) (w.found pass.found)
        out pass.after
    else Program.Interrupted reclaimEffect Program.Anywhere (executeReclaimBatch deps pass.timeoutMs)
      (w.found pass.found) pass.after) ∧
    ReclaimRuns deps pass.after passes

/-- What a pass from `w₀` to `w` must not get wrong. -/
structure PassSafe (w₀ w : ReclaimWorld) : Prop where
  /-- A row only becomes `reclaimed` when its own cell is spent. -/
  reclaimed : ∀ rowId, w.db.stateOf rowId = some .reclaimed →
    w₀.db.stateOf rowId ≠ some .reclaimed →
      ∃ cell, lifecycleChainRef w.db rowId = some cell ∧ Spent w rowId cell
  /-- A row of whose cell the node knows nothing keeps its state. -/
  unknown : ∀ rowId, ¬Handled w₀ w rowId → w.db.stateOf rowId = w₀.db.stateOf rowId
  /-- A pass that collects and stops without a new journal record leaves its candidates to the
      next one. -/
  candidates : resumedBatch w₀.db = none → w.db.journal = w₀.db.journal →
    resumedBatch w.db = none ∧ ∀ candidate ∈ reclaimCandidates w₀.db,
      w.db.stateOf candidate.1 = some .reclaimed ∨ candidate ∈ reclaimCandidates w.db

/-- Every pass is safe. -/
def PassesSafe : ReclaimWorld → List ReclaimPass → Prop
  | _, [] => True
  | w, pass :: passes => PassSafe (w.found pass.found) pass.after ∧ PassesSafe pass.after passes

/-- No pass collects more queued rows than the next one can list. -/
def BatchesFit (passes : List ReclaimPass) : Prop :=
  ∀ pass ∈ passes, resumedBatch pass.found = none → BatchFits pass.found

section Runs

variable {deps : PipelineDeps} {w₀ w : ReclaimWorld} {passes : List ReclaimPass} {db : Db}

theorem Passed.safe (h : Passed w₀ w) (hfits : resumedBatch w₀.db = none → BatchFits w₀.db) :
    PassSafe w₀ w where
  reclaimed rowId hreclaimed hnew := by
    obtain hsame | ⟨-, hspent⟩ := h.1.rows rowId
    · exact absurd (hsame.symm.trans hreclaimed) hnew
    · exact hspent hreclaimed
  unknown rowId hunknown := (h.1.rows rowId).resolve_right fun hmoved => hunknown hmoved.1
  candidates hnone hjournal := by
    have hcollected := h.2 hnone hjournal
    refine ⟨?_, fun candidate hcandidate => hcollected.candidates (hfits hnone) hcandidate⟩
    rw [resumedBatch, OutgoingTransactionRepository.latestByPurposePrefix, hcollected.unchanged]
    exact hnone

/-- What is known of the batches is known whatever other workers did. -/
theorem Journaled.found (h : Journaled w) (hother : Elsewhere w.db db) : Journaled (w.found db) where
  latest r hr hreclaim hstate r' hr' hreclaim' := by
    obtain ⟨old, hold, -, -, hcases⟩ := hother.records r hr hreclaim
    obtain rfl := hcases.resolve_right fun h => h hstate
    obtain ⟨old', hold', hid, hcore, -⟩ := hother.records r' hr' hreclaim'
    have hpurpose : old'.2.core.purpose = r'.2.core.purpose := by rw [hcore]
    rw [← hid]
    refine h.latest r hold hreclaim hstate old' hold' ?_
    exact (congrArg (fun purpose => TxPurpose.startsWith purpose .reclaim) hpurpose).trans hreclaim'
  spends r hr ids hpurpose hstate := by
    have hreclaim : r.2.purpose.startsWith .reclaim = true := by
      rw [hpurpose]
      rfl
    obtain ⟨old, hold, -, -, hcases⟩ := hother.records r hr hreclaim
    obtain rfl := hcases.resolve_right fun h => h hstate
    obtain ⟨tx, htx, hhash, hcells⟩ := h.spends r hold ids hpurpose hstate
    refine ⟨tx, htx, hhash, fun rowId hid => ?_⟩
    obtain ⟨cell, href, hcell⟩ := hcells rowId hid
    exact ⟨cell, (hother.chainRefs r hold ids hpurpose hstate rowId hid).trans href, hcell⟩

theorem Journaled.of_none (hnone : ∀ r ∈ w.db.outgoingTransactions.rows,
    r.2.purpose.startsWith .reclaim = true → r.2.state ≠ .submitted) : Journaled w where
  latest r hr hreclaim hstate := absurd hstate (hnone r hr hreclaim)
  spends r hr ids hpurpose hstate := by
    have hreclaim : r.2.purpose.startsWith .reclaim = true := by
      rw [hpurpose]
      rfl
    exact absurd hstate (hnone r hr hreclaim)

theorem Journaled.reclaimRuns (h : Journaled w) (hruns : ReclaimRuns deps w passes)
    (hfit : BatchesFit passes) : PassesSafe w passes := by
  induction passes generalizing w with
  | nil => trivial
  | cons pass passes ih =>
    obtain ⟨hother, hpass, hrest⟩ := hruns
    obtain ⟨hfits, hfit⟩ := List.forall_mem_cons.1 hfit
    have hbatch : Program.Always reclaimEffect _ (executeReclaimBatch deps pass.timeoutMs)
        (w.found pass.found) _ := always_executeReclaimBatch (h.found hother)
    have hpassed : Passed (w.found pass.found) pass.after := by
      split at hpass
      · obtain ⟨out, hrun⟩ := hpass
        exact hbatch.runs hrun
      · exact hbatch.interrupted (fun _ _ _ _ h => h) hpass
    exact ⟨hpassed.safe hfits, ih hpassed.1.journaled hrest hfit⟩

/-- From a wallet with no batch submitted, every run of passes is safe, wherever they are cut short
    and whatever the node answers, if no pass collects more queued rows than can be listed again. -/
theorem reclaimRuns_safe (hstart : ∀ r ∈ w.db.outgoingTransactions.rows,
      r.2.purpose.startsWith .reclaim = true → r.2.state ≠ .submitted)
    (hruns : ReclaimRuns deps w passes) (hfit : BatchesFit passes) : PassesSafe w passes :=
  (Journaled.of_none hstart).reclaimRuns hruns hfit

end Runs

section Answers

variable {w : ReclaimWorld} {deps : PipelineDeps} {timeoutMs : Option Nat}

/-- Where the node knows nothing of a cell, resolving it does nothing. -/
theorem runs_resolveCandidates_unknown (candidates : List (Nat × OutPoint)) (w : ReclaimWorld) :
    Program.Runs reclaimEffect (resolveCandidates candidates) w (.ok []) w := by
  induction candidates with
  | nil => exact ⟨rfl, rfl⟩
  | cons candidate candidates ih =>
    exact ⟨.ok .unknown, w, ⟨trivial, rfl⟩, ih⟩

theorem runs_store {β : Type} {access : StoreOp β} {b : β} (h : access.exec w.db = (.ok b, w.db)) :
    Program.Runs reclaimEffect (store access) w (.ok b) w := by
  refine Program.runs_perform.2 ⟨?_, ?_⟩
  · rw [h]
  · rw [h]

/-- A pass to which the node answers nothing changes nothing. -/
theorem runs_unknown (hnone : resumedBatch w.db = none) :
    Program.Runs reclaimEffect (executeReclaimBatch deps timeoutMs) w (.ok none) w := by
  unfold executeReclaimBatch
  simp only [Program.bind_eq_bind, Program.pure_eq_ret]
  refine Program.runs_bind_ok.2 ⟨_, w, runs_store rfl, ?_⟩
  split
  next tx hsome =>
    have hresumed : resumedBatch w.db = some tx := hsome
    rw [hnone] at hresumed
    cases hresumed
  refine Program.runs_bind_ok.2 ⟨_, w, runs_store rfl, ?_⟩
  refine Program.runs_bind_ok.2 ⟨_, w, runs_store rfl, ?_⟩
  exact Program.runs_bind_ok.2 ⟨[], w, runs_resolveCandidates_unknown _ w, rfl, rfl⟩

/-- The world of a pass that is told the first candidate's cell is live, and is cut short once it
    has moved the row. -/
def movedOne (w : ReclaimWorld) (candidate : Nat × OutPoint) (cell : Cell) : ReclaimWorld :=
  let told := w.observe (.getLiveCell candidate.2) (.ok (.live cell))
  { told with db := (transitionState candidate.1 .reclaim_pending told.db).2 }

theorem journal_movedOne (w : ReclaimWorld) (candidate : Nat × OutPoint) (cell : Cell) :
    (movedOne w candidate cell).db.journal = w.db.journal := by
  have hsame : ((StoreOp.transitionMessage candidate.1 .reclaim_pending).exec
      w.db).2.outgoingTransactions = w.db.outgoingTransactions := outgoingTransactions_exec rfl rfl _
  exact congrArg (fun t => t.rows.map fun r => r.2.core) hsame

/-- A pass may be cut short right before it completes its transaction. -/
theorem interrupted_movedOne (hnone : resumedBatch w.db = none) {candidate : Nat × OutPoint}
    {rest : List (Nat × OutPoint)} (hcandidates : reclaimCandidates w.db = candidate :: rest)
    (hmoves : (transitionState candidate.1 .reclaim_pending w.db).1 = .ok ()) {cell : Cell}
    (houtPoint : cell.outPoint = candidate.2) (hlock : cell.output.lock = deps.lock) :
    Program.Interrupted reclaimEffect Program.Anywhere (executeReclaimBatch deps timeoutMs) w
      (movedOne w candidate cell) := by
  unfold executeReclaimBatch
  simp only [Program.bind_eq_bind, Program.pure_eq_ret]
  refine Program.Runs.interrupted_bind (runs_store rfl) ?_
  split
  next tx hsome =>
    have hresumed : resumedBatch w.db = some tx := hsome
    rw [hnone] at hresumed
    cases hresumed
  refine Program.Runs.interrupted_bind (runs_store rfl) ?_
  refine Program.Runs.interrupted_bind (runs_store rfl) ?_
  change Program.Interrupted _ _ ((resolveCandidates (reclaimCandidates w.db)).bind _) w _
  rw [hcandidates]
  let told := w.observe (.getLiveCell candidate.2) (.ok (.live cell))
  have hresolved : Program.Runs reclaimEffect (resolveCandidates (candidate :: rest)) w
      (.ok [(candidate, cell)]) told := by
    have hothers : Program.Runs reclaimEffect
        ((resolveCandidates rest).bind fun rest => Program.ret ((candidate, cell) :: rest)) told
        (.ok [(candidate, cell)]) told :=
      Program.runs_bind_ok.2 ⟨[], told, runs_resolveCandidates_unknown rest told, rfl, rfl⟩
    exact ⟨.ok (.live cell), told, ⟨trivial, rfl⟩, hothers⟩
  refine Program.Runs.interrupted_bind hresolved ?_
  have hmoved : Program.Runs reclaimEffect
      (Program.forEach (fun row => store (.transitionMessage row.1 .reclaim_pending)) [candidate]) told
      (.ok ()) (movedOne w candidate cell) := by
    refine Program.runs_bind_ok.2 ⟨(), _, Program.runs_perform.2 ⟨hmoves.symm, rfl⟩, rfl, rfl⟩
  have hbuild : Program.Interrupted reclaimEffect Program.Anywhere
      (buildReclaimTx deps [candidate.2] [cell]) (movedOne w candidate cell)
      (movedOne w candidate cell) := by
    simp only [buildReclaimTx, List.cons_ne_nil, if_false, List.length_cons, List.length_nil,
      ne_eq, not_true_eq_false, reclaimInputsError, reclaimInputError, houtPoint, hlock]
    exact .inl ⟨trivial, rfl⟩
  have hbatch : Program.Interrupted reclaimEffect Program.Anywhere
      (broadcastReclaim deps [candidate] [cell] timeoutMs) told (movedOne w candidate cell) := by
    unfold broadcastReclaim
    simp only [Program.bind_eq_bind]
    exact Program.Runs.interrupted_bind hmoved (hbuild.bind _)
  exact hbatch.bind _

end Answers

/-- A message that waits to be reclaimed. -/
def waitingMessage (id : Nat) (state : MessageState) (fits : state.Fits .outgoing) : Message :=
  ⟨1, .outgoing, state, none, .composed id, none, fits⟩

/-- Rows that wait in `reclaim_pending`, and one behind them that is still queued. -/
def backlog (pending : Nat) : Db :=
  { Db.empty with
    messages :=
      { rows := (List.range (pending + 1)).map fun i =>
          (i + 1, waitingMessage i (if i < pending then .reclaim_pending else .reclaim_queued)
            (by split <;> decide))
        sorted := List.pairwise_map.2 (List.pairwise_lt_range.imp fun h => by simpa using h)
        unique := List.pairwise_map.2 (List.pairwise_lt_range.imp fun h hkey =>
          absurd (LogicalMessageId.composed.inj (Option.some.inj hkey)) (Nat.ne_of_lt h)) }
    chainRefs :=
      { rows := (List.range (pending + 1)).map fun i => (i + 1, ⟨i + 1, some 7, some i, none, none⟩)
        sorted := List.pairwise_map.2 (List.pairwise_lt_range.imp fun h => by simpa using h)
        unique := List.pairwise_map.2 (List.pairwise_lt_range.imp fun h hkey =>
          absurd (Option.some.inj hkey) (by simpa using Nat.ne_of_lt h)) } }

def backlogWorld (pending : Nat) : ReclaimWorld := ⟨backlog pending, [], [], [], []⟩

/-- The row behind a backlog, with its cell. -/
def lastRow (pending : Nat) : Nat × OutPoint := (pending + 1, ⟨7, pending⟩)

def lastCell (pending : Nat) : Cell :=
  ⟨⟨7, pending⟩, ⟨20000000000, samplePipeline.lock, none, .bytes []⟩⟩

/-- A pass that is cut short once it has moved the row behind the backlog. -/
def crashedPass (pending : Nat) : ReclaimPass :=
  ⟨backlog pending, none, false, movedOne (backlogWorld pending) (lastRow pending) (lastCell pending)⟩

theorem runs_crashedPass {pending : Nat}
    (hqueued : withChainRef (listedAt (backlog pending) .reclaim_queued) = [lastRow pending])
    (hmoves : (transitionState (lastRow pending).1 .reclaim_pending (backlogWorld pending).db).1 =
      .ok ()) :
    ReclaimRuns samplePipeline (backlogWorld pending) [crashedPass pending] := by
  have hcandidates : reclaimCandidates (backlogWorld pending).db = lastRow pending ::
      withChainRef (listedAt (backlog pending) .reclaim_pending) := by
    rw [backlogWorld, reclaimCandidates, withChainRef, List.filterMap_append]
    exact congrArg (· ++ _) hqueued
  have hcut : Program.Interrupted reclaimEffect Program.Anywhere
      (executeReclaimBatch samplePipeline none) (backlogWorld pending)
      (movedOne (backlogWorld pending) (lastRow pending) (lastCell pending)) :=
    interrupted_movedOne rfl hcandidates hmoves rfl rfl
  exact ⟨.refl _, hcut, trivial⟩

/-- Five hundred rows wait already when a queued one is collected. The batch is cut short before
    its record, and the row is not listed again. -/
theorem backlog_row_left_behind :
    (∀ r ∈ (backlogWorld 500).db.outgoingTransactions.rows,
        r.2.purpose.startsWith .reclaim = true → r.2.state ≠ .submitted) ∧
      ReclaimRuns samplePipeline (backlogWorld 500) [crashedPass 500] ∧
      ¬PassesSafe (backlogWorld 500) [crashedPass 500] := by
  have hruns : ReclaimRuns samplePipeline (backlogWorld 500) [crashedPass 500] :=
    runs_crashedPass (by decide +kernel) (by decide +kernel)
  refine ⟨fun r hr => absurd hr List.not_mem_nil, hruns, ?_⟩
  rintro ⟨hsafe, -⟩
  have hstate : (crashedPass 500).after.db.stateOf (lastRow 500).1 = some .reclaim_pending := by decide +kernel
  have hlisted : (lastRow 500).1 ∉ ((crashedPass 500).after.db.rowsAt .reclaim_pending).take 500 := by
    decide +kernel
  have hjournal : (crashedPass 500).after.db.journal = (backlog 500).journal :=
    journal_movedOne ..
  have hmem : lastRow 500 ∈ reclaimCandidates (backlog 500) := by decide +kernel
  obtain ⟨-, hleft⟩ := hsafe.candidates (by decide +kernel) hjournal
  obtain hreclaimed | hcandidate := hleft _ hmem
  · rw [hstate] at hreclaimed
    cases hreclaimed
  · obtain hqueued | hpending := mem_reclaimCandidates.1 hcandidate
    · have hqueued' : some MessageState.reclaim_pending = some .reclaim_queued :=
        hstate.symm.trans (state_of_listed hqueued)
      cases hqueued'
    · exact hlisted (mem_listedAt.1 hpending).1

/-- A pass that finds the database as it is, and is told nothing. -/
def silentPass (w : ReclaimWorld) : ReclaimPass := ⟨w.db, none, true, w.found w.db⟩

instance (db : Db) : Decidable (BatchFits db) := inferInstanceAs (Decidable (_ ∨ _))

/-- A batch that is cut short before its record is collected again, and waits for an answer. -/
theorem crashed_batch_waits :
    PassesSafe (backlogWorld 0) [crashedPass 0, silentPass (crashedPass 0).after] := by
  have hcrash : ReclaimRuns samplePipeline (backlogWorld 0) [crashedPass 0] :=
    runs_crashedPass (by decide) (by decide)
  have hsilent : ReclaimRuns samplePipeline (crashedPass 0).after [silentPass (crashedPass 0).after] :=
    ⟨.refl _, ⟨_, runs_unknown (by decide)⟩, trivial⟩
  refine reclaimRuns_safe (fun r hr => absurd hr List.not_mem_nil)
    ⟨hcrash.1, hcrash.2.1, hsilent⟩ fun pass hpass _ => ?_
  have hfits : ∀ pass ∈ [crashedPass 0, silentPass (crashedPass 0).after], BatchFits pass.found := by
    decide
  exact hfits pass hpass

end cemp.ckb
