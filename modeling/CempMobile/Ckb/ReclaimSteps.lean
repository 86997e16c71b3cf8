import CempMobile.Ckb.Lifecycle
import CempMobile.Ckb.PublisherSteps

open cemp.core cemp.database

namespace cemp.ckb

/-- The states a reclaim moves messages to. -/
def RECLAIM_STATES : List MessageState := [.reclaim_queued, .reclaim_pending, .reclaimed]

/-- The steps of a reclaim that journals its transactions under some purposes. -/
def ReclaimStep (covers : TxPurpose → Prop) : (β : Type) → Op β → Prop
  | _, .store (.transitionMessage _ target) => target ∈ RECLAIM_STATES
  | _, .store (.recordOutgoingTx tx) => tx.state = .submitted ∧ covers tx.purpose
  | _, .store (.markOutgoingTxState _ state) => state = .abandoned
  | _, .store (.markOutgoingTxStateIf _ expected state) => expected = .submitted ∧ state = .committed
  | _, .store (.findLatestOutgoingTxByPurposePrefix _) => True
  | _, .store (.listOutgoingByState _) => True
  | _, .store (.markCapacityReclaimable _) => True
  | _, .store (.releaseReclaimedCapacity _) => True
  | _, .store (.recordFeeBurn _) => True
  | _, .store .listActiveWatches => True
  | _, .store (.markWatchSpent ..) => True
  | _, .store .pruneSpentWatches => True
  | _, .store _ => False
  | _, .getTransaction _ => True
  | _, .sendTransaction _ => True
  | _, .getLiveCell _ => True
  | _, .completeTransaction _ => True
  | _, .signTransaction _ => True
  | _, .markTransactions _ => True
  | _, .deadlinePassed => True
  | _, _ => False

/-- The purposes of the batches. -/
def BatchPurpose (purpose : TxPurpose) : Prop := purpose.startsWith .reclaim = true

section Build

variable {deps : PipelineDeps} {covers : TxPurpose → Prop}

theorem buildReclaimTx_steps (outpoints : List OutPoint) (cells : List Cell) :
    Program.Uses (ReclaimStep covers) (buildReclaimTx deps outpoints cells) := by
  unfold buildReclaimTx
  split
  · trivial
  split
  · trivial
  split
  · trivial
  · exact completeAndFinalize_uses (fun _ => trivial) _ _

theorem recordFeeBurn_steps {α : Type} (fee : Nat) {rest : Prog α}
    (hrest : Program.Uses (ReclaimStep covers) rest) :
    Program.Uses (ReclaimStep covers)
      (if 0 < fee then (store (.recordFeeBurn fee)).bind fun _ => rest else rest) := by
  split
  · exact Program.Uses.bind (Program.uses_perform.2 trivial) fun _ => hrest
  · exact hrest

end Build

section Batch

variable {deps : PipelineDeps}

/-- A move that a batch makes. -/
theorem transition_step {covers : TxPurpose → Prop} (rowId : Nat) {target : MessageState}
    (htarget : target ∈ RECLAIM_STATES) :
    Program.Uses (ReclaimStep covers) (store (.transitionMessage rowId target)) :=
  Program.uses_perform.2 htarget

theorem finishResumedReclaim_steps (journaled : OutgoingTransaction) :
    Program.Uses (ReclaimStep BatchPurpose) (finishResumedReclaim journaled) := by
  unfold finishResumedReclaim
  simp only [Program.bind_eq_bind, Program.pure_eq_ret]
  refine Program.Uses.bind (Program.uses_perform.2 ⟨rfl, rfl⟩) fun won => ?_
  split
  · trivial
  refine Program.Uses.bind (Program.Uses.forEach fun rowId _ => ?_) fun _ => ?_
  · exact transition_step rowId (by decide)
  split
  · refine Program.Uses.bind (Program.uses_perform.2 trivial) fun _ => ?_
    exact recordFeeBurn_steps _ trivial
  · exact recordFeeBurn_steps _ trivial

theorem resumeReclaim_steps (journaled : OutgoingTransaction) (timeoutMs : Option Nat) :
    Program.Uses (ReclaimStep BatchPurpose) (resumeReclaim journaled timeoutMs) := by
  refine Program.Uses.catchError ?_ fun e => ?_
  · refine Program.Uses.bind (resumeJournaledBroadcast_uses trivial trivial (fun _ _ => trivial) _)
      fun outcome => ?_
    split
    · exact Program.Uses.bind (Program.uses_perform.2 trivial) fun _ => trivial
    · trivial
  · cases e with
    | journaledAbandoned message spent =>
      refine Program.Uses.bind (Program.uses_perform.2 rfl) fun _ => ?_
      refine Program.Uses.bind (Program.Uses.forEach fun rowId _ => ?_) fun _ => trivial
      exact transition_step rowId (by decide)
    | _ => trivial

theorem resolveCandidates_steps (candidates : List (Nat × OutPoint)) :
    Program.Uses (ReclaimStep BatchPurpose) (resolveCandidates candidates) := by
  induction candidates with
  | nil => trivial
  | cons candidate candidates ih =>
    refine Program.Uses.bind (Program.uses_perform.2 trivial) fun status => ?_
    cases status with
    | live cell => exact Program.Uses.bind ih fun _ => trivial
    | dead =>
      refine Program.Uses.bind (transition_step _ (by decide)) fun _ => ?_
      exact Program.Uses.bind (transition_step _ (by decide)) fun _ => ih
    | unknown => exact ih

theorem settleReclaimedRow_steps (txHash : Hash) (covered : Nat × OutPoint) :
    Program.Uses (ReclaimStep BatchPurpose) (settleReclaimedRow txHash covered) := by
  refine Program.Uses.bind (transition_step _ (by decide)) fun _ => ?_
  refine Program.Uses.bind (Program.uses_perform.2 trivial) fun watches => ?_
  split
  · exact Program.uses_perform.2 trivial
  · trivial

theorem broadcastReclaim_steps (covered : List (Nat × OutPoint)) (cells : List Cell)
    (timeoutMs : Option Nat) :
    Program.Uses (ReclaimStep BatchPurpose) (broadcastReclaim deps covered cells timeoutMs) := by
  unfold broadcastReclaim
  simp only [Program.bind_eq_bind, Program.pure_eq_ret]
  refine Program.Uses.bind (Program.Uses.forEach fun row _ => ?_) fun _ => ?_
  · exact transition_step row.1 (by decide)
  refine (buildReclaimTx_steps _ _).bind fun built => ?_
  refine Program.Uses.bind (Program.uses_perform.2 trivial) fun signed => ?_
  refine Program.Uses.bind (Program.uses_perform.2 ⟨rfl, rfl⟩) fun _ => ?_
  refine Program.Uses.bind (Program.uses_perform.2 trivial) fun accepted => ?_
  split
  · trivial
  refine Program.Uses.bind (Program.uses_perform.2 trivial) fun _ => ?_
  refine (waitForTransactionCommit_uses trivial trivial _).bind fun _ => ?_
  refine Program.Uses.bind (Program.uses_perform.2 ⟨rfl, rfl⟩) fun won => ?_
  split
  · trivial
  refine Program.Uses.bind (Program.Uses.forEach fun row _ => settleReclaimedRow_steps _ row)
    fun _ => ?_
  have prune : ∀ result : ReclaimBatchResult, Program.Uses (ReclaimStep BatchPurpose)
      ((store .pruneSpentWatches).bind fun _ => Program.ret result) :=
    fun result => Program.Uses.bind (Program.uses_perform.2 trivial) fun _ => trivial
  split
  · refine Program.Uses.bind (Program.uses_perform.2 trivial) fun _ => ?_
    exact recordFeeBurn_steps _ (prune _)
  · exact recordFeeBurn_steps _ (prune _)

theorem executeReclaimBatch_steps (timeoutMs : Option Nat) :
    Program.Uses (ReclaimStep BatchPurpose) (executeReclaimBatch deps timeoutMs) := by
  refine Program.Uses.bind (Program.uses_perform.2 trivial) fun journaled => ?_
  split
  · refine (resumeReclaim_steps _ _).bind fun abandoned => ?_
    cases abandoned with
    | some result => trivial
    | none => exact Program.Uses.bind (finishResumedReclaim_steps _) fun _ => trivial
  · refine Program.Uses.bind (Program.uses_perform.2 trivial) fun queued => ?_
    refine Program.Uses.bind (Program.uses_perform.2 trivial) fun waiting => ?_
    refine Program.Uses.bind (resolveCandidates_steps _) fun resolved => ?_
    split
    · trivial
    · exact Program.Uses.bind (broadcastReclaim_steps _ _ _) fun _ => trivial

end Batch

end cemp.ckb
