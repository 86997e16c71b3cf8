import CempMobile.Ckb.ReclaimSteps
import CempMobile.Images.Send

open cemp.core cemp.database cemp.ckb

namespace cemp.images

structure AttachmentGroupReclaimResult where
  txHash : Hash
  cellCount : Nat
  releasedShannon : Nat
  resumed : Bool
  deriving DecidableEq, Repr

/-- Funds the reclaimable bucket with the capacity of a committed reclaim, releases it net of the
    fee and writes the fee off. Answers the net release. -/
def finalizeCommittedReclaim (capacityShannon feeShannon : Option Nat) : Prog Nat := do
  let capacity := capacityShannon.getD 0
  let fee := feeShannon.getD 0
  if 0 < capacity then store (.markCapacityReclaimable capacity)
  let released := capacity - fee
  if 0 < released then store (.releaseReclaimedCapacity released)
  if 0 < fee then store (.recordFeeBurn fee)
  return released

/-- Only the caller that wins the journal's move to `committed` finalizes the reclaim. -/
def settleGroup (txHash : Hash) (capacityShannon feeShannon : Option Nat) (cellCount : Nat)
    (resumed : Bool) : Prog AttachmentGroupReclaimResult := do
  let won ← store (.markOutgoingTxStateIf txHash .submitted .committed)
  if won = 0 then
    return ⟨txHash, cellCount, 0, resumed⟩
  else
    let released ← finalizeCommittedReclaim capacityShannon feeShannon
    return ⟨txHash, cellCount, released, resumed⟩

/-- Resumes a journaled group reclaim to its commit and settles it, or marks it abandoned and
    hands back nothing. -/
def resumeGroup (journaled : OutgoingTransaction) (cellCount : Nat) (timeoutMs : Option Nat) :
    Prog (Option AttachmentGroupReclaimResult) :=
  let resume : Prog (Option AttachmentGroupReclaimResult) := do
    let outcome ← resumeJournaledBroadcast (.ofRecord journaled) timeoutMs
    match outcome, journaled.txHex with
    | .rebroadcast, some tx => trackBroadcastSpend tx
    | _, _ => pure ()
    let result ← settleGroup journaled.txHash journaled.capacityShannon journaled.feeShannon
      cellCount true
    return some result
  resume.catchError fun error =>
    match error with
    | .journaledAbandoned .. => do
      store (.markOutgoingTxState journaled.txHash .abandoned)
      return none
    | _ => throw error

/-- The live cells among the outpoints of a group. Whatever is not reported live is left out. -/
def resolveGroup : List OutPoint → Prog (List (OutPoint × Cell))
  | [] => return []
  | outpoint :: outpoints => do
    let status ← call (.getLiveCell outpoint)
    let rest ← resolveGroup outpoints
    match status with
    | .live cell => return (outpoint, cell) :: rest
    | _ => return rest

/-- Builds, signs, journals and broadcasts one transaction over the live cells of a group, and
    settles it when it commits. -/
def broadcastGroup (deps : PipelineDeps) (reclaimGroupId : Bytes)
    (resolved : List (OutPoint × Cell)) (timeoutMs : Option Nat) :
    Prog AttachmentGroupReclaimResult := do
  let releasedTotal := (resolved.map (·.2.output.capacity)).sum
  let built ← buildReclaimTx deps (resolved.map (·.1)) (resolved.map (·.2))
  let signed ← call (.signTransaction built.tx)
  store (.recordOutgoingTx
    { txHash := signed.hash
      purpose := .reclaimAttachment reclaimGroupId
      state := .submitted
      feeShannon := some built.estimatedFee
      capacityShannon := some releasedTotal
      txHex := some signed })
  let accepted ← call (.sendTransaction signed)
  if accepted ≠ signed.hash then
    throw (.other "reclaimAttachmentGroup: node returned a different tx hash")
  else
    trackBroadcastSpend signed
    waitForTransactionCommit signed.hash timeoutMs
    settleGroup signed.hash (some releasedTotal) (some built.estimatedFee) resolved.length false

/-- Reclaims the cells of an attachment group, or resumes the journaled reclaim of the group that
    is still submitted. -/
def reclaimAttachmentGroup (deps : PipelineDeps) (reclaimGroupId : Bytes)
    (outpoints : List OutPoint) (timeoutMs : Option Nat) :
    Prog (Option AttachmentGroupReclaimResult) := do
  let journaled ← store
    (.findLatestOutgoingTxByPurposePrefix (.exactly (.reclaimAttachment reclaimGroupId)))
  let resumed ←
    match journaled.filter fun tx => tx.state == .submitted with
    | some tx => resumeGroup tx outpoints.length timeoutMs
    | none => pure none
  match resumed with
  | some result => return some result
  | none =>
    let resolved ← resolveGroup outpoints
    if resolved.isEmpty then
      return none
    else
      let result ← broadcastGroup deps reclaimGroupId resolved timeoutMs
      return some result

section Steps

variable {deps : PipelineDeps} {reclaimGroupId : Bytes}

/-- The steps of the reclaim of one group. -/
abbrev GroupStep (reclaimGroupId : Bytes) : (β : Type) → Op β → Prop :=
  ReclaimStep fun purpose => purpose = .reclaimAttachment reclaimGroupId

theorem finalizeCommittedReclaim_steps (capacityShannon feeShannon : Option Nat) :
    Program.Uses (GroupStep reclaimGroupId)
      (finalizeCommittedReclaim capacityShannon feeShannon) := by
  have release : ∀ released fee, Program.Uses (GroupStep reclaimGroupId)
      (if 0 < released then (store (.releaseReclaimedCapacity released)).bind fun _ =>
          if 0 < fee then (store (.recordFeeBurn fee)).bind fun _ => Program.ret released
          else Program.ret released
        else if 0 < fee then (store (.recordFeeBurn fee)).bind fun _ => Program.ret released
          else Program.ret released) := by
    intro released fee
    split
    · exact Program.Uses.bind (Program.uses_perform.2 trivial) fun _ => recordFeeBurn_steps fee trivial
    · exact recordFeeBurn_steps fee trivial
  unfold finalizeCommittedReclaim
  simp only [Program.bind_eq_bind, Program.pure_eq_ret]
  split
  · exact Program.Uses.bind (Program.uses_perform.2 trivial) fun _ => release _ _
  · exact release _ _

theorem settleGroup_steps (txHash : Hash) (capacityShannon feeShannon : Option Nat)
    (cellCount : Nat) (resumed : Bool) :
    Program.Uses (GroupStep reclaimGroupId)
      (settleGroup txHash capacityShannon feeShannon cellCount resumed) := by
  refine Program.Uses.bind (Program.uses_perform.2 ⟨rfl, rfl⟩) fun won => ?_
  split
  · trivial
  · exact (finalizeCommittedReclaim_steps _ _).bind fun _ => trivial

theorem resumeGroup_steps (journaled : OutgoingTransaction) (cellCount : Nat)
    (timeoutMs : Option Nat) :
    Program.Uses (GroupStep reclaimGroupId) (resumeGroup journaled cellCount timeoutMs) := by
  have settle : Program.Uses (GroupStep reclaimGroupId) ((settleGroup journaled.txHash
      journaled.capacityShannon journaled.feeShannon cellCount true).bind fun result =>
        Program.ret (some result)) :=
    (settleGroup_steps _ _ _ _ _).bind fun _ => trivial
  refine Program.Uses.catchError ?_ fun e => ?_
  · refine Program.Uses.bind (resumeJournaledBroadcast_uses trivial trivial (fun _ _ => trivial) _)
      fun outcome => ?_
    split
    · exact Program.Uses.bind (Program.uses_perform.2 trivial) fun _ => settle
    · exact settle
  · cases e with
    | journaledAbandoned message spent =>
      exact Program.Uses.bind (Program.uses_perform.2 rfl) fun _ => trivial
    | _ => trivial

theorem resolveGroup_steps (outpoints : List OutPoint) :
    Program.Uses (GroupStep reclaimGroupId) (resolveGroup outpoints) := by
  induction outpoints with
  | nil => trivial
  | cons outpoint outpoints ih =>
    refine Program.Uses.bind (Program.uses_perform.2 trivial) fun status => ?_
    refine Program.Uses.bind ih fun rest => ?_
    cases status <;> trivial

theorem broadcastGroup_steps (resolved : List (OutPoint × Cell)) (timeoutMs : Option Nat) :
    Program.Uses (GroupStep reclaimGroupId) (broadcastGroup deps reclaimGroupId resolved timeoutMs) := by
  refine Program.Uses.bind (buildReclaimTx_steps _ _) fun built => ?_
  refine Program.Uses.bind (Program.uses_perform.2 trivial) fun signed => ?_
  refine Program.Uses.bind (Program.uses_perform.2 ⟨rfl, rfl⟩) fun _ => ?_
  refine Program.Uses.bind (Program.uses_perform.2 trivial) fun accepted => ?_
  split
  · trivial
  refine Program.Uses.bind (Program.uses_perform.2 trivial) fun _ => ?_
  refine Program.Uses.bind (waitForTransactionCommit_uses trivial trivial _) fun _ => ?_
  exact settleGroup_steps _ _ _ _ _

theorem reclaimAttachmentGroup_steps (outpoints : List OutPoint) (timeoutMs : Option Nat) :
    Program.Uses (GroupStep reclaimGroupId)
      (reclaimAttachmentGroup deps reclaimGroupId outpoints timeoutMs) := by
  refine Program.Uses.bind (Program.uses_perform.2 trivial) fun journaled => ?_
  have fresh : Program.Uses (GroupStep reclaimGroupId) ((resolveGroup outpoints).bind fun resolved =>
      if resolved.isEmpty then Program.ret none
      else (broadcastGroup deps reclaimGroupId resolved timeoutMs).bind fun result =>
        Program.ret (some result)) := by
    refine (resolveGroup_steps outpoints).bind fun resolved => ?_
    split
    · trivial
    · exact (broadcastGroup_steps resolved timeoutMs).bind fun _ => trivial
  split
  · refine Program.Uses.bind (resumeGroup_steps _ _ _) fun resumed => ?_
    cases resumed with
    | some result => trivial
    | none => exact fresh
  · exact fresh

end Steps

end cemp.images
