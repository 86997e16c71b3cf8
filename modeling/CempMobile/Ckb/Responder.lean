import CempMobile.Ckb.Op

open cemp.core cemp.database

namespace cemp.ckb

/-- Moves the answered message to `awaiting_remote_reclaim` and watches its original cell. -/
def finalizeResponseSent (responseRowId : Nat) (originalOutpoint : OutPoint) : Prog Unit := do
  store (.transitionMessage responseRowId .awaiting_remote_reclaim)
  store (.registerWatch originalOutpoint (.response responseRowId))

/-- The message row of a `response:` watch. -/
def parseWatchPurpose : WatchPurpose → Option Nat
  | .response rowId => some rowId
  | .other _ => none

/-- One watch of the poll: a dead cell's watch is marked spent, then its message moves to
    `remote_reclaimed`. Answers whether the watch was spent. -/
def pollWatch (watch : WatchedOutpoint) : Prog Bool := do
  let status ← call (.getLiveCell watch.outPoint)
  match status with
  | .live _ => return false
  | .unknown => return false
  | .dead =>
    store (.markWatchSpent watch.outPoint .unknown_spender)
    match parseWatchPurpose watch.purpose with
    | some rowId => store (.transitionMessage rowId .remote_reclaimed)
    | none => pure ()
    return true

/-- The purposes of the watches that were spent. -/
def pollWatches : List WatchedOutpoint → Prog (List WatchPurpose)
  | [] => return []
  | watch :: watches => do
    let spent ← pollWatch watch
    let rest ← pollWatches watches
    return if spent then watch.purpose :: rest else rest

/-- One poll of every active watch. The spent ones are pruned at its end. -/
def pollWatchesOnce : Prog (List WatchPurpose) := do
  let watches ← store .listActiveWatches
  let spentPurposes ← pollWatches watches
  if 0 < spentPurposes.length then
    let _ ← store .pruneSpentWatches
    return spentPurposes
  else return spentPurposes

end cemp.ckb
