import CempMobile.Ckb.Op

open cemp.core cemp.database

namespace cemp.ckb

/-- What a polled status settles: a committed transaction ends the wait, a rejected one fails
    it, any other is polled again. -/
def commitOutcome : TransactionStatus → Option (Except Error Unit)
  | .committed => some (.ok ())
  | .rejected reason =>
    some (.error (.ckb "monitor" ("transaction was rejected" ++
      match reason with
      | none => ""
      | some text => ": " ++ text)))
  | _ => none

def timedOut (timeoutMs : Nat) (last : TransactionStatus) : Error :=
  .ckb "monitor" ("timed out after " ++ toString ((timeoutMs + 500) / 1000) ++
    "s waiting for commit (last status: " ++ last.status ++ ")")

/-- The polling loop, with the number of times its sleep still fits before the deadline. A
    slow node makes the deadline pass after fewer polls. -/
def pollForCommit (txHash : Hash) (timeoutMs : Nat) : Nat → Prog Unit
  | 0 => do
    let status ← call (.getTransaction txHash)
    match commitOutcome status with
    | some outcome => Program.ofExcept outcome
    | none => throw (timedOut timeoutMs status)
  | sleeps + 1 => do
    let status ← call (.getTransaction txHash)
    match commitOutcome status with
    | some outcome => Program.ofExcept outcome
    | none =>
      let late ← call .deadlinePassed
      if late then throw (timedOut timeoutMs status) else pollForCommit txHash timeoutMs sleeps

/-- Waits until a transaction commits. The default deadline is 180 s, the interval 4 s. -/
def waitForTransactionCommit (txHash : Hash) (timeoutMs : Option Nat) : Prog Unit :=
  let deadline := timeoutMs.getD 180000
  pollForCommit txHash deadline (deadline / 4000 + 1)

/-- `/double.?spend|already|spent|dead|resolve/i`, the pattern a refused rebroadcast is
    classified by. -/
def spentElsewherePattern (message : String) : Bool :=
  doubleSpend || includesIgnoreCase message "already" || includesIgnoreCase message "spent" ||
    includesIgnoreCase message "dead" || includesIgnoreCase message "resolve"
where
  doubleSpend : Bool :=
    (message.toList.map Char.toLower).tails.any fun rest =>
      "double".toList.isPrefixOf rest &&
        ("spend".toList.isPrefixOf (rest.drop 6) ||
          (((rest.drop 6).head?.any fun c => c ∉ ['\n', '\r', '\u2028', '\u2029']) &&
            "spend".toList.isPrefixOf (rest.drop 7)))

/-- A journal record as the resume reads it. -/
structure JournaledTx where
  txHash : Hash
  txHex : Option Transaction
  deriving DecidableEq, Repr

def JournaledTx.ofRecord (tx : OutgoingTransaction) : JournaledTx := ⟨tx.txHash, tx.txHex⟩

inductive ResumeBroadcastOutcome where
  | committed | rebroadcast
  deriving DecidableEq, Repr

/-- Broadcasts the journaled bytes again. Only the text of a refusal tells whether the inputs
    are gone for good. -/
def rebroadcast (record : JournaledTx) (wire : Transaction) (timeoutMs : Option Nat) :
    Prog ResumeBroadcastOutcome := do
  let rebroadcastHash ← Program.attempt (call (.sendTransaction wire))
  match rebroadcastHash with
  | .error e =>
    if spentElsewherePattern e.message then
      throw (.journaledAbandoned
        ("rebroadcast of the journaled tx failed (inputs spent by another transaction): " ++
          e.message) true)
    else throw e
  | .ok hash =>
    if hash ≠ record.txHash then
      throw (.ckb "monitor"
        "rebroadcast returned a tx hash different from the journaled transaction")
    else
      waitForTransactionCommit record.txHash timeoutMs
      return .rebroadcast

/-- Resumes a journaled broadcast. The branch for an unknown transaction is also the one a
    `sent` transaction takes: no other branch names that status. -/
def resumeJournaledBroadcast (record : JournaledTx) (timeoutMs : Option Nat) :
    Prog ResumeBroadcastOutcome := do
  let status ← call (.getTransaction record.txHash)
  match status with
  | .committed => return .committed
  | .rejected reason =>
    throw (.journaledAbandoned ("journaled tx was rejected by the network" ++
      match reason with
      | none => ""
      | some text => ": " ++ text) false)
  | .pending | .proposed =>
    waitForTransactionCommit record.txHash timeoutMs
    return .committed
  | .sent | .unknown =>
    match record.txHex with
    | none =>
      throw (.journaledAbandoned
        "journaled tx is unknown to the network and the journal holds no signed bytes" false)
    | some wire => rebroadcast record wire timeoutMs

/-- What resuming does with a transaction the node does not have. -/
def resubmit (record : JournaledTx) (timeoutMs : Option Nat) : Prog ResumeBroadcastOutcome :=
  match record.txHex with
  | none =>
    throw (.journaledAbandoned
      "journaled tx is unknown to the network and the journal holds no signed bytes" false)
  | some wire => rebroadcast record wire timeoutMs

end cemp.ckb
