import CempMobile.Ckb.Publisher
import CempMobile.Database.Journal
import CempMobile.Lib.Pool
import CempMobile.Sync.PendingTransactions

open cemp.core cemp.database cemp.ckb cemp.sync

namespace cemp.wallet

/-- Where a transaction really stands with the network, whatever a node answers about it. -/
inductive Standing where
  /-- No node ever had it. -/
  | unseen
  | pool
  /-- The node had it and dropped it. Only another broadcast brings it back. -/
  | evicted
  | committed
  /-- It can never commit. -/
  | dead
  deriving DecidableEq, Repr

/-- How a standing changes by itself. -/
def Standing.Drifts : Standing → Standing → Prop
  | .pool, s => s ≠ .unseen
  | .committed, s => s = .committed
  | s, s' => s' = s ∨ s' = .dead

/-- The wallet and the network around it. -/
structure World where
  db : Db
  standing : Hash → Standing
  /-- The outpoints that the signer's client cache holds as spent. A restart empties it. -/
  spent : List OutPoint
  /-- The hashes of the message transactions signed so far. -/
  signed : List Hash
  /-- The message rows whose cell was reserved, with the amounts. -/
  reserved : List (Nat × Nat)

/-- The reservation an access records when it succeeds. -/
def reservation : {β : Type} → StoreOp β → Except Error β → List (Nat × Nat)
  | _, .reserveCapacity amount (some rowId), .ok _ => [(rowId, amount)]
  | _, _, _ => []

/-- The world after an access to the database. -/
def World.access {β : Type} (w : World) (access : StoreOp β) : World :=
  { w with
    db := (access.exec w.db).2
    reserved := w.reserved ++ reservation access (access.exec w.db).1 }

/-- The world after a node took a transaction. -/
def World.hand (w : World) (txHash : Hash) : World :=
  { w with standing := Function.update w.standing txHash .pool }

/-- A hash that no signed message transaction had before. -/
def World.FreshHash (w : World) (txHash : Hash) : Prop :=
  txHash ∉ w.signed ∧ w.standing txHash = .unseen

/-- What signing leaves: the hash commits to what was signed, and a message transaction has a
    hash of its own, by the random nonce of its cell. -/
def World.Signs (preimage : Hash → RawTransaction) (w : World) (raw : RawTransaction)
    (tx : Transaction) (w' : World) : Prop :=
  tx.toRawTransaction = raw ∧ preimage tx.hash = raw ∧
    if raw.envelope?.isSome then w.FreshHash tx.hash ∧ w' = { w with signed := w.signed ++ [tx.hash] }
    else w' = w

/-- What the operations do to the world. A node may answer anything, and may have taken a
    transaction whatever it answers. Coin selection leaves out what the cache holds as spent. -/
def effect (preimage : Hash → RawTransaction) : Program.Effect Op Error World :=
  fun _ op w answer w' =>
    match op with
    | .store access => answer = (access.exec w.db).1 ∧ w' = w.access access
    | .sendTransaction tx =>
      w' = w ∨ ((w.standing tx.hash = .unseen ∨ w.standing tx.hash = .evicted) ∧ w' = w.hand tx.hash)
    | .completeTransaction _ =>
      w' = w ∧ ∀ completion, answer = .ok completion → ∀ input ∈ completion.inputs, input ∉ w.spent
    | .signTransaction raw =>
      match answer with
      | .error _ => w' = w
      | .ok tx => w.Signs preimage raw tx w'
    | .markTransactions tx =>
      match answer with
      | .error _ => w' = w
      | .ok _ => w' = { w with spent := w.spent ++ tx.inputs }
    | _ => w' = w

/-- The network moves on its own. -/
def drift (w w' : World) : Prop :=
  ∃ standing, (∀ txHash, (w.standing txHash).Drifts (standing txHash)) ∧
    w' = { w with standing := standing }

/-- A restart of the app loses what the client cache held. -/
def restart (w : World) : World := { w with spent := [] }

/-- The calls of the app that the properties here are about. -/
inductive Job where
  | publishText (input : PublishTextInput)
  | runPendingTransactions
  /-- The retry button of a failed message. -/
  | retryMessage (rowId : Nat)

/-- The program of a call. -/
def Job.body (deps : PipelineDeps) : Job → Prog Unit
  | publishText input => do
    let _ ← ckb.publishText deps input
    return ()
  | runPendingTransactions => sync.runPendingTransactions deps
  | retryMessage rowId => store (.transitionMessage rowId .queued)

section Lemmas

variable {w w' : World} {txHash : Hash} {s : Standing}

@[simp] theorem standing_hand_self : (w.hand txHash).standing txHash = .pool :=
  Function.update_self ..

theorem standing_hand_of_ne {other : Hash} (h : other ≠ txHash) :
    (w.hand txHash).standing other = w.standing other :=
  Function.update_of_ne h ..

@[simp] theorem db_hand : (w.hand txHash).db = w.db := rfl

@[simp] theorem standing_access {β : Type} (access : StoreOp β) :
    (w.access access).standing = w.standing := rfl

@[simp] theorem signed_access {β : Type} (access : StoreOp β) :
    (w.access access).signed = w.signed := rfl

@[simp] theorem db_access {β : Type} (access : StoreOp β) :
    (w.access access).db = (access.exec w.db).2 := rfl

theorem Standing.Drifts.dead (h : Standing.Drifts .dead s) : s = .dead := h.elim id id

end Lemmas

end cemp.wallet
