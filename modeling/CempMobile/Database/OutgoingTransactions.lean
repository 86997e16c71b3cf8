import CempMobile.Database.Schema

open cemp.core

namespace cemp.database

/-- The prefixes the journal is searched by: all reclaim batches, or one whole purpose. The
    ids after the other prefixes have a fixed length, so a prefix match is an exact one. -/
inductive PurposePrefix where
  | reclaim
  | exactly (purpose : TxPurpose)
  deriving DecidableEq, Repr

def TxPurpose.startsWith (purpose : TxPurpose) : PurposePrefix → Bool
  | .reclaim =>
    match purpose with
    | .reclaim _ => true
    | _ => false
  | .exactly p => purpose == p

namespace OutgoingTransactionRepository

/-- Records a transaction before its broadcast. `ON CONFLICT (tx_hash) DO NOTHING`. -/
def record (tx : OutgoingTransaction) : Method Unit := fun db =>
  if fresh : db.outgoingTransactions.Fresh tx then
    (.ok (), { db with outgoingTransactions := db.outgoingTransactions.insert tx fresh })
  else (.ok (), db)

/-- The latest record for a purpose: a retry may have produced a newer transaction. -/
def latestByPurpose (db : Db) (purpose : TxPurpose) : Option OutgoingTransaction :=
  (db.outgoingTransactions.last? fun tx => tx.purpose == purpose).map (·.2)

def latestByPurposePrefix (db : Db) (start : PurposePrefix) : Option OutgoingTransaction :=
  (db.outgoingTransactions.last? fun tx => tx.purpose.startsWith start).map (·.2)

def findLatestByPurpose (purpose : TxPurpose) : Method (Option OutgoingTransaction) :=
  .read fun db => latestByPurpose db purpose

def findLatestByPurposePrefix (start : PurposePrefix) : Method (Option OutgoingTransaction) :=
  .read fun db => latestByPurposePrefix db start

def withTxState (state : TxState) (tx : OutgoingTransaction) : OutgoingTransaction :=
  { tx with state := state }

theorem key_withTxState (state : TxState) (tx : OutgoingTransaction) :
    (withTxState state tx).key = tx.key := rfl

/-- The rows whose hash and state match get the new state. -/
def setState (db : Db) (p : OutgoingTransaction → Bool) (state : TxState) : Db :=
  { db with
    outgoingTransactions := db.outgoingTransactions.update (fun _ tx => p tx)
      (withTxState state) (key_withTxState state) }

def markState (txHash : Hash) (state : TxState) : Method Unit := fun db =>
  if (db.outgoingTransactions.first? fun tx => tx.txHash == txHash).isSome then
    (.ok (), setState db (fun tx => tx.txHash == txHash) state)
  else
    (.error (.database .not_found
      ("outgoing transaction " ++ toString txHash ++ " is not recorded")), db)

/-- Compare-and-swap: the number of rows changed, so that one of several callers wins. -/
def markStateIf (txHash : Hash) (expectedFromState state : TxState) : Method Nat := fun db =>
  let p : OutgoingTransaction → Bool :=
    fun tx => tx.txHash == txHash && tx.state == expectedFromState
  (.ok (db.outgoingTransactions.select p).length, setState db p state)

/-- The records in a state, at most `limit` of them, oldest first. -/
def selectByState (db : Db) (state : TxState) (limit : Nat) : List (Nat × OutgoingTransaction) :=
  (db.outgoingTransactions.select fun tx => tx.state == state).take limit

def listByState (state : TxState) : Method (List OutgoingTransaction) :=
  .read fun db => (selectByState db state 500).map (·.2)

end OutgoingTransactionRepository

end cemp.database
