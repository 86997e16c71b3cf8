import CempMobile.Ckb.ClientWire
import CempMobile.Lib.Ledger
import CempMobile.Lib.Results

open Except

namespace cemp.ckb.client

/-! The transfer history of a lock. -/

/-- An entry of the indexer: a transaction and one of its cells that the query matches. -/
structure IndexedTransaction where
  txHash : String
  blockNumber : String
  txIndex : String
  ioType : String
  ioIndex : String
  deriving DecidableEq, Repr

structure TransactionPage where
  transactions : List IndexedTransaction
  lastCursor : String

/-- A query by exact lock script, newest first. -/
structure LockQuery where
  script : Script
  limit : Nat
  after : Option String

structure Provider where
  findTransactions : LockQuery → Except CempCkbError TransactionPage
  getTransactionBody : String → Except CempCkbError (Option Transaction)

inductive TransferDirection where
  | received
  | sent
  | self
  deriving DecidableEq, Repr

structure TransferRecord where
  txHash : String
  deltaShannon : ℤ
  direction : TransferDirection
  blockNumber : String
  deriving DecidableEq, Repr

structure TransferHistoryPage where
  records : List TransferRecord
  lastCursor : String

def toLowerCase (text : String) : String := String.ofList (text.toList.map Char.toLower)

def lockEquals (a b : Script) : Bool :=
  toLowerCase a.codeHash == toLowerCase b.codeHash && a.hashType == b.hashType &&
    toLowerCase a.args == toLowerCase b.args

/-- What a cell is worth to a lock. -/
def worth (lockScript : Script) (output : CellOutput) : ℤ :=
  if lockEquals output.lock lockScript then (quantity output.capacity : ℤ) else 0

/-- What an input spends of a lock, resolved through its source transaction. -/
def spentBy (provider : Provider) (lockScript : Script) (input : CellInput) :
    Except CempCkbError ℤ := do
  let source ← provider.getTransactionBody input.previousOutput.txHash
  match source with
  | none =>
    .error ⟨"transferHistory",
      "node does not know source transaction " ++ input.previousOutput.txHash⟩
  | some source =>
    match source.outputs[quantity input.previousOutput.index]? with
    | some spent => .ok (worth lockScript spent)
    | none => .ok 0

/-- The inputs, subtracted one after the other. -/
def subtractSpent (provider : Provider) (lockScript : Script) :
    ℤ → List CellInput → Except CempCkbError ℤ
  | delta, [] => .ok delta
  | delta, input :: inputs => do
    let spent ← spentBy provider lockScript input
    subtractSpent provider lockScript (delta - spent) inputs

/-- Net capacity delta of a lock in a transaction. -/
def lockDelta (provider : Provider) (txHash : String) (lockScript : Script) :
    Except CempCkbError ℤ := do
  let body ← provider.getTransactionBody txHash
  match body with
  | none => .error ⟨"transferHistory", "node does not know transaction " ++ txHash⟩
  | some body =>
    subtractSpent provider lockScript (body.outputs.map (worth lockScript)).sum body.inputs

def directionOf (delta : ℤ) : TransferDirection :=
  if 0 < delta then .received else if delta < 0 then .sent else .self

def transferRecord (provider : Provider) (lockScript : Script) (entry : IndexedTransaction) :
    Except CempCkbError TransferRecord := do
  let delta ← lockDelta provider entry.txHash lockScript
  return ⟨entry.txHash, delta, directionOf delta, entry.blockNumber⟩

/-- The records of the entries, one after the other. -/
def transferRecords (provider : Provider) (lockScript : Script) :
    List IndexedTransaction → Except CempCkbError (List TransferRecord)
  | [] => .ok []
  | entry :: entries => do
    let first ← transferRecord provider lockScript entry
    let rest ← transferRecords provider lockScript entries
    return first :: rest

def transferHistory (provider : Provider) (lockScript : Script) (cursor : Option String)
    (limit : Option Nat) : Except CempCkbError TransferHistoryPage := do
  let page ← provider.findTransactions ⟨lockScript, limit.getD 20, cursor⟩
  let records ← transferRecords provider lockScript page.transactions
  return ⟨records, page.lastCursor⟩

/-- A caller pages from a cursor to the end: until a page has no records. -/
inductive Paged (provider : Provider) (lockScript : Script) (limit : Option Nat) :
    Option String → List TransferRecord → Prop where
  | last {cursor : Option String} {lastCursor : String}
      (page : transferHistory provider lockScript cursor limit = .ok ⟨[], lastCursor⟩) :
      Paged provider lockScript limit cursor []
  | more {cursor : Option String} {lastCursor : String} {records rest : List TransferRecord}
      (page : transferHistory provider lockScript cursor limit = .ok ⟨records, lastCursor⟩)
      (nonempty : records ≠ []) (next : Paged provider lockScript limit (some lastCursor) rest) :
      Paged provider lockScript limit cursor (records ++ rest)

/-! ### The chain -/

/-- A transaction of the chain, with its place in it. -/
structure Committed where
  txHash : String
  blockNumber : String
  txIndex : String
  body : Transaction

/-- The hash that a cellbase input refers to, under which there is no transaction. -/
def cellbaseHash : String := "0x" ++ String.ofList (List.replicate 64 '0')

/-- What an input refers to. -/
def CellInput.reference (input : CellInput) : String × Nat :=
  (input.previousOutput.txHash, quantity input.previousOutput.index)

def CellInput.isCellbase (input : CellInput) : Bool := input.previousOutput.txHash == cellbaseHash

/-- The cells that a transaction made, under their references. -/
def Committed.cells (tx : Committed) : List ((String × Nat) × CellOutput) :=
  tx.body.outputs.zipIdx.map fun (output, i) => ((tx.txHash, i), output)

def cellsOf (chain : List Committed) : List ((String × Nat) × CellOutput) :=
  chain.flatMap Committed.cells

/-- The cells that a transaction spends. -/
def Committed.spends (tx : Committed) : List (String × Nat) :=
  (tx.body.inputs.filter fun input => !input.isCellbase).map CellInput.reference

/-- A history of the chain: hashes are distinct, what is spent was made, and is spent once. -/
structure ChainHistory (chain : List Committed) : Prop where
  hashes : (chain.map Committed.txHash).Nodup
  cellbase : cellbaseHash ∉ chain.map Committed.txHash
  made : ∀ tx ∈ chain, ∀ reference ∈ tx.spends, reference ∈ (cellsOf chain).map Prod.fst
  spentOnce : (chain.flatMap Committed.spends).Nodup

/-- What a cell of the chain is worth to a lock, nothing when there is none. -/
def valueOf (chain : List Committed) (lockScript : Script) (reference : String × Nat) : ℤ :=
  Ledger.valueAt (worth lockScript) (cellsOf chain) reference

/-- The sum of the lock's output capacities of a transaction, less the capacities of the lock's
    cells that it spends. -/
def trueDelta (chain : List Committed) (lockScript : Script) (tx : Committed) : ℤ :=
  (tx.body.outputs.map (worth lockScript)).sum - (tx.spends.map (valueOf chain lockScript)).sum

/-- The lock's current total: the worth of the cells that nothing spends. -/
def currentTotal (chain : List Committed) (lockScript : Script) : ℤ :=
  Ledger.total (worth lockScript)
    (Ledger.unspent (cellsOf chain) (chain.flatMap Committed.spends))

/-! ### The indexer -/

/-- A cell of the lock. -/
def paysLock (lockScript : Script) (output : CellOutput) : Bool := lockEquals output.lock lockScript

def spendsLock (chain : List Committed) (lockScript : Script) (input : CellInput) : Bool :=
  !input.isCellbase && ((cellsOf chain).lookup input.reference).any (paysLock lockScript)

def hexIndex (i : Nat) : String := "0x" ++ String.ofList (Nat.toDigits 16 i)

/-- One entry for each cell of the lock that a transaction makes or spends. -/
def entriesOf (chain : List Committed) (lockScript : Script) (tx : Committed) :
    List IndexedTransaction :=
  (tx.body.outputs.zipIdx.filter fun (output, _) => paysLock lockScript output).map
      (fun (_, i) => ⟨tx.txHash, tx.blockNumber, tx.txIndex, "output", hexIndex i⟩) ++
    (tx.body.inputs.zipIdx.filter fun (input, _) => spendsLock chain lockScript input).map
      (fun (_, i) => ⟨tx.txHash, tx.blockNumber, tx.txIndex, "input", hexIndex i⟩)

/-- A node that knows the chain, and an indexer that pages through the entries of a lock. Its pages
    may be shorter than the limit. -/
structure Honest (chain : List Committed) (lockScript : Script) (provider : Provider)
    (entries : List IndexedTransaction) (position : Option String → Nat) : Prop where
  complete : entries.Perm (chain.flatMap (entriesOf chain lockScript))
  start : position none = 0
  page : ∀ limit after, 0 < limit → ∃ count cursor,
    provider.findTransactions ⟨lockScript, limit, after⟩ =
        .ok ⟨(entries.drop (position after)).take count, cursor⟩ ∧
      count ≤ limit ∧ position (some cursor) = position after + count ∧
      (position after < entries.length → 0 < count)
  body : ∀ txHash, provider.getTransactionBody txHash =
    .ok ((chain.find? fun tx => tx.txHash == txHash).map Committed.body)

/-- A transaction that makes or spends a cell of the lock. -/
def Touches (chain : List Committed) (lockScript : Script) (tx : Committed) : Prop :=
  entriesOf chain lockScript tx ≠ []

instance (chain : List Committed) (lockScript : Script) : DecidablePred (Touches chain lockScript) :=
  fun tx => inferInstanceAs (Decidable (entriesOf chain lockScript tx ≠ []))

/-- An exact history: every transaction that touches the lock once, with its true delta, and deltas
    that sum to the lock's current total. -/
structure Exact (chain : List Committed) (lockScript : Script) (records : List TransferRecord) :
    Prop where
  once : (records.map TransferRecord.txHash).Perm
    ((chain.filter fun tx => Touches chain lockScript tx).map Committed.txHash)
  delta : ∀ record ∈ records, ∀ tx ∈ chain, tx.txHash = record.txHash →
    record.deltaShannon = trueDelta chain lockScript tx
  total : (records.map TransferRecord.deltaShannon).sum = currentTotal chain lockScript

end cemp.ckb.client
