import CempMobile.Core.Codec

open cemp.core

namespace cemp.ckb

inductive HashType where
  | type | data | data1 | data2
  deriving DecidableEq, Repr

structure Script where
  codeHash : Hash
  hashType : HashType
  args : Bytes
  deriving DecidableEq, Repr

/-- What a cell of this wallet carries: nothing, raw bytes, or a message envelope. -/
inductive CellData where
  | bytes (content : Bytes)
  | envelope (content : CempEnvelopeV1)
  deriving DecidableEq, Repr

structure CellOutput where
  capacity : Nat
  lock : Script
  type : Option Script
  data : CellData
  deriving DecidableEq, Repr

structure Cell where
  outPoint : OutPoint
  output : CellOutput
  deriving DecidableEq, Repr

/-- What a transaction hash commits to: the inputs and the outputs. -/
structure RawTransaction where
  inputs : List OutPoint
  outputs : List CellOutput
  deriving DecidableEq, Repr

/-- A signed transaction with its hash. -/
structure Transaction extends RawTransaction where
  hash : Hash
  deriving DecidableEq, Repr

/-- The answer of `get_transaction`. `unknown` also stands for a null answer. -/
inductive TransactionStatus where
  | sent | pending | proposed | committed
  | rejected (reason : Option String)
  | unknown
  deriving DecidableEq, Repr

def TransactionStatus.status : TransactionStatus → String
  | sent => "sent"
  | pending => "pending"
  | proposed => "proposed"
  | committed => "committed"
  | rejected _ => "rejected"
  | unknown => "unknown"

inductive LiveCellStatus where
  | live (cell : Cell)
  | dead
  | unknown
  deriving DecidableEq, Repr

/-- The envelope a message transaction publishes: the data of its first output. -/
def RawTransaction.envelope? (tx : RawTransaction) : Option CempEnvelopeV1 :=
  match tx.outputs with
  | ⟨_, _, _, .envelope content⟩ :: _ => some content
  | _ => none

/-- A cell as the indexer lists it: the args of its type script, when it has one, and its data. -/
structure IndexedCell where
  outPoint : OutPoint
  typeArgs : Option Bytes
  data : Bytes
  deriving DecidableEq, Repr

/-- One page of an indexer listing, with the cursor of the next one. -/
structure CellPage where
  cells : List IndexedCell
  lastCursor : String
  deriving DecidableEq, Repr

end cemp.ckb
