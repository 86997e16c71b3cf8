import CempMobile.Core.Json
import Mathlib.Data.Nat.Notation
import Mathlib.Tactic.TypeStar

open cemp.core

namespace cemp.ckb.client

/-! Transactions on the wire: the serializer and the strict parser of the CKB client. -/

/-- All shape failures are reported as this. -/
structure CempCkbError where
  context : String
  detail : String
  deriving DecidableEq, Repr

inductive HashType where
  | type | data | data1 | data2
  deriving DecidableEq, Repr

inductive DepType where
  | code | depGroup
  deriving DecidableEq, Repr

structure Script where
  codeHash : String
  hashType : HashType
  args : String
  deriving DecidableEq, Repr

structure OutPoint where
  txHash : String
  index : String
  deriving DecidableEq, Repr

structure CellDep where
  outPoint : OutPoint
  depType : DepType
  deriving DecidableEq, Repr

structure CellInput where
  previousOutput : OutPoint
  since : String
  deriving DecidableEq, Repr

structure CellOutput where
  capacity : String
  lock : Script
  type : Option Script
  deriving DecidableEq, Repr

/-- A transaction. Its quantities, hashes and bytes are 0x-prefixed hex texts. -/
structure Transaction where
  version : String
  cellDeps : List CellDep
  headerDeps : List String
  inputs : List CellInput
  outputs : List CellOutput
  outputsData : List String
  witnesses : List String
  deriving DecidableEq, Repr

def HashType.text : HashType → String
  | .type => "type"
  | .data => "data"
  | .data1 => "data1"
  | .data2 => "data2"

def DepType.text : DepType → String
  | .code => "code"
  | .depGroup => "depGroup"

/-! ### Hex -/

def hexDigit? (c : Char) : Option Nat :=
  if '0' ≤ c ∧ c ≤ '9' then some (c.toNat - '0'.toNat)
  else if 'a' ≤ c ∧ c ≤ 'f' then some (c.toNat - 'a'.toNat + 10)
  else if 'A' ≤ c ∧ c ≤ 'F' then some (c.toNat - 'A'.toNat + 10)
  else none

/-- The digits behind the prefix, if all of them are hex digits. -/
def hexDigits? (hex : String) : Option (List Nat) :=
  match hex.toList with
  | '0' :: 'x' :: digits => digits.mapM hexDigit?
  | _ => none

/-- `/^0x([0-9a-fA-F]\x7b2\x7d)*$/` -/
def isHex (hex : String) : Bool :=
  match hexDigits? hex with
  | some digits => digits.length % 2 == 0
  | none => false

/-- `/^0x[0-9a-fA-F]+$/` -/
def isQuantityHex (hex : String) : Bool :=
  match hexDigits? hex with
  | some digits => !digits.isEmpty
  | none => false

/-- `BigInt` of a hex quantity. -/
def quantity (hex : String) : Nat :=
  match hexDigits? hex with
  | some digits => digits.foldl (fun n digit => 16 * n + digit) 0
  | none => 0

/-! ### Shape guards -/

section Guards

-- How a hostile value is clipped before it is embedded in an error message.
variable (preview : Option Json → String)

/-- An object, whose properties may be read. -/
def asRecord (value : Option Json) (ctx : String) : Except CempCkbError Json :=
  match value with
  | some (.object fields) => .ok (.object fields)
  | _ => .error ⟨ctx, "expected an object, got " ++ preview value⟩

def asArray (value : Option Json) (ctx : String) : Except CempCkbError (List Json) :=
  match value with
  | some (.array items) => .ok items
  | _ => .error ⟨ctx, "expected an array, got " ++ preview value⟩

def asString (value : Option Json) (ctx : String) : Except CempCkbError String :=
  match value with
  | some (.string text) => .ok text
  | _ => .error ⟨ctx, "expected a string, got " ++ preview value⟩

def asHex (value : Option Json) (ctx : String) : Except CempCkbError String := do
  let hex ← asString preview value ctx
  if isHex hex then return hex
  else throw ⟨ctx, "expected 0x-prefixed even-length hex, got " ++ preview (some (.string hex))⟩

def asQuantityHex (value : Option Json) (ctx : String) : Except CempCkbError String := do
  let hex ← asString preview value ctx
  if isQuantityHex hex then return hex
  else throw ⟨ctx, "expected a 0x-prefixed hex quantity, got " ++ preview (some (.string hex))⟩

def asHash (value : Option Json) (ctx : String) : Except CempCkbError String := do
  let hex ← asHex preview value ctx
  if hex.length ≠ 66 then
    throw ⟨ctx, "expected a 32-byte hash, got " ++ preview (some (.string hex))⟩
  else return hex

def U64_MAX : Nat := 0xff_ff_ff_ff_ff_ff_ff

def U32_MAX : Nat := 0xff_ff_ff_ff

/-- A quantity within range, as its hex. -/
def asU64Hex (value : Option Json) (ctx : String) : Except CempCkbError String := do
  let hex ← asQuantityHex preview value ctx
  if U64_MAX < quantity hex then
    throw ⟨ctx, "hex quantity " ++ preview (some (.string hex)) ++ " exceeds uint64"⟩
  else return hex

/-- An index within range, reported in the context and with the detail that each caller has. -/
def asIndexHex (value : Option Json) (ctx failCtx detail : String) : Except CempCkbError String := do
  let index ← asU64Hex preview value ctx
  if U32_MAX < quantity index then throw ⟨failCtx, detail⟩ else return index

def asHashType (value : Option Json) (ctx : String) : Except CempCkbError HashType := do
  let ht ← asString preview value ctx
  if ht = "type" then return .type
  else if ht = "data" then return .data
  else if ht = "data1" then return .data1
  else if ht = "data2" then return .data2
  else throw ⟨ctx, "unknown hash_type " ++ preview (some (.string ht))⟩

def parseDepType (value : Option Json) (ctx : String) : Except CempCkbError DepType := do
  let depType ← asString preview value ctx
  if depType = "code" then return .code
  else if depType = "depGroup" then return .depGroup
  else throw ⟨ctx, "unknown dep_type " ++ preview (some (.string depType))⟩

/-- `map` over a list, with each element's position in its context. It stops at the first error. -/
def eachFrom {α β : Type} (parse : α → String → Except CempCkbError β) (ctx : String) :
    Nat → List α → Except CempCkbError (List β)
  | _, [] => .ok []
  | i, value :: values => do
    let first ← parse value (ctx ++ "[" ++ toString i ++ "]")
    let rest ← eachFrom parse ctx (i + 1) values
    return first :: rest

def each {α β : Type} (parse : α → String → Except CempCkbError β) (ctx : String)
    (values : List α) : Except CempCkbError (List β) :=
  eachFrom parse ctx 0 values

/-- An array of a record, parsed element by element. -/
def eachOf {β : Type} (parse : Option Json → String → Except CempCkbError β) (value : Option Json)
    (ctx : String) : Except CempCkbError (List β) := do
  let items ← asArray preview value ctx
  each (fun item => parse (some item)) ctx items

/-- An optional property: null and undefined are absent. -/
def optional {β : Type} (parse : Option Json → String → Except CempCkbError β)
    (value : Option Json) (ctx : String) : Except CempCkbError (Option β) :=
  match value with
  | none => .ok none
  | some .null => .ok none
  | some value => do
    let parsed ← parse (some value) ctx
    return some parsed

/-! ### The parser -/

def parseScript (value : Option Json) (ctx : String) : Except CempCkbError Script := do
  let rec' ← asRecord preview value ctx
  let codeHash ← asHash preview (rec'.property "code_hash") (ctx ++ ".code_hash")
  let hashType ← asHashType preview (rec'.property "hash_type") (ctx ++ ".hash_type")
  let args ← asHex preview (rec'.property "args") (ctx ++ ".args")
  return ⟨codeHash, hashType, args⟩

def parseOutput (value : Option Json) (ctx : String) : Except CempCkbError CellOutput := do
  let outputRec ← asRecord preview value ctx
  let capacity ← asU64Hex preview (outputRec.property "capacity") (ctx ++ ".capacity")
  let lock ← parseScript preview (outputRec.property "lock") (ctx ++ ".lock")
  let type ← optional (parseScript preview) (outputRec.property "type") (ctx ++ ".type")
  return ⟨capacity, lock, type⟩

/-- An out point inside a transaction body, whose index is checked before its hash. -/
def parseReference (value : Option Json) (ctx failCtx detail : String) :
    Except CempCkbError OutPoint := do
  let outPoint ← asRecord preview value ctx
  let index ← asIndexHex preview (outPoint.property "index") (ctx ++ ".index") failCtx detail
  let txHash ← asHash preview (outPoint.property "tx_hash") (ctx ++ ".tx_hash")
  return ⟨txHash, index⟩

def parseCellDep (bodyCtx : String) (value : Option Json) (ctx : String) :
    Except CempCkbError CellDep := do
  let depRec ← asRecord preview value ctx
  let outPoint ← parseReference preview (depRec.property "out_point") (ctx ++ ".out_point") bodyCtx
    "cell dep index exceeds uint32"
  let depType ← parseDepType preview (depRec.property "dep_type") (ctx ++ ".dep_type")
  return ⟨outPoint, depType⟩

def parseInput (bodyCtx : String) (value : Option Json) (ctx : String) :
    Except CempCkbError CellInput := do
  let inputRec ← asRecord preview value ctx
  let previousOutput ← parseReference preview (inputRec.property "previous_output")
    (ctx ++ ".previous_output") bodyCtx "input out-point index exceeds uint32"
  let since ← asU64Hex preview (inputRec.property "since") (ctx ++ ".since")
  return ⟨previousOutput, since⟩

/-- Validates the `transaction` field of a `get_transaction` result. -/
def parseTransactionBody (json : Option Json) (ctx : String) : Except CempCkbError Transaction := do
  let rec' ← asRecord preview json ctx
  let outputs ← eachOf preview (parseOutput preview) (rec'.property "outputs") (ctx ++ ".outputs")
  let outputsData ←
    eachOf preview (asHex preview) (rec'.property "outputs_data") (ctx ++ ".outputs_data")
  if outputs.length ≠ outputsData.length then
    .error ⟨ctx, "outputs/outputs_data length mismatch (" ++ toString outputs.length ++ " != " ++
      toString outputsData.length ++ ")"⟩
  else
    let version ← asU64Hex preview (rec'.property "version") (ctx ++ ".version")
    let cellDeps ←
      eachOf preview (parseCellDep preview ctx) (rec'.property "cell_deps") (ctx ++ ".cell_deps")
    let headerDeps ←
      eachOf preview (asHash preview) (rec'.property "header_deps") (ctx ++ ".header_deps")
    let inputs ←
      eachOf preview (parseInput preview ctx) (rec'.property "inputs") (ctx ++ ".inputs")
    let witnesses ←
      eachOf preview (asHex preview) (rec'.property "witnesses") (ctx ++ ".witnesses")
    return ⟨version, cellDeps, headerDeps, inputs, outputs, outputsData, witnesses⟩

/-! ### The serializer -/

/-- A text of a typed value, as the guards see it. -/
def text (value : String) : Option Json := some (.string value)

def u32IndexHex (value : String) (ctx : String) : Except CempCkbError String :=
  asIndexHex preview (text value) ctx ctx
    ("out-point index " ++ preview (text value) ++ " exceeds uint32")

def parseOutgoingScript (script : Script) (ctx : String) : Except CempCkbError Script := do
  let codeHash ← asHash preview (text script.codeHash) (ctx ++ ".codeHash")
  let hashType ← asHashType preview (text script.hashType.text) (ctx ++ ".hashType")
  let args ← asHex preview (text script.args) (ctx ++ ".args")
  return ⟨codeHash, hashType, args⟩

def scriptToRpc (script : Script) : Json := .object
  [("code_hash", .string script.codeHash), ("hash_type", .string script.hashType.text),
    ("args", .string script.args)]

def outPointToRpc (outPoint : OutPoint) : Json := .object
  [("tx_hash", .string outPoint.txHash), ("index", .string outPoint.index)]

def cellDepToRpc (dep : CellDep) (ctx : String) : Except CempCkbError Json := do
  let txHash ← asHash preview (text dep.outPoint.txHash) (ctx ++ ".out_point.tx_hash")
  let index ← u32IndexHex preview dep.outPoint.index (ctx ++ ".out_point.index")
  let depType ← parseDepType preview (text dep.depType.text) (ctx ++ ".dep_type")
  return .object [("out_point", outPointToRpc ⟨txHash, index⟩), ("dep_type", .string depType.text)]

def inputToRpc (input : CellInput) (ctx : String) : Except CempCkbError Json := do
  let txHash ← asHash preview (text input.previousOutput.txHash) (ctx ++ ".previous_output.tx_hash")
  let index ← u32IndexHex preview input.previousOutput.index (ctx ++ ".previous_output.index")
  let since ← asU64Hex preview (text input.since) (ctx ++ ".since")
  return .object [("previous_output", outPointToRpc ⟨txHash, index⟩), ("since", .string since)]

/-- The type script of an output, null when it has none. -/
def typeToRpc (type : Option Script) (ctx : String) : Except CempCkbError Json :=
  match type with
  | none => .ok .null
  | some type => do
    let script ← parseOutgoingScript preview type ctx
    return scriptToRpc script

def outputToRpc (output : CellOutput) (ctx : String) : Except CempCkbError Json := do
  let capacity ← asU64Hex preview (text output.capacity) (ctx ++ ".capacity")
  let lock ← parseOutgoingScript preview output.lock (ctx ++ ".lock")
  let type ← typeToRpc preview output.type (ctx ++ ".type")
  return .object [("capacity", .string capacity), ("lock", scriptToRpc lock), ("type", type)]

def hexToRpc (value : String) (ctx : String) : Except CempCkbError Json := do
  let hex ← asHex preview (text value) ctx
  return .string hex

def hashToRpc (value : String) (ctx : String) : Except CempCkbError Json := do
  let hash ← asHash preview (text value) ctx
  return .string hash

/-- Validates a transaction field by field and emits the `send_transaction` wire body. The shape of
    a typed transaction needs no check. -/
def transactionToRpc (tx : Transaction) : Except CempCkbError Json := do
  let cellDeps ← each (cellDepToRpc preview) "transaction.cell_deps" tx.cellDeps
  let headerDeps ← each (hashToRpc preview) "transaction.header_deps" tx.headerDeps
  let inputs ← each (inputToRpc preview) "transaction.inputs" tx.inputs
  let outputs ← each (outputToRpc preview) "transaction.outputs" tx.outputs
  let outputsData ← each (hexToRpc preview) "transaction.outputs_data" tx.outputsData
  if outputsData.length ≠ outputs.length then
    .error ⟨"transaction", "outputs (" ++ toString outputs.length ++ ") and outputs_data (" ++
      toString outputsData.length ++ ") length mismatch"⟩
  else
    let witnesses ← each (hexToRpc preview) "transaction.witnesses" tx.witnesses
    let version ← asQuantityHex preview (text tx.version) "transaction.version"
    return .object [("version", .string version), ("cell_deps", .array cellDeps),
      ("header_deps", .array headerDeps), ("inputs", .array inputs), ("outputs", .array outputs),
      ("outputs_data", .array outputsData), ("witnesses", .array witnesses)]

end Guards

end cemp.ckb.client
