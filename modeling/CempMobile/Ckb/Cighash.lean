import CempMobile.Lib.Framing
import CempMobile.Core.Canonical

open Molecule mol

namespace cemp.ckb.cighash

open core.codec

/-! The CighashAll stream of a script group. Cells, witnesses and hashes are bytes here, as the
    codecs of CCC write them. -/

inductive HashType where
  | data
  | type
  | data1
  | data2
  deriving DecidableEq, Repr

def HashType.byte : HashType → UInt8
  | .data => 0
  | .type => 1
  | .data1 => 2
  | .data2 => 4

structure Script where
  codeHash : Buffer
  hashType : HashType
  args : Buffer
  deriving DecidableEq, Repr

structure CellOutput where
  capacity : Nat
  lock : Script
  type : Option Script
  deriving DecidableEq, Repr

structure WitnessArgs where
  lock : Option Buffer
  inputType : Option Buffer
  outputType : Option Buffer
  deriving DecidableEq, Repr

structure CellInput where
  txHash : Buffer
  index : Nat
  since : Nat
  deriving DecidableEq, Repr

/-- The transaction being signed. Its hash is of the raw transaction: witnesses are not covered. -/
structure Transaction where
  hash : Buffer
  inputs : List CellInput
  witnesses : List Buffer
  deriving DecidableEq, Repr

/-- One resolved input cell: the output and its data. -/
structure ResolvedInput where
  cellOutput : CellOutput
  data : Buffer
  deriving DecidableEq, Repr

/-! ### CCC's codecs -/

def HashTypeCodec : Codec HashType where
  encode hashType := .ok [hashType.byte]
  decode
    | [0] => .ok .data
    | [1] => .ok .type
    | [2] => .ok .data1
    | [4] => .ok .data2
    | _ => .error .library
  byteLength := some 1
  inRange _ := True
  ordered _ := True

section Codecs

variable (reader : Reader)

def Uint64Codec : Codec Nat where
  encode v := if 2 ^ 64 ≤ v then .error .library else .ok (packUint 8 v)
  decode := reader.uint 8
  byteLength := some 8
  inRange v := v < 2 ^ 64
  ordered _ := True

def ScriptCodec : Codec Script :=
  (table reader <|
    .cons Byte32Mol <|
    .cons HashTypeCodec <|
    .cons (BytesMol reader) .nil).as
    (fun v => (v.codeHash, v.hashType, v.args, ()))
    fun (codeHash, hashType, args, _) => ⟨codeHash, hashType, args⟩

def CellOutputCodec : Codec CellOutput :=
  (table reader <|
    .cons (Uint64Codec reader) <|
    .cons (ScriptCodec reader) <|
    .cons (option reader (ScriptCodec reader)) .nil).as
    (fun v => (v.capacity, v.lock, v.type, ()))
    fun (capacity, lock, type, _) => ⟨capacity, lock, type⟩

def WitnessArgsCodec : Codec WitnessArgs :=
  (table reader <|
    .cons (BytesOptMol reader) <|
    .cons (BytesOptMol reader) <|
    .cons (BytesOptMol reader) .nil).as
    (fun v => (v.lock, v.inputType, v.outputType, ()))
    fun (lock, inputType, outputType, _) => ⟨lock, inputType, outputType⟩

end Codecs

/-! ### The stream -/

def u32le (length : Nat) : Except Fault Buffer :=
  if 0xffffffff < length then
    .error (.message ("CighashAll segment length " ++ toString length ++ " does not fit u32"))
  else .ok (packUint 4 length)

/-- `u32_le(len) || bytes`. -/
def segment (bytes : Buffer) : Except Fault Buffer := do
  let length ← u32le bytes.length
  return length ++ bytes

/-- The raw encoding of a field of a witness, not its bare bytes. -/
def bytesOptSlice : Option Buffer → Except Fault Buffer
  | none => .ok []
  | some bytes => segment bytes

/-- Section 2: every resolved input's output and data. -/
def inputSegments (reader : Reader) : List ResolvedInput → Except Fault Buffer
  | [] => .ok []
  | resolved :: rest => do
    let cellOutput ← (CellOutputCodec reader).encode resolved.cellOutput
    let data ← segment resolved.data
    let others ← inputSegments reader rest
    return (cellOutput ++ data) ++ others

/-- Sections 4 and 5: witnesses in full. -/
def witnessSegments : List Buffer → Except Fault Buffer
  | [] => .ok []
  | witness :: rest => do
    let first ← segment witness
    let others ← witnessSegments rest
    return first ++ others

/-- Section 3: the first witness, without its lock. -/
def splitWitness (firstWitness : WitnessArgs) : Except Fault Buffer := do
  let inputTypeSlice ← bytesOptSlice firstWitness.inputType
  let inputType ← segment inputTypeSlice
  let outputTypeSlice ← bytesOptSlice firstWitness.outputType
  let outputType ← segment outputTypeSlice
  return inputType ++ outputType

/-- The group indices are checked in order. -/
def checkGroup (witnessCount : Nat) : List Int → Except Fault Unit
  | [] => .ok ()
  | idx :: rest =>
    if idx < 0 ∨ (witnessCount : Int) ≤ idx then
      .error (.message ("buildCighashAllStream: group index " ++ toString idx ++
        " out of range (witness count " ++ toString witnessCount ++ ")"))
    else checkGroup witnessCount rest

/-- `tx.witnesses[idx]`, for an index that was checked. -/
def Transaction.witnessAt (tx : Transaction) (idx : Int) : Buffer :=
  tx.witnesses.getD idx.toNat []

/-- The witnesses with no matching input cell. -/
def Transaction.extraWitnesses (tx : Transaction) : List Buffer :=
  tx.witnesses.drop tx.inputs.length

/-- Parses the witness that holds the signature. -/
def parseWitness (reader : Reader) (firstIdx : Int) (witness : Buffer) :
    Except Fault WitnessArgs :=
  match (WitnessArgsCodec reader).decode witness with
  | .ok firstWitness => .ok firstWitness
  | .error _ => .error (.message ("buildCighashAllStream: witness " ++ toString firstIdx ++
      " does not parse as a WitnessArgs molecule"))

def buildCighashAllStream (reader : Reader) (tx : Transaction)
    (resolvedInputs : List ResolvedInput) (groupInputIndices : List Int) :
    Except Fault Buffer := do
  if resolvedInputs.length ≠ tx.inputs.length then
    throw (.message ("buildCighashAllStream: " ++ toString resolvedInputs.length ++
      " resolved inputs for " ++ toString tx.inputs.length ++ " tx inputs"))
  else
    match groupInputIndices with
    | [] => throw (.message "buildCighashAllStream: empty group input indices")
    | firstIdx :: rest => do
      checkGroup tx.witnesses.length (firstIdx :: rest)
      let inputs ← inputSegments reader resolvedInputs
      let firstWitness ← parseWitness reader firstIdx (tx.witnessAt firstIdx)
      let split ← splitWitness firstWitness
      let group ← witnessSegments (rest.map tx.witnessAt)
      let extra ← witnessSegments tx.extraWitnesses
      return tx.hash ++ (inputs ++ (split ++ (group ++ extra)))

/-- The splice before broadcast: the signed lock replaces the placeholder. -/
def withSignatureLock (witness : WitnessArgs) (lockBytes : Buffer) : WitnessArgs :=
  { lock := some lockBytes, inputType := witness.inputType, outputType := witness.outputType }

/-! ### The host's stream -/

inductive HostHashError where
  | MissingResolvedInput (tx_input_count provided : Nat)
  | EmptyGroupInput
  | GroupIndexOutOfRange (index witness_count : Nat)
  | WitnessArgsParse
  deriving DecidableEq, Repr

/-- How the host stops: with an error, or at an `expect`. Writing into a vector never fails. -/
inductive Halt where
  | err (error : HostHashError)
  | expect (message : String)
  deriving DecidableEq, Repr

/-- A resolved input as the host is given it: the molecule of the output, and its data. -/
structure PackedInput where
  cell_output : Buffer
  cell_data : Buffer
  deriving DecidableEq, Repr

def write_length (length : Nat) : Except Halt Buffer :=
  if length < 2 ^ 32 then .ok (packUint 4 length)
  else .error (.expect "CighashAll segment length exceeds u32")

/-- The length, then the bytes. -/
def write_segment (bytes : Buffer) : Except Halt Buffer := do
  let length ← write_length bytes.length
  return length ++ bytes

def write_inputs : List PackedInput → Except Halt Buffer
  | [] => .ok []
  | input :: rest => do
    let cell_data ← write_segment input.cell_data
    let others ← write_inputs rest
    return (input.cell_output ++ cell_data) ++ others

def write_witnesses : List Buffer → Except Halt Buffer
  | [] => .ok []
  | witness :: rest => do
    let first ← write_segment witness
    let others ← write_witnesses rest
    return first ++ others

def check_indices (witness_count : Nat) : List Nat → Except Halt Unit
  | [] => .ok ()
  | idx :: rest =>
    if witness_count ≤ idx then .error (.err (.GroupIndexOutOfRange idx witness_count))
    else check_indices witness_count rest

/-- A field of a witness as its reader slices it out of the buffer. -/
def field_slice (witness : Buffer) (index : Nat) : Buffer := (parts witness 3).getD index []

/-- The host's generator, into a vector. `from_slice` verifies a witness. -/
def generate_ckb_tx_message_all_host (from_slice : Buffer → Bool) (tx : Transaction)
    (resolved_inputs : List PackedInput) (group_input_indices : List Nat) :
    Except Halt Buffer := do
  if resolved_inputs.length ≠ tx.inputs.length then
    throw (.err (.MissingResolvedInput tx.inputs.length resolved_inputs.length))
  else
    match group_input_indices with
    | [] => throw (.err .EmptyGroupInput)
    | first_group_idx :: rest => do
      check_indices tx.witnesses.length (first_group_idx :: rest)
      let inputs ← write_inputs resolved_inputs
      let first_witness := tx.witnesses.getD first_group_idx []
      if from_slice first_witness then
        let input_type ← write_segment (field_slice first_witness 1)
        let output_type ← write_segment (field_slice first_witness 2)
        let group ← write_witnesses (rest.map fun idx => tx.witnesses.getD idx [])
        let extra ← write_witnesses (tx.witnesses.drop tx.inputs.length)
        return tx.hash ++ (inputs ++ ((input_type ++ output_type) ++ (group ++ extra)))
      else throw (.err .WitnessArgsParse)

end cemp.ckb.cighash
