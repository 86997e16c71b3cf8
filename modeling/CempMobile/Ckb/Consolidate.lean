import CempMobile.Ckb.TransferHistory
import CempMobile.Core.Error
import CempMobile.Lib.Results

open cemp.core

namespace cemp.ckb.client

/-! Which cells of a wallet are free to be spent: the balance split decides it for every listed
    cell, and the consolidation builder for the cells it is given. -/

structure Cell where
  outPoint : OutPoint
  output : CellOutput
  data : String
  deriving DecidableEq, Repr

/-! ### `BigInt` of a text -/

def isSpace (c : Char) : Bool :=
  c.toNat ∈ [9, 10, 11, 12, 13, 32, 0xa0, 0x1680, 0x2028, 0x2029, 0x202f, 0x205f, 0x3000, 0xfeff] ∨
    (0x2000 ≤ c.toNat ∧ c.toNat ≤ 0x200a)

def trim (text : List Char) : List Char :=
  ((text.dropWhile isSpace).reverse.dropWhile isSpace).reverse

/-- The number that digits of a base stand for. -/
def digitsIn (base : Nat) (digits : List Char) : Option Int :=
  if digits.isEmpty then none
  else digits.foldl (fun value c => do
    let value ← value
    let digit ← hexDigit? c
    if digit < base then some (base * value + digit) else none) (some 0)

/-- `BigInt(text)`, which throws where this is none. -/
def BigInt (text : String) : Option Int :=
  match trim text.toList with
  | [] => some 0
  | '0' :: 'x' :: digits | '0' :: 'X' :: digits => digitsIn 16 digits
  | '0' :: 'o' :: digits | '0' :: 'O' :: digits => digitsIn 8 digits
  | '0' :: 'b' :: digits | '0' :: 'B' :: digits => digitsIn 2 digits
  | '-' :: digits => (digitsIn 10 digits).map (- ·)
  | '+' :: digits => digitsIn 10 digits
  | digits => digitsIn 10 digits

/-! ### Balance categories -/

structure BalanceCategories where
  totalShannon : Int
  availableShannon : Int
  reservedShannon : Int
  reclaimableShannon : Int
  cellCount : Nat
  protocolCellCount : Nat
  deriving DecidableEq, Repr

/-- The message type script of a network. -/
structure MessageTypeScript where
  codeHash : String
  hashType : HashType
  deriving DecidableEq, Repr

def isMessageType (messageType : MessageTypeScript) : Option Script → Bool
  | none => false
  | some type => toLowerCase type.codeHash == toLowerCase messageType.codeHash &&
      type.hashType == messageType.hashType

def hasData (cell : Cell) : Bool := cell.data != "0x" && cell.data != ""

/-- A cell that the split does not count as available. -/
def isProtocol (messageType : MessageTypeScript) (cell : Cell) : Bool :=
  isMessageType messageType cell.output.type || hasData cell || cell.output.type.isSome

/-- The running sums of the split. -/
structure Sums where
  total : Int
  reserved : Int
  protocolCellCount : Nat
  deriving DecidableEq, Repr

def addCell (messageType : MessageTypeScript) (sums : Sums) (cell : Cell) : Except Error Sums :=
  match BigInt cell.output.capacity with
  | none => .error (.other ("Cannot convert " ++ cell.output.capacity ++ " to a BigInt"))
  | some capacity =>
    if isProtocol messageType cell then
      .ok ⟨sums.total + capacity, sums.reserved + capacity, sums.protocolCellCount + 1⟩
    else .ok { sums with total := sums.total + capacity }

def addCells (messageType : MessageTypeScript) : Sums → List Cell → Except Error Sums
  | sums, [] => .ok sums
  | sums, cell :: cells => do
    let sums ← addCell messageType sums cell
    addCells messageType sums cells

/-- The split over all live cells of a lock. -/
def balanceCategories (messageType : MessageTypeScript) (all : List Cell) :
    Except Error BalanceCategories := do
  let sums ← addCells messageType ⟨0, 0, 0⟩ all
  return ⟨sums.total, sums.total - sums.reserved, sums.reserved, sums.reserved, all.length,
    sums.protocolCellCount⟩

/-! ### Consolidation -/

def DEFAULT_FEE_RATE : Nat := 1200

/-- An input as CCC takes it. -/
structure ConsolidatedInput where
  txHash : String
  index : Int
  since : Nat
  deriving DecidableEq, Repr

structure ResolvedInputDescription where
  txHash : String
  index : String
  capacity : Int
  deriving DecidableEq, Repr

structure BuiltTransaction (Tx : Type) where
  tx : Tx
  resolvedInputsDescription : List ResolvedInputDescription
  estimatedFee : Int
  deriving DecidableEq

/-- What the builder uses of CCC, for a signer: its transactions, how it reads numbers, and the
    completion of the fee with a change cell. -/
structure Ccc (Tx : Type) where
  numFrom : String → Option Int
  fromInputs : List ConsolidatedInput → Tx
  completeFeeChangeToLock : Tx → Script → Nat → Except Error Tx
  getFee : Tx → Except Error Int

def scriptEquals (a b : Script) : Bool :=
  a.codeHash == b.codeHash && a.hashType == b.hashType && a.args == b.args

section Builder

-- How a text is quoted in an error message.
variable {Tx : Type} (stringify : String → String) (ccc : Ccc Tx) (ownerLock : Script)

/-- The input of a cell, unless it is locked by someone else or carries a type script. -/
def consolidatedInput (cell : Cell) (i : Nat) : Except Error ConsolidatedInput :=
  if ¬scriptEquals cell.output.lock ownerLock then
    .error (.ckb "buildConsolidateTx"
      ("cell " ++ toString i ++ " is not locked by the signer's lock"))
  else if cell.output.type ≠ none then
    .error (.ckb "buildConsolidateTx" ("cell " ++ toString i ++
      " carries a type script — protocol cells are not consolidation material"))
  else match ccc.numFrom cell.outPoint.index with
  | none => .error (.ckb "buildConsolidateTx" ("cell " ++ toString i ++
      " has an unparseable index " ++ stringify cell.outPoint.index))
  | some index => .ok ⟨cell.outPoint.txHash, index, 0⟩

def consolidatedInputs : Nat → List Cell → Except Error (List ConsolidatedInput)
  | _, [] => .ok []
  | i, cell :: cells => do
    let input ← consolidatedInput stringify ccc ownerLock cell i
    let inputs ← consolidatedInputs (i + 1) cells
    return input :: inputs

def describeInputs : List Cell → Except Error (List ResolvedInputDescription)
  | [] => .ok []
  | cell :: cells =>
    match ccc.numFrom cell.output.capacity with
    | none => .error (.other ("Cannot convert " ++ cell.output.capacity ++ " to a BigInt"))
    | some capacity => do
      let descriptions ← describeInputs cells
      return ⟨cell.outPoint.txHash, cell.outPoint.index, capacity⟩ :: descriptions

def buildConsolidateTx (cells : List Cell) (recipientLock : Option Script) (feeRate : Option Nat) :
    Except Error (BuiltTransaction Tx) :=
  if cells.length = 0 then .error (.ckb "buildConsolidateTx" "no cells given")
  else do
    let inputs ← consolidatedInputs stringify ccc ownerLock 0 cells
    let tx ← ccc.completeFeeChangeToLock (ccc.fromInputs inputs) (recipientLock.getD ownerLock)
      (feeRate.getD DEFAULT_FEE_RATE)
    let resolvedInputsDescription ← describeInputs ccc cells
    let estimatedFee ← ccc.getFee tx
    if estimatedFee ≤ 0 then
      .error (.ckb "buildConsolidateTx"
        ("fee completion left a non-positive fee (" ++ toString estimatedFee ++ ")"))
    else return ⟨tx, resolvedInputsDescription, estimatedFee⟩

end Builder

/-! ### What is free to be spent -/

/-- A cell of this lock that the split counts as available. -/
def Available (ownerLock : Script) (messageType : MessageTypeScript) (cell : Cell) : Prop :=
  cell.output.lock = ownerLock ∧ isProtocol messageType cell = false

/-- What the split counts as available is the capacity of the cells that are not protocol cells. -/
theorem addCells_eq_ok {messageType : MessageTypeScript} {cells : List Cell} {sums sums' : Sums}
    (h : addCells messageType sums cells = .ok sums') :
    sums'.total - sums'.reserved = sums.total - sums.reserved +
      ((cells.filter (!isProtocol messageType ·)).map fun cell =>
        (BigInt cell.output.capacity).getD 0).sum := by
  induction cells generalizing sums with
  | nil =>
    obtain rfl := Except.ok.inj h
    simp
  | cons cell cells ih =>
    obtain ⟨mid, hcell, hrest⟩ := Except.bind_eq_ok_iff.1 h
    rw [ih hrest]
    unfold addCell at hcell
    cases hcapacity : BigInt cell.output.capacity with
    | none =>
      rw [hcapacity] at hcell
      cases hcell
    | some capacity =>
      rw [hcapacity] at hcell
      simp only at hcell
      split at hcell
      · next hprotocol =>
        obtain rfl := Except.ok.inj hcell
        simp only [List.filter_cons, hprotocol, Bool.not_true, Bool.false_eq_true, if_false]
        omega
      · next hprotocol =>
        obtain rfl := Except.ok.inj hcell
        simp only [List.filter_cons, hprotocol, Bool.not_false, if_true, List.map_cons,
          List.sum_cons, hcapacity, Option.getD_some]
        omega

theorem balanceCategories_available {messageType : MessageTypeScript} {all : List Cell}
    {categories : BalanceCategories} (h : balanceCategories messageType all = .ok categories) :
    categories.availableShannon = ((all.filter (!isProtocol messageType ·)).map fun cell =>
      (BigInt cell.output.capacity).getD 0).sum := by
  obtain ⟨sums, hsums, hcategories⟩ := Except.bind_eq_ok_iff.1 h
  obtain rfl := Except.ok.inj hcategories
  simpa using addCells_eq_ok hsums

/-- A protocol cell is one with a type script or with data. -/
theorem isProtocol_eq_false_iff {messageType : MessageTypeScript} {cell : Cell} :
    isProtocol messageType cell = false ↔
      cell.output.type = none ∧ (cell.data = "0x" ∨ cell.data = "") := by
  unfold isProtocol hasData
  cases cell.output.type with
  | none => simp [isMessageType, or_iff_not_imp_left]
  | some type => simp

section

variable {Tx : Type} {stringify : String → String} {ccc : Ccc Tx} {ownerLock : Script}

theorem scriptEquals_iff {a b : Script} : scriptEquals a b = true ↔ a = b := by
  obtain ⟨codeHash, hashType, args⟩ := a
  obtain ⟨codeHash', hashType', args'⟩ := b
  simp [scriptEquals, and_assoc]

/-- The cells of the inputs are typeless cells of the signer. -/
theorem consolidatedInputs_owned {cells : List Cell} {i : Nat} {inputs : List ConsolidatedInput}
    (h : consolidatedInputs stringify ccc ownerLock i cells = .ok inputs) :
    ∀ cell ∈ cells, cell.output.lock = ownerLock ∧ cell.output.type = none := by
  induction cells generalizing i inputs with
  | nil => nofun
  | cons first cells ih =>
    obtain ⟨input, hinput, hrest⟩ := Except.bind_eq_ok_iff.1 h
    obtain ⟨rest, hrest, -⟩ := Except.bind_eq_ok_iff.1 hrest
    unfold consolidatedInput at hinput
    obtain ⟨hlock, hinput⟩ := Except.guard_eq_ok_iff.1 hinput
    obtain ⟨htype, -⟩ := Except.guard_eq_ok_iff.1 hinput
    intro cell hmem
    obtain rfl | hmem := List.mem_cons.1 hmem
    · exact ⟨scriptEquals_iff.1 (not_not.1 hlock), not_not.1 htype⟩
    · exact ih hrest cell hmem

/-- The cells of a consolidation are all available exactly when none of them carries data. -/
theorem consolidated_available_iff {cells : List Cell} {recipientLock : Option Script}
    {feeRate : Option Nat} {built : BuiltTransaction Tx} (messageType : MessageTypeScript)
    (h : buildConsolidateTx stringify ccc ownerLock cells recipientLock feeRate = .ok built) :
    (∀ cell ∈ cells, Available ownerLock messageType cell) ↔
      ∀ cell ∈ cells, cell.data = "0x" ∨ cell.data = "" := by
  obtain ⟨-, h⟩ := Except.guard_eq_ok_iff.1 h
  obtain ⟨inputs, hinputs, -⟩ := Except.bind_eq_ok_iff.1 h
  have howned := consolidatedInputs_owned hinputs
  constructor
  · intro havailable cell hmem
    exact (isProtocol_eq_false_iff.1 (havailable cell hmem).2).2
  · intro hdata cell hmem
    obtain ⟨hlock, htype⟩ := howned cell hmem
    exact ⟨hlock, isProtocol_eq_false_iff.2 ⟨htype, hdata cell hmem⟩⟩

end

/-! ### A wallet of cells of 100 CKB -/

abbrev SampleTx : Type := List ConsolidatedInput × List (Script × Int)

/-- Every input cell holds 100 CKB, and a transaction takes 1000 bytes. -/
def sampleCcc : Ccc SampleTx where
  numFrom text := if text = "0x" then some 0 else BigInt text
  fromInputs inputs := (inputs, [])
  completeFeeChangeToLock tx lock feeRate :=
    .ok (tx.1, [(lock, 10000000000 * tx.1.length - feeRate)])
  getFee tx := .ok (10000000000 * tx.1.length - (tx.2.map (·.2)).sum)

def sampleLock : Script := ⟨"0x10", .type, "0x20"⟩

def sampleMessageType : MessageTypeScript := ⟨"0x30", .type⟩

def sampleCell (data : String) : Cell := ⟨⟨"0x40", "0x0"⟩, ⟨"0x2540be400", sampleLock, none⟩, data⟩

def sampleBuilt : BuiltTransaction SampleTx :=
  ⟨([⟨"0x40", 0, 0⟩], [(sampleLock, 9999998800)]), [⟨"0x40", "0x0", 10000000000⟩], 1200⟩

theorem sample_consolidated (data : String) :
    buildConsolidateTx id sampleCcc sampleLock [sampleCell data] none none = .ok sampleBuilt := by
  have hindex : sampleCcc.numFrom "0x0" = some 0 := by decide +kernel
  have hcapacity : sampleCcc.numFrom "0x2540be400" = some 10000000000 := by decide +kernel
  have hlock : scriptEquals sampleLock sampleLock = true := scriptEquals_iff.2 rfl
  simp only [buildConsolidateTx, consolidatedInputs, consolidatedInput, describeInputs, sampleCell,
    hindex, hcapacity, hlock]
  rfl

theorem consolidated_available_sample :
    Available sampleLock sampleMessageType (sampleCell "0x") :=
  (consolidated_available_iff sampleMessageType (sample_consolidated "0x")).2
    (by simp [sampleCell]) _ (List.mem_singleton_self _)

/-- A chunk of an attachment is typeless and carries data: it is consolidated, although the split
    does not count it as available. -/
theorem chunk_consolidated :
    (∃ built, buildConsolidateTx id sampleCcc sampleLock [sampleCell "0xabcd"] none none = .ok built) ∧
      ¬Available sampleLock sampleMessageType (sampleCell "0xabcd") := by
  refine ⟨⟨_, sample_consolidated _⟩, fun havailable => ?_⟩
  obtain hempty | hempty := (isProtocol_eq_false_iff.1 havailable.2).2
  · exact absurd hempty (by decide)
  · exact absurd hempty (by decide)

end cemp.ckb.client
