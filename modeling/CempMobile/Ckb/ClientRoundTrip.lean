import CempMobile.Ckb.ClientWire
import CempMobile.Lib.Results
import Mathlib.Tactic.NormNum

open cemp.core Except

namespace cemp.ckb.client

/-! What the serializer and the parser accept, and that they agree. -/

variable {preview : Option Json → String} {ctx : String}

/-! ### Guards -/

def IsHash (hex : String) : Prop := isHex hex = true ∧ hex.length = 66

/-- A quantity up to a limit. -/
def IsQuantity (max : Nat) (hex : String) : Prop := isQuantityHex hex = true ∧ quantity hex ≤ max

instance (hex : String) : Decidable (IsHash hex) := inferInstanceAs (Decidable (_ ∧ _))

instance (max : Nat) (hex : String) : Decidable (IsQuantity max hex) :=
  inferInstanceAs (Decidable (_ ∧ _))

theorem IsQuantity.mono {max max' : Nat} {hex : String} (h : IsQuantity max hex)
    (hle : max ≤ max') : IsQuantity max' hex :=
  ⟨h.1, h.2.trans hle⟩

theorem asString_eq_ok {value : Option Json} {s : String} :
    asString preview value ctx = .ok s ↔ value = text s := by
  unfold asString
  cases value with
  | none => simp [text]
  | some value => cases value <;> simp [text]

theorem asHex_eq_ok {value : Option Json} {hex : String} :
    asHex preview value ctx = .ok hex ↔ value = text hex ∧ isHex hex = true := by
  unfold asHex
  rw [bind_eq_ok_iff]
  simp only [asString_eq_ok]
  constructor
  · rintro ⟨s, hvalue, hok⟩
    obtain ⟨hhex, hok⟩ := require_eq_ok_iff.1 hok
    obtain rfl := ok.inj hok
    exact ⟨hvalue, hhex⟩
  · rintro ⟨hvalue, hhex⟩
    exact ⟨hex, hvalue, require_eq_ok_iff.2 ⟨hhex, rfl⟩⟩

theorem asQuantityHex_eq_ok {value : Option Json} {hex : String} :
    asQuantityHex preview value ctx = .ok hex ↔ value = text hex ∧ isQuantityHex hex = true := by
  unfold asQuantityHex
  rw [bind_eq_ok_iff]
  simp only [asString_eq_ok]
  constructor
  · rintro ⟨s, hvalue, hok⟩
    obtain ⟨hhex, hok⟩ := require_eq_ok_iff.1 hok
    obtain rfl := ok.inj hok
    exact ⟨hvalue, hhex⟩
  · rintro ⟨hvalue, hhex⟩
    exact ⟨hex, hvalue, require_eq_ok_iff.2 ⟨hhex, rfl⟩⟩

theorem asHash_eq_ok {value : Option Json} {hex : String} :
    asHash preview value ctx = .ok hex ↔ value = text hex ∧ IsHash hex := by
  unfold asHash
  rw [bind_eq_ok_iff]
  simp only [asHex_eq_ok, ne_eq]
  constructor
  · rintro ⟨s, ⟨hvalue, hhex⟩, hok⟩
    obtain ⟨hlength, hok⟩ := guard_eq_ok_iff.1 hok
    obtain rfl := ok.inj hok
    exact ⟨hvalue, hhex, not_not.1 hlength⟩
  · rintro ⟨hvalue, hhex, hlength⟩
    exact ⟨hex, ⟨hvalue, hhex⟩, guard_eq_ok_iff.2 ⟨not_not.2 hlength, rfl⟩⟩

theorem asU64Hex_eq_ok {value : Option Json} {hex : String} :
    asU64Hex preview value ctx = .ok hex ↔ value = text hex ∧ IsQuantity U64_MAX hex := by
  unfold asU64Hex
  rw [bind_eq_ok_iff]
  simp only [asQuantityHex_eq_ok]
  constructor
  · rintro ⟨s, ⟨hvalue, hhex⟩, hok⟩
    obtain ⟨hmax, hok⟩ := guard_eq_ok_iff.1 hok
    obtain rfl := ok.inj hok
    exact ⟨hvalue, hhex, not_lt.1 hmax⟩
  · rintro ⟨hvalue, hhex, hmax⟩
    exact ⟨hex, ⟨hvalue, hhex⟩, guard_eq_ok_iff.2 ⟨not_lt.2 hmax, rfl⟩⟩

theorem asIndexHex_eq_ok {value : Option Json} {failCtx detail hex : String} :
    asIndexHex preview value ctx failCtx detail = .ok hex ↔
      value = text hex ∧ IsQuantity U32_MAX hex := by
  unfold asIndexHex
  rw [bind_eq_ok_iff]
  simp only [asU64Hex_eq_ok]
  constructor
  · rintro ⟨s, ⟨hvalue, hquantity⟩, hok⟩
    obtain ⟨hmax, hok⟩ := guard_eq_ok_iff.1 hok
    obtain rfl := ok.inj hok
    exact ⟨hvalue, hquantity.1, not_lt.1 hmax⟩
  · rintro ⟨hvalue, hquantity⟩
    exact ⟨hex, ⟨hvalue, hquantity.mono (by decide)⟩,
      guard_eq_ok_iff.2 ⟨not_lt.2 hquantity.2, rfl⟩⟩

theorem asHashType_text (hashType : HashType) :
    asHashType preview (text hashType.text) ctx = .ok hashType := by
  cases hashType <;> rfl

theorem parseDepType_text (depType : DepType) :
    parseDepType preview (text depType.text) ctx = .ok depType := by
  cases depType <;> rfl

/-! ### Lists -/

section Each

variable {α β γ : Type} {parse : α → String → Except CempCkbError β}

/-- Elements that are parsed alike in every context are parsed alike in a list. -/
theorem each_map_eq_ok {g : γ → α} {f : γ → β} {valid : γ → Prop}
    (h : ∀ v ctx r, parse (g v) ctx = .ok r ↔ r = f v ∧ valid v) {vs : List γ} {rs : List β} :
    each parse ctx (vs.map g) = .ok rs ↔ rs = vs.map f ∧ ∀ v ∈ vs, valid v := by
  have hfrom : ∀ (vs : List γ) (i : Nat) (rs : List β),
      eachFrom parse ctx i (vs.map g) = .ok rs ↔ rs = vs.map f ∧ ∀ v ∈ vs, valid v := by
    intro vs
    induction vs with
    | nil => simp [eachFrom, eq_comm]
    | cons v vs ih =>
      intro i rs
      simp only [List.map_cons, eachFrom, bind_eq_ok_iff, h, ih, List.forall_mem_cons]
      constructor
      · rintro ⟨first, ⟨rfl, hv⟩, rest, ⟨rfl, hvs⟩, hok⟩
        exact ⟨(ok.inj hok).symm, hv, hvs⟩
      · rintro ⟨rfl, hv, hvs⟩
        exact ⟨f v, ⟨rfl, hv⟩, vs.map f, ⟨rfl, hvs⟩, rfl⟩
  exact hfrom vs 0 rs

/-- Every element of a list that was parsed was parsed itself. -/
theorem exists_of_each {vs : List α} {rs : List β} (h : each parse ctx vs = .ok rs) :
    ∀ v ∈ vs, ∃ ctx r, parse v ctx = .ok r := by
  have hfrom : ∀ (vs : List α) (i : Nat) (rs : List β), eachFrom parse ctx i vs = .ok rs →
      ∀ v ∈ vs, ∃ ctx r, parse v ctx = .ok r := by
    intro vs
    induction vs with
    | nil => exact fun _ _ _ v hv => absurd hv List.not_mem_nil
    | cons first vs ih =>
      intro i rs h v hv
      obtain ⟨r, hfirst, h⟩ := bind_eq_ok_iff.1 h
      obtain ⟨rest, hrest, -⟩ := bind_eq_ok_iff.1 h
      obtain rfl | hv := List.mem_cons.1 hv
      · exact ⟨_, r, hfirst⟩
      · exact ih _ _ hrest v hv
  exact hfrom vs 0 rs h

end Each

/-! ### Valid transactions -/

def Script.Valid (script : Script) : Prop := IsHash script.codeHash ∧ isHex script.args = true

def OutPoint.Valid (outPoint : OutPoint) : Prop :=
  IsHash outPoint.txHash ∧ IsQuantity U32_MAX outPoint.index

def CellInput.Valid (max : Nat) (input : CellInput) : Prop :=
  input.previousOutput.Valid ∧ IsQuantity max input.since

def CellOutput.Valid (max : Nat) (output : CellOutput) : Prop :=
  IsQuantity max output.capacity ∧ output.lock.Valid ∧ ∀ type ∈ output.type, type.Valid

/-- A transaction whose fields are well formed, apart from its version, and whose capacities and
    since values are up to a limit. -/
structure Transaction.Valid (max : Nat) (tx : Transaction) : Prop where
  cellDeps : ∀ dep ∈ tx.cellDeps, dep.outPoint.Valid
  headerDeps : ∀ hash ∈ tx.headerDeps, IsHash hash
  inputs : ∀ input ∈ tx.inputs, input.Valid max
  outputs : ∀ output ∈ tx.outputs, output.Valid max
  outputsData : ∀ data ∈ tx.outputsData, isHex data = true
  length : tx.outputsData.length = tx.outputs.length
  witnesses : ∀ witness ∈ tx.witnesses, isHex witness = true

/-! ### The wire body -/

def CellDep.wire (dep : CellDep) : Json := .object
  [("out_point", outPointToRpc dep.outPoint), ("dep_type", .string dep.depType.text)]

def CellInput.wire (input : CellInput) : Json := .object
  [("previous_output", outPointToRpc input.previousOutput), ("since", .string input.since)]

def CellOutput.wire (output : CellOutput) : Json := .object
  [("capacity", .string output.capacity), ("lock", scriptToRpc output.lock),
    ("type", (output.type.map scriptToRpc).getD .null)]

/-- The wire body of a transaction, whose fields are not checked. -/
def Transaction.wire (tx : Transaction) : Json := .object
  [("version", .string tx.version), ("cell_deps", .array (tx.cellDeps.map CellDep.wire)),
    ("header_deps", .array (tx.headerDeps.map .string)),
    ("inputs", .array (tx.inputs.map CellInput.wire)),
    ("outputs", .array (tx.outputs.map CellOutput.wire)),
    ("outputs_data", .array (tx.outputsData.map .string)),
    ("witnesses", .array (tx.witnesses.map .string))]

/-! ### The parser on wire bodies -/

section Texts

variable {hex r : String}

/-- A text is read as itself. -/
theorem text_eq_and (P : String → Prop) :
    (some (Json.string hex) = text r ∧ P r) ↔ r = hex ∧ P hex := by
  constructor
  · rintro ⟨hvalue, hr⟩
    obtain rfl := Json.string.inj (Option.some.inj hvalue)
    exact ⟨rfl, hr⟩
  · rintro ⟨rfl, hr⟩
    exact ⟨rfl, hr⟩

theorem asHex_text : asHex preview (some (.string hex)) ctx = .ok r ↔ r = hex ∧ isHex hex = true :=
  asHex_eq_ok.trans (text_eq_and fun hex => isHex hex = true)

theorem asQuantityHex_text :
    asQuantityHex preview (some (.string hex)) ctx = .ok r ↔ r = hex ∧ isQuantityHex hex = true :=
  asQuantityHex_eq_ok.trans (text_eq_and fun hex => isQuantityHex hex = true)

theorem asHash_text : asHash preview (some (.string hex)) ctx = .ok r ↔ r = hex ∧ IsHash hex :=
  asHash_eq_ok.trans (text_eq_and IsHash)

theorem asU64Hex_text :
    asU64Hex preview (some (.string hex)) ctx = .ok r ↔ r = hex ∧ IsQuantity U64_MAX hex :=
  asU64Hex_eq_ok.trans (text_eq_and (IsQuantity U64_MAX))

theorem asIndexHex_text {failCtx detail : String} :
    asIndexHex preview (some (.string hex)) ctx failCtx detail = .ok r ↔
      r = hex ∧ IsQuantity U32_MAX hex :=
  asIndexHex_eq_ok.trans (text_eq_and (IsQuantity U32_MAX))

end Texts

theorem parseScript_scriptToRpc {script r : Script} :
    parseScript preview (some (scriptToRpc script)) ctx = .ok r ↔ r = script ∧ script.Valid := by
  have hhashType := @asHashType_text preview (ctx ++ ".hash_type") script.hashType
  simp only [text] at hhashType
  simp [parseScript, scriptToRpc, asRecord, Json.property, List.lookup_cons, bind_eq_ok_iff, asHash_text,
    asHex_text, hhashType, Script.Valid, pure, Except.pure]
  constructor
  · rintro ⟨hcodeHash, hargs, rfl⟩
    exact ⟨rfl, hcodeHash, hargs⟩
  · rintro ⟨rfl, hcodeHash, hargs⟩
    exact ⟨hcodeHash, hargs, rfl⟩

theorem parseReference_outPointToRpc {outPoint r : OutPoint} {failCtx detail : String} :
    parseReference preview (some (outPointToRpc outPoint)) ctx failCtx detail = .ok r ↔
      r = outPoint ∧ outPoint.Valid := by
  simp [parseReference, outPointToRpc, asRecord, Json.property, List.lookup_cons, bind_eq_ok_iff,
    asHash_text, asIndexHex_text, OutPoint.Valid, pure, Except.pure]
  constructor
  · rintro ⟨hindex, hhash, rfl⟩
    exact ⟨rfl, hhash, hindex⟩
  · rintro ⟨rfl, hhash, hindex⟩
    exact ⟨hindex, hhash, rfl⟩

theorem parseCellDep_wire {bodyCtx : String} {dep r : CellDep} :
    parseCellDep preview bodyCtx (some dep.wire) ctx = .ok r ↔ r = dep ∧ dep.outPoint.Valid := by
  have hdepType := @parseDepType_text preview (ctx ++ ".dep_type") dep.depType
  simp only [text] at hdepType
  simp [parseCellDep, CellDep.wire, asRecord, Json.property, List.lookup_cons, bind_eq_ok_iff,
    parseReference_outPointToRpc, hdepType, pure, Except.pure]
  constructor
  · rintro ⟨hvalid, rfl⟩
    exact ⟨rfl, hvalid⟩
  · rintro ⟨rfl, hvalid⟩
    exact ⟨hvalid, rfl⟩

theorem parseInput_wire {bodyCtx : String} {input r : CellInput} :
    parseInput preview bodyCtx (some input.wire) ctx = .ok r ↔ r = input ∧ input.Valid U64_MAX := by
  simp [parseInput, CellInput.wire, asRecord, Json.property, List.lookup_cons, bind_eq_ok_iff,
    parseReference_outPointToRpc, asU64Hex_text, CellInput.Valid, pure, Except.pure]
  constructor
  · rintro ⟨hvalid, hsince, rfl⟩
    exact ⟨rfl, hvalid, hsince⟩
  · rintro ⟨rfl, hvalid, hsince⟩
    exact ⟨hvalid, hsince, rfl⟩

theorem optional_scriptToRpc {type r : Option Script} :
    optional (parseScript preview) (some ((type.map scriptToRpc).getD .null)) ctx = .ok r ↔
      r = type ∧ ∀ script ∈ type, script.Valid := by
  cases type with
  | none => simp [optional, eq_comm]
  | some script =>
    have hobject : optional (parseScript preview) (some (scriptToRpc script)) ctx =
        (do let parsed ← parseScript preview (some (scriptToRpc script)) ctx; return some parsed) :=
      rfl
    simp only [Option.map_some, Option.getD_some, hobject, bind_eq_ok_iff, parseScript_scriptToRpc]
    constructor
    · rintro ⟨parsed, ⟨rfl, hvalid⟩, hok⟩
      obtain rfl := ok.inj hok
      exact ⟨rfl, fun s hs => Option.some.inj hs ▸ hvalid⟩
    · rintro ⟨rfl, hvalid⟩
      exact ⟨script, ⟨rfl, hvalid script rfl⟩, rfl⟩

theorem parseOutput_wire {output r : CellOutput} :
    parseOutput preview (some output.wire) ctx = .ok r ↔ r = output ∧ output.Valid U64_MAX := by
  simp [parseOutput, CellOutput.wire, asRecord, Json.property, List.lookup_cons, bind_eq_ok_iff,
    parseScript_scriptToRpc, asU64Hex_text, optional_scriptToRpc, CellOutput.Valid, pure, Except.pure]
  constructor
  · rintro ⟨hcapacity, hlock, htype, rfl⟩
    exact ⟨rfl, hcapacity, hlock, htype⟩
  · rintro ⟨rfl, hcapacity, hlock, htype⟩
    exact ⟨hcapacity, hlock, htype, rfl⟩

theorem eachOf_array_eq_ok {γ : Type} {g : γ → Json}
    {parse : Option Json → String → Except CempCkbError γ} {valid : γ → Prop}
    (h : ∀ v ctx r, parse (some (g v)) ctx = .ok r ↔ r = v ∧ valid v) {vs rs : List γ} :
    eachOf preview parse (some (.array (vs.map g))) ctx = .ok rs ↔ rs = vs ∧ ∀ v ∈ vs, valid v := by
  have heach : each (fun item => parse (some item)) ctx (vs.map g) = .ok rs ↔
      rs = vs.map (fun v => v) ∧ ∀ v ∈ vs, valid v := by
    refine each_map_eq_ok fun v ctx r => ?_
    exact h v ctx r
  rw [List.map_id'] at heach
  exact heach

theorem parseTransactionBody_wire {tx r : Transaction} :
    parseTransactionBody preview (some tx.wire) ctx = .ok r ↔
      r = tx ∧ tx.Valid U64_MAX ∧ IsQuantity U64_MAX tx.version := by
  have hhashes : ∀ (ctx : String) (hashes rs : List String),
      eachOf preview (asHash preview) (some (.array (hashes.map .string))) ctx = .ok rs ↔
        rs = hashes ∧ ∀ hash ∈ hashes, IsHash hash :=
    fun _ _ _ => eachOf_array_eq_ok fun _ _ _ => asHash_text
  have hhexes : ∀ (ctx : String) (hexes rs : List String),
      eachOf preview (asHex preview) (some (.array (hexes.map .string))) ctx = .ok rs ↔
        rs = hexes ∧ ∀ hex ∈ hexes, isHex hex = true :=
    fun _ _ _ => eachOf_array_eq_ok fun _ _ _ => asHex_text
  have hdeps : ∀ (bodyCtx ctx : String) (rs : List CellDep),
      eachOf preview (parseCellDep preview bodyCtx) (some (.array (tx.cellDeps.map CellDep.wire)))
        ctx = .ok rs ↔ rs = tx.cellDeps ∧ ∀ dep ∈ tx.cellDeps, dep.outPoint.Valid :=
    fun _ _ _ => eachOf_array_eq_ok fun _ _ _ => parseCellDep_wire
  have hinputs : ∀ (bodyCtx ctx : String) (rs : List CellInput),
      eachOf preview (parseInput preview bodyCtx) (some (.array (tx.inputs.map CellInput.wire))) ctx =
        .ok rs ↔ rs = tx.inputs ∧ ∀ input ∈ tx.inputs, input.Valid U64_MAX :=
    fun _ _ _ => eachOf_array_eq_ok fun _ _ _ => parseInput_wire
  have houtputs : ∀ (ctx : String) (rs : List CellOutput),
      eachOf preview (parseOutput preview) (some (.array (tx.outputs.map CellOutput.wire))) ctx =
        .ok rs ↔ rs = tx.outputs ∧ ∀ output ∈ tx.outputs, output.Valid U64_MAX :=
    fun _ _ => eachOf_array_eq_ok fun _ _ _ => parseOutput_wire
  simp [parseTransactionBody, Transaction.wire, asRecord, Json.property, List.lookup_cons, bind_eq_ok_iff,
    hhashes, hhexes, hdeps, hinputs, houtputs, asU64Hex_text, require_eq_ok_iff, pure, Except.pure]
  constructor
  · rintro ⟨houtputs, hdata, hlength, hversion, hdeps, hheaders, hinputs, hwitnesses, rfl⟩
    exact ⟨rfl, ⟨hdeps, hheaders, hinputs, houtputs, hdata, hlength.symm, hwitnesses⟩, hversion⟩
  · rintro ⟨rfl, hvalid, hversion⟩
    exact ⟨hvalid.outputs, hvalid.outputsData, hvalid.length.symm, hversion, hvalid.cellDeps,
      hvalid.headerDeps, hvalid.inputs, hvalid.witnesses, rfl⟩

/-! ### The serializer -/

theorem each_eq_ok {α β : Type} {parse : α → String → Except CempCkbError β} {f : α → β}
    {valid : α → Prop} (h : ∀ v ctx r, parse v ctx = .ok r ↔ r = f v ∧ valid v) {vs : List α}
    {rs : List β} : each parse ctx vs = .ok rs ↔ rs = vs.map f ∧ ∀ v ∈ vs, valid v := by
  have heach : each parse ctx (vs.map fun v => v) = .ok rs ↔ rs = vs.map f ∧ ∀ v ∈ vs, valid v := by
    refine each_map_eq_ok fun v ctx r => ?_
    exact h v ctx r
  rw [List.map_id'] at heach
  exact heach

theorem parseOutgoingScript_eq_ok {script r : Script} :
    parseOutgoingScript preview script ctx = .ok r ↔ r = script ∧ script.Valid := by
  have hhashType := @asHashType_text preview (ctx ++ ".hashType") script.hashType
  simp only [text] at hhashType
  simp [parseOutgoingScript, text, bind_eq_ok_iff, asHash_text, asHex_text, hhashType, Script.Valid,
    pure, Except.pure]
  constructor
  · rintro ⟨hcodeHash, hargs, rfl⟩
    exact ⟨rfl, hcodeHash, hargs⟩
  · rintro ⟨rfl, hcodeHash, hargs⟩
    exact ⟨hcodeHash, hargs, rfl⟩

theorem cellDepToRpc_eq_ok {dep : CellDep} {r : Json} :
    cellDepToRpc preview dep ctx = .ok r ↔ r = dep.wire ∧ dep.outPoint.Valid := by
  have hdepType := @parseDepType_text preview (ctx ++ ".dep_type") dep.depType
  simp only [text] at hdepType
  simp [cellDepToRpc, u32IndexHex, text, bind_eq_ok_iff, asHash_text, asIndexHex_text, hdepType,
    OutPoint.Valid, pure, Except.pure]
  constructor
  · rintro ⟨hhash, hindex, rfl⟩
    exact ⟨rfl, hhash, hindex⟩
  · rintro ⟨rfl, hhash, hindex⟩
    exact ⟨hhash, hindex, rfl⟩

theorem inputToRpc_eq_ok {input : CellInput} {r : Json} :
    inputToRpc preview input ctx = .ok r ↔ r = input.wire ∧ input.Valid U64_MAX := by
  simp [inputToRpc, u32IndexHex, text, bind_eq_ok_iff, asHash_text, asIndexHex_text, asU64Hex_text,
    CellInput.Valid, OutPoint.Valid, pure, Except.pure]
  constructor
  · rintro ⟨hhash, hindex, hsince, rfl⟩
    exact ⟨rfl, ⟨hhash, hindex⟩, hsince⟩
  · rintro ⟨rfl, ⟨hhash, hindex⟩, hsince⟩
    exact ⟨hhash, hindex, hsince, rfl⟩

theorem typeToRpc_eq_ok {type : Option Script} {r : Json} :
    typeToRpc preview type ctx = .ok r ↔
      r = (type.map scriptToRpc).getD .null ∧ ∀ script ∈ type, script.Valid := by
  cases type with
  | none => simp [typeToRpc, eq_comm]
  | some type =>
    simp [typeToRpc, bind_eq_ok_iff, parseOutgoingScript_eq_ok, pure, Except.pure]
    exact ⟨fun h => ⟨h.2.symm, h.1⟩, fun h => ⟨h.2, h.1.symm⟩⟩

theorem outputToRpc_eq_ok {output : CellOutput} {r : Json} :
    outputToRpc preview output ctx = .ok r ↔ r = output.wire ∧ output.Valid U64_MAX := by
  simp [outputToRpc, text, bind_eq_ok_iff, asU64Hex_text, parseOutgoingScript_eq_ok, typeToRpc_eq_ok,
    CellOutput.Valid, CellOutput.wire, pure, Except.pure]
  constructor
  · rintro ⟨hcapacity, hlock, htype, rfl⟩
    exact ⟨rfl, hcapacity, hlock, htype⟩
  · rintro ⟨rfl, hcapacity, hlock, htype⟩
    exact ⟨hcapacity, hlock, htype, rfl⟩

theorem hashToRpc_eq_ok {hash : String} {r : Json} :
    hashToRpc preview hash ctx = .ok r ↔ r = .string hash ∧ IsHash hash := by
  simp [hashToRpc, text, bind_eq_ok_iff, asHash_text, pure, Except.pure]
  exact ⟨fun h => ⟨h.2.symm, h.1⟩, fun h => ⟨h.2, h.1.symm⟩⟩

theorem hexToRpc_eq_ok {hex : String} {r : Json} :
    hexToRpc preview hex ctx = .ok r ↔ r = .string hex ∧ isHex hex = true := by
  simp [hexToRpc, text, bind_eq_ok_iff, asHex_text, pure, Except.pure]
  exact ⟨fun h => ⟨h.2.symm, h.1⟩, fun h => ⟨h.2, h.1.symm⟩⟩

theorem transactionToRpc_eq_ok {tx : Transaction} {r : Json} :
    transactionToRpc preview tx = .ok r ↔
      r = tx.wire ∧ tx.Valid U64_MAX ∧ isQuantityHex tx.version = true := by
  have hdeps : ∀ (ctx : String) (rs : List Json), each (cellDepToRpc preview) ctx tx.cellDeps = .ok rs ↔
      rs = tx.cellDeps.map CellDep.wire ∧ ∀ dep ∈ tx.cellDeps, dep.outPoint.Valid := by
    refine fun _ _ => each_eq_ok fun _ _ _ => ?_
    exact cellDepToRpc_eq_ok
  have hhashes : ∀ (ctx : String) (hashes : List String) (rs : List Json),
      each (hashToRpc preview) ctx hashes = .ok rs ↔
        rs = hashes.map .string ∧ ∀ hash ∈ hashes, IsHash hash := by
    refine fun _ _ _ => each_eq_ok fun _ _ _ => ?_
    exact hashToRpc_eq_ok
  have hhexes : ∀ (ctx : String) (hexes : List String) (rs : List Json),
      each (hexToRpc preview) ctx hexes = .ok rs ↔
        rs = hexes.map .string ∧ ∀ hex ∈ hexes, isHex hex = true := by
    refine fun _ _ _ => each_eq_ok fun _ _ _ => ?_
    exact hexToRpc_eq_ok
  have hinputs : ∀ (ctx : String) (rs : List Json), each (inputToRpc preview) ctx tx.inputs = .ok rs ↔
      rs = tx.inputs.map CellInput.wire ∧ ∀ input ∈ tx.inputs, input.Valid U64_MAX := by
    refine fun _ _ => each_eq_ok fun _ _ _ => ?_
    exact inputToRpc_eq_ok
  have houtputs : ∀ (ctx : String) (rs : List Json),
      each (outputToRpc preview) ctx tx.outputs = .ok rs ↔
        rs = tx.outputs.map CellOutput.wire ∧ ∀ output ∈ tx.outputs, output.Valid U64_MAX := by
    refine fun _ _ => each_eq_ok fun _ _ _ => ?_
    exact outputToRpc_eq_ok
  simp [transactionToRpc, text, bind_eq_ok_iff, hdeps, hhashes, hhexes, hinputs, houtputs,
    asQuantityHex_text, require_eq_ok_iff, pure, Except.pure]
  constructor
  · rintro ⟨hdeps, hheaders, hinputs, houtputs, hdata, hlength, hwitnesses, hversion, rfl⟩
    exact ⟨rfl, ⟨hdeps, hheaders, hinputs, houtputs, hdata, hlength, hwitnesses⟩, hversion⟩
  · rintro ⟨rfl, hvalid, hversion⟩
    exact ⟨hvalid.cellDeps, hvalid.headerDeps, hvalid.inputs, hvalid.outputs, hvalid.outputsData,
      hvalid.length, hvalid.witnesses, hversion, rfl⟩

/-! ### Values above the limit -/

/-- The elements of an array property. -/
def elements (name : String) (json : Json) : List Json :=
  match json.property name with
  | some (.array items) => items
  | _ => []

/-- The values of a wire body that stand for 64-bit quantities. -/
def quantities (json : Json) : List Json :=
  (json.property "version").toList ++
    (elements "cell_deps" json).filterMap
      (fun dep => (dep.property "out_point").bind (Json.property "index")) ++
    (elements "inputs" json).filterMap
      (fun input => (input.property "previous_output").bind (Json.property "index")) ++
    (elements "inputs" json).filterMap (Json.property "since") ++
    (elements "outputs" json).filterMap (Json.property "capacity")

/-- One of these values exceeds an unsigned 64-bit integer. -/
def Oversized (json : Json) : Prop :=
  ∃ hex, .string hex ∈ quantities json ∧ 2 ^ 64 - 1 < quantity hex

theorem asRecord_eq_ok {value : Option Json} {json : Json}
    (h : asRecord preview value ctx = .ok json) : value = some json := by
  unfold asRecord at h
  split at h
  · exact congrArg some (ok.inj h)
  · cases h

/-- An array property that was parsed element by element. -/
theorem exists_of_eachOf {β : Type} {parse : Option Json → String → Except CempCkbError β}
    {json : Json} {name : String} {rs : List β}
    (h : eachOf preview parse (json.property name) ctx = .ok rs) :
    ∀ item ∈ elements name json, ∃ ctx r, parse (some item) ctx = .ok r := by
  obtain ⟨items, hitems, heach⟩ := bind_eq_ok_iff.1 h
  unfold elements
  cases hproperty : json.property name with
  | none => simp
  | some value =>
    cases value with
    | array items' =>
      rw [hproperty] at hitems
      obtain rfl := ok.inj hitems
      exact exists_of_each heach
    | _ => simp

theorem quantity_le_of_parseReference {outPoint : Option Json} {failCtx detail hex : String}
    {r : OutPoint} (h : parseReference preview outPoint ctx failCtx detail = .ok r)
    (hindex : outPoint.bind (Json.property "index") = some (.string hex)) :
    quantity hex ≤ U32_MAX := by
  obtain ⟨json, hjson, h⟩ := bind_eq_ok_iff.1 h
  obtain ⟨index, hread, -⟩ := bind_eq_ok_iff.1 h
  obtain rfl := asRecord_eq_ok hjson
  rw [show json.property "index" = some (.string hex) from hindex] at hread
  exact (asIndexHex_text.1 hread).2.2

theorem quantity_le_of_parseCellDep {bodyCtx hex : String} {dep : Json} {r : CellDep}
    (h : parseCellDep preview bodyCtx (some dep) ctx = .ok r)
    (hindex : (dep.property "out_point").bind (Json.property "index") = some (.string hex)) :
    quantity hex ≤ U32_MAX := by
  obtain ⟨json, hjson, h⟩ := bind_eq_ok_iff.1 h
  obtain rfl := Option.some.inj (asRecord_eq_ok hjson)
  obtain ⟨outPoint, hreference, -⟩ := bind_eq_ok_iff.1 h
  exact quantity_le_of_parseReference hreference hindex

theorem quantity_le_of_parseInput {bodyCtx : String} {input : Json} {r : CellInput}
    (h : parseInput preview bodyCtx (some input) ctx = .ok r) :
    (∀ hex, (input.property "previous_output").bind (Json.property "index") = some (.string hex) →
      quantity hex ≤ U32_MAX) ∧
      ∀ hex, input.property "since" = some (.string hex) → quantity hex ≤ U64_MAX := by
  obtain ⟨json, hjson, h⟩ := bind_eq_ok_iff.1 h
  obtain rfl := Option.some.inj (asRecord_eq_ok hjson)
  obtain ⟨previousOutput, hreference, h⟩ := bind_eq_ok_iff.1 h
  obtain ⟨since, hsince, -⟩ := bind_eq_ok_iff.1 h
  refine ⟨fun hex hindex => quantity_le_of_parseReference hreference hindex, fun hex hproperty => ?_⟩
  rw [hproperty] at hsince
  exact (asU64Hex_text.1 hsince).2.2

theorem quantity_le_of_parseOutput {hex : String} {output : Json} {r : CellOutput}
    (h : parseOutput preview (some output) ctx = .ok r)
    (hproperty : output.property "capacity" = some (.string hex)) : quantity hex ≤ U64_MAX := by
  obtain ⟨json, hjson, h⟩ := bind_eq_ok_iff.1 h
  obtain rfl := Option.some.inj (asRecord_eq_ok hjson)
  obtain ⟨capacity, hcapacity, -⟩ := bind_eq_ok_iff.1 h
  rw [hproperty] at hcapacity
  exact (asU64Hex_text.1 hcapacity).2.2

/-- What the parser accepts has no quantity above the limit. -/
theorem not_oversized_of_parse {json : Json} {tx : Transaction}
    (h : parseTransactionBody preview (some json) ctx = .ok tx) : ¬Oversized json := by
  rintro ⟨hex, hmem, hlarge⟩
  have hu64 : U64_MAX < 2 ^ 64 - 1 := by decide
  have hu32 : U32_MAX < 2 ^ 64 - 1 := by decide
  obtain ⟨json', hjson, h⟩ := bind_eq_ok_iff.1 h
  obtain rfl := Option.some.inj (asRecord_eq_ok hjson)
  obtain ⟨outputs, houtputs, h⟩ := bind_eq_ok_iff.1 h
  obtain ⟨outputsData, -, h⟩ := bind_eq_ok_iff.1 h
  obtain ⟨-, h⟩ := guard_eq_ok_iff.1 h
  obtain ⟨version, hversion, h⟩ := bind_eq_ok_iff.1 h
  obtain ⟨cellDeps, hdeps, h⟩ := bind_eq_ok_iff.1 h
  obtain ⟨headerDeps, -, h⟩ := bind_eq_ok_iff.1 h
  obtain ⟨inputs, hinputs, -⟩ := bind_eq_ok_iff.1 h
  unfold quantities at hmem
  simp only [List.mem_append, List.mem_filterMap, Option.mem_toList] at hmem
  obtain (((hmem | ⟨dep, hdep, hmem⟩) | ⟨input, hinput, hmem⟩) | ⟨input, hinput, hmem⟩) |
    ⟨output, houtput, hmem⟩ := hmem
  · rw [hmem] at hversion
    exact absurd (asU64Hex_text.1 hversion).2.2 (by omega)
  · obtain ⟨_, _, hparse⟩ := exists_of_eachOf hdeps dep hdep
    have hle := quantity_le_of_parseCellDep hparse hmem
    omega
  · obtain ⟨_, _, hparse⟩ := exists_of_eachOf hinputs input hinput
    have hle := (quantity_le_of_parseInput hparse).1 hex hmem
    omega
  · obtain ⟨_, _, hparse⟩ := exists_of_eachOf hinputs input hinput
    have hle := (quantity_le_of_parseInput hparse).2 hex hmem
    omega
  · obtain ⟨_, _, hparse⟩ := exists_of_eachOf houtputs output houtput
    have hle := quantity_le_of_parseOutput hparse hmem
    omega

/-! ### The round trip -/

/-- A transaction with well-formed fields, whose capacities and since values are any unsigned 64-bit
    integers. -/
structure Transaction.WellFormed (tx : Transaction) : Prop where
  valid : tx.Valid (2 ^ 64 - 1)
  version : IsQuantity U32_MAX tx.version

/-- The capacities and the since values of a transaction. -/
def Transaction.amounts (tx : Transaction) : List String :=
  tx.outputs.map CellOutput.capacity ++ tx.inputs.map CellInput.since

/-- A transaction goes over the wire and comes back as it was, and values above the limit are
    rejected. -/
def RoundTrips (preview : Option Json → String) (tx : Transaction) : Prop :=
  (∃ body, transactionToRpc preview tx = .ok body ∧
      ∀ ctx, parseTransactionBody preview (some body) ctx = .ok tx) ∧
    ∀ json ctx, Oversized json → ∃ e, parseTransactionBody preview (some json) ctx = .error e

theorem Transaction.Valid.le_of_mem_amounts {tx : Transaction} {max : Nat} (h : tx.Valid max)
    {hex : String} (hmem : hex ∈ tx.amounts) : quantity hex ≤ max := by
  obtain hmem | hmem := List.mem_append.1 hmem
  · obtain ⟨output, houtput, rfl⟩ := List.mem_map.1 hmem
    exact (h.outputs output houtput).1.2
  · obtain ⟨input, hinput, rfl⟩ := List.mem_map.1 hmem
    exact (h.inputs input hinput).2.2

theorem Transaction.Valid.restrict {tx : Transaction} {max max' : Nat} (h : tx.Valid max)
    (hle : ∀ hex ∈ tx.amounts, quantity hex ≤ max') : tx.Valid max' where
  cellDeps := h.cellDeps
  headerDeps := h.headerDeps
  inputs input hinput :=
    ⟨(h.inputs input hinput).1, (h.inputs input hinput).2.1,
      hle _ (List.mem_append_right _ (List.mem_map_of_mem hinput))⟩
  outputs output houtput :=
    ⟨⟨(h.outputs output houtput).1.1,
      hle _ (List.mem_append_left _ (List.mem_map_of_mem houtput))⟩, (h.outputs output houtput).2⟩
  outputsData := h.outputsData
  length := h.length
  witnesses := h.witnesses

/-- A transaction round-trips exactly when no capacity and no since value needs more than fifty-six
    bits. -/
theorem transaction_round_trips_iff {tx : Transaction} (hformed : tx.WellFormed) :
    RoundTrips preview tx ↔ ∀ hex ∈ tx.amounts, quantity hex < 2 ^ 56 := by
  have hlimit : U64_MAX = 2 ^ 56 - 1 := by decide
  constructor
  · rintro ⟨⟨body, hserialize, -⟩, -⟩ hex hmem
    obtain ⟨-, hvalid, -⟩ := transactionToRpc_eq_ok.1 hserialize
    have hle := hvalid.le_of_mem_amounts hmem
    omega
  · intro hsmall
    have hvalid : tx.Valid U64_MAX := hformed.valid.restrict fun hex hmem => by
      have hlt := hsmall hex hmem
      omega
    have hversion : IsQuantity U64_MAX tx.version := hformed.version.mono (by decide)
    refine ⟨⟨tx.wire, transactionToRpc_eq_ok.2 ⟨rfl, hvalid, hversion.1⟩, fun ctx =>
      parseTransactionBody_wire.2 ⟨rfl, hvalid, hversion⟩⟩, fun json ctx hoversized => ?_⟩
    cases hparse : parseTransactionBody preview (some json) ctx with
    | error e => exact ⟨e, rfl⟩
    | ok r => exact absurd hoversized (not_oversized_of_parse hparse)

/-- A transaction that spends one cell to one output. -/
def sampleTransaction (since capacity : String) : Transaction where
  version := "0x0"
  cellDeps := [⟨⟨"0x71a7ba8fc96349fea0ed3a5c47992e3b4084b031a42264a018e0072e8172e46c", "0x0"⟩,
    .depGroup⟩]
  headerDeps := []
  inputs := [⟨⟨"0x71a7ba8fc96349fea0ed3a5c47992e3b4084b031a42264a018e0072e8172e46c", "0x1"⟩, since⟩]
  outputs := [⟨capacity, ⟨"0x9bd7e06f3ecf4be0f2fcd2188b23f1b9fcc88e5d4b65a8637b17723bbda3cce8",
    .type, "0x1234"⟩, none⟩]
  outputsData := ["0x"]
  witnesses := ["0x"]

theorem sampleTransaction_wellFormed {since capacity : String}
    (hsince : IsQuantity (2 ^ 64 - 1) since) (hcapacity : IsQuantity (2 ^ 64 - 1) capacity) :
    (sampleTransaction since capacity).WellFormed := by
  have hhash : IsHash "0x71a7ba8fc96349fea0ed3a5c47992e3b4084b031a42264a018e0072e8172e46c" := by
    decide +kernel
  have hcodeHash : IsHash "0x9bd7e06f3ecf4be0f2fcd2188b23f1b9fcc88e5d4b65a8637b17723bbda3cce8" := by
    decide +kernel
  have hversion : IsQuantity U32_MAX "0x0" := by decide +kernel
  refine ⟨⟨?_, nofun, ?_, ?_, ?_, rfl, ?_⟩, hversion⟩
  · simpa [sampleTransaction, OutPoint.Valid] using ⟨hhash, by decide +kernel⟩
  · simpa [sampleTransaction, CellInput.Valid, OutPoint.Valid] using
      ⟨⟨hhash, by decide +kernel⟩, hsince⟩
  · simpa [sampleTransaction, CellOutput.Valid, Script.Valid] using
      ⟨hcapacity, hcodeHash, by decide +kernel⟩
  · simpa [sampleTransaction] using (by decide +kernel : isHex "0x" = true)
  · simpa [sampleTransaction] using (by decide +kernel : isHex "0x" = true)

theorem transaction_round_trips_sample :
    RoundTrips (fun _ => "") (sampleTransaction "0x0" "0x16b969d00") ↔
      ∀ hex ∈ (sampleTransaction "0x0" "0x16b969d00").amounts, quantity hex < 2 ^ 56 :=
  transaction_round_trips_iff
    (sampleTransaction_wellFormed (by decide +kernel) (by decide +kernel))

/-- A relative since value has its flag bits in the top byte. -/
theorem not_transaction_round_trips :
    ¬∀ (preview : Option Json → String) (tx : Transaction), tx.WellFormed →
      RoundTrips preview tx := by
  intro h
  obtain ⟨⟨body, hserialize, -⟩, -⟩ := h (fun _ => "") (sampleTransaction "0x8000000000000001" "0x16b969d00")
    (sampleTransaction_wellFormed (by decide +kernel) (by decide +kernel))
  obtain ⟨-, hvalid, -⟩ := transactionToRpc_eq_ok.1 hserialize
  have hle : quantity "0x8000000000000001" ≤ U64_MAX :=
    hvalid.le_of_mem_amounts (by simp [sampleTransaction, Transaction.amounts])
  exact absurd hle (by decide +kernel)

end cemp.ckb.client
