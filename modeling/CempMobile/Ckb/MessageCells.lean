import CempMobile.Ckb.MessageTypeArgs
import CempMobile.Sync.Discovery

open cemp.core

namespace cemp.ckb.discovery

/-! The search for message cells, with the cells as an indexer lists them: their scripts whole. The
    scans only look at part of each cell, and see the same ones. -/

structure CellOutput where
  capacity : Nat
  lock : Script
  type : Option Script
  deriving DecidableEq, Repr

structure Cell where
  outPoint : OutPoint
  output : CellOutput
  data : Bytes
  blockNumber : Option Nat
  deriving DecidableEq, Repr

structure CellPage where
  cells : List Cell
  lastCursor : String
  deriving DecidableEq, Repr

inductive ScriptType where
  | lock | type
  deriving DecidableEq, Repr

inductive ArgsSearchMode where
  | exactArgs | prefixArgs
  deriving DecidableEq, Repr

inductive Order where
  | asc | desc
  deriving DecidableEq, Repr

structure CellQuery where
  script : Script
  scriptType : ScriptType
  argsSearchMode : ArgsSearchMode
  order : Order
  after : Option String
  deriving DecidableEq, Repr

/-- The post-checks of a listed cell: type args of 81 bytes, the prefix byte by byte, and the limit
    on its data. -/
def passes (start : Bytes) (cell : Cell) : Bool :=
  match cell.output.type with
  | none => false
  | some type =>
    if type.args.length ≠ MESSAGE_TYPE_ARGS.totalBytes then false
    else if (List.range start.length).any fun i => type.args[i]? != start[i]? then false
    else decide (cell.data.length ≤ V1_LIMITS.maxEnvelopeBytes)

def findMessageCells (indexer : CellQuery → Except Error CellPage)
    (cempMessageTypeScript : CempMessageTypeRef) (routeTag : Bytes) (cursor : Option String) :
    Except Error CellPage := do
  let start ← buildRouteTagPrefix routeTag
  let page ← indexer ⟨⟨cempMessageTypeScript.codeHash, cempMessageTypeScript.hashType, start⟩,
    .type, .prefixArgs, .asc, cursor⟩
  return ⟨page.cells.filter (passes start), page.lastCursor⟩

/-! ### What a message cell for a route tag is -/

/-- A cell under the message type script, with args of this route tag, and data that may be an
    envelope. -/
def IsMessageCell (messageType : CempMessageTypeRef) (routeTag : Bytes) (cell : Cell) : Prop :=
  ∃ type ∈ cell.output.type, type.codeHash = messageType.codeHash ∧
    type.hashType = messageType.hashType ∧
    (∃ parts, parseMessageTypeArgs type.args = .ok parts ∧ parts.routeTag = routeTag) ∧
    cell.data.length ≤ V1_LIMITS.maxEnvelopeBytes

/-- A cell whose type args look right as far as the prefix goes, and whose data is not too long. -/
def PartlyMatches (routeTag : Bytes) (cell : Cell) (type : Script) : Prop :=
  cell.output.type = some type ∧ type.args.length = MESSAGE_TYPE_ARGS.totalBytes ∧
    routeTagPrefix routeTag <+: type.args ∧ cell.data.length ≤ V1_LIMITS.maxEnvelopeBytes

/-- What else the script of a message cell has: the code of the query, and the reserved zeros. -/
def CompletesMatch (messageType : CempMessageTypeRef) (type : Script) : Prop :=
  type.codeHash = messageType.codeHash ∧ type.hashType = messageType.hashType ∧
    ∀ byte ∈ subarray type.args 65 81, byte = 0

section

variable {messageType : CempMessageTypeRef} {routeTag start : Bytes} {cell : Cell} {type : Script}
  {cursor : Option String} {page : CellPage} {indexer : CellQuery → Except Error CellPage}

/-- The byte-by-byte comparison with a prefix. -/
theorem differs_eq_false_iff {args : Bytes} :
    ((List.range start.length).any fun i => args[i]? != start[i]?) = false ↔ start <+: args := by
  rw [List.prefix_iff_getElem?, List.any_eq_false]
  constructor
  · intro h i hi
    have heq := h i (List.mem_range.2 hi)
    rw [bne_iff_ne, ne_eq, not_not, List.getElem?_eq_getElem hi] at heq
    exact heq
  · intro h i hmem
    have hi := List.mem_range.1 hmem
    rw [bne_iff_ne, ne_eq, not_not, h i hi, List.getElem?_eq_getElem hi]

theorem passes_iff :
    passes (routeTagPrefix routeTag) cell = true ↔ ∃ type, PartlyMatches routeTag cell type := by
  unfold passes PartlyMatches
  cases cell.output.type with
  | none => simp
  | some type =>
    simp only [Option.some.injEq, exists_eq_left', Bool.if_false_left, Bool.and_eq_true,
      Bool.not_eq_true', decide_eq_false_iff_not, decide_eq_true_eq, ne_eq, not_not,
      Bool.not_eq_true, differs_eq_false_iff]

/-- Args of this length under the prefix are those the parser accepts with this route tag, if the
    reserved bytes are zero. -/
theorem parsed_iff (hlength : routeTag.length = MESSAGE_TYPE_ARGS.routeTagBytes) {args : Bytes} :
    (∃ parts, parseMessageTypeArgs args = .ok parts ∧ parts.routeTag = routeTag) ↔
      args.length = MESSAGE_TYPE_ARGS.totalBytes ∧ routeTagPrefix routeTag <+: args ∧
        ∀ byte ∈ subarray args 65 81, byte = 0 := by
  constructor
  · rintro ⟨parts, hparse, rfl⟩
    have hreserved := (parseMessageTypeArgs_checks.1 hparse).2.2.1
    obtain ⟨hsized, rfl⟩ := parseMessageTypeArgs_eq_ok_iff.1 hparse
    refine ⟨hsized.length_layout, ?_, hreserved⟩
    rw [MessageTypeArgs.layout, List.append_assoc, List.append_assoc]
    exact List.cons_prefix_cons.2 ⟨rfl, List.prefix_append ..⟩
  · rintro ⟨hargs, ⟨rest, rfl⟩, hreserved⟩
    refine ⟨_, parseMessageTypeArgs_checks.2 ⟨hargs, rfl, hreserved, rfl⟩, ?_⟩
    exact subarray_append [MESSAGE_TYPE_ARGS.version] rest rfl (by rw [hlength]; rfl)

theorem isMessageCell_iff (hlength : routeTag.length = MESSAGE_TYPE_ARGS.routeTagBytes) :
    IsMessageCell messageType routeTag cell ↔
      ∃ type, PartlyMatches routeTag cell type ∧ CompletesMatch messageType type := by
  unfold IsMessageCell PartlyMatches CompletesMatch
  simp only [parsed_iff hlength, Option.mem_def]
  constructor
  · rintro ⟨type, htype, hcode, hhashType, ⟨hargs, hstart, hreserved⟩, hdata⟩
    exact ⟨type, ⟨htype, hargs, hstart, hdata⟩, hcode, hhashType, hreserved⟩
  · rintro ⟨type, ⟨htype, hargs, hstart, hdata⟩, hcode, hhashType, hreserved⟩
    exact ⟨type, htype, hcode, hhashType, ⟨hargs, hstart, hreserved⟩, hdata⟩

theorem findMessageCells_eq_ok (hlength : routeTag.length = MESSAGE_TYPE_ARGS.routeTagBytes)
    (hpage : indexer ⟨⟨messageType.codeHash, messageType.hashType, routeTagPrefix routeTag⟩, .type,
      .prefixArgs, .asc, cursor⟩ = .ok page) :
    findMessageCells indexer messageType routeTag cursor =
      .ok ⟨page.cells.filter (passes (routeTagPrefix routeTag)), page.lastCursor⟩ := by
  unfold findMessageCells buildRouteTagPrefix
  rw [if_neg (not_not.2 hlength)]
  change (indexer _ >>= _) = _
  rw [hpage]
  rfl

end

open Classical in
/-- The search returns exactly the message cells of the page if every cell that matches as far as
    the prefix goes matches in the rest too. -/
theorem findMessageCells_exact_iff {messageType : CempMessageTypeRef} {routeTag : Bytes}
    {cursor : Option String} {indexer : CellQuery → Except Error CellPage} {page : CellPage}
    (hlength : routeTag.length = 32)
    (hpage : indexer ⟨⟨messageType.codeHash, messageType.hashType, routeTagPrefix routeTag⟩, .type,
      .prefixArgs, .asc, cursor⟩ = .ok page) :
    (findMessageCells indexer messageType routeTag cursor =
        .ok ⟨page.cells.filter (IsMessageCell messageType routeTag ·), page.lastCursor⟩ ∧
      ∀ args parts, parseMessageTypeArgs args = .ok parts ↔
        buildMessageTypeArgs parts.routeTag parts.conversationTag parts.messageNonce = .ok args) ↔
    ∀ cell ∈ page.cells, ∀ type, PartlyMatches routeTag cell type → CompletesMatch messageType type := by
  rw [findMessageCells_eq_ok hlength hpage, Except.ok.injEq, CellPage.mk.injEq]
  constructor
  · rintro ⟨⟨hcells, -⟩, -⟩ cell hmem type hpartly
    have hfound : cell ∈ page.cells.filter (passes (routeTagPrefix routeTag)) :=
      List.mem_filter.2 ⟨hmem, passes_iff.2 ⟨type, hpartly⟩⟩
    rw [hcells, List.mem_filter, decide_eq_true_eq, isMessageCell_iff hlength] at hfound
    obtain ⟨-, type', hpartly', hcompletes⟩ := hfound
    obtain rfl := Option.some.inj (hpartly.1.symm.trans hpartly'.1)
    exact hcompletes
  · intro h
    refine ⟨⟨List.filter_congr fun cell hmem => ?_, rfl⟩, fun args parts =>
      parseMessageTypeArgs_eq_ok_iff_build⟩
    rw [Bool.eq_iff_iff, passes_iff, decide_eq_true_eq, isMessageCell_iff hlength]
    constructor
    · rintro ⟨type, hpartly⟩
      exact ⟨type, hpartly, h cell hmem type hpartly⟩
    · rintro ⟨type, hpartly, -⟩
      exact ⟨type, hpartly⟩

def sampleMessageType : CempMessageTypeRef := ⟨7, .type⟩

def sampleRouteTag : Bytes := List.replicate 32 9

def sampleArgs (reserved : UInt8) : Bytes :=
  routeTagPrefix sampleRouteTag ++ List.replicate 32 3 ++ List.replicate 16 reserved

def sampleCell (codeHash : Hash) (reserved : UInt8) : Cell :=
  ⟨⟨1, 0⟩, ⟨10, ⟨0, .data, []⟩, some ⟨codeHash, .type, sampleArgs reserved⟩⟩, [1, 2], some 5⟩

def samplePage : CellPage := ⟨[sampleCell 7 0], "0x"⟩

theorem samplePage_complete : ∀ cell ∈ samplePage.cells, ∀ type,
    PartlyMatches sampleRouteTag cell type → CompletesMatch sampleMessageType type := by
  intro cell hmem type hpartly
  obtain rfl := List.mem_singleton.1 hmem
  obtain rfl := Option.some.inj hpartly.1
  exact ⟨rfl, rfl, by decide +kernel⟩

open Classical in
theorem findMessageCells_exact_sample :
    findMessageCells (fun _ => .ok samplePage) sampleMessageType sampleRouteTag none =
      .ok ⟨samplePage.cells.filter (IsMessageCell sampleMessageType sampleRouteTag ·), "0x"⟩ :=
  ((@findMessageCells_exact_iff sampleMessageType sampleRouteTag none (fun _ => .ok samplePage)
    samplePage rfl rfl).2 samplePage_complete).1

/-- A cell under another type script, and one whose reserved bytes are not zero. -/
def hostilePage : CellPage := ⟨[sampleCell 8 0, sampleCell 7 1], "0x"⟩

/-- Both are returned as message cells, and neither is one. -/
theorem hostile_cells_returned :
    findMessageCells (fun _ => .ok hostilePage) sampleMessageType sampleRouteTag none =
        .ok hostilePage ∧
      ∀ cell ∈ hostilePage.cells, ¬IsMessageCell sampleMessageType sampleRouteTag cell := by
  refine ⟨by decide +kernel, fun cell hmem hcell => ?_⟩
  obtain ⟨type, hpartly, hcode, -, hreserved⟩ := (isMessageCell_iff rfl).1 hcell
  have hcell : cell = sampleCell 8 0 ∨ cell = sampleCell 7 1 := by
    simpa [hostilePage] using hmem
  obtain rfl | rfl := hcell
  · obtain rfl := Option.some.inj hpartly.1
    exact absurd hcode (by decide)
  · obtain rfl := Option.some.inj hpartly.1
    exact absurd hreserved (by decide)

/-! ### The cells that the scans see -/

/-- A cell as the scans look at it. -/
def Cell.indexed (cell : Cell) : IndexedCell :=
  ⟨cell.outPoint, cell.output.type.map (·.args), cell.data⟩

def CellPage.indexed (page : CellPage) : ckb.CellPage :=
  ⟨page.cells.map Cell.indexed, page.lastCursor⟩

theorem isMessageCell_indexed (start : Bytes) (cell : Cell) :
    isMessageCell start cell.indexed = passes start cell := by
  unfold isMessageCell passes Cell.indexed
  cases cell.output.type with
  | none => rfl
  | some type =>
    rw [Bool.eq_iff_iff]
    simp only [Option.map_some, Bool.and_eq_true, beq_iff_eq, List.isPrefixOf_iff_prefix,
      decide_eq_true_eq, Bool.if_false_left, Bool.not_eq_true', decide_eq_false_iff_not, ne_eq,
      not_not, Bool.not_eq_true, differs_eq_false_iff, and_assoc]

/-- The filter of the scans is that of the search. -/
theorem messageCells_indexed (start : Bytes) (page : CellPage) :
    messageCells start page.indexed = (page.cells.filter (passes start)).map Cell.indexed := by
  rw [messageCells, CellPage.indexed, List.filter_map]
  congr 1
  exact List.filter_congr fun cell _ => isMessageCell_indexed start cell

end cemp.ckb.discovery
