import CempMobile.Ckb.MessageTypeArgs
import CempMobile.Sync.Intake

open cemp.core cemp.database cemp.ckb

namespace cemp.ckb

/-- `version ‖ routeTag`. -/
def routeTagPrefix (routeTag : Bytes) : Bytes := MESSAGE_TYPE_ARGS.version :: routeTag

def buildRouteTagPrefix (routeTag : Bytes) : Except Error Bytes :=
  if routeTag.length ≠ MESSAGE_TYPE_ARGS.routeTagBytes then
    .error (.ckb "buildRouteTagPrefix" ("route_tag is " ++ toString routeTag.length ++
      " bytes, expected " ++ toString MESSAGE_TYPE_ARGS.routeTagBytes))
  else .ok (routeTagPrefix routeTag)

/-- The checks every listed cell has to pass: whole type args under the prefix, and data within
    the envelope limit. -/
def isMessageCell (start : Bytes) (cell : IndexedCell) : Bool :=
  match cell.typeArgs with
  | none => false
  | some args =>
    args.length == MESSAGE_TYPE_ARGS.totalBytes && start.isPrefixOf args &&
      decide (cell.data.length ≤ V1_LIMITS.maxEnvelopeBytes)

def messageCells (start : Bytes) (page : CellPage) : List IndexedCell :=
  page.cells.filter (isMessageCell start)

/-- One page of message cells. Its cursor is the one of the unfiltered page. -/
def findMessageCells (messageType : CempMessageTypeRef) (routeTag : Bytes)
    (cursor : Option String) : Prog CellPage := do
  let start ← Program.ofExcept (buildRouteTagPrefix routeTag)
  let page ← call (.findCells messageType.codeHash messageType.hashType start cursor)
  return ⟨messageCells start page, page.lastCursor⟩

def isTerminalCursor (cursor : String) : Bool := cursor == "0x" || cursor == ""

/-- The paging loop of the two scans. It stops at a terminal cursor, and at a page that came
    back empty. `pages` bounds how many it fetches, which the source does not. -/
def scanPages {γ : Type} (messageType : CempMessageTypeRef) (routeTag : Bytes)
    (body : γ → CellPage → Prog γ) : Nat → Option String → γ → Prog γ
  | 0, _, _ => throw (.other "the indexer lists more pages")
  | pages + 1, cursor, seen => do
    let page ← findMessageCells messageType routeTag cursor
    let seen ← body seen page
    if page.cells.length = 0 ∨ isTerminalCursor page.lastCursor then return seen
    else scanPages messageType routeTag body pages (some page.lastCursor) seen

end cemp.ckb

namespace cemp.sync

/-- What the workers share with the pipelines, the opening of an envelope with the device's keys,
    and the rate limits. -/
structure SyncWorkerDeps where
  pipeline : PipelineDeps
  decryptEnvelope : Bytes → Except Error DecryptedEnvelope
  rateLimits : RateLimiterConfig

/-- A device that can open no envelope. -/
def sampleWorkerDeps : SyncWorkerDeps :=
  ⟨samplePipeline, fun _ => .error (.other "not for this device"), DEFAULT_RATE_LIMITS⟩

def processDiscoveredCell (deps : SyncWorkerDeps) (ownProfileId : ProfileId) (cell : IndexedCell) :
    Prog Unit := do
  call (.processing cell)
  ingestIncomingCellData deps.rateLimits ownProfileId (deps.decryptEnvelope cell.data)
    (some cell.outPoint)

/-- Processes a cell under its lease. A cell that fails does not stall the discovery. -/
def discoverCell (deps : SyncWorkerDeps) (ownProfileId : ProfileId) (cell : IndexedCell) :
    Prog Unit := do
  let leased ← call (.acquireLease cell.outPoint)
  if leased then
    let _ ← Program.attempt (processDiscoveredCell deps ownProfileId cell)
    call (.releaseLease cell.outPoint)

def scanRouteTag (deps : SyncWorkerDeps) (pages : Nat) (ownProfileId : ProfileId) (epoch : Nat) :
    Prog Unit :=
  scanPages deps.pipeline.messageType (deps.pipeline.deriveRouteTag ownProfileId epoch)
    (fun _ page => Program.forEach (discoverCell deps ownProfileId) page.cells) pages none ()

/-- The epochs whose route tags are watched: the current one and the one before. -/
def watchedEpochs (nowMs : Nat) : List Nat :=
  [currentRoutingEpoch nowMs, currentRoutingEpoch nowMs - 1]

/-- Scans the inbox of the published profile. -/
def runIncomingDiscovery (deps : SyncWorkerDeps) (pages : Nat) : Prog Unit := do
  let ownProfileId ← call .ownProfileId
  match ownProfileId with
  | none => return ()
  | some id =>
    let nowMs ← call .now
    Program.forEach (scanRouteTag deps pages id) (watchedEpochs nowMs)

end cemp.sync

namespace cemp.app

/-- The locked probe's listing of one route tag. -/
def outpointsForTag (messageType : CempMessageTypeRef) (pages : Nat) (routeTag : Bytes) :
    Prog (List OutPoint) :=
  scanPages messageType routeTag
    (fun outpoints page => return outpoints ++ page.cells.map (·.outPoint)) pages none []

end cemp.app
