import CempMobile.Lora.Transport
import CempMobile.Sync.Settlement
import CempMobile.Sync.Workers

open cemp.core cemp.database cemp.database.MessageRepository cemp.ckb cemp.lora

namespace cemp.sync

def LORA_ENABLED_SETTING_KEY : String := "lora.enabled"
def LORA_GATEWAY_URL_SETTING_KEY : String := "lora.gateway_url"
def LORA_CURSOR_NAME : String := "lora-transport-cursor"

/-- What the LoRa worker has beside the other workers: the gateway of the network configuration
    and the codec's check of an envelope. -/
structure LoraWorkerDeps extends SyncWorkerDeps where
  loraNetworkBaseUrl : Option String
  validateEnvelope : Bytes → Bool

/-- The characters `trim` removes. -/
def isTrimmed (c : Char) : Bool :=
  c.toNat ∈ [0x09, 0x0a, 0x0b, 0x0c, 0x0d, 0x20, 0xa0, 0x1680, 0x2028, 0x2029, 0x202f, 0x205f,
    0x3000, 0xfeff] || (0x2000 ≤ c.toNat && c.toNat ≤ 0x200a)

def trim (text : String) : String :=
  String.ofList ((text.toList.dropWhile isTrimmed).reverse.dropWhile isTrimmed).reverse

/-- The gateway of the settings, or else the network's. -/
def gatewayBaseUrl (settingsUrl networkBaseUrl : Option String) : Option String :=
  match (settingsUrl.map trim).filter (· ≠ "") with
  | some url => some url
  | none => networkBaseUrl.filter (· ≠ "")

/-- Ingests one object, without a source cell. A bad object does not stall the poll. -/
def ingestObject (deps : LoraWorkerDeps) (ownProfileId : ProfileId) (object : LoraObject) :
    Prog Unit :=
  (ingestIncomingCellData deps.rateLimits ownProfileId (deps.decryptEnvelope object.cellData)
    none).catchError fun _ => return ()

/-- Polls the gateway past the persisted cursor, ingests what it returned, persists the cursor. -/
def pollGateway (deps : LoraWorkerDeps) (ownProfileId : ProfileId) (transport : LoraTransport) :
    Prog Unit := do
  let since ← call (.getCursor LORA_CURSOR_NAME)
  let result ← transport.poll since
  Program.forEach (ingestObject deps ownProfileId) result.objects
  match result.cursor with
  | some cursor => call (.setCursor LORA_CURSOR_NAME cursor)
  | none => return ()

/-- The LoRa worker. It does nothing unless it is enabled, has a gateway and a profile. -/
def runLoraPoll (deps : LoraWorkerDeps) : Prog Unit := do
  let enabled ← call (.getSetting LORA_ENABLED_SETTING_KEY)
  if enabled ≠ some "true" then return ()
  else
    let settingsUrl ← call (.getSetting LORA_GATEWAY_URL_SETTING_KEY)
    match gatewayBaseUrl settingsUrl deps.loraNetworkBaseUrl with
    | none => return ()
    | some baseUrl =>
      let ownProfileId ← call .ownProfileId
      match ownProfileId with
      | none => return ()
      | some id =>
        let nowMs ← call .now
        let epoch := currentRoutingEpoch nowMs
        let transport ← Program.ofExcept (LoraTransport.create baseUrl
          ([epoch - 1, epoch, epoch + 1].map (deps.pipeline.deriveRouteTag id)) deps.validateEnvelope)
        pollGateway deps id transport

/-- The wallet during a poll: its database, the persisted cursor, and the pages that the gateway
    answered in this poll. -/
structure LoraWorld where
  db : Db
  cursor : Option String
  pages : List LoraPage

/-- The page an answer of the gateway carries. -/
def pageOf : Except Error HttpResponse → Option LoraPage
  | .ok response =>
    if response.ok then response.body.bind fun body => (parseObjectsResponse body).toOption else none
  | .error _ => none

/-- What a poll does. The gateway may answer anything. -/
def loraEffect : Program.Effect Op Error LoraWorld := fun _ op w answer w' =>
  match op with
  | .store access => answer = (access.exec w.db).1 ∧ w' = { w with db := (access.exec w.db).2 }
  | .now => (∃ nowMs, answer = .ok nowMs) ∧ w' = w
  | .getCursor _ => answer = .ok w.cursor ∧ w' = w
  | .setCursor _ cursor => answer = .ok () ∧ w' = { w with cursor := some cursor }
  | .fetchObjects .. => w' = { w with pages := w.pages ++ (pageOf answer).toList }
  | _ => w' = w

/-- A message is stored under a logical id. -/
def IsStored (db : Db) (logicalId : LogicalMessageId) : Prop := (db.standing logicalId).isSome

/-- What became of an envelope whose ingest started in `found` and ended with `out`, as the
    database `db` shows it later: it could not be opened or was not valid, its ingest threw, it was
    dropped by the block check or the rate limit, its receipts were applied, or it is stored. -/
def Disposed (config : RateLimiterConfig) (found : Db) (out : Except Error Unit) (db : Db) :
    Except Error IncomingTextMessage → Prop
  | .error _ => True
  | .ok incoming =>
    (∃ e, out = .error e) ∨
      ContactRepository.blockedProfile found incoming.senderProfileId = true ∨
      (∃ nowMs, ¬WithinRateLimit config found incoming.senderProfileId nowMs) ∨
      isPureAcknowledgement incoming = true ∨
      IsStored db (incomingLogicalMessageId incoming.messageId)

section Ingest

variable {α β : Type} {db : Db} {logicalId : LogicalMessageId} {config : RateLimiterConfig}
  {incoming : IncomingTextMessage}

theorem isStored_exec (h : IsStored db logicalId) (access : StoreOp β) :
    IsStored (access.exec db).2 logicalId := by
  obtain ⟨standing, hstands⟩ := Option.isSome_iff_exists.1 h
  obtain ⟨m, hget, hid, -, -⟩ := standing_eq_some.1 hstands
  obtain ⟨m', hget', hfollows⟩ := get?_exec access hget
  have hafter := standing_of_get? hget'
  rw [hfollows.logicalMessageId, hid] at hafter
  exact Option.isSome_iff_exists.2 ⟨_, hafter⟩

/-- What an ingest does to the database, at whatever time. -/
def receiveEffect : Program.Effect Op Error Db := fun _ op db answer db' =>
  match op with
  | .store access => access.exec db = (answer, db')
  | .now => (∃ nowMs, answer = .ok nowMs) ∧ db' = db
  | _ => db' = db

theorem executes_receiveEffect : Executes receiveEffect := fun _ _ _ _ _ h => h

theorem receiveEffect_store (β : Type) (op : Op β) (db : Db) (r : Except Error β) (db' : Db)
    (h : receiveEffect β op db r db') : storeEffect β op db r db' := by
  cases op with
  | now => exact h.2
  | _ => exact h

theorem loraEffect_receive (β : Type) (op : Op β) (w : LoraWorld) (r : Except Error β)
    (w' : LoraWorld) (h : loraEffect β op w r w') : receiveEffect β op w.db r w'.db := by
  cases op with
  | store access =>
    obtain ⟨hanswer, rfl⟩ := h
    exact Prod.ext hanswer.symm rfl
  | now =>
    obtain ⟨hanswer, rfl⟩ := h
    exact ⟨hanswer, rfl⟩
  | getCursor worker => exact congrArg LoraWorld.db h.2
  | setCursor worker cursor =>
    obtain ⟨-, rfl⟩ := h
    rfl
  | fetchObjects baseUrl routeTag since =>
    obtain rfl := h
    rfl
  | _ => exact congrArg LoraWorld.db h

/-- No program removes a message. -/
theorem always_isStored (p : Prog α) (h : IsStored db logicalId) :
    Program.Always receiveEffect Program.Anywhere p db fun _ db' => IsStored db' logicalId := by
  refine Program.always_invariant (fun β op db r db' heffect hdb => ?_) p h
  have hstore := receiveEffect_store _ _ _ _ _ heffect
  cases op with
  | store access =>
    have hafter : db' = (access.exec db).2 := congrArg Prod.snd (Eq.symm hstore)
    rw [hafter]
    exact isStored_exec hdb access
  | _ =>
    obtain rfl : db' = db := hstore
    exact hdb

/-- The limiter admits a message when it is within the rate limit at the time it is asked. -/
theorem always_consume (config : RateLimiterConfig) (senderProfileId : ProfileId) (db : Db) :
    Program.Always receiveEffect Program.Anywhere (consume config .incoming senderProfileId) db
      fun r _ => ∃ nowMs admitted, r = .ok admitted ∧
        (admitted = true ↔ WithinRateLimit config db senderProfileId nowMs) := by
  unfold consume
  rw [Program.bind_eq_bind]
  refine Program.Always.step trivial ?_ ?_
  · rintro e db' ⟨⟨nowMs, h⟩, -⟩
    cases h
  · rintro nowMs db' ⟨-, rfl⟩
    obtain ⟨admitted, rateLimits, hrun, hadmitted⟩ := consumeAt_run config db' senderProfileId nowMs
    refine ((always_access (consumeAt_access _ _ _) db').narrow receiveEffect_store).mono ?_
    intro r _ h
    rw [hrun] at h
    exact ⟨nowMs, admitted, (congrArg Prod.fst h).symm, hadmitted⟩

/-- A message that is admitted is stored, unless its ingest throws. -/
theorem always_storeContent (incoming : IncomingTextMessage) (source : Option OutPoint) (db : Db) :
    Program.Always receiveEffect Program.Anywhere (storeContent incoming source) db
      (Program.OkOr (fun db' => IsStored db' (incomingLogicalMessageId incoming.messageId))
        fun _ _ => True) := by
  have hrow := (storeRow_stands incoming db).narrow receiveEffect_store
  refine (hrow.weaken fun _ _ _ _ => trivial).bind ?_ ?_
  · rintro stored db' ⟨conversationId, row, ref, -, -, hstands, -⟩
    have hstored : IsStored db' (incomingLogicalMessageId incoming.messageId) := by
      unfold IsStored
      rw [hstands]
      rfl
    refine (always_isStored _ hstored).mono fun r db'' h => ?_
    cases r with
    | ok _ => exact h
    | error _ => trivial
  · intro e db' _
    trivial

/-- What becomes of an envelope that is handed to the ingest. -/
theorem always_disposed (ownProfileId : ProfileId) (decryptEnvelope : Except Error DecryptedEnvelope)
    (source : Option OutPoint) (db : Db) :
    Program.Always receiveEffect Program.Anywhere
      (ingestIncomingCellData config ownProfileId decryptEnvelope source) db fun out db' =>
        Disposed config db out db' (processIncomingText decryptEnvelope ownProfileId) := by
  unfold ingestIncomingCellData
  cases processIncomingText decryptEnvelope ownProfileId with
  | error e => trivial
  | ok incoming =>
    have thrown : ∀ (e : Error) (db' : Db), Disposed config db (.error e) db' (.ok incoming) :=
      fun e db' => .inl ⟨e, rfl⟩
    simp only [ingestMessage, Program.bind_eq_bind, Program.pure_eq_ret]
    refine always_store executes_receiveEffect trivial ?_ fun e h => by cases h
    intro blocked hblocked
    obtain rfl := Except.ok.inj hblocked
    by_cases hsender : ContactRepository.blockedProfile db incoming.senderProfileId = true
    · rw [if_pos hsender]
      exact .inr (.inl hsender)
    rw [if_neg hsender]
    split
    next hpure =>
      refine (Program.always_invariant (fun _ _ _ _ _ _ _ => trivial) _ trivial).mono
        fun r db' _ => ?_
      exact .inr (.inr (.inr (.inl hpure)))
    refine (always_consume config incoming.senderProfileId db).bind ?_ ?_
    · rintro admitted db₁ ⟨nowMs, admitted', h, hadmitted⟩
      obtain rfl := Except.ok.inj h
      cases admitted with
      | false =>
        have hlimited : ¬WithinRateLimit config db incoming.senderProfileId nowMs := fun h => by
          cases hadmitted.2 h
        exact .inr (.inr (.inl ⟨nowMs, hlimited⟩))
      | true =>
        rw [if_neg (by simp)]
        refine (always_storeContent incoming source db₁).bind ?_ fun e db' _ => thrown e db'
        intro _ db₂ hstored
        have hkept := always_isStored (applyReceipts incoming) hstored
        exact hkept.mono fun r db' h => .inr (.inr (.inr (.inr h)))
    · rintro e db' ⟨nowMs, admitted, h, -⟩
      cases h

end Ingest

/-- The result of the pages a poll was answered. -/
def LoraWorld.merged (w : LoraWorld) (deps : LoraWorkerDeps) : LoraPollResult :=
  mergePages deps.validateEnvelope DEFAULT_MAX_OBJECTS_PER_POLL w.pages

/-- An object was handed to the ingest, and what became of it shows in the database `db`. -/
def HandedOver (deps : LoraWorkerDeps) (db : Db) (object : LoraObject) : Prop :=
  ∃ ownProfileId found out left,
    Program.Runs receiveEffect (ingestIncomingCellData deps.rateLimits ownProfileId
      (deps.decryptEnvelope object.cellData) none) found out left ∧
    Disposed deps.rateLimits found out db
      (processIncomingText (deps.decryptEnvelope object.cellData) ownProfileId)

/-- A world that has the cursor and the pages of an earlier one, and its messages. -/
structure Keeps (w w' : LoraWorld) : Prop where
  cursor : w'.cursor = w.cursor
  pages : w'.pages = w.pages
  messages : ∀ logicalId, IsStored w.db logicalId → IsStored w'.db logicalId

section Poll

variable {α β : Type} {deps : LoraWorkerDeps} {w w' : LoraWorld} {object : LoraObject}

theorem Keeps.refl (w : LoraWorld) : Keeps w w := ⟨rfl, rfl, fun _ h => h⟩

theorem Keeps.trans {w'' : LoraWorld} (h : Keeps w w') (h' : Keeps w' w'') : Keeps w w'' :=
  ⟨h'.cursor.trans h.cursor, h'.pages.trans h.pages, fun id hid => h'.messages id (h.messages id hid)⟩

theorem Disposed.later {config : RateLimiterConfig} {found db db' : Db} {out : Except Error Unit}
    {opened : Except Error IncomingTextMessage} (h : Disposed config found out db opened)
    (hkept : ∀ logicalId, IsStored db logicalId → IsStored db' logicalId) :
    Disposed config found out db' opened := by
  cases opened with
  | error e => trivial
  | ok incoming =>
    obtain hthrew | hblocked | hlimited | hpure | hstored := h
    · exact .inl hthrew
    · exact .inr (.inl hblocked)
    · exact .inr (.inr (.inl hlimited))
    · exact .inr (.inr (.inr (.inl hpure)))
    · exact .inr (.inr (.inr (.inr (hkept _ hstored))))

theorem HandedOver.later (h : HandedOver deps w.db object) (hkept : Keeps w w') :
    HandedOver deps w'.db object := by
  obtain ⟨ownProfileId, found, out, left, hrun, hdisposed⟩ := h
  exact ⟨ownProfileId, found, out, left, hrun, hdisposed.later hkept.messages⟩

/-- The steps of an ingest keep the cursor, the pages and the messages. -/
theorem always_keeps {p : Prog α} (huses : Program.Uses IngestStep p) (hkeeps : Keeps w w') :
    Program.Always loraEffect (fun _ _ => Keeps w) p w' fun _ => Keeps w := by
  refine huses.always (fun β op w₁ hop hw₁ => ⟨hw₁, fun r w₂ heffect => ?_⟩) hkeeps
  cases op with
  | store access =>
    obtain ⟨-, rfl⟩ := heffect
    exact hw₁.trans ⟨rfl, rfl, fun _ h => isStored_exec h access⟩
  | now =>
    obtain ⟨-, rfl⟩ := heffect
    exact hw₁
  | notify rowId =>
    obtain rfl := heffect
    exact hw₁
  | _ => exact hop.elim

/-- An ingest run on its own is one of the database. -/
theorem runs_receive {p : Prog α} {out : Except Error α} (hrun : Program.Runs loraEffect p w out w') :
    Program.Runs receiveEffect p w.db out w'.db := by
  have hview : Program.Always receiveEffect Program.Anywhere p w.db fun out' db' =>
      Program.Runs receiveEffect p w.db out' db' := Program.always_runs p w.db
  exact (hview.view LoraWorld.db loraEffect_receive).runs hrun

/-- One object of a poll is handed to the ingest, whose error is swallowed. -/
theorem always_ingestObject (ownProfileId : ProfileId) (object : LoraObject) (w : LoraWorld) :
    Program.Always loraEffect (fun _ _ => Keeps w) (ingestObject deps ownProfileId object) w
      (Program.OkOr (fun w' => Keeps w w' ∧ HandedOver deps w'.db object) fun _ _ => False) := by
  have hingest : Program.Always receiveEffect Program.Anywhere
      (ingestIncomingCellData deps.rateLimits ownProfileId (deps.decryptEnvelope object.cellData) none)
      w.db fun out db' => Disposed deps.rateLimits w.db out db'
        (processIncomingText (deps.decryptEnvelope object.cellData) ownProfileId) :=
    always_disposed _ _ _ _
  have hdisposed := hingest.and (Program.always_runs _ w.db)
  have hkeeps := always_keeps (ingestIncomingCellData_uses deps.rateLimits ownProfileId
    (deps.decryptEnvelope object.cellData) none) (Keeps.refl w)
  have hboth := hkeeps.and (hdisposed.view LoraWorld.db loraEffect_receive)
  refine Program.Always.swallow ((hboth.weaken fun _ _ _ h => h.1).mono fun out w' h => ?_)
  obtain ⟨hkept, hfate, hrun⟩ := h
  exact ⟨hkept, ownProfileId, w.db, out, w'.db, hrun, hfate⟩

/-- All objects of a poll are handed to the ingest. -/
theorem always_ingestObjects (ownProfileId : ProfileId) (objects : List LoraObject) (w : LoraWorld) :
    Program.Always loraEffect (fun _ _ => Keeps w)
      (Program.forEach (ingestObject deps ownProfileId) objects) w
      (Program.OkOr (fun w' => Keeps w w' ∧ ∀ object ∈ objects, HandedOver deps w'.db object)
        fun _ _ => False) := by
  induction objects generalizing w with
  | nil => exact ⟨.refl w, fun _ h => by cases h⟩
  | cons object objects ih =>
    refine (always_ingestObject ownProfileId object w).bind ?_ fun e w' h => h
    rintro _ w₁ ⟨hkeeps, hhanded⟩
    refine ((ih w₁).weaken fun _ _ _ h => hkeeps.trans h).mono fun r w' h => ?_
    cases r with
    | error e => exact h
    | ok _ =>
      obtain ⟨hkeeps', hothers⟩ := h
      refine ⟨hkeeps.trans hkeeps', List.forall_mem_cons.2 ⟨hhanded.later hkeeps', hothers⟩⟩

/-- A query that succeeds adds the page its body parses to. -/
theorem always_fetchJson (transport : LoraTransport) (tag : Bytes) (since : Option String)
    (w : LoraWorld) :
    Program.Always loraEffect (fun _ _ w₁ => w₁.cursor = w.cursor) (fetchJson transport tag since) w
      fun r w' => w'.cursor = w.cursor ∧ ∀ body, r = .ok body →
        w'.pages = w.pages ++ (parseObjectsResponse body).toOption.toList := by
  have hfetch : Program.Always loraEffect (fun _ _ w₁ => w₁.cursor = w.cursor)
      (Program.attempt (call (.fetchObjects transport.baseUrl tag since))) w fun r w' =>
        ∃ answer, r = .ok answer ∧ w' = { w with pages := w.pages ++ (pageOf answer).toList } := by
    refine Program.Always.attempt (Program.always_perform.2 ⟨rfl, fun answer w' heffect => ?_⟩)
    exact ⟨answer, rfl, heffect⟩
  unfold fetchJson
  refine hfetch.bind ?_ fun e w' ⟨answer, h, _⟩ => (by cases h)
  rintro answer w' ⟨answer', h, rfl⟩
  obtain rfl := Except.ok.inj h
  have failed : ∀ e : Error, Program.Always loraEffect (fun _ _ w₁ => w₁.cursor = w.cursor)
      (Program.throw e : Prog Json) { w with pages := w.pages ++ (pageOf answer).toList }
      fun r w' => w'.cursor = w.cursor ∧ ∀ body, r = .ok body →
        w'.pages = w.pages ++ (parseObjectsResponse body).toOption.toList :=
    fun e => ⟨rfl, fun body h => by cases h⟩
  cases answer with
  | error e => exact failed _
  | ok response =>
    simp only
    split
    · exact failed _
    next hok =>
      cases hbody : response.body with
      | none => exact failed _
      | some body =>
        refine ⟨rfl, fun body' h => ?_⟩
        obtain rfl := Except.ok.inj h
        simp [pageOf, hbody, not_not.1 hok]

/-- A poll that succeeds returns what the pages it was answered merge to. -/
theorem always_pollRoutes (transport : LoraTransport) (since : Option String) (tags : List Bytes)
    (w : LoraWorld) :
    Program.Always loraEffect (fun _ _ w₁ => w₁.cursor = w.cursor)
      (pollRoutes transport since tags
        (mergePages transport.validateEnvelope transport.maxObjectsPerPoll w.pages)) w
      fun r w' => w'.cursor = w.cursor ∧ ∀ result, r = .ok result →
        result = mergePages transport.validateEnvelope transport.maxObjectsPerPoll w'.pages := by
  induction tags generalizing w with
  | nil => exact ⟨rfl, fun result h => (Except.ok.inj h).symm⟩
  | cons tag tags ih =>
    unfold pollRoutes
    simp only [Program.bind_eq_bind]
    refine (always_fetchJson transport tag since w).bind ?_ fun e w' h => ⟨h.1, fun _ h => by cases h⟩
    rintro body w' ⟨hcursor, hpages⟩
    have hadded := hpages body rfl
    cases hparse : parseObjectsResponse body with
    | error e => exact ⟨hcursor, fun result h => by cases h⟩
    | ok page =>
      rw [hparse] at hadded
      have hmerged : mergePage transport.validateEnvelope transport.maxObjectsPerPoll
          (mergePages transport.validateEnvelope transport.maxObjectsPerPoll w.pages) page =
            mergePages transport.validateEnvelope transport.maxObjectsPerPoll w'.pages := by
        simp [hadded, mergePages, Except.toOption]
      change Program.Always _ _ (pollRoutes transport since tags (mergePage _ _ _ page)) w' _
      rw [hmerged]
      refine ((ih w').weaken fun _ _ _ h => h.trans hcursor).mono fun r w'' h => ?_
      exact ⟨h.1.trans hcursor, h.2⟩

end Poll

/-- What a poll that started in `w` must have done when it ended with `outcome` in `w'`, or was
    cut short there. -/
structure PollSafe (deps : LoraWorkerDeps) (outcome : Option (Except Error Unit))
    (w w' : LoraWorld) : Prop where
  /-- A poll that fails or is cut short leaves the cursor where it was. -/
  kept : outcome ≠ some (.ok ()) → w'.cursor = w.cursor
  /-- Only the merged cursor of the answered pages replaces it. -/
  moved : w'.cursor = w.cursor ∨ w'.cursor = (w'.merged deps).cursor
  /-- A valid object that was listed is taken up, unless another one had its id before it or the
      poll had as many objects as it may have. -/
  taken : ∀ page ∈ w'.pages, ∀ entry ∈ page.objects, ∀ object,
    sanitizeObject deps.validateEnvelope entry = some object →
      TakenUp DEFAULT_MAX_OBJECTS_PER_POLL (w'.merged deps).objects object.id
  /-- Before the cursor moves, every object that was taken up is handed to the ingest. -/
  handed : outcome = some (.ok ()) →
    ∀ object ∈ (w'.merged deps).objects, HandedOver deps w'.db object

section Poll

variable {deps : LoraWorkerDeps} {w w' : LoraWorld} {outcome : Option (Except Error Unit)}

theorem PollSafe.of_cursor (h : w'.cursor = w.cursor) (hok : outcome ≠ some (.ok ())) :
    PollSafe deps outcome w w' where
  kept _ := h
  moved := .inl h
  taken _ hpage _ hmem _ hvalid := mergePages_takenUp hpage hmem hvalid
  handed hdone := absurd hdone hok

theorem PollSafe.of_handed (hmoved : w'.cursor = w.cursor ∨ w'.cursor = (w'.merged deps).cursor)
    (hhanded : ∀ object ∈ (w'.merged deps).objects, HandedOver deps w'.db object) :
    PollSafe deps (some (.ok ())) w w' where
  kept h := absurd rfl h
  moved := hmoved
  taken _ hpage _ hmem _ hvalid := mergePages_takenUp hpage hmem hvalid
  handed _ := hhanded

theorem always_pollGateway (ownProfileId : ProfileId) {transport : LoraTransport}
    (hvalidate : transport.validateEnvelope = deps.validateEnvelope)
    (hcap : transport.maxObjectsPerPoll = DEFAULT_MAX_OBJECTS_PER_POLL) (hpages : w.pages = []) :
    Program.Always loraEffect (fun _ _ w' => w'.cursor = w.cursor)
      (pollGateway deps ownProfileId transport) w fun r w' => PollSafe deps (some r) w w' := by
  have threw : ∀ (e : Error) (w' : LoraWorld), w'.cursor = w.cursor →
      PollSafe deps (some (.error e)) w w' :=
    fun e w' h => .of_cursor h (by simp)
  unfold pollGateway
  simp only [Program.bind_eq_bind]
  refine Program.Always.step rfl ?_ ?_
  · rintro e w' ⟨h, -⟩
    cases h
  rintro since w₀ ⟨-, rfl⟩
  have hpoll := always_pollRoutes transport since transport.routeTags w₀
  rw [hpages] at hpoll
  refine Program.Always.bind hpoll ?_ fun e w' h => threw e w' h.1
  rintro result w₁ ⟨hcursor, hresult⟩
  obtain rfl : result = w₁.merged deps := by
    rw [hresult result rfl, hvalidate, hcap]
    rfl
  refine ((always_ingestObjects ownProfileId (w₁.merged deps).objects w₁).weaken
    fun _ _ w' h => h.cursor.trans hcursor).bind ?_ fun e w' h => h.elim
  rintro _ w₂ ⟨hkeeps, hhanded⟩
  have hsame : w₂.merged deps = w₁.merged deps := by
    unfold LoraWorld.merged
    rw [hkeeps.pages]
  have hunmoved : w₂.cursor = w₀.cursor := hkeeps.cursor.trans hcursor
  cases hmerged : (w₁.merged deps).cursor with
  | none =>
    refine .of_handed (.inl hunmoved) ?_
    rw [hsame]
    exact hhanded
  | some cursor =>
    refine Program.always_perform.2 ⟨hunmoved, ?_⟩
    rintro r w₃ ⟨rfl, rfl⟩
    refine .of_handed (.inr ?_) ?_
    · exact (hmerged.symm.trans (congrArg LoraPollResult.cursor hsame.symm))
    · have hhanded' : ∀ object ∈ (w₂.merged deps).objects, HandedOver deps w₂.db object := by
        rw [hsame]
        exact hhanded
      exact hhanded'

/-- What a pass of the worker does, and that the cursor is where it was all along. -/
theorem always_runLoraPoll (hpages : w.pages = []) :
    Program.Always loraEffect (fun _ _ w' => w'.cursor = w.cursor) (runLoraPoll deps) w
      fun r w' => PollSafe deps (some r) w w' := by
  have idle : PollSafe deps (some (.ok ())) w w := by
    refine .of_handed (.inl rfl) fun object h => ?_
    simp [LoraWorld.merged, hpages, mergePages] at h
  have threw : ∀ e : Error, PollSafe deps (some (.error e)) w w :=
    fun e => .of_cursor rfl (by simp)
  unfold runLoraPoll
  simp only [Program.bind_eq_bind]
  refine Program.Always.step rfl (fun e w' heffect => ?_) fun enabled w' heffect => ?_
  · obtain rfl := heffect
    exact threw e
  obtain rfl := heffect
  split
  · exact idle
  refine Program.Always.step rfl (fun e w' heffect => ?_) fun settingsUrl w' heffect => ?_
  · obtain rfl := heffect
    exact threw e
  obtain rfl := heffect
  split
  · exact idle
  refine Program.Always.step rfl (fun e w' heffect => ?_) fun ownProfileId w' heffect => ?_
  · obtain rfl := heffect
    exact threw e
  obtain rfl := heffect
  cases ownProfileId with
  | none => exact idle
  | some id =>
    refine Program.Always.step rfl (fun e w' heffect => ?_) fun nowMs w' heffect => ?_
    · obtain ⟨⟨nowMs, h⟩, -⟩ := heffect
      cases h
    obtain ⟨-, rfl⟩ := heffect
    cases hcreate : LoraTransport.create _ _ deps.validateEnvelope with
    | error e => exact threw e
    | ok transport =>
      have hconfig : transport.validateEnvelope = deps.validateEnvelope ∧
          transport.maxObjectsPerPoll = DEFAULT_MAX_OBJECTS_PER_POLL := by
        unfold LoraTransport.create at hcreate
        simp only at hcreate
        split at hcreate
        · cases hcreate
        · split at hcreate
          · cases hcreate
          · obtain rfl := Except.ok.inj hcreate
            exact ⟨rfl, rfl⟩
      exact always_pollGateway id hconfig.1 hconfig.2 hpages

end Poll

/-- One poll: the database it finds after the work of others, how it ended, or that it was cut
    short, and the world it leaves. -/
structure LoraPass where
  found : Db
  outcome : Option (Except Error Unit)
  after : LoraWorld

/-- The world a poll starts in. -/
def LoraWorld.found (w : LoraWorld) (db : Db) : LoraWorld := ⟨db, w.cursor, []⟩

/-- Polls that run one after the other. Any of them may be cut short, anywhere. -/
def LoraRuns (deps : LoraWorkerDeps) : LoraWorld → List LoraPass → Prop
  | _, [] => True
  | w, pass :: passes =>
    (match pass.outcome with
    | some out => Program.Runs loraEffect (runLoraPoll deps) (w.found pass.found) out pass.after
    | none => Program.Interrupted loraEffect Program.Anywhere (runLoraPoll deps)
        (w.found pass.found) pass.after) ∧
    LoraRuns deps pass.after passes

/-- Every poll is safe. -/
def PollsSafe (deps : LoraWorkerDeps) : LoraWorld → List LoraPass → Prop
  | _, [] => True
  | w, pass :: passes =>
    PollSafe deps pass.outcome (w.found pass.found) pass.after ∧ PollsSafe deps pass.after passes

/-- What the poll owes an object when the cursor moves past it: it is ingested, unless it cannot be
    opened or is not valid. -/
def LosesNothing (deps : LoraWorkerDeps) (ownProfileId : ProfileId) (w w' : LoraWorld) : Prop :=
  w'.cursor ≠ w.cursor → ∀ page ∈ w'.pages, ∀ entry ∈ page.objects, ∀ object,
    sanitizeObject deps.validateEnvelope entry = some object → ∀ incoming,
      processIncomingText (deps.decryptEnvelope object.cellData) ownProfileId = .ok incoming →
        isPureAcknowledgement incoming = true ∨
          IsStored w'.db (incomingLogicalMessageId incoming.messageId)

/-- What a gateway lists past a cursor: the entries at later positions, with the last position. -/
def listing (spool : List (String × Json)) (since : Option String) : Json :=
  let later := spool.filter fun spooled =>
    match since with
    | none => true
    | some cursor => codeUnits cursor < codeUnits spooled.1
  .object [("objects", .array (later.map (·.2))),
    ("cursor", .string ((spool.getLast?.map (·.1)).getD ""))]

/-- Executes a poll of a gateway with one spool for all route tags. -/
def gatewayHandler (spool : List (String × Json)) : Program.Handler Op Error LoraWorld :=
  fun _ op w =>
    match op with
    | .store access => ((access.exec w.db).1, { w with db := (access.exec w.db).2 })
    | .now => (.ok 0, w)
    | .notify _ => (.ok (), w)
    | .ownProfileId => (.ok (some (sampleProfile 3)), w)
    | .getSetting key =>
      (.ok (some (if key = LORA_ENABLED_SETTING_KEY then "true" else "http://gateway")), w)
    | .getCursor _ => (.ok w.cursor, w)
    | .setCursor _ cursor => (.ok (), { w with cursor := some cursor })
    | .fetchObjects _ _ since =>
      let answer : Except Error HttpResponse := .ok ⟨200, some (listing spool since)⟩
      (answer, { w with pages := w.pages ++ (pageOf answer).toList })
    | _ => (.error (.other "no such call"), w)

theorem runs_gatewayHandler {α : Type} (spool : List (String × Json)) (p : Prog α) (w : LoraWorld) :
    Program.Runs loraEffect p w (Program.run (gatewayHandler spool) p w).1
      (Program.run (gatewayHandler spool) p w).2 := by
  refine Program.runs_of_run (gatewayHandler spool) id ?_ p w
  intro β op w
  cases op <;> first | rfl | exact ⟨rfl, rfl⟩ | exact ⟨⟨0, rfl⟩, rfl⟩

/-- One object, at the first position. -/
def spooledText : List (String × Json) :=
  [("1", .object [("id", .string "08080808080808080808080808080808"), ("bytes_hex", .string "00"),
    ("crc32", .number 3523407757), ("received_at", .number 0)])]

/-- A device that opens every envelope to one text. -/
def loraDeps : LoraWorkerDeps where
  pipeline := samplePipeline
  decryptEnvelope := fun _ => .ok (plainEnvelope (sampleProfile 1) (sampleProfile 3)
    (sampleMessageId 8) (some "a") [] [])
  rateLimits := DEFAULT_RATE_LIMITS
  loraNetworkBaseUrl := none
  validateEnvelope := fun _ => true

/-- The world before the first poll, and one whose limiter has no token left. -/
def unpolled : LoraWorld := ⟨Db.empty, none, []⟩

def exhausted : LoraWorld :=
  { unpolled with db := { Db.empty with rateLimits := .singleton ⟨⟨.incoming, none⟩, 0, 0⟩ } }

/-- The world after a poll of the gateway. -/
def polled (w : LoraWorld) : LoraWorld :=
  (Program.run (gatewayHandler spooledText) (runLoraPoll loraDeps) (w.found w.db)).2

theorem runs_polled {w : LoraWorld} {out : Except Error Unit}
    (hout : (Program.run (gatewayHandler spooledText) (runLoraPoll loraDeps) (w.found w.db)).1 = out) :
    Program.Runs loraEffect (runLoraPoll loraDeps) (w.found w.db) out (polled w) :=
  hout ▸ runs_gatewayHandler spooledText (runLoraPoll loraDeps) (w.found w.db)

end cemp.sync
