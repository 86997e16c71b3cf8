import CempMobile.Ckb.Incoming
import CempMobile.Ckb.PublishPhases
import CempMobile.Lib.Calls

open cemp.core cemp.database

namespace cemp.ckb

/-- The database and the chain while messages are published: the records a call has journaled and
    the envelope ids it has given to rows, the transactions ever handed to a node, and those that
    can no longer be committed. -/
structure PublishWorld where
  db : Db
  recorded : List OutgoingTransaction
  named : List (Nat × MessageId)
  sent : List Hash
  dead : List Hash

namespace PublishWorld

/-- A call outside the database takes time, in which transactions may die. -/
structure Later (w w' : PublishWorld) : Prop where
  db : w'.db = w.db
  recorded : w'.recorded = w.recorded
  named : w'.named = w.named
  sent : w'.sent = w.sent
  dead : ∀ txHash ∈ w.dead, txHash ∈ w'.dead

/-- A transaction is handed to a node. -/
def handed (w : PublishWorld) (txHash : Hash) : PublishWorld := { w with sent := txHash :: w.sent }

theorem Later.refl (w : PublishWorld) : w.Later w := ⟨rfl, rfl, rfl, rfl, fun _ h => h⟩

/-- A call owes its row an envelope id: it has journaled a transaction, and not named it yet. -/
def Owes (w : PublishWorld) : Prop := w.named.length < w.recorded.length

instance (w : PublishWorld) : Decidable w.Owes := inferInstanceAs (Decidable (_ < _))

end PublishWorld

/-- Random bytes that are no message's envelope id. -/
def Undrawn (db : Db) (bytes : Bytes) : Prop :=
  ∀ rowId m, db.messages.get? rowId = some m → m.envelopeMessageIdHex ≠ some bytes

/-- What the steps of a publish do. `commits` is what a transaction hash commits to, and random
    bytes have not been drawn before. A transaction that the node has rejected, or whose inputs
    another one has consumed, is dead. -/
def publishEffect (commits : Hash → RawTransaction) : Program.Effect Op Error PublishWorld :=
  fun _ op w answer w' =>
    match op with
    | .store access => access.exec w.db = (answer, w'.db) ∧
        w'.recorded = w.recorded ++ access.records.toList ∧
        w'.named = w.named ++ access.names.toList ∧ w'.sent = w.sent ∧ w'.dead = w.dead
    | .getTransaction txHash => w.Later w' ∧
        ∀ reason, answer = .ok (.rejected reason) → txHash ∈ w'.dead
    | .sendTransaction tx => (w.handed tx.hash).Later w' ∧
        ∀ message, answer = .error (.rpc .inputsConsumed message) → tx.hash ∈ w'.dead
    | .signTransaction tx => w.Later w' ∧ ∀ signed, answer = .ok signed → commits signed.hash = tx
    | .randomBytes _ => w.Later w' ∧ ∀ bytes, answer = .ok bytes → Undrawn w.db bytes
    | .markTransactions _ => w.Later w' ∧ answer = .ok ()
    | _ => w.Later w'

/-- Publishes of messages, one call after the other. -/
abbrev PublishCalls (commits : Hash → RawTransaction) (deps : PipelineDeps)
    (between : PublishWorld → PublishTextInput → PublishWorld → Prop) :
    PublishWorld → List (Program.Call PublishTextInput Error PublishResult PublishWorld) → Prop :=
  Program.Calls (publishEffect commits) (publishText deps) between

section Steps

variable {commits : Hash → RawTransaction} {w w' : PublishWorld} {β : Type} {op : Op β}
  {r : Except Error β}

/-- A step is an access to the database, or leaves the database and what the call has done to it. -/
theorem publishEffect_cases (heffect : publishEffect commits β op w r w') :
    (w'.db = w.db ∧ w'.recorded = w.recorded ∧ w'.named = w.named) ∨
      ∃ access, op = .store access ∧ w'.db = (access.exec w.db).2 ∧
        w'.recorded = w.recorded ++ access.records.toList ∧
        w'.named = w.named ++ access.names.toList := by
  have outside : ∀ {v : PublishWorld}, v.Later w' → v.db = w.db → v.recorded = w.recorded →
      v.named = w.named → w'.db = w.db ∧ w'.recorded = w.recorded ∧ w'.named = w.named :=
    fun h hdb hrecorded hnamed => ⟨h.db.trans hdb, h.recorded.trans hrecorded, h.named.trans hnamed⟩
  cases op with
  | store access =>
    obtain ⟨hanswer, hrecorded, hnamed, -, -⟩ := heffect
    exact .inr ⟨access, rfl, (congrArg Prod.snd hanswer).symm, hrecorded, hnamed⟩
  | getTransaction txHash => exact .inl (outside heffect.1 rfl rfl rfl)
  | sendTransaction tx => exact .inl (outside heffect.1 rfl rfl rfl)
  | signTransaction tx => exact .inl (outside heffect.1 rfl rfl rfl)
  | randomBytes length => exact .inl (outside heffect.1 rfl rfl rfl)
  | markTransactions tx => exact .inl (outside heffect.1 rfl rfl rfl)
  | _ => exact .inl (outside heffect rfl rfl rfl)

/-- A step that journals nothing for a purpose leaves what is journaled for it. -/
theorem journalFor_of_publish {purpose : TxPurpose}
    (hrecords : ∀ access, op = .store access → ∀ tx, access.records = some tx → tx.purpose ≠ purpose)
    (heffect : publishEffect commits β op w r w') :
    w'.db.journalFor purpose = w.db.journalFor purpose := by
  obtain ⟨hdb, -⟩ | ⟨access, haccess, hdb, -⟩ := publishEffect_cases heffect
  · rw [hdb]
  · rw [hdb]
    exact journalFor_exec (hrecords access haccess) w.db

/-- A dead transaction stays dead. -/
theorem dead_of_step (heffect : publishEffect commits β op w r w') {txHash : Hash}
    (hdead : txHash ∈ w.dead) : txHash ∈ w'.dead := by
  cases op with
  | store access =>
    obtain ⟨-, -, -, -, hsame⟩ := heffect
    rw [hsame]
    exact hdead
  | getTransaction polled => exact heffect.1.dead _ hdead
  | sendTransaction tx => exact heffect.1.dead _ hdead
  | signTransaction tx => exact heffect.1.dead _ hdead
  | randomBytes length => exact heffect.1.dead _ hdead
  | markTransactions tx => exact heffect.1.dead _ hdead
  | _ => exact heffect.dead _ hdead

end Steps

section Silent

/-- Steps that neither journal a transaction nor name an envelope. -/
def Silent (β : Type) (op : Op β) : Prop :=
  ∀ access, op = .store access → access.records = none ∧ access.names = none

variable {β : Type} {deps : PipelineDeps} {input : PublishTextInput} {db : Db}

theorem silent_store {access : StoreOp β} (hrecords : access.records = none)
    (hnames : access.names = none) : Silent β (.store access) := by
  rintro _ ⟨⟩
  exact ⟨hrecords, hnames⟩

theorem silent_outside {op : Op β} (h : ∀ access : StoreOp β, op ≠ .store access) : Silent β op :=
  fun access hop => absurd hop (h access)

theorem resumeOrAbandon_silent (record : OutgoingTransaction) (timeoutMs : Option Nat) :
    Program.Uses Silent (resumeOrAbandon record timeoutMs) := by
  refine Program.Uses.catchError ?_ fun e => ?_
  · refine Program.Uses.bind (resumeJournaledBroadcast_uses (silent_outside nofun)
      (silent_outside nofun) (fun _ _ => silent_outside nofun) _) fun outcome => ?_
    split
    · exact Program.Uses.bind (Program.uses_perform.2 (silent_outside nofun)) fun _ => trivial
    · trivial
  · cases e with
    | journaledAbandoned message spent =>
      exact Program.Uses.bind (Program.uses_perform.2 (silent_store rfl rfl)) fun _ => trivial
    | _ => trivial

theorem walkToState_silent (rowId : Nat) (target : MessageState) :
    Program.Uses Silent (walkToState rowId target) :=
  Program.Uses.bind (Program.uses_perform.2 (silent_store rfl rfl)) fun _ =>
    Program.Uses.forEach fun _ _ => Program.uses_perform.2 (silent_store rfl rfl)

theorem publishAfterBroadcast_silent (tx : BroadcastTx) :
    Program.Uses Silent (publishAfterBroadcast input tx) := by
  have monitored : Program.Uses Silent
      (monitor input.messageRowId tx.txHash tx.resumed input.timeoutMs tx.capacityShannon) := by
    refine Program.Uses.bind (waitForTransactionCommit_uses (silent_outside nofun)
      (silent_outside nofun) _) fun _ => ?_
    refine Program.Uses.bind (Program.uses_perform.2 (silent_store rfl rfl)) fun _ => ?_
    refine Program.Uses.bind (Program.uses_perform.2 (silent_store rfl rfl)) fun _ => ?_
    refine Program.Uses.bind (walkToState_silent _ _) fun _ => ?_
    split
    · split
      · exact Program.Uses.bind (Program.uses_perform.2 (silent_store rfl rfl)) fun _ => trivial
      · trivial
    · trivial
  unfold publishAfterBroadcast
  cases tx.fresh with
  | none => exact (walkToState_silent _ _).bind fun _ => monitored
  | some signed =>
    refine Program.Uses.bind (Program.uses_perform.2 (silent_outside nofun)) fun _ => ?_
    exact Program.Uses.bind (Program.uses_perform.2 (silent_store rfl rfl)) fun _ => monitored

/-- An access that names nothing leaves the bytes undrawn. -/
theorem Undrawn.exec {bytes : Bytes} {access : StoreOp β} (h : Undrawn db bytes)
    (hnames : ∀ rowId envelopeId, access.names = some (rowId, envelopeId) → envelopeId ≠ bytes) :
    Undrawn (access.exec db).2 bytes := by
  intro rowId m hget hid
  cases hold : db.messages.get? rowId with
  | none =>
    obtain ⟨input, -, rfl⟩ := get?_exec_new access hold hget
    cases hid
  | some old =>
    obtain ⟨m', hget', hfollows⟩ := get?_exec access hold
    obtain rfl := Option.some.inj (hget.symm.trans hget')
    obtain hsame | ⟨envelopeId, hname, hnew⟩ := hfollows.envelopeMessageIdHex
    · exact h rowId old hold (hsame.symm.trans hid)
    · exact hnames rowId envelopeId hname (Option.some.inj (hnew.symm.trans hid))

end Silent

section Sample

/-- How a node answers during a call: the status of a transaction, and the fault and the text it
    refuses one with. -/
structure SampleNode where
  status : Hash → TransactionStatus
  refuses : Hash → Option (SendFault × String)

/-- A node that commits every transaction at once. -/
def committingNode : SampleNode := ⟨fun _ => .committed, fun _ => none⟩

def undrawn (db : Db) (bytes : Bytes) : Bool :=
  db.messages.rows.all fun row => row.2.envelopeMessageIdHex != some bytes

theorem undrawn_of_true {db : Db} {bytes : Bytes} (h : undrawn db bytes) : Undrawn db bytes := by
  intro rowId m hget
  simpa using List.all_eq_true.1 h (rowId, m) (Table.get?_eq_some.1 hget)

/-- A wallet of a node. It numbers the transactions it signs and the bytes it draws by the length of
    the journal, and refuses what a given `commits` does not allow. -/
def publishHandler (commits : Option (Hash → RawTransaction)) (node : SampleNode) :
    Program.Handler Op Error PublishWorld := fun _ op w =>
  match op with
  | .store access => ((access.exec w.db).1, { w with
      db := (access.exec w.db).2
      recorded := w.recorded ++ access.records.toList
      named := w.named ++ access.names.toList })
  | .getTransaction txHash =>
    match node.status txHash with
    | .rejected reason => (.ok (.rejected reason), { w with dead := txHash :: w.dead })
    | status => (.ok status, w)
  | .sendTransaction tx =>
    match node.refuses tx.hash with
    | none => (.ok tx.hash, w.handed tx.hash)
    | some (fault, message) => (.error (.rpc fault message), { w.handed tx.hash with
        dead := if fault = .inputsConsumed then tx.hash :: w.dead else w.dead })
  | .completeTransaction _ => (.ok ⟨[⟨9, w.db.journal.length⟩], none, 1000⟩, w)
  | .signTransaction tx =>
    let hash : Hash := 100 + w.db.journal.length
    if commits.all fun commits => commits hash = tx then (.ok ⟨tx, hash⟩, w)
    else (.error (.other "not signed"), w)
  | .markTransactions _ => (.ok (), w)
  | .deadlinePassed => (.ok true, w)
  | .now => (.ok 0, w)
  | .randomBytes length =>
    let bytes := List.replicate length (UInt8.ofNat (w.db.journal.length + 1))
    if undrawn w.db bytes then (.ok bytes, w) else (.error (.other "bytes drawn twice"), w)
  | .randomPadding => (.ok [], w)
  | .senderProfileId => (.ok (sampleProfile 2), w)
  | .resolveLiveProfile _ => (.ok [5], w)
  | .encryptEnvelope .. => (.ok (), w)
  | _ => (.error (.other "no such call"), w)

theorem publishHandler_allowed (commits : Hash → RawTransaction) (node : SampleNode) {β : Type}
    (op : Op β) (w : PublishWorld) :
    publishEffect commits β op w (publishHandler (some commits) node β op w).1
      (publishHandler (some commits) node β op w).2 := by
  have same : w.Later w := .refl w
  cases op with
  | store access => exact ⟨rfl, rfl, rfl, rfl, rfl⟩
  | getTransaction txHash =>
    simp only [publishHandler]
    split
    · exact ⟨⟨rfl, rfl, rfl, rfl, fun _ h => List.mem_cons_of_mem _ h⟩, fun _ _ => List.mem_cons_self⟩
    next hstatus =>
      refine ⟨same, fun reason hanswer => ?_⟩
      exact absurd (Except.ok.inj hanswer) (hstatus reason)
  | sendTransaction tx =>
    simp only [publishHandler]
    split
    · exact ⟨.refl _, fun _ hanswer => by cases hanswer⟩
    next fault message _ =>
      refine ⟨⟨rfl, rfl, rfl, rfl, fun txHash hdead => ?_⟩, fun message hanswer => ?_⟩
      · simp only
        split
        · exact List.mem_cons_of_mem _ hdead
        · exact hdead
      · obtain ⟨rfl, -⟩ := Error.rpc.inj (Except.error.inj hanswer)
        exact List.mem_cons_self
  | signTransaction tx =>
    simp only [publishHandler]
    split
    next h =>
      refine ⟨same, ?_⟩
      rintro _ ⟨⟩
      simpa using h
    next => exact ⟨same, fun signed hsigned => by cases hsigned⟩
  | randomBytes length =>
    simp only [publishHandler]
    split
    next h =>
      refine ⟨same, ?_⟩
      rintro _ ⟨⟩
      exact undrawn_of_true h
    next => exact ⟨same, fun bytes hbytes => by cases hbytes⟩
  | markTransactions tx => exact ⟨same, rfl⟩
  | _ => exact same

theorem runs_publishHandler (commits : Hash → RawTransaction) (node : SampleNode) {α : Type}
    (p : Prog α) (w : PublishWorld) :
    Program.Runs (publishEffect commits) p w
      (Program.run (publishHandler (some commits) node) p w).1
      (Program.run (publishHandler (some commits) node) p w).2 :=
  Program.runs_of_run (publishHandler (some commits) node) id (publishHandler_allowed commits node) p w

/-- What the hashes of a journal commit to. -/
def journaledAs (db : Db) (txHash : Hash) : RawTransaction :=
  match (db.journal.find? fun record => record.txHash == txHash).bind (·.txHex) with
  | some signed => signed.toRawTransaction
  | none => ⟨[], []⟩

theorem fits_queued : MessageState.queued.Fits .outgoing := by decide

/-- A wallet with one queued message. -/
def queuedDb : Db :=
  { Db.empty with
    messages := .singleton ⟨1, .outgoing, .queued, some "hi", .composed 7, none, fits_queued⟩
    balance := ⟨100000000000, 100000000000, 0, 0, 0⟩ }

def queuedText : PublishTextInput where
  messageRowId := 1
  logicalMessageId := .composed 7
  text := "hi"
  recipientProfileIdHex := sampleProfile 1
  replyTo := none
  receipts := []
  receiptRequest := none
  contentType := none
  attachmentManifests := []
  attachmentEnvelope := none
  timeoutMs := none

/-- A new call of that wallet, after its row has been queued again. -/
def PublishWorld.next (w : PublishWorld) : PublishWorld :=
  { w with
    db := (StoreOp.exec (.transitionMessage 1 .queued) w.db).2
    recorded := []
    named := [] }

/-- A complete call of it with a node. -/
def publishCall (commits : Option (Hash → RawTransaction)) (node : SampleNode) (w : PublishWorld) :
    Program.Call PublishTextInput Error PublishResult PublishWorld :=
  let ran := Program.run (publishHandler commits node) (publishText samplePipeline queuedText) w
  ⟨queuedText, w, some ran.1, ran.2⟩

theorem ends_publishCall (commits : Hash → RawTransaction) (node : SampleNode) (w : PublishWorld) :
    (publishCall (some commits) node w).Ends (publishEffect commits) (publishText samplePipeline) :=
  runs_publishHandler commits node (publishText samplePipeline queuedText) w

def queuedWorld : PublishWorld := ⟨queuedDb, [], [], [], []⟩

end Sample

end cemp.ckb
