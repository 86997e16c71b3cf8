import CempMobile.App.Messaging
import CempMobile.Images.Uploads

open cemp.core cemp.database cemp.ckb cemp.images

namespace cemp.app

/-- A call of `publishImage`, complete or cut short. -/
structure ImagePass where
  input : PublishImageInput
  before : Db
  out : Option (Except Error Hash)
  after : ImageWorld

def ImagePass.Runs (commits : Hash → RawTransaction) (deps : MessagingDeps) (pass : ImagePass) : Prop :=
  let program := publishImage deps pass.input
  match pass.out with
  | some out => Program.Runs (imageEffect commits) program (.start pass.before) out pass.after
  | none =>
    Program.Interrupted (imageEffect commits) Program.Anywhere program (.start pass.before) pass.after

/-- Whether the transaction journaled last for a message is in flight. -/
def messageInFlight (db : Db) (id : LogicalMessageId) : Bool :=
  (OutgoingTransactionRepository.latestByPurpose db (.message id)).any inFlight

/-- Whether a call finds the transaction of its message in flight. -/
def ImagePass.resumes (pass : ImagePass) : Bool :=
  messageInFlight pass.before pass.input.logicalMessageId

/-- Calls one after the other, with `other` work on the database in between. -/
def ImageRuns (commits : Hash → RawTransaction) (deps : MessagingDeps) (other : Db → Db → Prop) :
    Db → List ImagePass → Prop
  | _, [] => True
  | db, pass :: passes =>
    other db pass.before ∧ pass.Runs commits deps ∧ ImageRuns commits deps other pass.after.db passes

variable {commits : Hash → RawTransaction} {deps : MessagingDeps} {input : PublishImageInput}
  {other : Db → Db → Prop} {db : Db} {passes : List ImagePass} {pass : ImagePass}
  {w w' : ImageWorld}

/-- What is known along a call is known where it stopped. -/
theorem ImagePass.Runs.known {known : ImageWorld → Prop} (hrun : pass.Runs commits deps)
    (h : Program.Always (imageEffect commits) (fun _ _ => known) (publishImage deps pass.input)
      (.start pass.before) fun _ => known) : known pass.after := by
  unfold ImagePass.Runs at hrun
  split at hrun
  · exact h.runs hrun
  · exact h.interrupted (fun _ _ _ _ h => h) hrun

/-- An invariant of the calls and of the work in between holds where every call starts. -/
theorem ImageRuns.invariant {invariant : Db → Prop} (hruns : ImageRuns commits deps other db passes)
    (hother : ∀ db db', other db db' → invariant db → invariant db')
    (hcall : ∀ pass ∈ passes, pass.Runs commits deps → invariant pass.before →
      invariant pass.after.db)
    (hstart : invariant db) (hpass : pass ∈ passes) :
    pass.Runs commits deps ∧ invariant pass.before := by
  induction passes generalizing db with
  | nil => cases hpass
  | cons first passes ih =>
    obtain ⟨hbetween, hrun, hrest⟩ := hruns
    have hbefore := hother db first.before hbetween hstart
    obtain rfl | hpass := List.mem_cons.1 hpass
    · exact ⟨hrun, hbefore⟩
    · refine ih hrest (fun pass h => hcall pass (List.mem_cons_of_mem _ h)) ?_ hpass
      exact hcall first List.mem_cons_self hrun hbefore

theorem ImageRuns.runs (hruns : ImageRuns commits deps other db passes) :
    ∀ pass ∈ passes, pass.Runs commits deps :=
  fun _ hpass => (hruns.invariant (fun _ _ _ _ => trivial) (fun _ _ _ _ => trivial) trivial hpass).1

/-- The chunk transactions a call has journaled. -/
def ImagePass.uploads (pass : ImagePass) : List OutgoingTransaction := pass.after.uploads

/-- A step that is not a chunk upload. -/
theorem uploads_of_step {β : Type} {op : Op β} {r : Except Error β}
    (hrecords : ∀ access, op = .store access → ∀ tx, access.records = some tx →
      isAttachmentChunks tx.purpose = false)
    (heffect : imageEffect commits β op w r w') : w'.uploads = w.uploads := by
  unfold ImageWorld.uploads
  obtain hsame | ⟨tx, hpurpose, happend⟩ := recorded_step hrecords heffect
  · rw [hsame]
  · rw [happend, List.filter_append]
    simp [hpurpose]

/-- The publish of a message uploads nothing. -/
theorem always_publishText_uploads (pipeline : PipelineDeps) (text : PublishTextInput) :
    Program.Always (imageEffect commits) (fun _ _ w' => w'.uploads = w.uploads)
      (publishText pipeline text) w fun _ w' => w'.uploads = w.uploads := by
  refine publishText_uses.always (fun β op s hop hs => ⟨hs, fun r s' heffect => ?_⟩) rfl
  rw [← hs]
  refine uploads_of_step (fun access haccess tx hrecord => ?_) heffect
  rw [hop.records access haccess tx hrecord]
  rfl

section Send

variable {during : ∀ β : Type, Op β → ImageWorld → Prop}
  {post : Except Error Hash → ImageWorld → Prop}

/-- The steps of a send that come before its image is published. -/
def SetupStep : (β : Type) → Op β → Prop
  | _, .store .getBalance => True
  | _, .resolveLiveProfile _ => True
  | _, .senderProfileId => True
  | _, .prepareImage .. => True
  | _, _ => False

theorem SetupStep.same {β : Type} {op : Op β} {r : Except Error β} (hop : SetupStep β op)
    (heffect : imageEffect commits β op w r w') : w' = w := by
  cases op with
  | store access =>
    cases access with
    | getBalance =>
      obtain ⟨hanswer, hrecorded, hgaveUp⟩ := heffect
      obtain ⟨db, recorded, gaveUp⟩ := w'
      obtain rfl : w.db = db := congrArg Prod.snd hanswer
      simp only [StoreOp.records, StoreOp.abandons, Option.toList_none, List.append_nil] at hrecorded hgaveUp
      rw [hrecorded, hgaveUp]
    | _ => exact hop.elim
  | resolveLiveProfile profileId => exact heffect
  | senderProfileId => exact heffect
  | prepareImage sourceBytes format => exact heffect
  | _ => exact hop.elim

/-- One step before the image is published. -/
theorem always_setup {α β : Type} {op : Op β} {rest : β → Prog α}
    {post : Except Error α → ImageWorld → Prop} (hop : SetupStep β op) (hduring : during β op w)
    (herror : ∀ e, post (.error e) w)
    (hrest : ∀ b, Program.Always (imageEffect commits) during (rest b) w post) :
    Program.Always (imageEffect commits) during ((Program.perform op).bind rest) w post := by
  refine Program.Always.step hduring (fun e w' heffect => ?_) fun b w' heffect => ?_
  · obtain rfl := hop.same heffect
    exact herror e
  · obtain rfl := hop.same heffect
    exact hrest b

/-- The row a send stores for an image it has published. -/
def attachmentOf (messageRowId : Nat) (result : PublishImageMessageResult) : Attachment where
  messageId := messageRowId
  kind := "image"
  byteLength := result.plaintextSize
  state := "pending"
  manifest := some result.manifest
  attachmentKey := none
  remoteDownloaded := false

/-- A send in two parts: the publish of the image, and the attachment row. What comes before them
    leaves the world. -/
theorem always_runImageSend_of {deps : ImageDeps} {image : PublishImageMessageInput}
    {post : Except Error RunImageSendResult → ImageWorld → Prop}
    {published : Except Error PublishImageMessageResult → ImageWorld → Prop} (availableShannon : Nat)
    (hduring : ∀ (β : Type) (op : Op β), SetupStep β op → during β op w)
    (herror : ∀ e, post (.error e) w)
    (hpublish : ∀ prepared, Program.Always (imageEffect commits) during
      (publishImageMessage deps { image with preparedImage := some prepared }) w published)
    (hfailed : ∀ e w, published (.error e) w → post (.error e) w)
    (hattach : ∀ result w, published (.ok result) w →
      during _ (.store (.createAttachment (attachmentOf image.messageRowId result))) w ∧
        ∀ answer w', imageEffect commits _
          (.store (.createAttachment (attachmentOf image.messageRowId result))) w answer w' →
          post (answer.map fun _ => ⟨result.messageTxHash, result.chunksTxHash⟩) w') :
    Program.Always (imageEffect commits) during (runImageSend deps availableShannon image) w post := by
  refine Program.Always.bind (?_ : Program.Always _ _ _ w fun _ w' => w' = w)
    (fun prepared w' hw => ?_) fun e w' hw => ?_
  · refine Program.Always.catchError (?_ : Program.Always _ _ _ w fun _ w' => w' = w)
      (fun _ _ h => h) fun e w' h => ?_
    · refine Program.always_perform.2 ⟨hduring _ _ trivial, fun r w' heffect => ?_⟩
      exact SetupStep.same (by trivial) heffect
    · cases e <;> exact h
  · subst hw
    simp only
    split
    · exact herror _
    · refine (hpublish prepared).bind (fun result w'' hpublished => ?_) hfailed
      obtain ⟨hnow, hnext⟩ := hattach result w'' hpublished
      refine Program.Always.step hnow (fun e w₃ heffect => ?_) fun _ w₃ heffect => ?_
      · exact hnext _ w₃ heffect
      · exact hnext _ w₃ heffect
  · subst hw
    exact herror e

theorem always_sendNewImage_of
    {published : Except Error PublishImageMessageResult → ImageWorld → Prop}
    (hduring : ∀ (β : Type) (op : Op β), SetupStep β op → during β op w)
    (herror : ∀ e, post (.error e) w)
    (hpublish : ∀ (deps : ImageDeps) (image : PublishImageMessageInput),
      image.messageRowId = input.messageRowId → image.logicalMessageId = input.logicalMessageId →
      Program.Always (imageEffect commits) during (publishImageMessage deps image) w published)
    (hfailed : ∀ e w, published (.error e) w → post (.error e) w)
    (hattach : ∀ result w, published (.ok result) w →
      during _ (.store (.createAttachment (attachmentOf input.messageRowId result))) w ∧
        ∀ answer w', imageEffect commits _
          (.store (.createAttachment (attachmentOf input.messageRowId result))) w answer w' →
          post (answer.map fun _ => result.messageTxHash) w') :
    Program.Always (imageEffect commits) during (sendNewImage deps input) w post := by
  unfold sendNewImage
  split
  · exact herror _
  refine always_setup (by trivial) (hduring _ _ trivial) herror fun recipientKemPublicKey => ?_
  refine always_setup (by trivial) (hduring _ _ trivial) herror fun balance => ?_
  refine always_setup (by trivial) (hduring _ _ trivial) herror fun senderProfileId => ?_
  refine Program.Always.bind (?_ : Program.Always _ _ _ w
    fun (r : Except Error RunImageSendResult) w => post (r.map (·.messageTxHash)) w)
    (fun _ _ h => h) fun _ _ h => h
  refine always_runImageSend_of _ hduring herror (fun prepared => hpublish _ _ rfl rfl) hfailed ?_
  intro result w hpublished
  obtain ⟨hnow, hnext⟩ := hattach result w hpublished
  refine ⟨hnow, fun answer w' heffect => ?_⟩
  have hpost := hnext answer w' heffect
  cases answer with
  | ok u => exact hpost
  | error e => exact hpost

/-- A call resumes the message whose transaction is in flight, or sends a new image. -/
theorem always_publishImage_of
    (hfind : during _ (.store (.findOutgoingTxByPurpose (.message input.logicalMessageId))) (.start db))
    (hresume : messageInFlight db input.logicalMessageId → Program.Always (imageEffect commits) during
      (publishText deps.pipeline input.guardText) (.start db)
      fun (r : Except Error PublishResult) w => post (r.map (·.txHash)) w)
    (hnew : messageInFlight db input.logicalMessageId = false → Program.Always (imageEffect commits)
      during (sendNewImage deps input) (.start db) post) :
    Program.Always (imageEffect commits) during (publishImage deps input) (.start db) post := by
  refine Program.Always.step hfind ?_ ?_
  · rintro e w ⟨hanswer, -⟩
    cases hanswer
  · rintro journaled w ⟨hanswer, hrecorded, hgaveUp⟩
    have hread : OutgoingTransactionRepository.latestByPurpose db (.message input.logicalMessageId) =
        journaled := Except.ok.inj (congrArg Prod.fst hanswer)
    obtain rfl : w = .start db := by
      obtain ⟨db', recorded, gaveUp⟩ := w
      obtain rfl : db = db' := congrArg Prod.snd hanswer
      rw [show recorded = [] from hrecorded, show gaveUp = [] from hgaveUp]
      rfl
    cases hfilter : journaled.filter inFlight with
    | some tx =>
      obtain ⟨hsome, hinFlight⟩ := Option.filter_eq_some_iff.1 hfilter
      refine (hresume ?_).bind (fun _ _ h => h) fun _ _ h => h
      unfold messageInFlight
      rw [hread, hsome]
      exact hinFlight
    | none =>
      refine hnew ?_
      unfold messageInFlight
      rw [hread]
      cases journaled with
      | none => rfl
      | some tx => simpa [Option.filter] using hfilter

end Send

section Sample

def sampleMessaging : MessagingDeps := ⟨samplePipeline, sampleCrypto, true⟩

def sampleInput : PublishImageInput where
  messageRowId := 1
  logicalMessageId := .composed 7
  recipientProfileIdHex := sampleProfile 1
  sourceBytes := [1, 2, 3]
  caption := none
  format := none
  timeoutMs := none

/-- A wallet with one composed image message, and a million CKB. -/
def richDb : Db := { composedDb with balance := ⟨100000000000000, 100000000000000, 0, 0, 0⟩ }

/-- A complete call of that wallet with a node. -/
def imageAttempt (commits : Option (Hash → RawTransaction)) (node : Node) (db : Db) : ImagePass :=
  let ran := Program.run (imageHandler commits node) (publishImage sampleMessaging sampleInput)
    (.start db)
  ⟨sampleInput, db, some ran.1, ran.2⟩

theorem runs_imageAttempt (commits : Hash → RawTransaction) (node : Node) (db : Db) :
    (imageAttempt (some commits) node db).Runs commits sampleMessaging :=
  runs_imageHandler commits node (publishImage sampleMessaging sampleInput) (.start db)

end Sample

end cemp.app
