import CempMobile.App.ImageRuns

open cemp.core cemp.database cemp.ckb cemp.images

namespace cemp.app

variable {commits : Hash → RawTransaction} {deps : MessagingDeps} {id : LogicalMessageId} {db : Db}
  {passes : List ImagePass} {pass : ImagePass} {w w' : ImageWorld}

/-- A transaction whose envelope is that of an image: its content is a manifest, and it has one. -/
def isImage (tx : RawTransaction) : Bool :=
  tx.envelope?.any fun envelope =>
    envelope.header.content_type == CONTENT_TYPE.attachmentManifest &&
      !envelope.payload.attachment_manifests.isEmpty

/-- Every transaction journaled for a message is that of an image. A transaction is journaled
    before it is broadcast. -/
def AllImages (commits : Hash → RawTransaction) (id : LogicalMessageId) (db : Db) : Prop :=
  ∀ record ∈ db.journalFor (.message id), isImage (commits record.txHash)

instance (commits : Hash → RawTransaction) (id : LogicalMessageId) (db : Db) :
    Decidable (AllImages commits id db) :=
  inferInstanceAs (Decidable (∀ record ∈ db.journalFor (.message id), _))

/-- Work that journals nothing for a message. -/
def LeavesMessage (id : LogicalMessageId) (db db' : Db) : Prop :=
  db'.journalFor (.message id) = db.journalFor (.message id)

theorem AllImages.leaves {db db' : Db} (h : AllImages commits id db) (hleaves : LeavesMessage id db db') :
    AllImages commits id db' := by
  unfold AllImages
  rw [hleaves]
  exact h

/-- A step that journals nothing for other messages, or the transaction of an image. -/
theorem AllImages.step {β : Type} {op : Op β} {r : Except Error β} (h : AllImages commits id w.db)
    (hrecords : ∀ access, op = .store access → ∀ tx, access.records = some tx →
      tx.purpose = .message id → isImage (commits tx.txHash))
    (heffect : imageEffect commits β op w r w') : AllImages commits id w'.db := by
  by_cases hnone : ∀ access, op = .store access → ∀ tx, access.records = some tx →
      tx.purpose ≠ .message id
  · exact h.leaves (journalFor_of_step hnone heffect)
  · push Not at hnone
    obtain ⟨access, rfl, tx, hrecord, hpurpose⟩ := hnone
    obtain ⟨hanswer, -, -⟩ := heffect
    intro record hmem
    obtain ⟨hmem, hrecordPurpose⟩ := mem_journalFor.1 hmem
    rw [show w'.db = (access.exec w.db).2 from (congrArg Prod.snd hanswer).symm] at hmem
    obtain hsame | ⟨tx', hrecord', happend⟩ := journal_exec access w.db
    · rw [hsame] at hmem
      exact h record (mem_journalFor.2 ⟨hmem, hrecordPurpose⟩)
    · rw [happend, List.mem_append, List.mem_singleton] at hmem
      obtain hmem | rfl := hmem
      · exact h record (mem_journalFor.2 ⟨hmem, hrecordPurpose⟩)
      · exact hrecords access rfl tx' hrecord' hrecordPurpose

theorem AllImages.chunkStep {β : Type} {op : Op β} {r : Except Error β} {attachmentId : Bytes}
    (h : AllImages commits id w.db) (hop : ChunkStep (.attachmentChunks attachmentId) w β op)
    (heffect : imageEffect commits β op w r w') : AllImages commits id w'.db := by
  refine h.step ?_ heffect
  rintro access rfl tx hrecord hpurpose
  cases access with
  | recordOutgoingTx recorded =>
    obtain rfl := Option.some.inj hrecord
    have hchunks : recorded.purpose = .attachmentChunks attachmentId := hop
    rw [hchunks] at hpurpose
    cases hpurpose
  | _ => cases hrecord

/-- The phases of a publish, by what is journaled for a message. A `plain` publish is one of that
    message which would not build an image. -/
def imagePhases (commits : Hash → RawTransaction) (id : LogicalMessageId) (input : PublishTextInput)
    (plain : Prop)
    (himage : ¬plain → input.purpose = .message id → ∀ tx, Carries input tx → isImage tx) :
    PublishPhases (imageEffect commits) commits input
      fun w => AllImages commits id w.db ∨ plain ∧ w.gaveUp ≠ [] where
  start w := AllImages commits id w.db ∧
    (plain → (OutgoingTransactionRepository.latestByPurpose w.db input.purpose).isSome)
  found _ w := AllImages commits id w.db
  gone w := AllImages commits id w.db ∧ (plain → w.gaveUp ≠ [])
  out _ w := AllImages commits id w.db ∨ plain ∧ w.gaveUp ≠ []
  start_anywhere _ h := .inl h.1
  found_anywhere _ _ h := .inl h
  gone_anywhere _ h := .inl h.1
  out_anywhere _ _ h := h
  find := by
    rintro w existing w' ⟨h, hsome⟩ heffect
    have h' := h.step (by rintro _ ⟨⟩ tx ⟨⟩) heffect
    have hread : OutgoingTransactionRepository.latestByPurpose w.db input.purpose = existing :=
      Except.ok.inj (congrArg Prod.fst heffect.1)
    cases existing with
    | none =>
      refine ⟨h', fun hplain => ?_⟩
      have hfound := hsome hplain
      rw [hread] at hfound
      cases hfound
    | some record => exact h'
  find_error := by
    rintro w e w' ⟨h, -⟩ heffect
    exact .inl (h.step (by rintro _ ⟨⟩ tx ⟨⟩) heffect)
  polls record := by
    refine ⟨?_, ?_, ?_, ?_⟩
    · rintro w w' h rfl
      exact .inl h
    · rintro w answer w' h rfl -
      exact h
    · rintro w answer w' h rfl
      exact h
    · rintro tx w answer w' h rfl
      exact h
  abandon := by
    intro record w answer w' h heffect
    refine ⟨h.step (by rintro _ ⟨⟩ tx ⟨⟩) heffect, fun _ => ?_⟩
    rw [heffect.2.2]
    simp [StoreOp.abandons]
  build := by
    rintro β op w answer w' hop ⟨h, hgone⟩ heffect
    refine ⟨h.step ?_ heffect, fun hplain => ?_⟩
    · intro access haccess tx hrecord
      rw [(accesses_of_build hop access haccess).1] at hrecord
      cases hrecord
    · rw [gaveUp_of_step (fun access h => (accesses_of_build hop access h).2) heffect]
      exact hgone hplain
  sign := fun tx w signed w' _ heffect => heffect.2 signed rfl
  record := by
    rintro tx w answer w' ⟨h, hgone⟩ hpurpose - hcarries heffect
    by_cases hplain : plain
    · right
      rw [gaveUp_of_step (by rintro _ ⟨⟩; rfl) heffect]
      exact ⟨hplain, hgone hplain⟩
    · left
      refine h.step ?_ heffect
      rintro _ ⟨⟩ _ ⟨⟩ hmessage
      exact himage hplain (hpurpose.symm.trans hmessage) _ hcarries
  built := by
    rintro txHash β op w answer w' hop h heffect
    rw [gaveUp_of_step (fun access h => (accesses_of_build hop access h).2) heffect]
    refine h.imp (fun h => h.step ?_ heffect) fun h => h
    intro access haccess tx hrecord
    rw [(accesses_of_build hop access haccess).1] at hrecord
    cases hrecord
  monitor := by
    rintro txHash β op w answer w' hop h heffect
    rw [gaveUp_of_step (fun access h => (accesses_of_monitor hop access h).2) heffect]
    refine h.imp (fun h => h.step ?_ heffect) fun h => h
    intro access haccess tx hrecord
    rw [(accesses_of_monitor hop access haccess).1] at hrecord
    cases hrecord
  track := track_ok
  fail := by
    rintro w answer w' h heffect
    rw [gaveUp_of_step (by rintro _ ⟨⟩; rfl) heffect]
    exact h.imp (fun h => h.step (by rintro _ ⟨⟩ tx ⟨⟩) heffect) fun h => h

/-- The publish of an image carries the image. -/
theorem isImage_of_carries {image : PublishImageMessageInput} {manifest : AttachmentManifestV1}
    {kemMessage nonce : Bytes} {tx : RawTransaction}
    (h : Carries (imageText image manifest kemMessage nonce) tx) : isImage tx := by
  obtain ⟨envelope, henvelope, hcontent, hmanifests⟩ := h
  unfold isImage
  rw [henvelope, Option.any_some, hcontent, hmanifests]
  rfl

/-- The publish of an image journals only images for a message. -/
theorem always_publishImageMessage_images {imageDeps : ImageDeps} {image : PublishImageMessageInput}
    (h : AllImages commits id w.db) :
    Program.Always (imageEffect commits) (fun _ _ w => AllImages commits id w.db)
      (publishImageMessage imageDeps image) w fun _ w => AllImages commits id w.db := by
  have uploading : ∀ chunks, Program.Always (imageEffect commits) (fun _ _ w => AllImages commits id w.db)
      (publishAttachmentChunks imageDeps.pipeline chunks image.timeoutMs) w
      fun _ w => AllImages commits id w.db := by
    intro chunks
    have always := (publishAttachmentChunks_uploading commits imageDeps.pipeline chunks
      image.timeoutMs w).invariant
      (fun β op w r w' hop heffect (h : AllImages commits id w.db) => h.chunkStep hop.1 heffect) h
    exact (always.weaken fun _ _ _ h => h.2).mono fun _ _ h => h.2
  refine always_publishImageMessage_of (fun _ _ _ => h) (fun _ => h) (fun chunks _ => uploading chunks)
    (fun _ _ _ hchunked => hchunked) (fun _ _ _ hchunked => ⟨hchunked, fun _ => hchunked⟩) ?_
  intro chunks published w groupId manifest kemMessage nonce hchunked _ _
  have known : ∀ w : ImageWorld, AllImages commits id w.db ∨ False ∧ w.gaveUp ≠ [] →
      AllImages commits id w.db := fun w h => h.elim (fun h => h) fun h => h.1.elim
  refine (((imagePhases commits id (imageText image manifest kemMessage nonce) False
    fun _ _ _ => isImage_of_carries).publishText ⟨hchunked, fun hplain => hplain.elim⟩).weaken
    fun _ _ w h => known w h).mono fun r w hstops => ?_
  cases r with
  | ok sent => exact known w hstops
  | error e => exact known w hstops

theorem always_sendNewImage_images {input : PublishImageInput} (h : AllImages commits id w.db) :
    Program.Always (imageEffect commits) (fun _ _ w => AllImages commits id w.db)
      (sendNewImage deps input) w fun _ w => AllImages commits id w.db := by
  refine always_sendNewImage_of (fun _ _ _ => h) (fun _ => h)
    (fun _ _ _ _ => always_publishImageMessage_images h) (fun _ _ h => h) fun result w h => ?_
  refine ⟨h, fun answer w' heffect => h.step ?_ heffect⟩
  rintro _ ⟨⟩ tx ⟨⟩

/-- A call that gives up the transaction in flight for a message. -/
def GivesUp (id : LogicalMessageId) (input : PublishImageInput) (db : Db) (w : ImageWorld) : Prop :=
  (input.logicalMessageId = id ∧ messageInFlight db input.logicalMessageId) ∧ w.gaveUp ≠ []

/-- A call journals only images for a message, unless it gives up the transaction in flight. -/
theorem always_publishImage_images (deps : MessagingDeps) (input : PublishImageInput)
    (h : AllImages commits id db) :
    Program.Always (imageEffect commits)
      (fun _ _ w => AllImages commits id w.db ∨ GivesUp id input db w) (publishImage deps input)
      (.start db) fun _ w => AllImages commits id w.db ∨ GivesUp id input db w := by
  refine always_publishImage_of (.inl h) (fun hresumes => ?_) fun _ => ?_
  · have himage : ¬(input.logicalMessageId = id ∧ messageInFlight db input.logicalMessageId) →
        input.guardText.purpose = .message id → ∀ tx, Carries input.guardText tx → isImage tx := by
      intro hplain hpurpose
      exact absurd ⟨TxPurpose.message.inj hpurpose, hresumes⟩ hplain
    obtain ⟨hsome, -⟩ := (Option.any_eq_true_iff_get ..).1 hresumes
    refine ((imagePhases commits id input.guardText _ himage).publishText ⟨h, fun _ => hsome⟩).mono
      fun r w hstops => ?_
    cases r with
    | ok sent => exact hstops
    | error e => exact hstops
  · exact ((always_sendNewImage_images h).weaken fun _ _ _ h => .inl h).mono fun _ _ h => .inl h

/-- Every transaction ever journaled for a message is that of an image, when no call that finds the
    message's transaction in flight gives it up. -/
theorem imageRuns_images (hstart : AllImages commits id db)
    (hruns : ImageRuns commits deps (LeavesMessage id) db passes)
    (hkept : ∀ pass ∈ passes, pass.input.logicalMessageId = id → pass.resumes →
      pass.after.gaveUp = []) (hpass : pass ∈ passes) :
    AllImages commits id pass.after.db := by
  have hcall : ∀ pass ∈ passes, pass.Runs commits deps → AllImages commits id pass.before →
      AllImages commits id pass.after.db := by
    intro pass hpass hrun hbefore
    obtain h | ⟨⟨hid, hresumes⟩, hgone⟩ :=
      hrun.known (always_publishImage_images deps pass.input hbefore)
    · exact h
    · exact absurd (hkept pass hpass hid hresumes) hgone
  obtain ⟨hrun, hbefore⟩ := hruns.invariant (fun _ _ hleaves h => h.leaves hleaves) hcall hstart hpass
  exact hcall pass hpass hrun hbefore

/-- A node that is lost when the message is handed to it, and one that has rejected the message. -/
def losingNode : Node :=
  ⟨fun _ => .committed, fun txHash => if txHash = 101 then some "connection lost" else none⟩
def rejectingNode : Node :=
  ⟨fun txHash => if txHash = 101 then .rejected none else .committed, fun _ => none⟩

/-- The message that failed is queued again. -/
def requeue (db : Db) : Db := (StoreOp.exec (.transitionMessage 1 .queued) db).2

theorem leaves_requeue (db : Db) : LeavesMessage id db (requeue db) :=
  journalFor_exec (fun _ hnone => by cases hnone) db

/-- What the transactions of a lost call and a retry that is rejected turn out to be. -/
def rejectedCommits : Hash → RawTransaction :=
  commitsOf (imageAttempt none rejectingNode (requeue (imageAttempt none losingNode richDb).after.db)).after.db

def lostAttempt : ImagePass := imageAttempt (some rejectedCommits) losingNode richDb

/-- A retry of it, by a node that has the message or has rejected it. -/
def retryAttempt (node : Node) : ImagePass :=
  imageAttempt (some rejectedCommits) node (requeue lostAttempt.after.db)

theorem runs_retryAttempt (node : Node) :
    ImageRuns rejectedCommits sampleMessaging (LeavesMessage (.composed 7)) richDb
      [lostAttempt, retryAttempt node] :=
  ⟨rfl, runs_imageAttempt .., leaves_requeue _, runs_imageAttempt .., trivial⟩

/-- A retry that finds its message on chain resumes the image. -/
theorem resumed_retry_image :
    AllImages rejectedCommits (.composed 7) (retryAttempt promptNode).after.db := by
  have hkept : ∀ pass ∈ [lostAttempt, retryAttempt promptNode], pass.after.gaveUp = [] := by
    decide +kernel
  exact imageRuns_images (fun _ h => by cases h) (runs_retryAttempt promptNode)
    (fun pass hpass _ _ => hkept pass hpass) (List.mem_cons_of_mem _ List.mem_cons_self)

/-- A retry that finds its message rejected publishes a text without an image. -/
theorem rejected_retry_text :
    ImageRuns rejectedCommits sampleMessaging (LeavesMessage (.composed 7)) richDb
        [lostAttempt, retryAttempt rejectingNode] ∧
      AllImages rejectedCommits (.composed 7) richDb ∧
      ¬AllImages rejectedCommits (.composed 7) (retryAttempt rejectingNode).after.db := by
  refine ⟨runs_retryAttempt rejectingNode, fun _ h => ?_, by decide +kernel⟩
  cases h

section Uploads

/-- A publish of chunks uploads them at most once. -/
theorem always_publishAttachmentChunks_uploads (pipeline : PipelineDeps) (chunks : PreparedChunks)
    (timeoutMs : Option Nat) (hnone : w.uploads = []) :
    Program.Always (imageEffect commits) (fun _ _ w' => w'.uploads.length ≤ 1)
      (publishAttachmentChunks pipeline chunks timeoutMs) w fun _ w' => w'.uploads.length ≤ 1 := by
  have atMostOne : ∀ w' own, Uploads chunks.purpose w w' own → w'.uploads.length ≤ 1 := by
    rintro w' own ⟨hrecorded, -⟩
    unfold ImageWorld.uploads at hnone ⊢
    rw [hrecorded, List.filter_append, hnone, List.nil_append]
    refine (List.length_filter_le ..).trans ?_
    cases own <;> simp
  refine ((publishAttachmentChunks_uploading commits pipeline chunks timeoutMs w).weaken ?_).mono ?_
  · rintro β op w' ⟨-, own, hown⟩
    exact atMostOne w' own hown
  · rintro r w' ⟨own, hown⟩
    exact atMostOne w' own hown.uploads

theorem always_publishImageMessage_uploads (imageDeps : ImageDeps) (image : PublishImageMessageInput)
    (hnone : w.uploads = []) :
    Program.Always (imageEffect commits) (fun _ _ w' => w'.uploads.length ≤ 1)
      (publishImageMessage imageDeps image) w fun _ w' => w'.uploads.length ≤ 1 := by
  have hstart : w.uploads.length ≤ 1 := by simp [hnone]
  refine always_publishImageMessage_of (fun _ _ _ => hstart) (fun _ => hstart)
    (fun chunks _ => always_publishAttachmentChunks_uploads _ chunks _ hnone)
    (fun _ _ _ h => h) (fun _ _ _ h => ⟨h, fun _ => h⟩) ?_
  intro chunks published w' groupId manifest kemMessage nonce h _ _
  refine ((always_publishText_uploads _ _).weaken fun _ _ w'' hsame => ?_).mono fun _ w'' hsame => ?_
  · rw [hsame]
    exact h
  · rw [hsame]
    exact h

theorem always_sendNewImage_uploads {input : PublishImageInput} (hnone : w.uploads = []) :
    Program.Always (imageEffect commits) (fun _ _ w' => w'.uploads.length ≤ 1)
      (sendNewImage deps input) w fun _ w' => w'.uploads.length ≤ 1 := by
  have hstart : w.uploads.length ≤ 1 := by simp [hnone]
  refine always_sendNewImage_of (fun _ _ _ => hstart) (fun _ => hstart)
    (fun imageDeps image _ _ => always_publishImageMessage_uploads imageDeps image hnone)
    (fun _ _ h => h) fun result w' h => ?_
  refine ⟨h, fun answer w'' heffect => ?_⟩
  rw [uploads_of_step (by rintro _ ⟨⟩ tx ⟨⟩) heffect]
  exact h

/-- A call uploads the chunks of its image at most once, and not at all when it finds the message's
    transaction in flight. -/
theorem ImagePass.Runs.uploads_le (hrun : pass.Runs commits deps) :
    pass.uploads.length ≤ if pass.resumes then 0 else 1 := by
  have hstart : (ImageWorld.start pass.before).uploads = [] := rfl
  have always : Program.Always (imageEffect commits)
      (fun _ _ w => w.uploads.length ≤ if pass.resumes then 0 else 1) (publishImage deps pass.input)
      (.start pass.before) fun _ w => w.uploads.length ≤ if pass.resumes then 0 else 1 := by
    refine always_publishImage_of ?_ (fun hresumes => ?_) fun hnew => ?_
    · rw [hstart]
      exact Nat.zero_le _
    · refine ((always_publishText_uploads _ _).weaken fun _ _ w hsame => ?_).mono fun _ w hsame => ?_
      · rw [hsame, hstart]
        exact Nat.zero_le _
      · rw [hsame, hstart]
        exact Nat.zero_le _
    · have hresumes : pass.resumes = false := hnew
      rw [if_neg (by rw [hresumes]; exact Bool.false_ne_true)]
      exact always_sendNewImage_uploads hstart
  exact hrun.known always

/-- The chunk transactions that calls have journaled for a message. -/
def uploadsFor (id : LogicalMessageId) (passes : List ImagePass) : List OutgoingTransaction :=
  (passes.filter fun pass => pass.input.logicalMessageId == id).flatMap ImagePass.uploads

/-- Once a call for a message has journaled chunks, the later ones find the message's transaction
    in flight. -/
def RetriesResume (id : LogicalMessageId) (passes : List ImagePass) : Prop :=
  passes.Pairwise fun earlier later => earlier.input.logicalMessageId = id →
    later.input.logicalMessageId = id → earlier.uploads ≠ [] → later.resumes

/-- However a message is retried, its chunks are uploaded at most once. -/
theorem imageRuns_uploads_le {other : Db → Db → Prop} (hruns : ImageRuns commits deps other db passes)
    (hretries : RetriesResume id passes) : (uploadsFor id passes).length ≤ 1 := by
  induction passes generalizing db with
  | nil => exact Nat.zero_le _
  | cons first passes ih =>
    obtain ⟨-, hrun, hrest⟩ := hruns
    obtain ⟨hfirst, hlater⟩ := List.pairwise_cons.1 hretries
    have hbehind := ih hrest hlater
    by_cases hid : first.input.logicalMessageId = id
    · have hsplit : uploadsFor id (first :: passes) = first.uploads ++ uploadsFor id passes := by
        simp [uploadsFor, hid]
      rw [hsplit, List.length_append]
      by_cases hnone : first.uploads = []
      · rw [hnone, List.length_nil, Nat.zero_add]
        exact hbehind
      · have hsilent : uploadsFor id passes = [] := by
          apply List.flatMap_eq_nil_iff.2
          intro later hmem
          obtain ⟨hmem, hlaterId⟩ := List.mem_filter.1 hmem
          have hresumes := hfirst later hmem hid (beq_iff_eq.1 hlaterId) hnone
          have hle := (hrest.runs later hmem).uploads_le
          rw [if_pos hresumes] at hle
          exact List.length_eq_zero_iff.1 (Nat.le_zero.1 hle)
        have hle := hrun.uploads_le
        rw [hsilent, List.length_nil, Nat.add_zero]
        split at hle
        · omega
        · exact hle
    · have hskip : uploadsFor id (first :: passes) = uploadsFor id passes := by
        simp [uploadsFor, hid]
      rw [hskip]
      exact hbehind

/-- A node that leaves the chunk transaction pending. -/
def waitingNode : Node :=
  ⟨fun txHash => if txHash = 100 then .pending else .committed, fun _ => none⟩

/-- What the transactions of a call whose chunks are not committed in time and of a retry turn out
    to be. -/
def reuploadCommits : Hash → RawTransaction :=
  commitsOf (imageAttempt none promptNode (imageAttempt none waitingNode richDb).after.db).after.db

def waitingAttempt : ImagePass := imageAttempt (some reuploadCommits) waitingNode richDb

def reuploadAttempt : ImagePass :=
  imageAttempt (some reuploadCommits) promptNode waitingAttempt.after.db

/-- A retry that resumes its message uploads nothing. -/
theorem resumed_retry_uploads_once :
    (uploadsFor (.composed 7) [lostAttempt, retryAttempt promptNode]).length ≤ 1 :=
  imageRuns_uploads_le (runs_retryAttempt promptNode)
    (List.pairwise_pair.2 fun _ _ _ => by decide +kernel)

/-- After a first call whose chunks were not committed in time, a retry uploads them again. -/
theorem waiting_retry_uploads_twice :
    ImageRuns reuploadCommits sampleMessaging (fun db db' => db' = db) richDb
        [waitingAttempt, reuploadAttempt] ∧
      (uploadsFor (.composed 7) [waitingAttempt, reuploadAttempt]).length = 2 ∧
      ∀ r ∈ reuploadAttempt.after.db.outgoingTransactions.rows, r.2.state ≠ .abandoned := by
  refine ⟨⟨rfl, runs_imageAttempt .., rfl, runs_imageAttempt .., trivial⟩, ?_, ?_⟩
  · decide +kernel
  · decide +kernel

end Uploads

end cemp.app
