import CempMobile.App.ImageRuns

open cemp.core cemp.database cemp.ckb cemp.images

namespace cemp.app

variable {commits : Hash → RawTransaction} {deps : MessagingDeps} {input : PublishImageInput}
  {db : Db} {passes : List ImagePass} {pass : ImagePass} {w w' : ImageWorld} {messageId : Nat}
  {txHash : Hash}

/-- The attachment of a message has a manifest, and all its chunks are outputs of a transaction. -/
def Names (db : Db) (messageId : Nat) (txHash : Hash) : Prop :=
  ∃ manifest ∈ AttachmentRepository.manifestsOf db messageId, ∃ outPoints,
    manifest.map (·.chunk_outpoints) = some outPoints ∧ outPoints ≠ [] ∧
      ∀ outPoint ∈ outPoints, outPoint.txHash = txHash

theorem Names.of_same {db' : Db} (h : Names db messageId txHash)
    (hsame : AttachmentRepository.manifestsOf db' messageId =
      AttachmentRepository.manifestsOf db messageId) : Names db' messageId txHash := by
  unfold Names
  rw [hsame]
  exact h

section Sent

/-- A manifest names the transaction it was built for. -/
theorem outpoints_of_build {chunks : PreparedChunks} {groupId : Bytes}
    {manifest : AttachmentManifestV1}
    (h : buildManifestForCommittedChunks chunks txHash groupId = .ok manifest) :
    manifest.chunk_outpoints ≠ [] ∧ ∀ outPoint ∈ manifest.chunk_outpoints, outPoint.txHash = txHash := by
  unfold buildManifestForCommittedChunks at h
  split at h
  · cases h
  next root rest houtpoints =>
    obtain rfl := Except.ok.inj h
    refine ⟨List.cons_ne_nil _ _, fun outPoint hmem => ?_⟩
    simp only [← houtpoints] at hmem
    obtain ⟨index, -, rfl⟩ := List.mem_map.1 hmem
    rfl

/-- How the publish of new chunks may stop: it has uploaded what it returns. -/
def UploadedOne (r : Except Error PublishChunksResult) (w : ImageWorld) : Prop :=
  ∀ published, r = .ok published → ∃ tx, tx.txHash = published.chunksTxHash ∧ w.uploads = [tx]

/-- How the publish of an image may stop: it has uploaded what its manifest names. -/
def SentOne (r : Except Error PublishImageMessageResult) (w : ImageWorld) : Prop :=
  ∀ result, r = .ok result → result.manifest.chunk_outpoints ≠ [] ∧
    ∃ tx, (∀ outPoint ∈ result.manifest.chunk_outpoints, outPoint.txHash = tx.txHash) ∧
      w.uploads = [tx]

theorem always_publishAttachmentChunks_one {pipeline : PipelineDeps} {chunks : PreparedChunks}
    {timeoutMs : Option Nat} (hnew : NewChunks db chunks.purpose) :
    Program.Always (imageEffect commits) Program.Anywhere
      (publishAttachmentChunks pipeline chunks timeoutMs) (.start db) UploadedOne := by
  refine ((publishAttachmentChunks_uploading commits pipeline chunks timeoutMs (.start db)).weaken
    fun _ _ _ _ => trivial).mono ?_
  rintro r w ⟨own, huploaded⟩ published hpublished
  obtain ⟨tx, rfl⟩ := Option.ne_none_iff_exists'.1 (huploaded.new published hpublished hnew)
  refine ⟨tx, huploaded.named published hpublished tx rfl, ?_⟩
  have hpurpose : tx.purpose = chunks.purpose := huploaded.uploads.2 tx rfl
  unfold ImageWorld.uploads
  rw [huploaded.uploads.1]
  simp [ImageWorld.start, hpurpose, PreparedChunks.purpose, isAttachmentChunks]

theorem always_publishImageMessage_one (imageDeps : ImageDeps) (image : PublishImageMessageInput) :
    Program.Always (imageEffect commits) Program.Anywhere (publishImageMessage imageDeps image)
      (.start db) SentOne := by
  refine always_publishImageMessage_of (fun _ _ _ => trivial) (fun e result h => by cases h)
    (fun chunks hnew => always_publishAttachmentChunks_one hnew)
    (fun _ e w _ result h => by cases h) (fun _ _ w _ => ⟨trivial, fun e result h => by cases h⟩) ?_
  intro chunks published w groupId manifest kemMessage nonce hchunked _ hbuild
  obtain ⟨tx, hhash, huploads⟩ := hchunked published rfl
  obtain ⟨hne, houtPoints⟩ := outpoints_of_build hbuild
  refine ((always_publishText_uploads _ _).weaken fun _ _ _ _ => trivial).mono fun r w' hsame => ?_
  rintro result hresult
  cases r with
  | error e => cases hresult
  | ok sent =>
    obtain rfl := Except.ok.inj hresult
    refine ⟨hne, tx, ?_, hsame.trans huploads⟩
    rw [hhash]
    exact houtPoints

/-- A call that returns has stored the manifest of what it has uploaded. -/
theorem always_sendNewImage_names :
    Program.Always (imageEffect commits) Program.Anywhere (sendNewImage deps input) (.start db)
      fun r w => ∀ messageTxHash, r = .ok messageTxHash →
        ∀ tx ∈ w.uploads, Names w.db input.messageRowId tx.txHash := by
  refine always_sendNewImage_of (fun _ _ _ => trivial) (fun e messageTxHash h => by cases h)
    (fun imageDeps image _ _ => always_publishImageMessage_one imageDeps image)
    (fun e w _ messageTxHash h => by cases h) fun result w hsent => ⟨trivial, ?_⟩
  rintro answer w' heffect messageTxHash hreturned tx htx
  obtain ⟨hne, sent, houtPoints, huploads⟩ := hsent result rfl
  rw [uploads_of_step (by rintro _ ⟨⟩ tx ⟨⟩) heffect, huploads, List.mem_singleton] at htx
  subst htx
  obtain ⟨attachments, hcreate, hmanifests⟩ := AttachmentRepository.manifestsOf_create
    (attachmentOf input.messageRowId result) w.db
  have hdb : w'.db = { w.db with attachments := attachments } := by
    have hexec := heffect.1
    simp only [StoreOp.exec, hcreate] at hexec
    exact (congrArg Prod.snd hexec).symm
  refine ⟨some result.manifest, ?_, result.manifest.chunk_outpoints, rfl, hne, houtPoints⟩
  rw [hdb]
  exact hmanifests ▸ List.mem_cons_self

end Sent

section Frame

/-- A step that stores no attachment of a message. -/
theorem manifestsOf_of_step {β : Type} {op : Op β} {r : Except Error β}
    (hattaches : ∀ access, op = .store access → ∀ input, access.attaches = some input →
      input.messageId ≠ messageId)
    (heffect : imageEffect commits β op w r w') :
    AttachmentRepository.manifestsOf w'.db messageId =
      AttachmentRepository.manifestsOf w.db messageId := by
  obtain rfl | ⟨access, hop, hdb, -⟩ := imageEffect_cases heffect
  · rfl
  · rw [hdb]
    exact manifestsOf_exec (hattaches access hop) w.db

theorem attaches_of_publish {β : Type} {op : Op β} {text : PublishTextInput}
    (h : PublishStep text β op) : ∀ access, op = .store access → access.attaches = none := by
  rintro access rfl
  cases access with
  | createAttachment input => exact h.elim
  | _ => rfl

theorem attaches_of_chunkStep {β : Type} {op : Op β} {purpose : TxPurpose}
    (h : ChunkStep purpose w β op) : ∀ access, op = .store access → access.attaches = none := by
  rintro access rfl
  cases access with
  | createAttachment input => exact h.elim
  | _ => rfl

/-- The manifests of a message are as they were. -/
abbrev Keeps (messageId : Nat) (manifests : List (Option AttachmentManifestV1)) (w : ImageWorld) : Prop :=
  AttachmentRepository.manifestsOf w.db messageId = manifests

variable {manifests : List (Option AttachmentManifestV1)}

theorem Keeps.step {β : Type} {op : Op β} {r : Except Error β} (h : Keeps messageId manifests w)
    (hattaches : ∀ access, op = .store access → access.attaches = none)
    (heffect : imageEffect commits β op w r w') : Keeps messageId manifests w' := by
  refine (manifestsOf_of_step (fun access hop input hattach => ?_) heffect).trans h
  rw [hattaches access hop] at hattach
  cases hattach

theorem always_publishText_keeps (pipeline : PipelineDeps) (text : PublishTextInput)
    (h : Keeps messageId manifests w) :
    Program.Always (imageEffect commits) (fun _ _ => Keeps messageId manifests)
      (publishText pipeline text) w fun _ => Keeps messageId manifests :=
  publishText_uses.always (fun _ _ _ hop hs =>
    ⟨hs, fun _ _ heffect => hs.step (attaches_of_publish hop) heffect⟩) h

/-- A send of another message's image leaves the manifests of a message. -/
theorem always_sendNewImage_keeps (hne : input.messageRowId ≠ messageId)
    (h : Keeps messageId manifests w) :
    Program.Always (imageEffect commits) (fun _ _ => Keeps messageId manifests)
      (sendNewImage deps input) w fun _ => Keeps messageId manifests := by
  have uploading : ∀ (pipeline : PipelineDeps) (chunks : PreparedChunks) (timeoutMs : Option Nat),
      Program.Always (imageEffect commits) (fun _ _ => Keeps messageId manifests)
        (publishAttachmentChunks pipeline chunks timeoutMs) w fun _ => Keeps messageId manifests := by
    intro pipeline chunks timeoutMs
    have always := (publishAttachmentChunks_uploading commits pipeline chunks timeoutMs w).invariant
      (fun β op w r w' hop heffect (h : Keeps messageId manifests w) =>
        h.step (attaches_of_chunkStep hop.1) heffect) h
    exact (always.weaken fun _ _ _ h => h.2).mono fun _ _ h => h.2
  have sent : ∀ (imageDeps : ImageDeps) (image : PublishImageMessageInput),
      Program.Always (imageEffect commits) (fun _ _ => Keeps messageId manifests)
        (publishImageMessage imageDeps image) w fun _ => Keeps messageId manifests := by
    intro imageDeps image
    refine always_publishImageMessage_of (fun _ _ _ => h) (fun _ => h)
      (fun chunks _ => uploading _ chunks _) (fun _ _ _ h => h) (fun _ _ _ h => ⟨h, fun _ => h⟩) ?_
    exact fun chunks published w groupId manifest kemMessage nonce h _ _ =>
      always_publishText_keeps _ _ h
  refine always_sendNewImage_of (fun _ _ _ => h) (fun _ => h)
    (fun imageDeps image _ _ => sent imageDeps image) (fun _ _ h => h) fun result w h => ?_
  refine ⟨h, fun answer w' heffect => (manifestsOf_of_step ?_ heffect).trans h⟩
  rintro _ ⟨⟩ _ ⟨⟩
  exact hne

/-- A call leaves the manifests of a message, unless it sends a new image for it. -/
theorem ImagePass.Runs.keeps (hrun : pass.Runs commits deps)
    (hother : pass.input.messageRowId = messageId → pass.resumes) :
    AttachmentRepository.manifestsOf pass.after.db messageId =
      AttachmentRepository.manifestsOf pass.before messageId := by
  have hstart : Keeps messageId (AttachmentRepository.manifestsOf pass.before messageId)
      (.start pass.before) := rfl
  refine hrun.known (always_publishImage_of hstart (fun _ => always_publishText_keeps _ _ hstart)
    fun hnew => always_sendNewImage_keeps (fun hsame => ?_) hstart)
  have hresumes : messageInFlight pass.before pass.input.logicalMessageId = true := hother hsame
  rw [hnew] at hresumes
  cases hresumes

end Frame

section Runs

/-- Work that leaves the attachments of some messages. -/
def LeavesAttachments (messageIds : List Nat) (db db' : Db) : Prop :=
  ∀ messageId ∈ messageIds, AttachmentRepository.manifestsOf db' messageId =
    AttachmentRepository.manifestsOf db messageId

/-- The database after some calls. -/
def finalDb : Db → List ImagePass → Db
  | db, [] => db
  | _, pass :: passes => finalDb pass.after.db passes

/-- A call has uploaded chunks of which the chain holds the transaction. -/
def ImagePass.Landed (lands : Hash → Prop) (pass : ImagePass) : Prop :=
  ∃ tx ∈ pass.uploads, lands tx.txHash

/-- A call whose chunks are on chain is neither cut short nor throws. -/
def Returned (lands : Hash → Prop) (passes : List ImagePass) : Prop :=
  ∀ pass ∈ passes, pass.Landed lands → ∃ messageTxHash, pass.out = some (.ok messageTxHash)

/-- A later call for a message whose chunks are on chain finds its transaction in flight. -/
def Resumed (lands : Hash → Prop) (passes : List ImagePass) : Prop :=
  passes.Pairwise fun earlier later => later.input.messageRowId = earlier.input.messageRowId →
    earlier.Landed lands → later.resumes

variable {lands : Hash → Prop} {messageIds : List Nat} {tx : OutgoingTransaction}

/-- A call that returned has stored the manifest of what it uploaded. -/
theorem ImagePass.Runs.names {messageTxHash : Hash} (hrun : pass.Runs commits deps)
    (hout : pass.out = some (.ok messageTxHash)) (htx : tx ∈ pass.uploads) :
    Names pass.after.db pass.input.messageRowId tx.txHash := by
  have always : Program.Always (imageEffect commits) Program.Anywhere (publishImage deps pass.input)
      (.start pass.before) fun r w => ∀ messageTxHash, r = .ok messageTxHash →
        ∀ tx ∈ w.uploads, Names w.db pass.input.messageRowId tx.txHash := by
    refine always_publishImage_of trivial (fun _ => ?_) fun _ => always_sendNewImage_names
    refine ((always_publishText_uploads _ _).weaken fun _ _ _ _ => trivial).mono fun r w hsame => ?_
    intro _ _ tx htx
    rw [hsame] at htx
    cases htx
  unfold ImagePass.Runs at hrun
  simp only [hout] at hrun
  exact always.runs hrun messageTxHash rfl tx htx

/-- A manifest that is stored stays, while the calls for its message resume. -/
theorem ImageRuns.names_kept (hruns : ImageRuns commits deps (LeavesAttachments messageIds) db passes)
    (hmessage : messageId ∈ messageIds)
    (hresumes : ∀ pass ∈ passes, pass.input.messageRowId = messageId → pass.resumes)
    (h : Names db messageId txHash) : Names (finalDb db passes) messageId txHash := by
  induction passes generalizing db with
  | nil => exact h
  | cons first passes ih =>
    obtain ⟨hbetween, hrun, hrest⟩ := hruns
    refine ih hrest (fun pass hmem => hresumes pass (List.mem_cons_of_mem _ hmem)) ?_
    refine (h.of_same (hbetween messageId hmessage)).of_same ?_
    exact hrun.keeps (hresumes first List.mem_cons_self)

/-- Chunks that are on chain are named by the attachment of their message. -/
theorem ImageRuns.landed_named (hruns : ImageRuns commits deps (LeavesAttachments messageIds) db passes)
    (hmessages : ∀ pass ∈ passes, pass.input.messageRowId ∈ messageIds)
    (hreturned : Returned lands passes) (hresumed : Resumed lands passes) (hpass : pass ∈ passes)
    (htx : tx ∈ pass.uploads) (hlands : lands tx.txHash) :
    Names (finalDb db passes) pass.input.messageRowId tx.txHash := by
  induction passes generalizing db with
  | nil => cases hpass
  | cons first passes ih =>
    obtain ⟨-, hrun, hrest⟩ := hruns
    obtain ⟨hfirst, hlater⟩ := List.pairwise_cons.1 hresumed
    obtain rfl | hpass := List.mem_cons.1 hpass
    · obtain ⟨messageTxHash, hout⟩ := hreturned pass List.mem_cons_self ⟨tx, htx, hlands⟩
      refine hrest.names_kept (hmessages pass List.mem_cons_self) (fun later hmem hsame => ?_)
        (hrun.names hout htx)
      exact hfirst later hmem hsame ⟨tx, htx, hlands⟩
    · exact ih hrest (fun pass hmem => hmessages pass (List.mem_cons_of_mem _ hmem))
        (fun pass hmem => hreturned pass (List.mem_cons_of_mem _ hmem)) hlater hpass

/-- After any calls, every chunk transaction of theirs that is on chain is named by the manifest of
    its message, when each call that uploaded one has returned and the later calls for the message
    resume it. -/
theorem imageRuns_chunks_named
    (hruns : ImageRuns commits deps
      (LeavesAttachments (passes.map fun pass => pass.input.messageRowId)) db passes)
    (hreturned : Returned lands passes) (hresumed : Resumed lands passes) :
    ∀ pass ∈ passes, ∀ tx ∈ pass.uploads, lands tx.txHash →
      Names (finalDb db passes) pass.input.messageRowId tx.txHash :=
  fun _ hpass _ htx hlands => hruns.landed_named (fun _ hmem => List.mem_map_of_mem hmem) hreturned
    hresumed hpass htx hlands

/-- A node that leaves the message transaction pending. -/
def lateNode : Node := ⟨fun txHash => if txHash = 101 then .pending else .committed, fun _ => none⟩

/-- What the transactions of a call whose message is not committed in time and of a retry turn out
    to be. -/
def lateCommits : Hash → RawTransaction :=
  commitsOf (imageAttempt none promptNode (imageAttempt none lateNode richDb).after.db).after.db

/-- A first call, by a node that commits its message in time or does not. -/
def firstAttempt (node : Node) : ImagePass := imageAttempt (some lateCommits) node richDb

def resumingAttempt : ImagePass :=
  imageAttempt (some lateCommits) promptNode (firstAttempt lateNode).after.db

/-- A call that returns stores the manifest of its chunks. -/
theorem first_attempt_chunks_named : ∃ tx ∈ (firstAttempt promptNode).uploads,
    Names (firstAttempt promptNode).after.db 1 tx.txHash := by
  obtain ⟨messageTxHash, hok, -⟩ : ∃ messageTxHash, (Program.run (imageHandler (some lateCommits)
      promptNode) (publishImage sampleMessaging sampleInput) (.start richDb)).1 = .ok messageTxHash ∧
        (fun _ => true) messageTxHash := exists_of_any (by decide +kernel)
  have hreturned : Returned (fun _ => True) [firstAttempt promptNode] := by
    intro pass hpass _
    obtain rfl := List.mem_singleton.1 hpass
    exact ⟨messageTxHash, congrArg some hok⟩
  have hruns : ImageRuns lateCommits sampleMessaging (LeavesAttachments [1]) richDb
      [firstAttempt promptNode] := ⟨fun _ _ => rfl, runs_imageAttempt .., trivial⟩
  have hnamed := imageRuns_chunks_named hruns hreturned (List.pairwise_singleton _ _) _
    List.mem_cons_self
  have hsome : (firstAttempt promptNode).uploads ≠ [] := by decide +kernel
  obtain ⟨tx, htx⟩ := List.exists_mem_of_ne_nil _ hsome
  exact ⟨tx, htx, hnamed tx htx trivial⟩

/-- A retry resumes a message whose call was cut off, and the chunks on chain stay without a row. -/
theorem resumed_retry_chunks_unnamed :
    ImageRuns lateCommits sampleMessaging
        (LeavesAttachments ([firstAttempt lateNode, resumingAttempt].map fun pass => pass.input.messageRowId))
        richDb [firstAttempt lateNode, resumingAttempt] ∧
      ∃ tx ∈ (firstAttempt lateNode).uploads,
        (∃ r ∈ resumingAttempt.after.db.outgoingTransactions.rows,
          r.2.txHash = tx.txHash ∧ r.2.state = .committed) ∧
        (resumingAttempt.out.bind Except.toOption).isSome ∧
        ¬Names (finalDb richDb [firstAttempt lateNode, resumingAttempt]) 1 tx.txHash := by
  have hnone : AttachmentRepository.manifestsOf resumingAttempt.after.db 1 = [] := by decide +kernel
  have hunnamed : ∀ txHash, ¬Names (finalDb richDb [firstAttempt lateNode, resumingAttempt]) 1 txHash := by
    rintro txHash ⟨manifest, hmem, -⟩
    rw [show finalDb richDb [firstAttempt lateNode, resumingAttempt] = resumingAttempt.after.db from rfl,
      hnone] at hmem
    cases hmem
  have hcommitted : ∃ tx ∈ (firstAttempt lateNode).uploads,
      (∃ r ∈ resumingAttempt.after.db.outgoingTransactions.rows,
        r.2.txHash = tx.txHash ∧ r.2.state = .committed) ∧
      (resumingAttempt.out.bind Except.toOption).isSome := by decide +kernel
  obtain ⟨tx, htx, hrow, hout⟩ := hcommitted
  refine ⟨⟨fun _ _ => rfl, runs_imageAttempt .., fun _ _ => rfl, runs_imageAttempt .., trivial⟩, ?_⟩
  exact ⟨tx, htx, hrow, hout, hunnamed _⟩

end Runs

end cemp.app
