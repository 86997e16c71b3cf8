import CempMobile.Sync.GroupReclaim
import CempMobile.Sync.Advance
import CempMobile.Sync.Content

open cemp.core cemp.database cemp.database.AttachmentRepository cemp.ckb cemp.images

namespace cemp.sync

/-- A wallet's database, with what is known of the downloads its recipients confirmed. -/
structure DownloadWorld where
  db : Db
  /-- The envelope message id that was last looked up, and the row it names. -/
  looked : Option (MessageId × Nat)
  /-- The rows that were flagged, each with the envelope message id it was found under. -/
  downloads : List (MessageId × Nat)
  /-- The calls of `reclaimAttachmentGroup`. -/
  given : List (Nat × List OutPoint)

/-- What is learnt from an operation and its answer. -/
def DownloadWorld.observe : {β : Type} → Op β → Except Error β → DownloadWorld → DownloadWorld
  | _, .store (.findOutgoingByEnvelopeMessageId id), .ok row, w =>
    { w with looked := row.map fun row => (id, row.1) }
  | _, .store (.markAttachmentRemoteDownloaded rowId), _, w =>
    { w with downloads := w.looked.toList.filter (·.2 == rowId) ++ w.downloads }
  | _, .reclaiming rowId outpoints, _, w => { w with given := (rowId, outpoints) :: w.given }
  | _, _, _, w => w

/-- The steps of the workers. Whatever is answered from outside the database is allowed. -/
def downloadEffect : Program.Effect Op Error DownloadWorld := fun _ op w answer w' =>
  match op with
  | .store access =>
    answer = (access.exec w.db).1 ∧
      w' = { w with db := (access.exec w.db).2 }.observe (.store access) answer
  | op => w' = w.observe op answer

/-- The work that receipts and reclaims are about. -/
inductive DownloadWork where
  | ingest (config : RateLimiterConfig) (ownProfileId : ProfileId)
      (decrypted : Except Error DecryptedEnvelope) (source : Option OutPoint)
  | acknowledgements (receipts : List Receipt)
  | reclaimBatch (timeoutMs : Option Nat)
  | reclaimGroups

def DownloadWork.program (deps : PipelineDeps) : DownloadWork → Prog Unit
  | ingest config ownProfileId decrypted source =>
    ingestIncomingCellData config ownProfileId decrypted source
  | acknowledgements receipts => do
    let _ ← processAcknowledgements receipts
    return ()
  | reclaimBatch timeoutMs => do
    let _ ← executeReclaimBatch deps timeoutMs
    return ()
  | reclaimGroups => reclaimAttachmentGroups deps

/-- The receipts that a piece of work hands to `processAcknowledgements`, if it gets there. -/
def DownloadWork.receipts : DownloadWork → List Receipt
  | ingest _ ownProfileId decrypted _ =>
    match processIncomingText decrypted ownProfileId with
    | .ok incoming => incoming.receipts
    | .error _ => []
  | acknowledgements receipts => receipts
  | _ => []

/-- What other work may do between two passes: anything but to flag a row. -/
def FlagsNothing (db db' : Db) : Prop :=
  ∀ rowId, Downloaded db' rowId → Downloaded db rowId

/-- One pass: the database it finds after other work, whether it was completed or cut short, and
    the world it leaves. -/
structure DownloadPass where
  work : DownloadWork
  found : Db
  completed : Bool
  after : DownloadWorld

/-- Passes that run one after the other, in any order. Any of them may be cut short, anywhere. -/
def DownloadRuns (deps : PipelineDeps) :
    DownloadWorld → List DownloadPass → DownloadWorld → Prop
  | w, [], w' => w' = w
  | w, pass :: passes, w' =>
    FlagsNothing w.db pass.found ∧
    (if pass.completed then
      ∃ out, Program.Runs downloadEffect (pass.work.program deps) { w with db := pass.found } out
        pass.after
    else Program.Interrupted downloadEffect Program.Anywhere (pass.work.program deps)
      { w with db := pass.found } pass.after) ∧
    DownloadRuns deps pass.after passes w'

/-- A `0x05` receipt among some was processed for a row: it named the envelope message id that
    the row was found under when it was flagged. -/
def Confirmed (receipts : List Receipt) (w : DownloadWorld) (rowId : Nat) : Prop :=
  ∃ receipt ∈ receipts, receipt.status = receiptAttachmentDownloaded ∧
    (receipt.messageId, rowId) ∈ w.downloads

/-- Every row that is flagged, or whose group was given away, was confirmed. -/
structure Downloads (receipts : List Receipt) (w : DownloadWorld) : Prop where
  flagged : ∀ rowId, Downloaded w.db rowId → Confirmed receipts w rowId
  given : ∀ call ∈ w.given, Confirmed receipts w call.1

/-- A step that flags no row and gives no group away. -/
def Unflagging : (β : Type) → Op β → Prop
  | _, .store access =>
    access.flags = none ∧ ∀ input, access.attaches = some input → input.remoteDownloaded = false
  | _, .reclaiming .. => False
  | _, _ => True

section Steps

variable {α β : Type} {receipts : List Receipt} {w w' : DownloadWorld}

theorem Confirmed.mono {receipts' : List Receipt} {rowId : Nat} (h : Confirmed receipts w rowId)
    (hreceipts : receipts ⊆ receipts') (hdownloads : w.downloads ⊆ w'.downloads) :
    Confirmed receipts' w' rowId := by
  obtain ⟨receipt, hmem, hstatus, hdownload⟩ := h
  exact ⟨receipt, hreceipts hmem, hstatus, hdownloads hdownload⟩

theorem Downloads.mono {receipts' : List Receipt} (h : Downloads receipts w)
    (hreceipts : receipts ⊆ receipts') : Downloads receipts' w :=
  ⟨fun rowId hflag => (h.flagged rowId hflag).mono hreceipts (List.Subset.refl _),
    fun call hcall => (h.given call hcall).mono hreceipts (List.Subset.refl _)⟩

/-- A world that knows as much, with a database in which no further row is flagged. -/
theorem Downloads.same (h : Downloads receipts w) (hdb : FlagsNothing w.db w'.db)
    (hdownloads : w'.downloads = w.downloads) (hgiven : w'.given = w.given) :
    Downloads receipts w' where
  flagged rowId hflag :=
    (h.flagged rowId (hdb rowId hflag)).mono (List.Subset.refl _) (by rw [hdownloads]; exact List.Subset.refl _)
  given call hcall := by
    rw [hgiven] at hcall
    exact (h.given call hcall).mono (List.Subset.refl _) (by rw [hdownloads]; exact List.Subset.refl _)

/-- What a step that flags nothing does to the world. -/
theorem Unflagging.keeps {op : Op β} (hop : Unflagging β op) {answer : Except Error β}
    (heffect : downloadEffect β op w answer w') :
    FlagsNothing w.db w'.db ∧ w'.downloads = w.downloads ∧ w'.given = w.given := by
  cases op with
  | store access =>
    obtain ⟨hflags, hattaches⟩ := hop
    obtain ⟨-, rfl⟩ := heffect
    have hdb : FlagsNothing w.db (access.exec w.db).2 := by
      intro rowId hflag
      obtain hnow | hbefore := downloaded_exec hattaches hflag
      · rw [hflags] at hnow
        cases hnow
      · exact hbefore
    cases access with
    | findOutgoingByEnvelopeMessageId id =>
      cases answer with
      | ok row => exact ⟨hdb, rfl, rfl⟩
      | error e => exact ⟨hdb, rfl, rfl⟩
    | markAttachmentRemoteDownloaded rowId => cases hflags
    | _ => exact ⟨hdb, rfl, rfl⟩
  | reclaiming rowId outpoints => exact hop.elim
  | _ =>
    obtain rfl : w' = w := heffect
    exact ⟨fun _ h => h, rfl, rfl⟩

/-- Work that flags nothing keeps what is known. -/
theorem always_unflagging {p : Prog α} (huses : Program.Uses Unflagging p)
    (hw : Downloads receipts w) :
    Program.Always downloadEffect (fun _ _ => Downloads receipts) p w
      fun _ => Downloads receipts := by
  refine huses.always (fun β op w hop hw => ⟨hw, fun answer w' heffect => ?_⟩) hw
  obtain ⟨hdb, hdownloads, hgiven⟩ := hop.keeps heffect
  exact hw.same hdb hdownloads hgiven

/-- An access that neither flags nor stores an attachment. -/
theorem uses_unflagging {access : StoreOp β} (hflags : access.flags = none)
    (hattaches : access.attaches = none) : Program.Uses Unflagging (store access) := by
  refine Program.uses_perform.2 ⟨hflags, fun input h => ?_⟩
  rw [hattaches] at h
  cases h

theorem ReclaimStep.unflagging {covers : TxPurpose → Prop} {op : Op β} (h : ReclaimStep covers β op) :
    Unflagging β op := by
  cases op with
  | store access =>
    cases access with
    | _ => first | exact h.elim | exact ⟨rfl, fun input h => by cases h⟩
  | _ => first | exact h.elim | trivial

theorem AdvancesRow.unflagging {op : Op β} (h : AdvancesRow β op) : Unflagging β op := by
  cases op with
  | store access =>
    cases access with
    | _ => first | exact h.elim | exact ⟨rfl, fun input h => by cases h⟩
  | _ => first | exact h.elim | trivial

end Steps

section Receipts

variable {receipts : List Receipt} {w : DownloadWorld}

theorem queueForReclaim_unflagging (rowId : Nat) (state : MessageState) :
    Program.Uses Unflagging (queueForReclaim rowId state) := by
  have access : ∀ target, Program.Uses Unflagging (store (.transitionMessage rowId target)) :=
    fun _ => uses_unflagging rfl rfl
  unfold queueForReclaim
  split_ifs
  · exact (access _).bind fun _ => (access _).bind fun _ => access _
  · exact (access _).bind fun _ => access _
  · exact (access _).bind fun _ => access _
  · exact access _

/-- A receipt of any other status flags nothing. -/
theorem applyReceipt_unflagging {receipt : Receipt}
    (hstatus : receipt.status ≠ receiptAttachmentDownloaded) :
    Program.Uses Unflagging (applyReceipt receipt) := by
  unfold applyReceipt
  rw [if_neg hstatus]
  split
  · trivial
  refine (uses_unflagging rfl rfl).bind fun found => ?_
  cases found with
  | none => trivial
  | some row =>
    simp only
    split
    · trivial
    refine (queueForReclaim_unflagging _ _).bind fun _ => ?_
    refine (uses_unflagging rfl rfl).bind fun journal => ?_
    split
    · exact (uses_unflagging rfl rfl).bind fun _ => trivial
    · trivial

/-- A row is only flagged right after it was found under the envelope message id that a `0x05`
    receipt names. -/
theorem always_applyReceipt {receipt : Receipt} (hmem : receipt ∈ receipts)
    (hw : Downloads receipts w) :
    Program.Always downloadEffect (fun _ _ => Downloads receipts) (applyReceipt receipt) w
      fun _ => Downloads receipts := by
  by_cases hstatus : receipt.status = receiptAttachmentDownloaded
  · unfold applyReceipt
    rw [if_pos hstatus]
    refine Program.Always.step hw (fun e w' heffect => ?_) fun target w' heffect => ?_
    · obtain ⟨-, rfl⟩ := heffect
      exact hw.same (fun _ h => h) rfl rfl
    · obtain ⟨-, rfl⟩ := heffect
      cases target with
      | none => exact hw.same (fun _ h => h) rfl rfl
      | some row =>
        let found : DownloadWorld := { w with looked := some (receipt.messageId, row.1) }
        have hfound : Downloads receipts found := hw.same (fun _ h => h) rfl rfl
        have hflagged : ∀ answer w', downloadEffect Unit
            (.store (.markAttachmentRemoteDownloaded row.1)) found answer w' →
              Downloads receipts w' := by
          rintro answer w' ⟨-, rfl⟩
          have hdownloads : w.downloads ⊆ [(receipt.messageId, row.1)].filter (·.2 == row.1) ++
              w.downloads := List.subset_append_right _ _
          have hnow : (receipt.messageId, row.1) ∈
              [(receipt.messageId, row.1)].filter (·.2 == row.1) ++ w.downloads := by simp
          constructor
          · intro rowId hflag
            obtain rfl | hbefore := downloaded_markRemoteDownloaded hflag
            · exact ⟨receipt, hmem, hstatus, hnow⟩
            · exact (hw.flagged rowId hbefore).mono (List.Subset.refl _) hdownloads
          · intro call hcall
            exact (hw.given call hcall).mono (List.Subset.refl _) hdownloads
        exact Program.Always.step hfound (fun e w' heffect => hflagged _ w' heffect)
          fun _ w' heffect => hflagged _ w' heffect
  · exact always_unflagging (applyReceipt_unflagging hstatus) hw

theorem always_processAcknowledgements (handed : List Receipt) (hsub : handed ⊆ receipts)
    (hw : Downloads receipts w) :
    Program.Always downloadEffect (fun _ _ => Downloads receipts) (processAcknowledgements handed) w
      fun _ => Downloads receipts := by
  induction handed generalizing w with
  | nil => exact hw
  | cons receipt handed ih =>
    obtain ⟨hmem, hrest⟩ := List.cons_subset.1 hsub
    refine (always_applyReceipt hmem hw).bind (fun acked w' hw' => ?_) fun _ _ h => h
    exact (ih hrest hw').bind (fun _ _ h => h) fun _ _ h => h

end Receipts

section Ingest

variable {receipts : List Receipt} {w : DownloadWorld}

theorem storeRow_unflagging (incoming : IncomingTextMessage) :
    Program.Uses Unflagging (storeRow incoming) := by
  have contact : Program.Uses Unflagging (contactOf incoming.senderProfileId) := by
    refine (uses_unflagging rfl rfl).bind fun contact => ?_
    cases contact with
    | none => exact uses_unflagging rfl rfl
    | some _ => trivial
  have manifests : ∀ rowId, Program.Uses Unflagging (storeManifests rowId incoming) := by
    intro rowId
    unfold storeManifests
    split
    · trivial
    refine (uses_unflagging rfl rfl).bind fun existing => ?_
    split
    · refine Program.Uses.forEach fun manifest _ => ?_
      split
      · refine Program.uses_perform.2 ⟨rfl, fun input h => ?_⟩
        obtain rfl := Option.some.inj h
        rfl
      · trivial
    · trivial
  refine (contact.bind fun _ => uses_unflagging rfl rfl).bind fun conversationId => ?_
  refine (uses_unflagging rfl rfl).bind fun inserted => ?_
  exact (manifests _).bind fun _ => trivial

theorem consume_unflagging (config : RateLimiterConfig) (senderProfileId : ProfileId) :
    Program.Uses Unflagging (consume config .incoming senderProfileId) := by
  have refills : ∀ bucket perHour nowMs,
      Program.Uses Unflagging (refill bucket perHour nowMs) := by
    intro bucket perHour nowMs
    refine (uses_unflagging rfl rfl).bind fun existing => ?_
    cases existing with
    | none => exact (uses_unflagging rfl rfl).bind fun _ => trivial
    | some _ => trivial
  refine Program.Uses.bind (Program.uses_perform.2 trivial) fun nowMs => ?_
  refine (refills _ _ _).bind fun global => (refills _ _ _).bind fun contact => ?_
  split
  · trivial
  · exact (uses_unflagging rfl rfl).bind fun _ => (uses_unflagging rfl rfl).bind fun _ => trivial

/-- An ingest flags what the receipts of its message say. -/
theorem always_ingestMessage_downloads (config : RateLimiterConfig) (incoming : IncomingTextMessage)
    (source : Option OutPoint) (hsub : incoming.receipts ⊆ receipts) (hw : Downloads receipts w) :
    Program.Always downloadEffect (fun _ _ => Downloads receipts)
      (ingestMessage config incoming source) w fun _ => Downloads receipts := by
  have acknowledge : ∀ w, Downloads receipts w →
      Program.Always downloadEffect (fun _ _ => Downloads receipts)
        ((processAcknowledgements incoming.receipts).bind fun _ => Program.ret ()) w
        fun _ => Downloads receipts := fun w hw =>
    (always_processAcknowledgements incoming.receipts hsub hw).bind (fun _ _ h => h) fun _ _ h => h
  unfold ingestMessage
  simp only [Program.bind_eq_bind, Program.pure_eq_ret]
  refine (always_unflagging (uses_unflagging rfl rfl) hw).bind (fun blocked w hw => ?_) fun _ _ h => h
  split
  · exact hw
  split
  · exact acknowledge w hw
  refine (always_unflagging (consume_unflagging _ _) hw).bind (fun admitted w hw => ?_)
    fun _ _ h => h
  split
  · exact hw
  have content : Program.Uses Unflagging (storeContent incoming source) :=
    (storeRow_unflagging incoming).bind fun stored =>
      (advanceInserted_advances _ _ _ _).mono fun _ _ h => h.unflagging
  refine (always_unflagging content hw).bind (fun _ w hw => ?_) fun _ _ h => h
  split
  · exact acknowledge w hw
  · exact hw

end Ingest

section Groups

variable {receipts : List Receipt} {w : DownloadWorld} (deps : PipelineDeps)

/-- The attachment that is looked at is one of the message's. -/
theorem mem_of_withManifest {attachments : List (Nat × Attachment)} {attachment : Attachment}
    {manifest : AttachmentManifestV1} (h : withManifest attachments = some (attachment, manifest)) :
    ∃ r ∈ attachments, r.2 = attachment ∧ attachment.manifest = some manifest := by
  obtain ⟨r, hmem, hr⟩ := List.exists_of_findSome?_eq_some h
  obtain ⟨m, hm, heq⟩ := Option.map_eq_some_iff.1 hr
  obtain ⟨rfl, rfl⟩ := Prod.mk.inj heq
  exact ⟨r, hmem, rfl, hm⟩

/-- A group is only given away for a row that is flagged. -/
theorem always_reclaimMessageGroup (message : Nat × Message) (hw : Downloads receipts w) :
    Program.Always downloadEffect (fun _ _ => Downloads receipts)
      (reclaimMessageGroup deps message) w fun _ => Downloads receipts := by
  unfold reclaimMessageGroup
  simp only [Program.bind_eq_bind, Program.pure_eq_ret]
  refine Program.Always.step hw (fun e w' heffect => ?_) fun attachments w' heffect => ?_
  · obtain ⟨-, rfl⟩ := heffect
    exact hw.same (fun _ h => h) rfl rfl
  obtain ⟨hanswer, rfl⟩ := heffect
  split
  · exact hw.same (fun _ h => h) rfl rfl
  next attachment manifest hmanifest =>
    split
    · exact hw.same (fun _ h => h) rfl rfl
    next hflag =>
      have hdownloaded : Downloaded w.db message.1 := by
        obtain ⟨r, hmem, rfl, -⟩ := mem_of_withManifest hmanifest
        have hlisted : attachments = ofMessage w.db message.1 := Except.ok.inj hanswer
        rw [hlisted] at hmem
        obtain ⟨hrow, hmessage⟩ := Table.mem_select.1 hmem
        exact ⟨r, hrow, by simpa using hmessage, by simpa using hflag⟩
      have hconfirmed := hw.flagged message.1 hdownloaded
      have hgiven : ∀ outpoints, Downloads receipts
          { w with given := (message.1, outpoints) :: w.given } := by
        intro outpoints
        refine ⟨fun rowId hflag => hw.flagged rowId hflag, fun call hcall => ?_⟩
        obtain rfl | hbefore := List.mem_cons.1 hcall
        · exact hconfirmed
        · exact hw.given call hbefore
      refine Program.Always.step hw (fun e w' heffect => ?_) fun journaled w' heffect => ?_
      · obtain ⟨-, rfl⟩ := heffect
        exact hw
      obtain ⟨-, rfl⟩ := heffect
      split
      · exact hw
      refine Program.Always.step hw (fun e w' heffect => ?_) fun ref w' heffect => ?_
      · obtain ⟨-, rfl⟩ := heffect
        exact hw
      obtain ⟨-, rfl⟩ := heffect
      refine Program.Always.step hw (fun e w' heffect => ?_) fun _ w' heffect => ?_
      · obtain rfl := heffect
        exact hgiven _
      obtain rfl := heffect
      have group : Program.Uses Unflagging (reclaimAttachmentGroup deps manifest.reclaim_group_id
          ((cellOf ref).toList ++ manifest.chunk_outpoints) none) :=
        (reclaimAttachmentGroup_steps _ _).mono fun _ _ h => ReclaimStep.unflagging h
      exact (always_unflagging group (hgiven _)).bind (fun _ _ h => h) fun _ _ h => h

theorem always_reclaimAttachmentGroups (hw : Downloads receipts w) :
    Program.Always downloadEffect (fun _ _ => Downloads receipts) (reclaimAttachmentGroups deps) w
      fun _ => Downloads receipts := by
  refine (always_unflagging (uses_unflagging rfl rfl) hw).bind (fun rows w hw => ?_) fun _ _ h => h
  refine (Program.Always.forEach (Downloads receipts) (fun _ => Downloads receipts)
    (fun message _ w hw => ?_) hw).mono fun r w' h => ?_
  · refine ((always_reclaimMessageGroup deps message hw).swallow).mono fun r w' h => ?_
    cases r with
    | ok _ => exact h
    | error e => exact h.elim
  · cases r <;> exact h

end Groups

section Passes

variable {deps : PipelineDeps} {receipts : List Receipt} {w w' : DownloadWorld}

/-- What is known of a run is known wherever a pass is, with the receipts that it was handed. -/
theorem always_downloadWork (work : DownloadWork) (hsub : work.receipts ⊆ receipts)
    (hw : Downloads receipts w) :
    Program.Always downloadEffect (fun _ _ => Downloads receipts) (work.program deps) w
      fun _ => Downloads receipts := by
  cases work with
  | ingest config ownProfileId decrypted source =>
    simp only [DownloadWork.program, ingestIncomingCellData]
    simp only [DownloadWork.receipts] at hsub
    split
    · exact hw
    next incoming hopens =>
      rw [hopens] at hsub
      exact always_ingestMessage_downloads config incoming source hsub hw
  | acknowledgements handed =>
    exact (always_processAcknowledgements handed hsub hw).bind (fun _ _ h => h) fun _ _ h => h
  | reclaimBatch timeoutMs =>
    have batch : Program.Uses Unflagging (executeReclaimBatch deps timeoutMs) :=
      (executeReclaimBatch_steps timeoutMs).mono fun _ _ h => ReclaimStep.unflagging h
    exact (always_unflagging batch hw).bind (fun _ _ h => h) fun _ _ h => h
  | reclaimGroups => exact always_reclaimAttachmentGroups deps hw

/-- The receipts that the passes of a run were handed. -/
def handedReceipts (passes : List DownloadPass) : List Receipt :=
  passes.flatMap fun pass => pass.work.receipts

theorem Downloads.runs {passes : List DownloadPass} (hw : Downloads receipts w)
    (hruns : DownloadRuns deps w passes w') :
    Downloads (receipts ++ handedReceipts passes) w' := by
  induction passes generalizing receipts w with
  | nil =>
    obtain rfl := hruns
    exact hw.mono (List.subset_append_left _ _)
  | cons pass passes ih =>
    obtain ⟨hother, hpass, hrest⟩ := hruns
    have hfound : Downloads (receipts ++ pass.work.receipts) { w with db := pass.found } :=
      (hw.mono (List.subset_append_left _ _)).same hother rfl rfl
    have halways : Program.Always downloadEffect _ (pass.work.program deps) _ _ :=
      always_downloadWork pass.work (List.subset_append_right _ _) hfound
    have hafter : Downloads (receipts ++ pass.work.receipts) pass.after := by
      split at hpass
      · obtain ⟨out, hrun⟩ := hpass
        exact halways.runs hrun
      · exact halways.interrupted (fun _ _ _ _ h => h) hpass
    have hlast := ih hafter hrest
    rw [List.append_assoc] at hlast
    exact hlast

/-- A wallet that nothing is known of yet: no attachment is flagged. -/
structure Unconfirmed (w : DownloadWorld) : Prop where
  flagged : ∀ rowId, ¬Downloaded w.db rowId
  downloads : w.downloads = []
  given : w.given = []

/-- A handler whose node cannot be reached. -/
def downloadHandler : Program.Handler Op Error DownloadWorld := fun _ op w =>
  match op with
  | .store access =>
    ((access.exec w.db).1,
      { w with db := (access.exec w.db).2 }.observe (.store access) (access.exec w.db).1)
  | .reclaiming rowId outpoints => (.ok (), w.observe (.reclaiming rowId outpoints) (.ok ()))
  | _ => (.error (.other "offline"), w)

theorem runs_downloadHandler {α : Type} (p : Prog α) (w : DownloadWorld) :
    Program.Runs downloadEffect p w (Program.run downloadHandler p w).1
      (Program.run downloadHandler p w).2 := by
  refine Program.runs_of_run downloadHandler id (fun op w => ?_) p w
  cases op with
  | store access => exact ⟨rfl, rfl⟩
  | _ => rfl

/-- An image whose message cell is reclaimed. -/
def reclaimedImage : Db :=
  { Db.empty with
    messages := .singleton
      ⟨1, .outgoing, .reclaimed, some "", .composed 1, some (sampleMessageId 7), by decide⟩
    chainRefs := .singleton ⟨1, some 9, some 0, none, none⟩
    attachments := .singleton ⟨1, "image", 100, "complete", some sampleManifest, none, false⟩ }

/-- A pass on the database as it is. -/
def completePass (w : DownloadWorld) (work : DownloadWork) : DownloadPass :=
  ⟨work, w.db, true, (Program.run downloadHandler (work.program samplePipeline) w).2⟩

theorem runs_completePass (w : DownloadWorld) (work : DownloadWork) :
    DownloadRuns samplePipeline w [completePass w work] (completePass w work).after :=
  ⟨fun _ h => h, ⟨_, runs_downloadHandler (work.program samplePipeline) w⟩, rfl⟩

def reclaimedWorld : DownloadWorld := ⟨reclaimedImage, none, [], []⟩

/-- The pass that is handed a download receipt, and the one that reclaims the groups after it. -/
def receiptPass : DownloadPass :=
  completePass reclaimedWorld (.acknowledgements [⟨sampleMessageId 7, receiptAttachmentDownloaded⟩])

def groupPass : DownloadPass := completePass receiptPass.after .reclaimGroups

end Passes

end cemp.sync
