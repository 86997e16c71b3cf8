import CempMobile.Images.Uploads

open cemp.core cemp.database cemp.ckb

namespace cemp.images

/-- The transaction of a result carries the manifest of the result, and no other. -/
def Sealed (commits : Hash → RawTransaction) (result : PublishImageMessageResult) : Prop :=
  (commits result.messageTxHash).envelope?.map (·.payload.attachment_manifests) =
    some [result.manifest]

instance (commits : Hash → RawTransaction) (result : PublishImageMessageResult) :
    Decidable (Sealed commits result) :=
  inferInstanceAs (Decidable (_ = _))

/-- A call that has not looked for the journaled transaction of its message: it is still the last
    one for its purpose, and what was given up is of other purposes. -/
structure Unbegun (purpose : TxPurpose) (db₀ : Db) (w : ImageWorld) : Prop where
  journalFor : w.db.journalFor purpose = db₀.journalFor purpose
  gaveUp : ∀ txHash ∈ w.gaveUp, ∃ other, other ≠ purpose ∧ HasRecord other w.db txHash

variable {commits : Hash → RawTransaction} {purpose other : TxPurpose} {db₀ : Db}
  {w w' : ImageWorld} {input : PublishTextInput} {record : OutgoingTransaction}

/-- The last transaction of the purpose has not been given up. -/
theorem Unbegun.not_mem (h : Unbegun purpose db₀ w)
    (hlast : (db₀.journalFor purpose).getLast? = some record) : record.txHash ∉ w.gaveUp := by
  intro hmem
  obtain ⟨other, hne, found, hfound, hhash, hpurpose⟩ := h.gaveUp _ hmem
  have hrecord : record ∈ w.db.journalFor purpose := by
    rw [h.journalFor]
    exact List.mem_of_getLast? hlast
  obtain ⟨hjournal, hrecordPurpose⟩ := mem_journalFor.1 hrecord
  obtain rfl := journal_unique hjournal hfound hhash.symm
  exact hne (hpurpose.symm.trans hrecordPurpose)

theorem Unbegun.exec {β : Type} {access : StoreOp β} {r : Except Error β}
    (h : Unbegun purpose db₀ w) (hother : other ≠ purpose)
    (hrecords : ∀ tx, access.records = some tx → tx.purpose ≠ purpose)
    (habandons : ∀ txHash, access.abandons = some txHash → HasRecord other w.db txHash)
    (heffect : imageEffect commits β (.store access) w r w') : Unbegun purpose db₀ w' := by
  obtain ⟨hanswer, -, hgaveUp⟩ := heffect
  have hdb : w'.db = (access.exec w.db).2 := (congrArg Prod.snd hanswer).symm
  refine ⟨?_, fun txHash hmem => ?_⟩
  · rw [hdb, journalFor_exec hrecords, h.journalFor]
  · rw [hgaveUp, List.mem_append, Option.mem_toList] at hmem
    rw [hdb]
    obtain hmem | hmem := hmem
    · obtain ⟨other, hne, hhas⟩ := h.gaveUp txHash hmem
      exact ⟨other, hne, hhas.exec access⟩
    · exact ⟨other, hother, (habandons txHash hmem).exec access⟩

/-- A chunk publish leaves the transactions of the message alone. -/
theorem Unbegun.chunkStep {β : Type} {op : Op β} {r : Except Error β} (h : Unbegun purpose db₀ w)
    (hother : other ≠ purpose) (hop : ChunkStep other w β op)
    (heffect : imageEffect commits β op w r w') : Unbegun purpose db₀ w' := by
  cases op with
  | store access =>
    refine h.exec hother ?_ ?_ heffect
    · intro tx hrecords
      cases access with
      | recordOutgoingTx recorded =>
        obtain rfl := Option.some.inj hrecords
        exact fun heq => hother ((show recorded.purpose = other from hop).symm.trans heq)
      | _ => cases hrecords
    · intro txHash habandons
      cases access with
      | markOutgoingTxState marked state =>
        cases state with
        | abandoned =>
          obtain rfl := Option.some.inj habandons
          obtain hstate | ⟨-, hhas⟩ := hop
          · cases hstate
          · exact hhas
        | _ => cases habandons
      | _ => cases habandons
  | signTransaction tx => exact heffect.1 ▸ h
  | randomBytes length => exact heffect.1 ▸ h
  | markTransactions tx => exact heffect.1 ▸ h
  | _ =>
    obtain rfl := heffect
    exact h

/-- Whether the last transaction of a purpose has been given up, or there was none. -/
def GivenUp (purpose : TxPurpose) (db₀ : Db) (w : ImageWorld) : Prop :=
  ∀ record, (db₀.journalFor purpose).getLast? = some record → record.txHash ∈ w.gaveUp

/-- The last transaction of a purpose is the one that is out. -/
def Outstanding (purpose : TxPurpose) (db₀ : Db) (txHash : Hash) (w : ImageWorld) : Prop :=
  ∃ record, (db₀.journalFor purpose).getLast? = some record ∧ record.txHash = txHash ∧
    txHash ∉ w.gaveUp

/-- The phases of the publish of a message, by what happens to its journaled transaction. -/
def sealingPhases (commits : Hash → RawTransaction) (db₀ : Db) (input : PublishTextInput) :
    PublishPhases (imageEffect commits) commits input fun _ => True where
  start := Unbegun input.purpose db₀
  found r w := Unbegun input.purpose db₀ w ∧ (db₀.journalFor input.purpose).getLast? = some r.core
  gone := GivenUp input.purpose db₀
  out txHash w := Outstanding input.purpose db₀ txHash w ∨
    Carries input (commits txHash) ∧ GivenUp input.purpose db₀ w
  start_anywhere _ _ := trivial
  found_anywhere _ _ _ := trivial
  gone_anywhere _ _ := trivial
  out_anywhere _ _ _ := trivial
  find := by
    intro w existing w' h heffect
    have hread : OutgoingTransactionRepository.latestByPurpose w.db input.purpose = existing :=
      Except.ok.inj (congrArg Prod.fst heffect.1)
    have hdb : w'.db = w.db := (congrArg Prod.snd heffect.1).symm
    have hlast := core_latestByPurpose w.db input.purpose
    rw [hread, h.journalFor] at hlast
    cases existing with
    | none =>
      intro record hrecord
      rw [← hlast] at hrecord
      cases hrecord
    | some r =>
      have hgaveUp : w'.gaveUp = w.gaveUp := gaveUp_of_step (by rintro _ ⟨⟩; rfl) heffect
      refine ⟨⟨by rw [hdb, h.journalFor], ?_⟩, hlast.symm⟩
      rw [hgaveUp, hdb]
      exact h.gaveUp
  find_error _ _ _ _ _ := trivial
  polls r := by
    refine ⟨?_, ?_, ?_, ?_⟩
    · rintro w w' ⟨h, hlast⟩ heffect
      obtain rfl : w' = w := heffect
      have hmem : r.core.txHash ∉ w'.gaveUp := h.not_mem hlast
      exact .inl ⟨r.core, hlast, rfl, hmem⟩
    · rintro w answer w' h rfl -
      exact h
    · rintro w answer w' h rfl
      exact h
    · rintro tx w answer w' h rfl
      exact h
  abandon := by
    rintro r w answer w' ⟨-, hlast⟩ ⟨-, -, hgaveUp⟩ record hrecord
    obtain rfl := Option.some.inj (hlast.symm.trans hrecord)
    rw [hgaveUp]
    exact List.mem_append_right _ (Option.mem_toList.2 rfl)
  build := by
    intro β op w answer w' hop h heffect record hrecord
    rw [gaveUp_of_step (fun access h => (accesses_of_build hop access h).2) heffect]
    exact h record hrecord
  sign := fun tx w signed w' _ heffect => heffect.2 signed rfl
  record := by
    intro tx w answer w' h _ _ hcarries heffect
    refine .inr ⟨hcarries, fun record hrecord => ?_⟩
    rw [gaveUp_of_step (by rintro _ ⟨⟩; rfl) heffect]
    exact h record hrecord
  built := by
    intro txHash β op w answer w' hop h heffect
    unfold Outstanding GivenUp
    rw [gaveUp_of_step (fun access h => (accesses_of_build hop access h).2) heffect]
    exact h
  monitor := by
    intro txHash β op w answer w' hop h heffect
    unfold Outstanding GivenUp
    rw [gaveUp_of_step (fun access h => (accesses_of_monitor hop access h).2) heffect]
    exact h
  track := track_ok
  fail _ _ _ _ _ := trivial

section Calls

variable {deps : ImageDeps} {image : PublishImageMessageInput}

/-- A manifest carries the group id it was built with. -/
theorem groupId_of_build {chunks : PreparedChunks} {txHash : Hash} {groupId : Bytes}
    {manifest : AttachmentManifestV1}
    (h : buildManifestForCommittedChunks chunks txHash groupId = .ok manifest) :
    manifest.reclaim_group_id = groupId := by
  unfold buildManifestForCommittedChunks at h
  split at h
  · cases h
  · obtain rfl := Except.ok.inj h
    rfl

/-- The message of a new image is sealed when the journaled transaction is not the one that is out. -/
theorem sealed_iff {manifest : AttachmentManifestV1} {kemMessage nonce : Bytes} {txHash : Hash}
    {result : PublishImageMessageResult} (hmessage : result.messageTxHash = txHash)
    (hmanifest : result.manifest = manifest)
    {db : Db} (hjournal : db.journalFor (.message image.logicalMessageId) =
      db₀.journalFor (.message image.logicalMessageId))
    (hunused : Unused commits db manifest.reclaim_group_id)
    (hout : (sealingPhases commits db₀ (imageText image manifest kemMessage nonce)).out txHash w) :
    Sealed commits result ↔ GivenUp (.message image.logicalMessageId) db₀ w := by
  subst hmessage hmanifest
  obtain ⟨record, hlast, hhash, hnot⟩ | ⟨⟨envelope, henvelope, -, hmanifests⟩, hgone⟩ := hout
  · constructor
    · intro hsealed
      obtain ⟨envelope, henvelope, hmanifests⟩ := Option.map_eq_some_iff.1 hsealed
      have hmem : record ∈ db.journalFor (.message image.logicalMessageId) := by
        rw [hjournal]
        exact List.mem_of_getLast? hlast
      rw [← hhash] at henvelope
      refine absurd rfl (hunused.group record (mem_journalFor.1 hmem).1 envelope henvelope _ ?_)
      rw [hmanifests]
      exact List.mem_cons_self
    · intro hgone
      refine absurd ?_ hnot
      rw [← hhash]
      exact hgone record hlast
  · refine ⟨fun _ => hgone, fun _ => ?_⟩
    unfold Sealed
    rw [henvelope, Option.map_some]
    exact congrArg some hmanifests

/-- What a call that returns has made of the message. -/
def Seals (commits : Hash → RawTransaction) (id : LogicalMessageId) (db₀ : Db)
    (r : Except Error PublishImageMessageResult) (w : ImageWorld) : Prop :=
  ∀ result, r = .ok result → (Sealed commits result ↔ GivenUp (.message id) db₀ w)

theorem seals_error {id : LogicalMessageId} (e : Error) :
    Seals commits id db₀ (.error e) w := fun result h => by cases h

theorem always_publishImageMessage (deps : ImageDeps) (image : PublishImageMessageInput)
    (db₀ : Db) :
    Program.Always (imageEffect commits) Program.Anywhere (publishImageMessage deps image)
      (.start db₀) (Seals commits image.logicalMessageId db₀) := by
  have hstart : Unbegun (.message image.logicalMessageId) db₀ (.start db₀) :=
    ⟨rfl, fun txHash h => by cases h⟩
  have uploaded : ∀ chunks : PreparedChunks, Program.Always (imageEffect commits) Program.Anywhere
      (publishAttachmentChunks deps.pipeline chunks image.timeoutMs) (.start db₀)
      fun _ w => Unbegun (.message image.logicalMessageId) db₀ w := by
    intro chunks
    have hother : chunks.purpose ≠ .message image.logicalMessageId := fun h => by cases h
    have unbegun := (publishAttachmentChunks_uploading commits deps.pipeline chunks
      image.timeoutMs (.start db₀)).invariant
      (fun β op w r w' hop heffect h => h.chunkStep hother hop.1 heffect) hstart
    exact (unbegun.weaken fun _ _ _ _ => trivial).mono fun r w h => h.2
  refine always_publishImageMessage_of (fun _ _ _ => trivial) seals_error
    (fun chunks _ => uploaded chunks) (fun _ e w _ => seals_error e)
    (fun _ _ w _ => ⟨trivial, seals_error⟩) ?_
  intro chunks published w groupId manifest kemMessage nonce hunbegun hunused hbuild
  have hgroup := groupId_of_build hbuild
  refine (((sealingPhases commits db₀ (imageText image manifest kemMessage nonce)).publishText
    hunbegun).weaken fun _ _ _ _ => trivial).mono fun sent w' hstops => ?_
  cases sent with
  | error e => exact seals_error e
  | ok sent =>
    rintro _ ⟨⟩
    refine sealed_iff rfl rfl hunbegun.journalFor ?_ hstops
    rw [hgroup]
    exact hunused

/-- The manifest a call returns is the one in the message it names exactly when the call has given
    up the transaction last journaled for the message, if there was one. -/
theorem publishImageMessage_sealed_iff {result : PublishImageMessageResult}
    (hrun : Program.Runs (imageEffect commits) (publishImageMessage deps image) (.start db₀)
      (.ok result) w) :
    Sealed commits result ↔ ∀ record,
      OutgoingTransactionRepository.latestByPurpose db₀ (.message image.logicalMessageId) =
        some record → record.txHash ∈ w.gaveUp := by
  have hlast := core_latestByPurpose db₀ (.message image.logicalMessageId)
  rw [(always_publishImageMessage deps image db₀).runs hrun result rfl]
  unfold GivenUp
  rw [← hlast]
  constructor
  · intro h record hrecord
    exact h record.core (by rw [hrecord]; rfl)
  · intro h core hcore
    obtain ⟨record, hrecord, rfl⟩ := Option.map_eq_some_iff.1 hcore
    exact h record hrecord

def sampleDeps : ImageDeps := ⟨samplePipeline, sampleCrypto, sampleProfile 2⟩

def sampleImage : PublishImageMessageInput where
  messageRowId := 1
  logicalMessageId := .composed 7
  recipientProfileIdHex := sampleProfile 1
  recipientKemPublicKey := [5]
  recipientProfileId := sampleProfile 1
  sourceBytes := [1, 2, 3]
  preparedImage := some samplePrepared
  caption := none
  format := none
  timeoutMs := none

/-- A node that commits the chunk transaction, and leaves the message pending. -/
def slowNode : Node := ⟨fun txHash => if txHash = 101 then .pending else .committed, fun _ => none⟩

/-- A call of that wallet, and what its transactions turn out to be when it signs all it builds. -/
def imageCall (commits : Option (Hash → RawTransaction)) (node : Node) (db : Db) :
    Except Error PublishImageMessageResult × ImageWorld :=
  Program.run (imageHandler commits node) (publishImageMessage sampleDeps sampleImage) (.start db)

/-- The database after a call whose message is not committed in time, and after a retry. -/
def timedOutDb : Db := (imageCall none slowNode composedDb).2.db
def retriedDb : Db := (imageCall none promptNode timedOutDb).2.db

/-- The first call for an image seals the manifest it returns. -/
theorem first_call_sealed : ∃ result, Sealed (commitsOf retriedDb) result ∧
    (imageCall (some (commitsOf retriedDb)) promptNode composedDb).1 = .ok result := by
  obtain ⟨result, hresult, -⟩ : ∃ result, (imageCall (some (commitsOf retriedDb)) promptNode
      composedDb).1 = .ok result ∧ (fun _ => true) result := exists_of_any (by decide +kernel)
  have hrun := runs_imageHandler (commitsOf retriedDb) promptNode
    (publishImageMessage sampleDeps sampleImage) (.start composedDb)
  refine ⟨result, ?_, hresult⟩
  unfold imageCall at hresult
  rw [hresult] at hrun
  apply (publishImageMessage_sealed_iff hrun).2
  intro record hrecord
  cases hrecord

/-- A retry resumes the message of the first call, and returns the manifest of its own chunks. -/
theorem retried_call_unsealed :
    (imageCall (some (commitsOf retriedDb)) slowNode composedDb).2.db.journal = timedOutDb.journal ∧
      ∃ result w, Program.Runs (imageEffect (commitsOf retriedDb))
        (publishImageMessage sampleDeps sampleImage) (.start timedOutDb) (.ok result) w ∧
          ¬Sealed (commitsOf retriedDb) result := by
  obtain ⟨result, hresult, hunsealed⟩ : ∃ result, (imageCall (some (commitsOf retriedDb)) promptNode
      timedOutDb).1 = .ok result ∧ (fun result => !decide (Sealed (commitsOf retriedDb) result)) result :=
    exists_of_any (by decide +kernel)
  have hrun := runs_imageHandler (commitsOf retriedDb) promptNode
    (publishImageMessage sampleDeps sampleImage) (.start timedOutDb)
  unfold imageCall at hresult
  rw [hresult] at hrun
  exact ⟨by decide +kernel, result, _, hrun, by simpa using hunsealed⟩

end Calls

end cemp.images
