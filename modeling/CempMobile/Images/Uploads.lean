import CempMobile.Ckb.Incoming
import CempMobile.Ckb.PublishPhases
import CempMobile.Images.SendMessage

open cemp.core cemp.database cemp.ckb

namespace cemp.images

/-- The database while images are sent, the records a call has journaled, and the transactions it
    has given up. -/
structure ImageWorld where
  db : Db
  recorded : List OutgoingTransaction
  gaveUp : List Hash

/-- A call starts with nothing recorded and nothing given up. -/
def ImageWorld.start (db : Db) : ImageWorld := ⟨db, [], []⟩

/-- Whether a transaction carries the chunks of an attachment. -/
def isAttachmentChunks : TxPurpose → Bool
  | .attachmentChunks _ => true
  | _ => false

/-- Random bytes that are neither the group id of an attachment in a journaled message nor the
    attachment id of journaled chunks. -/
structure Unused (commits : Hash → RawTransaction) (db : Db) (bytes : Bytes) : Prop where
  group : ∀ record ∈ db.journal, ∀ envelope, (commits record.txHash).envelope? = some envelope →
    ∀ manifest ∈ envelope.payload.attachment_manifests, manifest.reclaim_group_id ≠ bytes
  chunks : ∀ record ∈ db.journal, record.purpose ≠ .attachmentChunks bytes

/-- What the steps of an image send do. `commits` is what a transaction hash commits to, the
    client's cache is in memory, and random bytes have not been drawn before. -/
def imageEffect (commits : Hash → RawTransaction) : Program.Effect Op Error ImageWorld :=
  fun _ op w answer w' =>
    match op with
    | .store access => access.exec w.db = (answer, w'.db) ∧
        w'.recorded = w.recorded ++ access.records.toList ∧
        w'.gaveUp = w.gaveUp ++ access.abandons.toList
    | .signTransaction tx => w' = w ∧ ∀ signed, answer = .ok signed → commits signed.hash = tx
    | .randomBytes _ => w' = w ∧ ∀ bytes, answer = .ok bytes → Unused commits w.db bytes
    | .markTransactions _ => w' = w ∧ answer = .ok ()
    | _ => w' = w

/-- The chunk transactions a call has journaled. -/
def ImageWorld.uploads (w : ImageWorld) : List OutgoingTransaction :=
  w.recorded.filter fun tx => isAttachmentChunks tx.purpose

section Steps

variable {commits : Hash → RawTransaction} {w w' : ImageWorld} {purpose : TxPurpose} {β : Type}
  {op : Op β} {r : Except Error β}

/-- A step is an access to the database, or leaves the world. -/
theorem imageEffect_cases (heffect : imageEffect commits β op w r w') :
    w' = w ∨ ∃ access, op = .store access ∧ w'.db = (access.exec w.db).2 ∧
      w'.recorded = w.recorded ++ access.records.toList ∧
      w'.gaveUp = w.gaveUp ++ access.abandons.toList := by
  cases op with
  | store access =>
    obtain ⟨hanswer, hrecorded, hgaveUp⟩ := heffect
    exact .inr ⟨access, rfl, (congrArg Prod.snd hanswer).symm, hrecorded, hgaveUp⟩
  | signTransaction tx => exact .inl heffect.1
  | randomBytes length => exact .inl heffect.1
  | markTransactions tx => exact .inl heffect.1
  | _ => exact .inl heffect

theorem gaveUp_of_step (habandons : ∀ access, op = .store access → access.abandons = none)
    (heffect : imageEffect commits β op w r w') : w'.gaveUp = w.gaveUp := by
  obtain rfl | ⟨access, hop, -, -, hgaveUp⟩ := imageEffect_cases heffect
  · rfl
  · rw [hgaveUp, habandons access hop, Option.toList_none, List.append_nil]

/-- A part all of whose steps leave the world. -/
theorem always_leaves {α : Type} {ok : ∀ β : Type, Op β → Prop}
    {during : ∀ β : Type, Op β → ImageWorld → Prop} {p : Prog α}
    (hsame : ∀ (β : Type) (op : Op β) (r : Except Error β) (w' : ImageWorld), ok β op →
      imageEffect commits β op w r w' → w' = w)
    (hduring : ∀ (β : Type) (op : Op β), ok β op → during β op w) (huses : Program.Uses ok p) :
    Program.Always (imageEffect commits) during p w fun _ w' => w' = w := by
  refine huses.always (fun β op s hop hs => ?_) rfl
  subst hs
  exact ⟨hduring β op hop, fun r s' heffect => hsame β op r s' hop heffect⟩

theorem recorded_same (hrecords : ∀ access, op = .store access → access.records = none)
    (heffect : imageEffect commits β op w r w') : w'.recorded = w.recorded := by
  obtain rfl | ⟨access, hop, -, hrecorded, -⟩ := imageEffect_cases heffect
  · rfl
  · rw [hrecorded, hrecords access hop, Option.toList_none, List.append_nil]

/-- The client's cache is in memory. -/
theorem track_ok (tx : Transaction) (w : ImageWorld) (e : Error) (w' : ImageWorld) :
    ¬imageEffect commits _ (.markTransactions tx) w (.error e) w' := by
  rintro ⟨-, hanswer⟩
  cases hanswer

/-- A step records what its access journals, if it is an access. -/
theorem recorded_step {kind : OutgoingTransaction → Prop}
    (hrecords : ∀ access, op = .store access → ∀ tx, access.records = some tx → kind tx)
    (heffect : imageEffect commits β op w r w') :
    w'.recorded = w.recorded ∨ ∃ tx, kind tx ∧ w'.recorded = w.recorded ++ [tx] := by
  obtain rfl | ⟨access, hop, -, hrecorded, -⟩ := imageEffect_cases heffect
  · exact .inl rfl
  · cases hrecord : access.records with
    | none =>
      left
      rw [hrecorded, hrecord, Option.toList_none, List.append_nil]
    | some tx =>
      refine .inr ⟨tx, hrecords access hop tx hrecord, ?_⟩
      rw [hrecorded, hrecord, Option.toList_some]

/-- A step that journals nothing for a purpose leaves what is journaled for it. -/
theorem journalFor_of_step
    (hrecords : ∀ access, op = .store access → ∀ tx, access.records = some tx → tx.purpose ≠ purpose)
    (heffect : imageEffect commits β op w r w') : w'.db.journalFor purpose = w.db.journalFor purpose := by
  obtain rfl | ⟨access, hop, hdb, -⟩ := imageEffect_cases heffect
  · rfl
  · rw [hdb]
    exact journalFor_exec (hrecords access hop) w.db

end Steps

/-- The steps of a chunk publish. It gives up only what is journaled for its own chunks. -/
def ChunkStep (purpose : TxPurpose) (w : ImageWorld) : (β : Type) → Op β → Prop
  | _, .store (.findLatestOutgoingTxByPurposePrefix start) => start = .exactly purpose
  | _, .store (.recordOutgoingTx tx) => tx.purpose = purpose
  | _, .store (.markOutgoingTxState txHash state) => state = .committed ∨
      state = .abandoned ∧ ∃ record ∈ w.db.journal, record.txHash = txHash ∧ record.purpose = purpose
  | _, .store (.reserveCapacity ..) => True
  | _, .getTransaction _ => True
  | _, .deadlinePassed => True
  | _, .sendTransaction _ => True
  | _, .markTransactions _ => True
  | _, .completeTransaction _ => True
  | _, .signTransaction _ => True
  | _, _ => False

/-- A call has journaled at most one transaction since `w₀`, for a purpose. -/
def Uploads (purpose : TxPurpose) (w₀ w : ImageWorld) (own : Option OutgoingTransaction) : Prop :=
  w.recorded = w₀.recorded ++ own.toList ∧ ∀ tx ∈ own, tx.purpose = purpose

/-- A step of a chunk publish that started in `w₀`. -/
def Uploading (purpose : TxPurpose) (w₀ : ImageWorld) (β : Type) (op : Op β) (w : ImageWorld) : Prop :=
  ChunkStep purpose w β op ∧ ∃ own, Uploads purpose w₀ w own

/-- Where a chunk publish stops: what it returns names what it has journaled, which is something
    unless an earlier call had journaled chunks for the purpose. -/
structure Uploaded (purpose : TxPurpose) (w₀ : ImageWorld) (own : Option OutgoingTransaction)
    (r : Except Error PublishChunksResult) (w : ImageWorld) : Prop where
  uploads : Uploads purpose w₀ w own
  named : ∀ result, r = .ok result → ∀ tx ∈ own, tx.txHash = result.chunksTxHash
  new : ∀ result, r = .ok result → (∀ record ∈ w₀.db.journal, record.purpose ≠ purpose) → own ≠ none

section Chunks

variable {commits : Hash → RawTransaction} {deps : PipelineDeps} {chunks : PreparedChunks}
  {timeoutMs : Option Nat} {w₀ w w' : ImageWorld} {purpose : TxPurpose}

/-- The steps of a resume. -/
def ResumeStep (txHash : Hash) : (β : Type) → Op β → Prop
  | _, .store (.markOutgoingTxState marked state) => marked = txHash ∧ (state = .committed ∨ state = .abandoned)
  | _, .store (.reserveCapacity ..) => True
  | _, .getTransaction _ => True
  | _, .deadlinePassed => True
  | _, .sendTransaction _ => True
  | _, .markTransactions _ => True
  | _, _ => False

theorem resumeChunks_uses (journaled : OutgoingTransaction) :
    Program.Uses (ResumeStep journaled.txHash) (resumeChunks chunks journaled timeoutMs) := by
  unfold resumeChunks
  refine Program.Uses.catchError ?_ fun e => ?_
  · refine Program.Uses.bind (resumeJournaledBroadcast_uses trivial trivial (fun _ _ => trivial) _)
      fun outcome => ?_
    have finish : Program.Uses (ResumeStep journaled.txHash) (settleChunks chunks journaled) := by
      refine Program.Uses.bind (Program.uses_perform.2 ⟨rfl, .inl rfl⟩) fun _ => ?_
      split
      · split
        · exact Program.Uses.bind (Program.uses_perform.2 trivial) fun _ => trivial
        · trivial
      · trivial
    cases outcome with
    | committed => exact finish
    | rebroadcast =>
      cases journaled.txHex with
      | none => exact finish
      | some tx => exact Program.Uses.bind (Program.uses_perform.2 trivial) fun _ => finish
  · cases e with
    | journaledAbandoned message spent =>
      exact Program.Uses.bind (Program.uses_perform.2 ⟨rfl, .inr rfl⟩) fun _ => trivial
    | _ => trivial

/-- A journal record of a purpose, by its hash. -/
def HasRecord (purpose : TxPurpose) (db : Db) (txHash : Hash) : Prop :=
  ∃ record ∈ db.journal, record.txHash = txHash ∧ record.purpose = purpose

theorem HasRecord.exec {β : Type} {db : Db} {txHash : Hash} (h : HasRecord purpose db txHash)
    (access : StoreOp β) : HasRecord purpose (access.exec db).2 txHash := by
  obtain ⟨record, hmem, hrecord⟩ := h
  refine ⟨record, ?_, hrecord⟩
  obtain hsame | ⟨tx, -, happend⟩ := journal_exec access db
  · rw [hsame]
    exact hmem
  · rw [happend]
    exact List.mem_append_left _ hmem

/-- A step that journals nothing leaves the records of the call, and every record of the journal. -/
theorem recorded_of_step {β : Type} {op : Op β} {r : Except Error β} {txHash : Hash}
    (hrecords : ∀ access, op = .store access → access.records = none)
    (heffect : imageEffect commits β op w r w') (h : HasRecord purpose w.db txHash) :
    w'.recorded = w.recorded ∧ HasRecord purpose w'.db txHash := by
  refine ⟨recorded_same hrecords heffect, ?_⟩
  obtain rfl | ⟨access, -, hdb, -⟩ := imageEffect_cases heffect
  · exact h
  · rw [hdb]
    exact h.exec access

/-- What a resume may do is what a chunk publish may do. -/
theorem ResumeStep.uploading {β : Type} {op : Op β} {txHash : Hash} (hop : ResumeStep txHash β op)
    (hrecorded : w.recorded = w₀.recorded) (hjournaled : HasRecord purpose w.db txHash) :
    Uploading purpose w₀ β op w ∧ ∀ access, op = .store access → access.records = none := by
  have hown : ∃ own, Uploads purpose w₀ w own := by
    refine ⟨none, ?_, fun tx htx => by cases htx⟩
    simpa using hrecorded
  cases op with
  | store access =>
    cases access with
    | markOutgoingTxState marked state =>
      obtain ⟨rfl, hstate⟩ := hop
      refine ⟨⟨hstate.imp id fun h => ⟨h, hjournaled⟩, hown⟩, ?_⟩
      rintro _ ⟨⟩
      rfl
    | reserveCapacity amount cell =>
      refine ⟨⟨trivial, hown⟩, ?_⟩
      rintro _ ⟨⟩
      rfl
    | _ => exact hop.elim
  | getTransaction polled => exact ⟨⟨trivial, hown⟩, fun access h => by cases h⟩
  | deadlinePassed => exact ⟨⟨trivial, hown⟩, fun access h => by cases h⟩
  | sendTransaction tx => exact ⟨⟨trivial, hown⟩, fun access h => by cases h⟩
  | markTransactions tx => exact ⟨⟨trivial, hown⟩, fun access h => by cases h⟩
  | _ => exact hop.elim

theorem resumeChunks_uploading {journaled : OutgoingTransaction}
    (hrecorded : w.recorded = w₀.recorded) (hjournaled : HasRecord purpose w.db journaled.txHash) :
    Program.Always (imageEffect commits) (Uploading purpose w₀)
      (resumeChunks chunks journaled timeoutMs) w fun _ w' => w'.recorded = w₀.recorded := by
  have hkeeps : ∀ (β : Type) (op : Op β) (w : ImageWorld), ResumeStep journaled.txHash β op →
      (w.recorded = w₀.recorded ∧ HasRecord purpose w.db journaled.txHash) →
      Uploading purpose w₀ β op w ∧ ∀ r w', imageEffect commits β op w r w' →
        w'.recorded = w₀.recorded ∧ HasRecord purpose w'.db journaled.txHash := by
    rintro β op w hop ⟨hrecorded, hjournaled⟩
    obtain ⟨huploading, hrecords⟩ := hop.uploading hrecorded hjournaled
    refine ⟨huploading, fun r w' heffect => ?_⟩
    obtain ⟨hsame, hjournaled'⟩ := recorded_of_step hrecords heffect hjournaled
    exact ⟨hsame.trans hrecorded, hjournaled'⟩
  refine ((resumeChunks_uses journaled).always hkeeps ⟨hrecorded, hjournaled⟩).mono ?_
  exact fun r w' h => h.1

/-- Calls that leave the world alone. -/
def Quiet : (β : Type) → Op β → Prop
  | _, .getTransaction _ => True
  | _, .deadlinePassed => True
  | _, .sendTransaction _ => True
  | _, .markTransactions _ => True
  | _, .completeTransaction _ => True
  | _, .signTransaction _ => True
  | _, _ => False

theorem Quiet.same {β : Type} {op : Op β} {r : Except Error β} (hop : Quiet β op)
    (heffect : imageEffect commits β op w r w') : w' = w := by
  cases op with
  | signTransaction tx => exact heffect.1
  | markTransactions tx => exact heffect.1
  | getTransaction txHash => exact heffect
  | deadlinePassed => exact heffect
  | sendTransaction tx => exact heffect
  | completeTransaction tx => exact heffect
  | _ => exact hop.elim

theorem Quiet.chunkStep {β : Type} {op : Op β} (hop : Quiet β op) : ChunkStep purpose w β op := by
  cases op with
  | store access => exact hop.elim
  | _ => trivial

/-- A part of an upload that only makes calls. -/
theorem always_quiet {α : Type} {p : Prog α} {own : Option OutgoingTransaction}
    (huses : Program.Uses Quiet p) (hown : Uploads purpose w₀ w own) :
    Program.Always (imageEffect commits) (Uploading purpose w₀) p w fun _ w' => w' = w := by
  exact always_leaves (fun _ _ _ _ hop heffect => hop.same heffect)
    (fun _ _ hop => ⟨hop.chunkStep, own, hown⟩) huses

theorem buildDataCellsTx_quiet (datasets : List Bytes) :
    Program.Uses Quiet (buildDataCellsTx deps datasets) := by
  unfold buildDataCellsTx
  split
  · trivial
  · split
    · trivial
    · exact completeAndFinalize_uses (fun _ => trivial) _ _

/-- One access of an upload. -/
theorem always_uploadStep {α β : Type} {access : StoreOp β} {rest : β → Prog α}
    {post : Except Error α → ImageWorld → Prop} {own : Option OutgoingTransaction}
    (hop : ChunkStep purpose w β (.store access)) (hown : Uploads purpose w₀ w own)
    (hrest : ∀ b w', w'.db = (access.exec w.db).2 → w'.recorded = w.recorded ++ access.records.toList →
      Program.Always (imageEffect commits) (Uploading purpose w₀) (rest b) w' post)
    (herror : ∀ e w', w'.recorded = w.recorded ++ access.records.toList → post (.error e) w') :
    Program.Always (imageEffect commits) (Uploading purpose w₀) ((store access).bind rest) w post := by
  refine Program.Always.step ⟨hop, own, hown⟩ (fun e w' heffect => ?_) fun b w' heffect => ?_
  · exact herror e w' heffect.2.1
  · exact hrest b w' (congrArg Prod.snd heffect.1).symm heffect.2.1

/-- A quiet part, and what comes after it in the same world. -/
theorem always_quietly {α β : Type} {first : Prog β} {rest : β → Prog α}
    {post : Except Error α → ImageWorld → Prop} {own : Option OutgoingTransaction}
    (huses : Program.Uses Quiet first) (hown : Uploads purpose w₀ w own)
    (hrest : ∀ b, Program.Always (imageEffect commits) (Uploading purpose w₀) (rest b) w post)
    (herror : ∀ e, post (.error e) w) :
    Program.Always (imageEffect commits) (Uploading purpose w₀) (first.bind rest) w post := by
  refine (always_quiet huses hown).bind (fun b w' h => ?_) fun e w' h => ?_
  · subst h
    exact hrest b
  · subst h
    exact herror e

/-- A chunk publish that stopped at an error. -/
theorem uploaded_error {own : Option OutgoingTransaction} (e : Error)
    (hown : Uploads purpose w₀ w own) :
    ∃ own, Uploaded purpose w₀ own (.error e) w :=
  ⟨own, ⟨hown, (fun result h => by cases h), (fun result h => by cases h)⟩⟩

/-- What an upload does once its transaction is journaled. -/
theorem always_handOver {tx : OutgoingTransaction} (signed : Transaction) (capacity count : Nat)
    (hown : Uploads purpose w₀ w (some tx)) (htx : tx.txHash = signed.hash) :
    Program.Always (imageEffect commits) (Uploading purpose w₀)
      (do
        let accepted ← call (.sendTransaction signed)
        if accepted ≠ signed.hash then
          throw (.other "publishAttachmentChunks: node returned a different tx hash")
        else
          trackBroadcastSpend signed
          waitForTransactionCommit signed.hash timeoutMs
          store (.markOutgoingTxState signed.hash .committed)
          if 0 < capacity then store (.reserveCapacity capacity none)
          return ⟨signed.hash, count, false⟩) w fun r w' => ∃ own, Uploaded purpose w₀ own r w' := by
  have finish : ∀ w : ImageWorld, Uploads purpose w₀ w (some tx) →
      ∃ own, Uploaded purpose w₀ own (.ok ⟨signed.hash, count, false⟩) w := by
    intro w h
    refine ⟨some tx, ⟨h, ?_, fun _ _ _ h => by cases h⟩⟩
    rintro _ ⟨⟩ _ ⟨⟩
    exact htx
  have same : ∀ {β : Type} {access : StoreOp β} {w' : ImageWorld}, access.records = none →
      ∀ w, Uploads purpose w₀ w (some tx) → w'.recorded = w.recorded ++ access.records.toList →
      Uploads purpose w₀ w' (some tx) := by
    intro β access w' hrecords w h hrecorded
    rw [hrecords, Option.toList_none, List.append_nil] at hrecorded
    exact ⟨hrecorded.trans h.1, h.2⟩
  refine always_quietly (Program.uses_perform.2 (by trivial)) hown (fun accepted => ?_)
    fun e => uploaded_error e hown
  split
  · exact uploaded_error _ hown
  · refine always_quietly (Program.uses_perform.2 (by trivial)) hown (fun _ => ?_)
      fun e => uploaded_error e hown
    refine always_quietly (waitForTransactionCommit_uses (by trivial) (by trivial) _) hown (fun _ => ?_)
      fun e => uploaded_error e hown
    refine always_uploadStep (by exact .inl rfl) hown (fun _ w' _ hrecorded => ?_)
      fun e w' hrecorded => uploaded_error e (same rfl w hown hrecorded)
    have hown' := same rfl w hown hrecorded
    split
    · refine always_uploadStep (by trivial) hown' (fun _ w'' _ hrecorded' => ?_)
        fun e w'' hrecorded' => uploaded_error e (same rfl w' hown' hrecorded')
      exact finish w'' (same rfl w' hown' hrecorded')
    · exact finish w' hown'

/-- An upload journals one transaction, which it names when it returns. -/
theorem uploadChunks_uploading (hrecorded : w.recorded = w₀.recorded) :
    Program.Always (imageEffect commits) (Uploading chunks.purpose w₀)
      (uploadChunks deps chunks timeoutMs) w
      fun r w' => ∃ own, Uploaded chunks.purpose w₀ own r w' := by
  have hnone : Uploads chunks.purpose w₀ w none :=
    ⟨by simpa using hrecorded, fun tx htx => by cases htx⟩
  have journaled : ∀ (tx : OutgoingTransaction) (w' : ImageWorld), tx.purpose = chunks.purpose →
      w'.recorded = w.recorded ++ [tx] → Uploads chunks.purpose w₀ w' (some tx) := by
    intro tx w' hpurpose h
    refine ⟨by rw [h, hrecorded]; rfl, ?_⟩
    rintro _ ⟨⟩
    exact hpurpose
  refine always_quietly (buildDataCellsTx_quiet _) hnone (fun built => ?_)
    fun e => uploaded_error e hnone
  refine always_quietly (Program.uses_perform.2 (by trivial)) hnone (fun signed => ?_)
    fun e => uploaded_error e hnone
  refine always_uploadStep (by exact rfl) hnone (fun _ w' _ h => ?_) fun e w' h => ?_
  · exact always_handOver signed _ _ (journaled _ w' rfl h) rfl
  · exact uploaded_error e (journaled _ w' rfl h)

theorem latestByPurpose_read {db : Db} {record : OutgoingTransaction} {purpose : TxPurpose}
    (h : OutgoingTransactionRepository.latestByPurpose db purpose = some record) :
    HasRecord purpose db record.txHash := by
  obtain ⟨hmem, hpurpose⟩ := mem_journal_of_latest h
  exact ⟨record.core, hmem, rfl, hpurpose⟩

/-- A chunk publish journals at most one transaction, and names it when it returns. -/
theorem publishAttachmentChunks_uploading (commits : Hash → RawTransaction) (deps : PipelineDeps)
    (chunks : PreparedChunks) (timeoutMs : Option Nat) (w : ImageWorld) :
    Program.Always (imageEffect commits) (Uploading chunks.purpose w)
      (publishAttachmentChunks deps chunks timeoutMs) w
      fun r w' => ∃ own, Uploaded chunks.purpose w own r w' := by
  have hnone : ∀ w' : ImageWorld, w'.recorded = w.recorded → Uploads chunks.purpose w w' none :=
    fun w' h => ⟨by simpa using h, fun tx htx => by cases htx⟩
  refine Program.Always.step ⟨by exact rfl, none, hnone w rfl⟩ (fun e w' heffect => ?_)
    fun journaled w' heffect => ?_
  · exact uploaded_error e (hnone w' (by simpa [StoreOp.records] using heffect.2.1))
  · obtain ⟨hanswer, hrecorded, -⟩ := heffect
    have hrecorded : w'.recorded = w.recorded := by simpa [StoreOp.records] using hrecorded
    have hread : OutgoingTransactionRepository.latestByPurpose w.db chunks.purpose = journaled :=
      Except.ok.inj (congrArg Prod.fst hanswer)
    have hdb : w'.db = w.db := (congrArg Prod.snd hanswer).symm
    cases hresumable : journaled.filter fun tx => tx.state == .submitted with
    | none => exact uploadChunks_uploading hrecorded
    | some tx =>
      obtain ⟨hsome, -⟩ := Option.filter_eq_some_iff.1 hresumable
      have hjournaled : HasRecord chunks.purpose w.db tx.txHash :=
        latestByPurpose_read (hread.trans hsome)
      have hold : ¬∀ record ∈ w.db.journal, record.purpose ≠ chunks.purpose := by
        obtain ⟨record, hmem, -, hpurpose⟩ := hjournaled
        exact fun hnew => hnew record hmem hpurpose
      rw [← hdb] at hjournaled
      refine (resumeChunks_uploading hrecorded hjournaled).bind (fun r w'' h => ?_) fun e w'' h => ?_
      · cases r with
        | none => exact uploadChunks_uploading h
        | some result =>
          exact ⟨none, ⟨hnone w'' h, (fun _ _ tx htx => by cases htx), fun _ _ hnew => absurd hnew hold⟩⟩
      · exact uploaded_error e (hnone w'' h)

end Chunks

section Messages

variable {commits : Hash → RawTransaction} {deps : ImageDeps} {image : PublishImageMessageInput}
  {w₀ w w' : ImageWorld}

/-- The steps that prepare and encrypt an image. -/
def PrepareStep : (β : Type) → Op β → Prop
  | _, .randomBytes _ => True
  | _, .prepareImage .. => True
  | _, _ => False

theorem PrepareStep.same {β : Type} {op : Op β} {r : Except Error β} (hop : PrepareStep β op)
    (heffect : imageEffect commits β op w r w') : w' = w := by
  cases op with
  | randomBytes length => exact heffect.1
  | prepareImage sourceBytes format => exact heffect
  | _ => exact hop.elim

/-- Chunks no journaled transaction is for. -/
def NewChunks (db : Db) (purpose : TxPurpose) : Prop :=
  ∀ record ∈ db.journal, record.purpose ≠ purpose

/-- A preparation leaves the world, and the chunks it returns are new. -/
def Prepares (w : ImageWorld) (r : Except Error PreparedChunks) (w' : ImageWorld) : Prop :=
  w' = w ∧ ∀ chunks, r = .ok chunks → NewChunks w.db chunks.purpose

theorem always_encryptPreparedChunks {during : ∀ β : Type, Op β → ImageWorld → Prop}
    {crypto : AttachmentCrypto} {prepared : PreparedImage} {attachmentKey : Bytes}
    (hduring : ∀ (β : Type) (op : Op β), PrepareStep β op → during β op w) :
    Program.Always (imageEffect commits) during
      (encryptPreparedChunks crypto prepared attachmentKey none) w (Prepares w) := by
  have encrypted : Program.Always (imageEffect commits) during
      (encryptAttachment crypto prepared.bytes attachmentKey none) w
      fun r w' => w' = w ∧ ∀ attachment, r = .ok attachment →
        NewChunks w.db (.attachmentChunks attachment.attachmentId) := by
    refine Program.Always.step (hduring _ _ trivial) (fun e w' heffect => ?_) fun id w' heffect => ?_
    · exact ⟨heffect.1, fun attachment h => by cases h⟩
    · obtain ⟨rfl, hunused⟩ := heffect
      have hnew := (hunused id rfl).chunks
      simp only
      split
      · exact ⟨rfl, fun attachment h => by cases h⟩
      · split
        · exact ⟨rfl, fun attachment h => by cases h⟩
        · refine Program.Always.step (hduring _ _ trivial) (fun e w'' heffect => ?_)
            fun nonce w'' heffect => ?_
          · exact ⟨heffect.1, fun attachment h => by cases h⟩
          · refine ⟨heffect.1, ?_⟩
            rintro _ ⟨⟩
            exact hnew
  refine encrypted.bind (fun attachment w' h => ?_) fun e w' h => ⟨h.1, fun chunks h => by cases h⟩
  obtain ⟨rfl, hnew⟩ := h
  cases hsplit : splitIntoChunks attachment.ciphertext ATTACHMENT_CHUNK_BYTES with
  | error e => exact ⟨rfl, fun chunks h => by cases h⟩
  | ok parts =>
    refine ⟨rfl, ?_⟩
    rintro _ ⟨⟩
    exact hnew attachment rfl

theorem always_prepareAttachmentChunks {during : ∀ β : Type, Op β → ImageWorld → Prop}
    {crypto : AttachmentCrypto} {sourceBytes attachmentKey : Bytes} {format : Option ImageEncodeFormat}
    (hduring : ∀ (β : Type) (op : Op β), PrepareStep β op → during β op w) :
    Program.Always (imageEffect commits) during
      (prepareAttachmentChunks crypto sourceBytes attachmentKey format none) w (Prepares w) := by
  refine Program.Always.step (hduring _ (.prepareImage sourceBytes format) trivial)
    (fun e w' heffect => ?_) fun prepared w' heffect => ?_
  · obtain rfl : w' = w := heffect
    exact ⟨rfl, fun chunks h => by cases h⟩
  · obtain rfl : w' = w := heffect
    exact always_encryptPreparedChunks hduring

/-- A send in three parts: the preparation, which leaves the world, the publish of new chunks, and
    the publish of the message with the manifest built for them. -/
theorem always_publishImageMessage_of {during : ∀ β : Type, Op β → ImageWorld → Prop}
    {chunked : PreparedChunks → Except Error PublishChunksResult → ImageWorld → Prop}
    {post : Except Error PublishImageMessageResult → ImageWorld → Prop}
    (hprepare : ∀ (β : Type) (op : Op β), PrepareStep β op → during β op w₀)
    (hunprepared : ∀ e, post (.error e) w₀)
    (hchunks : ∀ chunks, NewChunks w₀.db chunks.purpose → Program.Always (imageEffect commits) during
      (publishAttachmentChunks deps.pipeline chunks image.timeoutMs) w₀ (chunked chunks))
    (hunchunked : ∀ chunks e w, chunked chunks (.error e) w → post (.error e) w)
    (hdraw : ∀ chunks published w, chunked chunks (.ok published) w →
      during _ (.randomBytes 16) w ∧ ∀ e, post (.error e) w)
    (htext : ∀ chunks published w groupId manifest kemMessage nonce,
      chunked chunks (.ok published) w → Unused commits w.db groupId →
      buildManifestForCommittedChunks chunks published.chunksTxHash groupId = .ok manifest →
      Program.Always (imageEffect commits) during
        (publishText deps.pipeline (imageText image manifest kemMessage nonce)) w fun r w' =>
          post (r.map fun sent => ⟨published.chunksTxHash, sent.txHash, manifest,
            published.chunkCount, chunks.prepared.bytes.length⟩) w') :
    Program.Always (imageEffect commits) during (publishImageMessage deps image) w₀ post := by
  refine Program.Always.step (hprepare _ _ trivial) (fun e w heffect => ?_)
    fun kemMessage w heffect => ?_
  · exact heffect.1 ▸ hunprepared e
  obtain rfl := heffect.1
  refine Program.Always.step (hprepare _ _ trivial) (fun e w heffect => ?_)
    fun nonce w' heffect => ?_
  · exact heffect.1 ▸ hunprepared e
  obtain rfl := heffect.1
  have rest : ∀ chunks, NewChunks w'.db chunks.purpose → Program.Always (imageEffect commits) during
      (do
        let published ← publishAttachmentChunks deps.pipeline chunks image.timeoutMs
        let reclaimGroupId ← call (.randomBytes 16)
        let manifest ← Program.ofExcept
          (buildManifestForCommittedChunks chunks published.chunksTxHash reclaimGroupId)
        let messageResult ← publishText deps.pipeline (imageText image manifest kemMessage nonce)
        return ⟨published.chunksTxHash, messageResult.txHash, manifest, published.chunkCount,
          chunks.prepared.bytes.length⟩) w' post := by
    intro chunks hnew
    refine (hchunks chunks hnew).bind (fun published w hpublished => ?_) (hunchunked chunks)
    obtain ⟨hduring, herror⟩ := hdraw chunks published w hpublished
    refine Program.Always.step hduring (fun e w' heffect => ?_) fun groupId w' heffect => ?_
    · exact heffect.1 ▸ herror e
    obtain ⟨rfl, hunused⟩ := heffect
    cases hbuild : buildManifestForCommittedChunks chunks published.chunksTxHash groupId with
    | error e => exact herror e
    | ok manifest =>
      exact (htext chunks published w' groupId manifest kemMessage nonce hpublished
        (hunused groupId rfl) hbuild).bind (fun _ _ h => h) fun _ _ h => h
  have sealed : ∀ prepared, Program.Always (imageEffect commits) during prepared w' (Prepares w') →
      Program.Always (imageEffect commits) during (prepared.bind fun chunks => do
        let published ← publishAttachmentChunks deps.pipeline chunks image.timeoutMs
        let reclaimGroupId ← call (.randomBytes 16)
        let manifest ← Program.ofExcept
          (buildManifestForCommittedChunks chunks published.chunksTxHash reclaimGroupId)
        let messageResult ← publishText deps.pipeline (imageText image manifest kemMessage nonce)
        return ⟨published.chunksTxHash, messageResult.txHash, manifest, published.chunkCount,
          chunks.prepared.bytes.length⟩) w' post := by
    intro prepared hprepared
    refine hprepared.bind (fun chunks w h => ?_) fun e w h => ?_
    · obtain ⟨rfl, hnew⟩ := h
      exact rest chunks (hnew chunks rfl)
    · obtain ⟨rfl, -⟩ := h
      exact hunprepared e
  simp only
  cases image.preparedImage with
  | some prepared => exact sealed _ (always_encryptPreparedChunks hprepare)
  | none => exact sealed _ (always_prepareAttachmentChunks hprepare)

end Messages

section Node

/-- How a node answers during a call. -/
structure Node where
  status : Hash → TransactionStatus
  refuses : Hash → Option String

/-- A node that commits every transaction at once. -/
def promptNode : Node := ⟨fun _ => .committed, fun _ => none⟩

def unusedBytes (commits : Hash → RawTransaction) (db : Db) (bytes : Bytes) : Bool :=
  db.journal.all fun record => record.purpose != .attachmentChunks bytes &&
    (commits record.txHash).envelope?.all fun envelope =>
      envelope.payload.attachment_manifests.all fun manifest => manifest.reclaim_group_id != bytes

theorem unused_of_unusedBytes {commits : Hash → RawTransaction} {db : Db} {bytes : Bytes}
    (h : unusedBytes commits db bytes) : Unused commits db bytes := by
  have hrecord : ∀ record ∈ db.journal, _ := List.all_eq_true.1 h
  simp only [Bool.and_eq_true, bne_iff_ne] at hrecord
  refine ⟨?_, fun record hmem => (hrecord record hmem).1⟩
  intro record hmem envelope henvelope manifest hmanifest
  have hall := (hrecord record hmem).2
  rw [henvelope] at hall
  simpa using List.all_eq_true.1 hall manifest hmanifest

def samplePrepared : PreparedImage := ⟨[1, 2, 3], "image/webp", 4, 4, [], List.replicate 32 0⟩

/-- A wallet of a node. It numbers the transactions it signs and the bytes it draws by the length of
    the journal, and refuses what a given `commits` does not allow. -/
def imageHandler (commits : Option (Hash → RawTransaction)) (node : Node) :
    Program.Handler Op Error ImageWorld := fun _ op w =>
  match op with
  | .store access => ((access.exec w.db).1, ⟨(access.exec w.db).2,
      w.recorded ++ access.records.toList, w.gaveUp ++ access.abandons.toList⟩)
  | .getTransaction txHash => (.ok (node.status txHash), w)
  | .sendTransaction tx =>
    match node.refuses tx.hash with
    | none => (.ok tx.hash, w)
    | some message => (.error (.rpc .inputsConsumed message), w)
  | .completeTransaction _ => (.ok ⟨[⟨9, w.db.journal.length⟩], none, 1000⟩, w)
  | .signTransaction tx =>
    let hash : Hash := 100 + w.db.journal.length
    if commits.all fun commits => commits hash = tx then (.ok ⟨tx, hash⟩, w)
    else (.error (.other "not signed"), w)
  | .markTransactions _ => (.ok (), w)
  | .deadlinePassed => (.ok true, w)
  | .now => (.ok 0, w)
  | .randomBytes length =>
    let bytes := List.replicate length (UInt8.ofNat (w.db.journal.length + 1))
    if commits.all fun commits => unusedBytes commits w.db bytes then (.ok bytes, w)
    else (.error (.other "bytes drawn twice"), w)
  | .randomPadding => (.ok [], w)
  | .senderProfileId => (.ok (sampleProfile 2), w)
  | .resolveLiveProfile _ => (.ok [5], w)
  | .encryptEnvelope .. => (.ok (), w)
  | .prepareImage .. => (.ok samplePrepared, w)
  | _ => (.error (.other "no such call"), w)

theorem runs_imageHandler (commits : Hash → RawTransaction) (node : Node) {α : Type} (p : Prog α)
    (w : ImageWorld) :
    Program.Runs (imageEffect commits) p w (Program.run (imageHandler (some commits) node) p w).1
      (Program.run (imageHandler (some commits) node) p w).2 := by
  refine Program.runs_of_run (imageHandler (some commits) node) id ?_ p w
  intro β op w
  cases op with
  | signTransaction tx =>
    simp only [imageHandler]
    split
    next h =>
      refine ⟨rfl, ?_⟩
      rintro _ ⟨⟩
      simpa using h
    next => exact ⟨rfl, fun signed hsigned => by cases hsigned⟩
  | randomBytes length =>
    simp only [imageHandler]
    split
    next h =>
      refine ⟨rfl, ?_⟩
      rintro _ ⟨⟩
      exact unused_of_unusedBytes (by simpa using h)
    next => exact ⟨rfl, fun signed hsigned => by cases hsigned⟩
  | sendTransaction tx =>
    simp only [imageHandler]
    split <;> rfl
  | _ => first | rfl | exact ⟨rfl, rfl⟩ | exact ⟨rfl, rfl, rfl⟩

/-- What the hashes of a journal commit to. -/
def commitsOf (db : Db) (txHash : Hash) : RawTransaction :=
  match (db.journal.find? fun record => record.txHash == txHash).bind (·.txHex) with
  | some signed => signed.toRawTransaction
  | none => ⟨[], []⟩

def sampleCrypto : AttachmentCrypto where
  deriveSendAttachmentKey := fun _ _ _ _ _ => List.replicate 32 0
  aes256GcmEncrypt := fun _ _ plaintext _ => plaintext ++ List.replicate 16 0
  ckbHash := fun _ => List.replicate 32 0

theorem fits_queuedImage : MessageState.queued.Fits .outgoing := by decide

/-- A wallet with one composed image message, and 1000 CKB. -/
def composedDb : Db :=
  { Db.empty with
    messages := .singleton ⟨1, .outgoing, .queued, some "", .composed 7, none, fits_queuedImage⟩
    balance := ⟨100000000000, 100000000000, 0, 0, 0⟩ }

theorem exists_of_any {α : Type} {r : Except Error α} {p : α → Bool} (h : r.toOption.any p) :
    ∃ a, r = .ok a ∧ p a := by
  cases r with
  | ok a => exact ⟨a, rfl, h⟩
  | error e => cases h

end Node

end cemp.images
