import CempMobile.Ckb.PublishRuns

open cemp.core cemp.database

namespace cemp.ckb

/-- The envelope message id recorded on a row. -/
def envelopeIdOf (db : Db) (rowId : Nat) : Option MessageId :=
  (db.messages.get? rowId).bind (·.envelopeMessageIdHex)

/-- Every transaction journaled for a message publishes an envelope under the id recorded on the
    message's row, and a receipt for that id finds the row. -/
structure EnvelopeIdStable (commits : Hash → RawTransaction) (id : LogicalMessageId) (rowId : Nat)
    (db : Db) : Prop where
  recorded : ∀ record ∈ db.journalFor (.message id), ∃ envelope,
    (commits record.txHash).envelope? = some envelope ∧
      envelopeIdOf db rowId = some envelope.header.message_id
  found : ∀ envelopeId, envelopeIdOf db rowId = some envelopeId →
    ∃ m, MessageRepository.byEnvelopeMessageId db envelopeId = some (rowId, m)

/-- The invariant behind it: no other row has the id. -/
structure NamedOnce (commits : Hash → RawTransaction) (id : LogicalMessageId) (rowId : Nat)
    (db : Db) : Prop where
  recorded : ∀ record ∈ db.journalFor (.message id), ∃ envelope,
    (commits record.txHash).envelope? = some envelope ∧
      envelopeIdOf db rowId = some envelope.header.message_id
  unique : ∀ envelopeId, envelopeIdOf db rowId = some envelopeId → ∀ row m,
    db.messages.get? row = some m → m.envelopeMessageIdHex = some envelopeId → row = rowId

/-- An access of other work: it journals nothing for the message, and gives other rows ids that no
    row has. -/
def NotForMessage (id : LogicalMessageId) (rowId : Nat) {β : Type} (access : StoreOp β) (db : Db) : Prop :=
  (∀ tx, access.records = some tx → tx.purpose ≠ .message id) ∧
    ∀ row envelopeId, access.names = some (row, envelopeId) → row ≠ rowId ∧ Undrawn db envelopeId

/-- Other work on the database. -/
def OtherWork (id : LogicalMessageId) (rowId : Nat) : Db → Db → Prop :=
  Relation.ReflTransGen fun db db' =>
    ∃ (β : Type) (access : StoreOp β), NotForMessage id rowId access db ∧ db' = (access.exec db).2

/-- What may happen before a publish of the message: other work, and transactions die. -/
structure BeforePublish (id : LogicalMessageId) (rowId : Nat) (w : PublishWorld)
    (input : PublishTextInput) (w' : PublishWorld) : Prop where
  logicalMessageId : input.logicalMessageId = id
  messageRowId : input.messageRowId = rowId
  other : OtherWork id rowId w.db w'.db
  recorded : w'.recorded = []
  named : w'.named = []
  sent : ∀ txHash ∈ w.sent, txHash ∈ w'.sent
  dead : ∀ txHash ∈ w.dead, txHash ∈ w'.dead

variable {commits : Hash → RawTransaction} {id : LogicalMessageId} {rowId : Nat} {db : Db}

section Invariant

variable {β : Type} {access : StoreOp β}

theorem NamedOnce.stable (h : NamedOnce commits id rowId db) : EnvelopeIdStable commits id rowId db := by
  refine ⟨h.recorded, fun envelopeId hid => ?_⟩
  obtain ⟨m, hget, hm⟩ := Option.bind_eq_some_iff.1 hid
  cases hfirst : MessageRepository.byEnvelopeMessageId db envelopeId with
  | none =>
    have hnone := Table.first?_eq_none.1 hfirst (rowId, m) (Table.get?_eq_some.1 hget)
    simp [hm] at hnone
  | some row =>
    obtain ⟨row, m'⟩ := row
    obtain ⟨hmem, hrow⟩ := Table.mem_of_first? hfirst
    obtain rfl := h.unique envelopeId hid row m' (Table.get?_eq_some.2 hmem) (by simpa using hrow)
    exact ⟨m', rfl⟩

/-- An id that a row has stays, unless the row is named again. -/
theorem envelopeIdOf_exec {envelopeId : MessageId} (hid : envelopeIdOf db rowId = some envelopeId)
    (hnames : ∀ row new, access.names = some (row, new) → row ≠ rowId) :
    envelopeIdOf (access.exec db).2 rowId = some envelopeId := by
  obtain ⟨m, hget, hm⟩ := Option.bind_eq_some_iff.1 hid
  obtain ⟨m', hget', hfollows⟩ := get?_exec access hget
  unfold envelopeIdOf
  rw [hget', Option.bind_some]
  obtain hsame | ⟨new, hname, -⟩ := hfollows.envelopeMessageIdHex
  · rw [hsame, hm]
  · exact absurd rfl (hnames rowId new hname)

/-- A row has no id before it is named. -/
theorem envelopeIdOf_of_exec {envelopeId : MessageId}
    (hnames : ∀ row new, access.names = some (row, new) → row ≠ rowId)
    (hid : envelopeIdOf (access.exec db).2 rowId = some envelopeId) :
    envelopeIdOf db rowId = some envelopeId := by
  obtain ⟨m', hget', hm'⟩ := Option.bind_eq_some_iff.1 hid
  cases hget : db.messages.get? rowId with
  | none =>
    obtain ⟨input, -, rfl⟩ := get?_exec_new access hget hget'
    cases hm'
  | some m =>
    obtain ⟨m'', hget'', hfollows⟩ := get?_exec access hget
    obtain rfl := Option.some.inj (hget'.symm.trans hget'')
    unfold envelopeIdOf
    rw [hget, Option.bind_some]
    obtain hsame | ⟨new, hname, -⟩ := hfollows.envelopeMessageIdHex
    · rw [← hsame, hm']
    · exact absurd rfl (hnames rowId new hname)

theorem NamedOnce.exec (h : NamedOnce commits id rowId db) (hnot : NotForMessage id rowId access db) :
    NamedOnce commits id rowId (access.exec db).2 := by
  obtain ⟨hrecords, hnames⟩ := hnot
  have hrow := fun row new hname => (hnames row new hname).1
  refine ⟨fun record hmem => ?_, fun envelopeId hid row m' hget' hm' => ?_⟩
  · rw [journalFor_exec hrecords] at hmem
    obtain ⟨envelope, henvelope, hid⟩ := h.recorded record hmem
    exact ⟨envelope, henvelope, envelopeIdOf_exec hid hrow⟩
  · have hold := envelopeIdOf_of_exec hrow hid
    cases hget : db.messages.get? row with
    | none =>
      obtain ⟨input, -, rfl⟩ := get?_exec_new access hget hget'
      cases hm'
    | some m =>
      obtain ⟨m'', hget'', hfollows⟩ := get?_exec access hget
      obtain rfl := Option.some.inj (hget'.symm.trans hget'')
      obtain hsame | ⟨new, hname, hnew⟩ := hfollows.envelopeMessageIdHex
      · exact h.unique envelopeId hold row m hget (hsame.symm.trans hm')
      · obtain rfl := Option.some.inj (hnew.symm.trans hm')
        obtain ⟨named, hnamed, hm⟩ := Option.bind_eq_some_iff.1 hold
        exact absurd hm ((hnames row new hname).2 rowId named hnamed)

theorem NamedOnce.other {db' : Db} (h : NamedOnce commits id rowId db)
    (hother : OtherWork id rowId db db') : NamedOnce commits id rowId db' := by
  induction hother with
  | refl => exact h
  | tail _ hstep ih =>
    obtain ⟨β, access, hnot, rfl⟩ := hstep
    exact ih.exec hnot

/-- Naming a row with bytes that were not drawn before, after the first transaction for it. -/
theorem namedOnce_setEnvelopeMessageId {envelopeId : MessageId} {m : Message}
    (hrow : db.messages.get? rowId = some m) (hfresh : Undrawn db envelopeId)
    (hrecorded : ∀ record ∈ db.journalFor (.message id), ∃ envelope,
      (commits record.txHash).envelope? = some envelope ∧ envelope.header.message_id = envelopeId) :
    ((StoreOp.setEnvelopeMessageId rowId envelopeId).exec db).1 = .ok () ∧
      NamedOnce commits id rowId ((StoreOp.setEnvelopeMessageId rowId envelopeId).exec db).2 := by
  have hexec : (StoreOp.setEnvelopeMessageId rowId envelopeId).exec db =
      MessageRepository.setEnvelopeMessageId rowId envelopeId db := rfl
  have hsome : (db.messages.get? rowId).isSome := by rw [hrow]; rfl
  rw [hexec, MessageRepository.setEnvelopeMessageId, if_pos hsome]
  have hnew : ∀ row, (db.messages.update (fun rowId' _ => rowId' == rowId)
      (MessageRepository.withEnvelopeMessageId envelopeId)
      (MessageRepository.key_withEnvelopeMessageId envelopeId)).get? row =
      (db.messages.get? row).map fun m =>
        if row == rowId then MessageRepository.withEnvelopeMessageId envelopeId m else m :=
    fun row => Table.get?_update
  have hid : envelopeIdOf { db with
      messages := db.messages.update (fun rowId' _ => rowId' == rowId)
        (MessageRepository.withEnvelopeMessageId envelopeId)
        (MessageRepository.key_withEnvelopeMessageId envelopeId) } rowId = some envelopeId := by
    unfold envelopeIdOf
    rw [hnew, hrow]
    simp [MessageRepository.withEnvelopeMessageId]
  refine ⟨rfl, fun record hmem => ?_, fun other hother row m' hget hm' => ?_⟩
  · obtain ⟨envelope, henvelope, rfl⟩ := hrecorded record hmem
    exact ⟨envelope, henvelope, hid⟩
  · obtain rfl := Option.some.inj (hid.symm.trans hother)
    rw [hnew] at hget
    obtain ⟨old, hold, hval⟩ := Option.map_eq_some_iff.1 hget
    by_cases hne : row = rowId
    · exact hne
    · rw [if_neg (by simpa using hne)] at hval
      subst hval
      exact absurd hm' (hfresh row old hold)

end Invariant

section Call

variable {deps : PipelineDeps} {input : PublishTextInput} {w₀ w w' : PublishWorld} {β : Type}
  {op : Op β} {r : Except Error β}

/-- Before a call has journaled anything. -/
structure Unbuilt (commits : Hash → RawTransaction) (input : PublishTextInput) (w₀ w : PublishWorld) :
    Prop where
  named : NamedOnce commits input.logicalMessageId input.messageRowId w.db
  noRecord : w.recorded = []
  noName : w.named = []
  journal : w.db.journalFor input.purpose = w₀.db.journalFor input.purpose

/-- A call that found transactions of its message in the journal, and has journaled another one. -/
def Rebuilt (input : PublishTextInput) (w₀ w : PublishWorld) : Prop :=
  w₀.db.journalFor input.purpose ≠ [] ∧ w.recorded ≠ []

/-- What is known along a call, and where it ends. -/
def Known (commits : Hash → RawTransaction) (input : PublishTextInput) (w₀ w : PublishWorld) : Prop :=
  NamedOnce commits input.logicalMessageId input.messageRowId w.db ∨ w.Owes ∨ Rebuilt input w₀ w

def Ended (commits : Hash → RawTransaction) (input : PublishTextInput) (w₀ w : PublishWorld) : Prop :=
  NamedOnce commits input.logicalMessageId input.messageRowId w.db ∨ Rebuilt input w₀ w

theorem Ended.known (h : Ended commits input w₀ w) : Known commits input w₀ w :=
  h.imp id .inr

theorem Unbuilt.known (h : Unbuilt commits input w₀ w) : Known commits input w₀ w := .inl h.named

theorem Unbuilt.ended (h : Unbuilt commits input w₀ w) : Ended commits input w₀ w := .inl h.named

/-- A step that neither journals nor names leaves what the call has done. -/
theorem silent_step (hop : Silent β op) (heffect : publishEffect commits β op w r w') :
    w'.recorded = w.recorded ∧ w'.named = w.named := by
  obtain ⟨-, hrecorded, hnamed⟩ | ⟨access, haccess, -, hrecorded, hnamed⟩ := publishEffect_cases heffect
  · exact ⟨hrecorded, hnamed⟩
  · obtain ⟨hrecords, hnames⟩ := hop access haccess
    rw [hrecorded, hnamed, hrecords, hnames]
    simp

theorem NamedOnce.silent (h : NamedOnce commits id rowId w.db) (hop : Silent β op)
    (heffect : publishEffect commits β op w r w') : NamedOnce commits id rowId w'.db := by
  obtain ⟨hdb, -, -⟩ | ⟨access, haccess, hdb, -, -⟩ := publishEffect_cases heffect
  · rw [hdb]
    exact h
  · obtain ⟨hrecords, hnames⟩ := hop access haccess
    rw [hdb]
    refine h.exec ⟨fun tx hrecord => ?_, fun row envelopeId hname => ?_⟩
    · rw [hrecords] at hrecord
      cases hrecord
    · rw [hnames] at hname
      cases hname

theorem journalFor_silent {purpose : TxPurpose} (hop : Silent β op)
    (heffect : publishEffect commits β op w r w') :
    w'.db.journalFor purpose = w.db.journalFor purpose := by
  refine journalFor_of_publish (fun access haccess tx hrecord => ?_) heffect
  rw [(hop access haccess).1] at hrecord
  cases hrecord

theorem Undrawn.silent {bytes : Bytes} (h : Undrawn w.db bytes) (hop : Silent β op)
    (heffect : publishEffect commits β op w r w') : Undrawn w'.db bytes := by
  obtain ⟨hdb, -, -⟩ | ⟨access, haccess, hdb, -, -⟩ := publishEffect_cases heffect
  · rw [hdb]
    exact h
  · rw [hdb]
    refine h.exec fun row envelopeId hname => ?_
    rw [(hop access haccess).2] at hname
    cases hname

theorem Unbuilt.silent (h : Unbuilt commits input w₀ w) (hop : Silent β op)
    (heffect : publishEffect commits β op w r w') : Unbuilt commits input w₀ w' := by
  obtain ⟨hrecorded, hnamed⟩ := silent_step hop heffect
  exact ⟨h.named.silent hop heffect, hrecorded.trans h.noRecord, hnamed.trans h.noName,
    (journalFor_silent hop heffect).trans h.journal⟩

theorem Ended.silent (h : Ended commits input w₀ w) (hop : Silent β op)
    (heffect : publishEffect commits β op w r w') : Ended commits input w₀ w' := by
  obtain h | ⟨hjournal, hrecorded⟩ := h
  · exact .inl (h.silent hop heffect)
  · refine .inr ⟨hjournal, ?_⟩
    rw [(silent_step hop heffect).1]
    exact hrecorded

/-- A part that neither journals nor names keeps what every such step keeps. -/
theorem always_silent {α : Type} {phase : PublishWorld → Prop} {p : Prog α}
    (huses : Program.Uses Silent p)
    (hkeeps : ∀ (β : Type) (op : Op β) w r w', Silent β op → publishEffect commits β op w r w' →
      phase w → phase w')
    (hknown : ∀ w, phase w → Known commits input w₀ w) (hs : phase w) :
    Program.Always (publishEffect commits) (fun _ _ => Known commits input w₀) p w fun _ => phase :=
  huses.always (fun β op w hop h => ⟨hknown w h, fun r w' heffect => hkeeps β op w r w' hop heffect h⟩) hs

/-- Nothing journaled yet, and the message id of the envelope is drawn. -/
def Drawn (commits : Hash → RawTransaction) (input : PublishTextInput) (w₀ : PublishWorld)
    (envelopeId : MessageId) (w : PublishWorld) : Prop :=
  Unbuilt commits input w₀ w ∧ Undrawn w.db envelopeId

theorem Drawn.silent {envelopeId : MessageId} (h : Drawn commits input w₀ envelopeId w)
    (hop : Silent β op) (heffect : publishEffect commits β op w r w') :
    Drawn commits input w₀ envelopeId w' :=
  ⟨h.1.silent hop heffect, h.2.silent hop heffect⟩

/-- The message id of an assembled message is drawn, and is the one its envelope carries. -/
theorem always_assembleTextMessage {params : AssembleTextMessageParams} (hnone : params.messageId = none)
    (hs : Unbuilt commits input w₀ w) :
    Program.Always (publishEffect commits) (fun _ _ => Known commits input w₀)
      (assembleTextMessage deps params) w fun r w' => Unbuilt commits input w₀ w' ∧
        ∀ assembled, r = .ok assembled → Drawn commits input w₀ assembled.messageId w' ∧
          assembled.envelope.header.message_id = assembled.messageId := by
  have hdraws : assembleTextMessage deps params = (call (.randomBytes 16)).bind fun id =>
      assembleTextMessage deps { params with messageId := some id } := by
    unfold assembleTextMessage
    rw [hnone]
    rfl
  rw [hdraws]
  refine Program.Always.step hs.known (fun e w' heffect => ?_) fun drawn w' heffect => ?_
  · exact ⟨hs.silent (by exact silent_outside nofun) heffect, fun assembled h => by cases h⟩
  have hdrawn : Drawn commits input w₀ drawn w' := by
    refine ⟨hs.silent (by exact silent_outside nofun) heffect, ?_⟩
    rw [show w'.db = w.db from heffect.1.db]
    exact heffect.2 drawn rfl
  have huses : Program.Uses Silent (assembleTextMessage deps { params with messageId := some drawn }) :=
    assembleTextMessage_uses (silent_outside fun _ h => by cases h)
      (fun _ => silent_outside fun _ h => by cases h) (silent_outside fun _ h => by cases h)
      (fun _ _ _ => silent_outside fun _ h => by cases h) _
  have hkept := always_silent huses (fun _ _ _ _ _ hop heffect h => Drawn.silent h hop heffect)
    (fun w h => h.1.known) hdrawn
  have hassembled : Program.Always (publishEffect commits) Program.Anywhere
      (assembleTextMessage deps { params with messageId := some drawn }) w' _ :=
    PublishPhases.always_assembles _ _
  refine ((hkept.and hassembled).weaken fun _ _ _ h => h.1).mono ?_
  rintro r w'' ⟨hdrawn, hassembles⟩
  refine ⟨hdrawn.1, fun assembled hok => ?_⟩
  obtain ⟨⟨conversationId, timestamp, padding, henvelope⟩, hid⟩ := hassembles assembled hok
  obtain rfl := hid drawn rfl
  exact ⟨hdrawn, by rw [henvelope]; rfl⟩

/-- The transaction is journaled, as the first one of its message, and its row is not named yet. -/
structure Unnamed (commits : Hash → RawTransaction) (input : PublishTextInput) (envelopeId : MessageId)
    (w : PublishWorld) : Prop where
  owes : w.Owes
  row : ∃ m, w.db.messages.get? input.messageRowId = some m
  undrawn : Undrawn w.db envelopeId
  journaled : ∀ record ∈ w.db.journalFor input.purpose, ∃ envelope,
    (commits record.txHash).envelope? = some envelope ∧ envelope.header.message_id = envelopeId

/-- A new transaction is journaled: the first of its message, or another one. -/
def JournaledUnder (commits : Hash → RawTransaction) (input : PublishTextInput) (w₀ : PublishWorld)
    (envelopeId : MessageId) (w : PublishWorld) : Prop :=
  Unnamed commits input envelopeId w ∨ Rebuilt input w₀ w

theorem JournaledUnder.known {envelopeId : MessageId} (h : JournaledUnder commits input w₀ envelopeId w) :
    Known commits input w₀ w :=
  .inr (h.imp (fun h => h.owes) id)

theorem Unnamed.silent {envelopeId : MessageId} (h : Unnamed commits input envelopeId w)
    (hop : Silent β op) (heffect : publishEffect commits β op w r w') :
    Unnamed commits input envelopeId w' := by
  obtain ⟨hrecorded, hnamed⟩ := silent_step hop heffect
  refine ⟨?_, ?_, h.undrawn.silent hop heffect, ?_⟩
  · unfold PublishWorld.Owes
    rw [hrecorded, hnamed]
    exact h.owes
  · obtain ⟨m, hrow⟩ := h.row
    obtain ⟨hdb, -⟩ | ⟨access, -, hdb, -⟩ := publishEffect_cases heffect
    · rw [hdb]
      exact ⟨m, hrow⟩
    · obtain ⟨m', hrow', -⟩ := get?_exec access hrow
      rw [hdb]
      exact ⟨m', hrow'⟩
  · rw [journalFor_silent hop heffect]
    exact h.journaled

theorem Rebuilt.step (h : Rebuilt input w₀ w) (heffect : publishEffect commits β op w r w') :
    Rebuilt input w₀ w' := by
  refine ⟨h.1, fun hnil => h.2 ?_⟩
  obtain ⟨-, hrecorded, -⟩ | ⟨access, -, -, hrecorded, -⟩ := publishEffect_cases heffect
  · exact hrecorded.symm.trans hnil
  · exact (List.append_eq_nil_iff.1 (hrecorded.symm.trans hnil)).1

/-- Journaling a transaction that carries the drawn id. -/
theorem Drawn.record {envelopeId : MessageId} {tx : OutgoingTransaction}
    {answer : Except Error Unit} (h : Drawn commits input w₀ envelopeId w)
    (hrow : ∃ m, w.db.messages.get? input.messageRowId = some m)
    (hcarries : ∃ envelope, (commits tx.txHash).envelope? = some envelope ∧
      envelope.header.message_id = envelopeId)
    (heffect : publishEffect commits _ (.store (.recordOutgoingTx tx)) w answer w') :
    JournaledUnder commits input w₀ envelopeId w' := by
  obtain ⟨hanswer, hrecorded, hnamed, -, -⟩ := heffect
  obtain ⟨hunbuilt, hundrawn⟩ := h
  have hdb : ((StoreOp.recordOutgoingTx tx).exec w.db).2 = w'.db := congrArg Prod.snd hanswer
  rw [hunbuilt.noRecord] at hrecorded
  by_cases hfirst : w₀.db.journalFor input.purpose = []
  · refine .inl ⟨?_, ?_, ?_, fun record hmem => ?_⟩
    · unfold PublishWorld.Owes
      rw [hrecorded, hnamed, hunbuilt.noName]
      exact Nat.one_pos
    · obtain ⟨m, hrow⟩ := hrow
      obtain ⟨m', hrow', -⟩ := get?_exec (.recordOutgoingTx tx) hrow
      rw [hdb] at hrow'
      exact ⟨m', hrow'⟩
    · rw [← hdb]
      exact hundrawn.exec fun _ _ hname => by cases hname
    · have hnone : w.db.journalFor input.purpose = [] := hunbuilt.journal.trans hfirst
      obtain ⟨hjournal, hpurpose⟩ := mem_journalFor.1 hmem
      rw [← hdb] at hjournal
      obtain hsame | ⟨tx', htx', happend⟩ := journal_exec (.recordOutgoingTx tx) w.db
      · rw [hsame] at hjournal
        have hold := mem_journalFor.2 ⟨hjournal, hpurpose⟩
        rw [hnone] at hold
        cases hold
      · obtain rfl := Option.some.inj htx'
        rw [happend, List.mem_append, List.mem_singleton] at hjournal
        obtain hjournal | rfl := hjournal
        · have hold := mem_journalFor.2 ⟨hjournal, hpurpose⟩
          rw [hnone] at hold
          cases hold
        · exact hcarries
  · refine .inr ⟨hfirst, ?_⟩
    rw [hrecorded]
    exact List.cons_ne_nil _ _

/-- The row is named, unless the transaction is not the first of its message. -/
theorem JournaledUnder.name {envelopeId : MessageId} {answer : Except Error Unit}
    (h : JournaledUnder commits input w₀ envelopeId w)
    (heffect : publishEffect commits _ (.store (.setEnvelopeMessageId input.messageRowId envelopeId))
      w answer w') : Ended commits input w₀ w' := by
  obtain h | h := h
  · obtain ⟨m, hrow⟩ := h.row
    obtain ⟨-, hnamed⟩ := namedOnce_setEnvelopeMessageId hrow h.undrawn h.journaled
    rw [congrArg Prod.snd heffect.1] at hnamed
    exact .inl hnamed
  · exact .inr (h.step heffect)

section Build

variable {α : Type} {rest : β → Prog α}

/-- A part of a call, wherever it is cut short and however it ends. -/
abbrev Ends (commits : Hash → RawTransaction) (input : PublishTextInput) (w₀ : PublishWorld)
    (p : Prog α) (w : PublishWorld) : Prop :=
  Program.Always (publishEffect commits) (fun _ _ => Known commits input w₀) p w
    fun _ => Ended commits input w₀

/-- One step before the envelope's id is drawn. -/
theorem Unbuilt.step (hs : Unbuilt commits input w₀ w) (hop : Silent β op)
    (hrest : ∀ b w', Unbuilt commits input w₀ w' → Ends commits input w₀ (rest b) w') :
    Ends commits input w₀ ((Program.perform op).bind rest) w := by
  refine Program.Always.step hs.known (fun e w' heffect => ?_) fun b w' heffect => ?_
  · exact (hs.silent hop heffect).ended
  · exact hrest b w' (hs.silent hop heffect)

/-- One step before the transaction is journaled. -/
theorem Drawn.step {envelopeId : MessageId} (hs : Drawn commits input w₀ envelopeId w)
    (hop : Silent β op)
    (hrest : ∀ b w', publishEffect commits β op w (.ok b) w' → Drawn commits input w₀ envelopeId w' →
      Ends commits input w₀ (rest b) w') :
    Ends commits input w₀ ((Program.perform op).bind rest) w := by
  refine Program.Always.step hs.1.known (fun e w' heffect => ?_) fun b w' heffect => ?_
  · exact (hs.silent hop heffect).1.ended
  · exact hrest b w' heffect (hs.silent hop heffect)

/-- The journal record, the chain reference and the name of the row, in the source's order. -/
theorem Drawn.journal {envelopeId : MessageId} {tx : OutgoingTransaction} {ref : OutPoint}
    {rest : Unit → Prog α} (hs : Drawn commits input w₀ envelopeId w)
    (hrow : ∃ m, w.db.messages.get? input.messageRowId = some m)
    (hcarries : ∃ envelope, (commits tx.txHash).envelope? = some envelope ∧
      envelope.header.message_id = envelopeId)
    (hrest : ∀ w', Ended commits input w₀ w' → Ends commits input w₀ (rest ()) w') :
    Ends commits input w₀ ((store (.recordOutgoingTx tx)).bind fun _ =>
      (store (.setMessageChainRef input.messageRowId ref)).bind fun _ =>
        (store (.setEnvelopeMessageId input.messageRowId envelopeId)).bind rest) w := by
  refine Program.Always.step hs.1.known (fun e w' heffect => ?_) fun _ w' heffect => ?_
  · have hok := record_ok tx w.db
    rw [show OutgoingTransactionRepository.record tx w.db = _ from heffect.1] at hok
    cases hok
  have hjournaled := hs.record hrow hcarries heffect
  have hkept : ∀ answer w'', publishEffect commits _
      (.store (.setMessageChainRef input.messageRowId ref)) w' answer w'' →
      JournaledUnder commits input w₀ envelopeId w'' := fun answer w'' heffect =>
    hjournaled.imp (fun h => h.silent (silent_store rfl rfl) heffect) fun h => h.step heffect
  refine Program.Always.step hjournaled.known (fun e w'' heffect => ?_) fun _ w'' heffect => ?_
  · cases congrArg Prod.fst heffect.1
  have hjournaled := hkept _ w'' heffect
  refine Program.Always.step hjournaled.known (fun e w₃ heffect => ?_) fun _ w₃ heffect => ?_
  · exact hjournaled.name heffect
  · exact hrest w₃ (hjournaled.name heffect)

/-- A new transaction is journaled under a drawn id, which its row gets. -/
theorem Unbuilt.buildAndBroadcast (hs : Unbuilt commits input w₀ w) :
    Ends commits input w₀ (buildAndBroadcast deps input) w := by
  refine hs.step (silent_store rfl rfl) fun _ w hs => ?_
  refine hs.step (silent_outside nofun) fun senderProfileId w hs => ?_
  refine hs.step (silent_outside nofun) fun recipientKemPublicKey w hs => ?_
  refine (always_assembleTextMessage rfl hs).bind (fun assembled w h => ?_) fun e w h => h.1.ended
  obtain ⟨hs, hid⟩ := h.2 assembled rfl
  refine hs.step (silent_store rfl rfl) fun _ w _ hs => ?_
  have hbuilt : Program.Always (publishEffect commits) (fun _ _ => Known commits input w₀)
      (buildSendMessageTx deps assembled) w fun r w' => Drawn commits input w₀ assembled.messageId w' ∧
        ∀ built, r = .ok built → ∃ change, built.tx.outputs = messageOutput deps assembled :: change := by
    have huses : Program.Uses Silent (buildSendMessageTx deps assembled) :=
      completeAndFinalize_uses (fun _ => silent_outside nofun) _ _
    have hkept := always_silent huses (fun _ _ _ _ _ hop heffect h => Drawn.silent h hop heffect) (fun w h => h.1.known) hs
    exact (hkept.and (PublishPhases.always_built w)).weaken fun _ _ _ h => h.1
  refine hbuilt.bind (fun built w h => ?_) fun e w h => h.1.1.ended
  obtain ⟨hs, houtputs⟩ := h
  obtain ⟨change, houtputs⟩ := houtputs built rfl
  refine hs.step (silent_store rfl rfl) fun _ w _ hs => ?_
  refine hs.step (silent_outside nofun) fun signed w hsigned hs => ?_
  refine hs.step (silent_store rfl rfl) fun _ w hmoved hs => ?_
  have hrow : ∃ m, w.db.messages.get? input.messageRowId = some m := by
    obtain ⟨m, hget, -⟩ := state_of_transition_ok (congrArg Prod.fst hmoved.1)
    refine ⟨m, ?_⟩
    rw [← hget]
    exact congrArg (·.messages.get? input.messageRowId) (congrArg Prod.snd hmoved.1).symm
  have hcarries : ∃ envelope, (commits signed.hash).envelope? = some envelope ∧
      envelope.header.message_id = assembled.messageId := by
    refine ⟨assembled.envelope, ?_, hid⟩
    rw [hsigned.2 signed rfl, RawTransaction.envelope?, houtputs]
    rfl
  refine hs.journal hrow hcarries fun w hs => ?_
  have sent : ∀ answer w', publishEffect commits _ (.sendTransaction signed) w answer w' →
      Ended commits input w₀ w' := fun answer w' heffect =>
    hs.silent (by exact silent_outside fun _ h => by cases h) heffect
  refine Program.Always.step hs.known (fun e w' heffect => sent _ w' heffect) fun accepted w' heffect => ?_
  split
  · exact sent _ w' heffect
  · exact sent _ w' heffect

end Build

/-- A publish leaves the message named once, unless it is cut short between the journal record and
    the name, or journals a transaction although it found one. -/
theorem Unbuilt.publishText (hs : Unbuilt commits input w₀ w) :
    Ends commits input w₀ (publishText deps input) w := by
  have first : Ends commits input w₀ (publishUntilBroadcast deps input) w := by
    refine hs.step (silent_store rfl rfl) fun existing w hs => ?_
    cases existing with
    | none => exact hs.buildAndBroadcast
    | some record =>
      refine (always_silent (resumeOrAbandon_silent record _)
        (fun _ _ _ _ _ hop heffect h => Unbuilt.silent h hop heffect) (fun w h => h.known) hs).bind ?_
        fun e w h => h.ended
      intro resumable w hs
      cases resumable with
      | some record => exact hs.ended
      | none => exact hs.buildAndBroadcast
  have guarded : Ends commits input w₀ ((publishUntilBroadcast deps input).catchError fun error =>
      (Program.attempt (store (.transitionMessage input.messageRowId .failed))).bind
        fun _ => Program.throw (classifyPublishError error false)) w := by
    refine first.catchError (fun _ _ h => h) fun e w hs => ?_
    have hfail : Ends commits input w₀
        (Program.attempt (store (.transitionMessage input.messageRowId .failed))) w := by
      refine Program.Always.attempt (Program.always_perform.2 ⟨hs.known, fun answer w' heffect => ?_⟩)
      exact hs.silent (silent_store rfl rfl) heffect
    exact hfail.bind (fun _ _ h => h) fun _ _ h => h
  refine guarded.bind (fun tx w hs => ?_) fun e w h => h
  have hafter : Ends commits input w₀ (publishAfterBroadcast input tx) w :=
    always_silent (publishAfterBroadcast_silent tx)
      (fun _ _ _ _ _ hop heffect h => Ended.silent h hop heffect) (fun w h => h.known) hs
  exact hafter.catchError (fun _ _ h => h) fun e w h => h

end Call

section Runs

variable {deps : PipelineDeps} {w₀ : PublishWorld}
  {calls : List (Program.Call PublishTextInput Error PublishResult PublishWorld)}

/-- The recipient stores every envelope of the message under one key. -/
theorem EnvelopeIdStable.one_key (h : EnvelopeIdStable commits id rowId db) :
    ∀ record ∈ db.journalFor (.message id), ∀ record' ∈ db.journalFor (.message id),
      ∀ envelope envelope', (commits record.txHash).envelope? = some envelope →
        (commits record'.txHash).envelope? = some envelope' →
        incomingLogicalMessageId envelope.header.message_id =
          incomingLogicalMessageId envelope'.header.message_id := by
  intro record hmem record' hmem' envelope envelope' henvelope henvelope'
  obtain ⟨e, he, hid⟩ := h.recorded record hmem
  obtain ⟨e', he', hid'⟩ := h.recorded record' hmem'
  obtain rfl := Option.some.inj (he.symm.trans henvelope)
  obtain rfl := Option.some.inj (he'.symm.trans henvelope')
  exact congrArg incomingLogicalMessageId (Option.some.inj (hid.symm.trans hid'))

/-- However a message is retried, all its envelopes have the id of its row, when no call journals a
    transaction although one is journaled, and none is cut short before the row is named. -/
theorem publishCalls_envelope_id (hunnamed : envelopeIdOf w₀.db rowId = none)
    (hunjournaled : w₀.db.journalFor (.message id) = [])
    (hruns : PublishCalls commits deps (BeforePublish id rowId) w₀ calls)
    (honce : ∀ c ∈ calls, c.before.db.journalFor (.message id) ≠ [] → c.after.recorded = [])
    (hwhole : ∀ c ∈ calls, c.out = none → ¬c.after.Owes) :
    ∀ c ∈ calls, EnvelopeIdStable commits id rowId c.after.db ∧
      ∀ record ∈ c.after.db.journalFor (.message id),
        ∀ record' ∈ c.after.db.journalFor (.message id), ∀ envelope envelope',
          (commits record.txHash).envelope? = some envelope →
          (commits record'.txHash).envelope? = some envelope' →
          incomingLogicalMessageId envelope.header.message_id =
            incomingLogicalMessageId envelope'.header.message_id := by
  have hstart : NamedOnce commits id rowId w₀.db := by
    refine ⟨fun record hmem => ?_, fun envelopeId hid => ?_⟩
    · rw [hunjournaled] at hmem
      cases hmem
    · rw [hunnamed] at hid
      cases hid
  have hcall : ∀ c ∈ calls, c.Ends (publishEffect commits) (publishText deps) →
      NamedOnce commits id rowId c.before.db → NamedOnce commits id rowId c.after.db := by
    intro c hc hends hbefore
    obtain ⟨w, hbetween⟩ := hruns.between_of_mem c hc
    obtain ⟨rfl, rfl, -, hrecorded, hnamed, -, -⟩ := hbetween
    have hunbuilt : Unbuilt commits c.input c.before c.before := ⟨hbefore, hrecorded, hnamed, rfl⟩
    have hrebuilt : ¬Rebuilt c.input c.before c.after := fun h => h.2 (honce c hc h.1)
    refine hends.known (fun w => NamedOnce commits c.input.logicalMessageId
      c.input.messageRowId w.db) hunbuilt.publishText ?_ ?_
    · rintro hcut β op w (h | h | h) rfl
      · exact h
      · exact absurd h (hwhole c hc hcut)
      · exact absurd h hrebuilt
    · rintro out - (h | h)
      · exact h
      · exact absurd h hrebuilt
  intro c hc
  obtain ⟨-, -, hafter⟩ := hruns.invariant
    (fun w input w' hbetween (h : NamedOnce commits id rowId w.db) => h.other hbetween.other)
    hcall hstart c hc
  exact ⟨hafter.stable, hafter.stable.one_key⟩

/-- A node that is lost when the message is handed to it, and one that has rejected the message. -/
def lostNode : SampleNode :=
  ⟨fun _ => .committed, fun txHash => if txHash = 100 then some (.transport, "connection lost") else none⟩
def rejectedNode : SampleNode :=
  ⟨fun txHash => if txHash = 100 then .rejected none else .committed, fun _ => none⟩

/-- What the transactions of a lost call and a rejected retry turn out to be. -/
def retriedCommits : Hash → RawTransaction :=
  journaledAs (publishCall none rejectedNode (publishCall none lostNode queuedWorld).after.next).after.db

def lostCall : Program.Call PublishTextInput Error PublishResult PublishWorld :=
  publishCall (some retriedCommits) lostNode queuedWorld

/-- A retry of it with a node. -/
def retryCall (node : SampleNode) : Program.Call PublishTextInput Error PublishResult PublishWorld :=
  publishCall (some retriedCommits) node lostCall.after.next

theorem notForMessage_requeue (db : Db) :
    NotForMessage (.composed 7) 1 (.transitionMessage 1 .queued) db := by
  refine ⟨fun tx hrecord => ?_, fun row envelopeId hname => ?_⟩
  · cases hrecord
  · cases hname

theorem beforePublish_next (w : PublishWorld) : BeforePublish (.composed 7) 1 w queuedText w.next where
  logicalMessageId := rfl
  messageRowId := rfl
  other := .single ⟨Unit, .transitionMessage 1 .queued, notForMessage_requeue w.db, rfl⟩
  recorded := rfl
  named := rfl
  sent := fun _ h => h
  dead := fun _ h => h

theorem publishCalls_retryCall (node : SampleNode) :
    PublishCalls retriedCommits samplePipeline (BeforePublish (.composed 7) 1) queuedWorld
      [lostCall, retryCall node] :=
  ⟨⟨rfl, rfl, .refl, rfl, rfl, fun _ h => h, fun _ h => h⟩, ends_publishCall .., beforePublish_next _,
    ends_publishCall .., trivial⟩

/-- A retry that finds its message on chain leaves it with one envelope. -/
theorem resumed_retry_envelope_id :
    EnvelopeIdStable retriedCommits (.composed 7) 1 (retryCall committingNode).after.db := by
  have honce : ∀ c ∈ [lostCall, retryCall committingNode],
      c.before.db.journalFor (.message (.composed 7)) ≠ [] → c.after.recorded = [] := by
    decide +kernel
  refine (publishCalls_envelope_id rfl rfl (publishCalls_retryCall committingNode) honce ?_ _
    (List.mem_cons_of_mem _ List.mem_cons_self)).1
  intro c hc hcut
  simp only [List.mem_cons, List.not_mem_nil, or_false] at hc
  obtain rfl | rfl := hc <;> cases hcut

/-- A retry that finds its message rejected publishes a second envelope under another id. -/
theorem rejected_retry_envelope_id :
    PublishCalls retriedCommits samplePipeline (BeforePublish (.composed 7) 1) queuedWorld
        [lostCall, retryCall rejectedNode] ∧
      envelopeIdOf queuedWorld.db 1 = none ∧ queuedWorld.db.journalFor (.message (.composed 7)) = [] ∧
      ((retryCall rejectedNode).after.db.journalFor (.message (.composed 7))).map
          (fun record => (retriedCommits record.txHash).envelope?.map (·.header.message_id)) =
        [some (sampleMessageId 1), some (sampleMessageId 2)] ∧
      ¬EnvelopeIdStable retriedCommits (.composed 7) 1 (retryCall rejectedNode).after.db := by
  have htwo : ((retryCall rejectedNode).after.db.journalFor (.message (.composed 7))).map
      (fun record => (retriedCommits record.txHash).envelope?.map (·.header.message_id)) =
      [some (sampleMessageId 1), some (sampleMessageId 2)] := by decide +kernel
  have hother : ∃ record ∈ (retryCall rejectedNode).after.db.journalFor (.message (.composed 7)),
      (retriedCommits record.txHash).envelope?.map (·.header.message_id) ≠
        envelopeIdOf (retryCall rejectedNode).after.db 1 := by decide +kernel
  refine ⟨publishCalls_retryCall rejectedNode, rfl, rfl, htwo, fun h => ?_⟩
  obtain ⟨record, hmem, hne⟩ := hother
  obtain ⟨envelope, henvelope, hid⟩ := h.recorded record hmem
  rw [henvelope, hid] at hne
  exact hne rfl

end Runs

end cemp.ckb
