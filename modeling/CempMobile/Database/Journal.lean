import CempMobile.Database.Store

open cemp.core

namespace cemp.database

/-- A journal record without its state, which is all of a record that ever changes. -/
def OutgoingTransaction.core (tx : OutgoingTransaction) : OutgoingTransaction :=
  { tx with state := .submitted }

/-- The journal as what was ever broadcast, oldest first. -/
def Db.journal (db : Db) : List OutgoingTransaction :=
  db.outgoingTransactions.rows.map fun r => r.2.core

/-- The part of the journal that was recorded for a purpose. -/
def Db.journalFor (db : Db) (purpose : TxPurpose) : List OutgoingTransaction :=
  db.journal.filter fun tx => tx.purpose == purpose

/-- The record an access would add to the journal. -/
def StoreOp.records : {β : Type} → StoreOp β → Option OutgoingTransaction
  | _, recordOutgoingTx tx => some tx
  | _, _ => none

/-- The state an access would give to journal records. -/
def StoreOp.marks : {β : Type} → StoreOp β → Option TxState
  | _, markOutgoingTxState _ state => some state
  | _, markOutgoingTxStateIf _ _ state => some state
  | _, _ => none

/-- The transaction an access would give up. -/
def StoreOp.abandons : {β : Type} → StoreOp β → Option Hash
  | _, markOutgoingTxState txHash .abandoned => some txHash
  | _, _ => none

/-- The row an access would move, and where to. -/
def StoreOp.moves : {β : Type} → StoreOp β → Option (Nat × MessageState)
  | _, transitionMessage rowId target => some (rowId, target)
  | _, _ => none

/-- The row an access would name, and the envelope message id it would give it. -/
def StoreOp.names : {β : Type} → StoreOp β → Option (Nat × MessageId)
  | _, setEnvelopeMessageId rowId id => some (rowId, id)
  | _, _ => none

/-- The message an access would insert. -/
def StoreOp.inserts : {β : Type} → StoreOp β → Option NewMessage
  | _, insertMessage input => some input
  | _, _ => none

/-- The attachment an access would store. -/
def StoreOp.attaches : {β : Type} → StoreOp β → Option Attachment
  | _, createAttachment input => some input
  | _, _ => none

/-- The row whose attachment an access would flag as downloaded. -/
def StoreOp.flags : {β : Type} → StoreOp β → Option Nat
  | _, markAttachmentRemoteDownloaded rowId => some rowId
  | _, _ => none

section Lemmas

variable {β : Type} {db : Db} {tx record : OutgoingTransaction} {purpose : TxPurpose} {id : Nat}
  {m : Message} {h : Hash} {state : TxState}

theorem mem_journal : record ∈ db.journal ↔ ∃ r ∈ db.outgoingTransactions.rows, r.2.core = record :=
  List.mem_map

theorem mem_journalFor : record ∈ db.journalFor purpose ↔ record ∈ db.journal ∧ record.purpose = purpose := by
  rw [Db.journalFor, List.mem_filter, beq_iff_eq]

/-- A hash is journaled once. -/
theorem journal_unique {record' : OutgoingTransaction} (hmem : record ∈ db.journal)
    (hmem' : record' ∈ db.journal) (hhash : record.txHash = record'.txHash) : record = record' := by
  obtain ⟨r, hr, rfl⟩ := mem_journal.1 hmem
  obtain ⟨r', hr', rfl⟩ := mem_journal.1 hmem'
  have hkey : r.2.key = r'.2.key := congrArg some hhash
  rw [Table.eq_of_key hr hr' hkey (Option.some_ne_none _)]

theorem mem_journal_of_latest {db : Db} {purpose : TxPurpose} {record : OutgoingTransaction}
    (h : OutgoingTransactionRepository.latestByPurpose db purpose = some record) :
    record.core ∈ db.journal ∧ record.purpose = purpose := by
  obtain ⟨r, hlast, rfl⟩ := Option.map_eq_some_iff.1 h
  obtain ⟨hmem, hpurpose, -⟩ := Table.last?_eq_some.1 hlast
  exact ⟨mem_journal.2 ⟨r, hmem, rfl⟩, by simpa using hpurpose⟩

/-- Changing the state of records leaves the journal. -/
theorem journal_setState (p : OutgoingTransaction → Bool) :
    (OutgoingTransactionRepository.setState db p state).journal = db.journal := by
  simp only [Db.journal, OutgoingTransactionRepository.setState, Table.rows_update, List.map_map]
  refine List.map_congr_left fun r _ => ?_
  simp only [Function.comp_apply]
  split <;> rfl

theorem fresh_of_journal (hfresh : ∀ record ∈ db.journal, record.txHash ≠ tx.txHash) :
    db.outgoingTransactions.Fresh tx := by
  intro r hr hkey
  exact absurd (Option.some.inj hkey) (hfresh r.2.core (mem_journal.2 ⟨r, hr, rfl⟩))

/-- A transaction that is not journaled yet is appended. -/
theorem journal_record (hfresh : ∀ record ∈ db.journal, record.txHash ≠ tx.txHash) :
    (OutgoingTransactionRepository.record tx db).2.journal = db.journal ++ [tx.core] := by
  simp only [OutgoingTransactionRepository.record, dif_pos (fresh_of_journal hfresh), Db.journal,
    Table.rows_insert, List.map_append, List.map_cons, List.map_nil]

/-- Recording never removes anything. -/
theorem journal_record_cases (tx : OutgoingTransaction) (db : Db) :
    (OutgoingTransactionRepository.record tx db).2.journal = db.journal ∨
      (OutgoingTransactionRepository.record tx db).2.journal = db.journal ++ [tx.core] := by
  unfold OutgoingTransactionRepository.record
  split
  · right
    simp only [Db.journal, Table.rows_insert, List.map_append, List.map_cons, List.map_nil]
  · exact .inl rfl

theorem record_ok (tx : OutgoingTransaction) (db : Db) :
    (OutgoingTransactionRepository.record tx db).1 = .ok () := by
  unfold OutgoingTransactionRepository.record
  split <;> rfl

theorem journal_move (source target : BalanceCategory) (amount : Nat) (db : Db) :
    (BalanceRepository.move source target amount db).2.journal = db.journal := by
  obtain ⟨balance, hmove⟩ := BalanceRepository.move_frame source target amount db
  exact (congrArg Db.journal hmove).trans rfl

theorem messages_move (source target : BalanceCategory) (amount : Nat) (db : Db) :
    (BalanceRepository.move source target amount db).2.messages = db.messages := by
  obtain ⟨balance, hmove⟩ := BalanceRepository.move_frame source target amount db
  exact (congrArg Db.messages hmove).trans rfl

/-- What an access does to the journal, other than to append the record it carries: nothing. -/
theorem journal_exec (access : StoreOp β) (db : Db) :
    (access.exec db).2.journal = db.journal ∨
      ∃ tx, access.records = some tx ∧ (access.exec db).2.journal = db.journal ++ [tx.core] := by
  cases access with
  | recordOutgoingTx tx =>
    obtain hsame | happend := journal_record_cases tx db
    · exact .inl hsame
    · exact .inr ⟨tx, rfl, happend⟩
  | transitionMessage rowId target =>
    obtain hsame | hmoved := MessageRepository.transitionState_frame rowId target db
    · exact .inl (congrArg Db.journal hsame)
    · exact .inl ((congrArg Db.journal hmoved).trans rfl)
  | markOutgoingTxState txHash state =>
    simp only [StoreOp.exec, OutgoingTransactionRepository.markState]
    split
    · exact .inl (journal_setState _)
    · exact .inl rfl
  | markOutgoingTxStateIf txHash expected state => exact .inl (journal_setState _)
  | reserveCapacity amount cell => exact .inl (journal_move ..)
  | markCapacityReclaimable amount => exact .inl (journal_move ..)
  | releaseReclaimedCapacity amount => exact .inl (journal_move ..)
  | _ =>
    left
    simp only [StoreOp.exec, MessageRepository.setEnvelopeMessageId, WatchedOutpointRepository.register,
      WatchedOutpointRepository.markSpent, MessageRepository.insert, ContactRepository.create,
      ConversationRepository.getOrCreateForContact, AttachmentRepository.create, ProfileRepository.create]
    first
      | rfl
      | (split <;> first | rfl | (split <;> first | rfl | (split <;> rfl)))

/-- The latest record of a purpose, whatever its state, ends the journal of the purpose. -/
theorem core_latestByPurpose (db : Db) (purpose : TxPurpose) :
    (OutgoingTransactionRepository.latestByPurpose db purpose).map OutgoingTransaction.core =
      (db.journalFor purpose).getLast? := by
  unfold OutgoingTransactionRepository.latestByPurpose Table.last? Db.journalFor Db.journal
  rw [List.filter_map, List.getLast?_map, Option.map_map]
  rfl

/-- Only a record for a purpose adds to the journal of the purpose. -/
theorem journalFor_exec {access : StoreOp β}
    (hrecords : ∀ tx, access.records = some tx → tx.purpose ≠ purpose) (db : Db) :
    (access.exec db).2.journalFor purpose = db.journalFor purpose := by
  unfold Db.journalFor
  obtain hsame | ⟨tx, hrecord, happend⟩ := journal_exec access db
  · rw [hsame]
  · have hne : tx.core.purpose ≠ purpose := hrecords tx hrecord
    rw [happend, List.filter_append]
    simp [hne]

/-- An access that neither records nor marks a transaction leaves the journal's table. -/
theorem outgoingTransactions_exec {access : StoreOp β} (hrecords : access.records = none)
    (hmarks : access.marks = none) (db : Db) :
    (access.exec db).2.outgoingTransactions = db.outgoingTransactions := by
  have hledger : ∀ source target amount,
      (BalanceRepository.move source target amount db).2.outgoingTransactions =
        db.outgoingTransactions := by
    intro source target amount
    obtain ⟨balance, hmove⟩ := BalanceRepository.move_frame source target amount db
    exact (congrArg Db.outgoingTransactions hmove).trans rfl
  cases access with
  | recordOutgoingTx tx => cases hrecords
  | markOutgoingTxState txHash state => cases hmarks
  | markOutgoingTxStateIf txHash expected state => cases hmarks
  | transitionMessage rowId target =>
    obtain hsame | hmoved := MessageRepository.transitionState_frame rowId target db
    · exact congrArg Db.outgoingTransactions hsame
    · exact (congrArg Db.outgoingTransactions hmoved).trans rfl
  | reserveCapacity amount cell => exact hledger ..
  | markCapacityReclaimable amount => exact hledger ..
  | releaseReclaimedCapacity amount => exact hledger ..
  | _ =>
    simp only [StoreOp.exec, MessageRepository.setEnvelopeMessageId, MessageRepository.insert,
      WatchedOutpointRepository.register, WatchedOutpointRepository.markSpent,
      ContactRepository.create, ProfileRepository.create, ConversationRepository.getOrCreateForContact,
      AttachmentRepository.create] <;>
    first
      | rfl
      | (split <;> first | rfl | (split <;> first | rfl | (split <;> rfl)))

/-- Marking records leaves what they were recorded with. -/
theorem mem_setState {p : OutgoingTransaction → Bool} {r : Nat × OutgoingTransaction}
    (hmem : r ∈ (OutgoingTransactionRepository.setState db p state).outgoingTransactions.rows) :
    ∃ r' ∈ db.outgoingTransactions.rows, r'.1 = r.1 ∧ r'.2.core = r.2.core ∧
      (r = r' ∨ r.2.state = state) := by
  obtain ⟨tx, htx, hval⟩ := Table.mem_update.1 hmem
  refine ⟨(r.1, tx), htx, rfl, ?_⟩
  split at hval
  · rw [hval]
    exact ⟨rfl, .inr rfl⟩
  · rw [← hval]
    exact ⟨rfl, .inl rfl⟩

/-- Without a new record, every journal record is one from before, marked or as it was. -/
theorem mem_exec {access : StoreOp β} (hrecords : access.records = none)
    {r : Nat × OutgoingTransaction} (hmem : r ∈ (access.exec db).2.outgoingTransactions.rows) :
    ∃ r' ∈ db.outgoingTransactions.rows, r'.1 = r.1 ∧ r'.2.core = r.2.core ∧
      (r = r' ∨ access.marks = some r.2.state) := by
  cases hmark : access.marks with
  | none =>
    rw [outgoingTransactions_exec hrecords hmark] at hmem
    exact ⟨r, hmem, rfl, rfl, .inl rfl⟩
  | some marked =>
    have hset : ∀ p : OutgoingTransaction → Bool,
        r ∈ (OutgoingTransactionRepository.setState db p marked).outgoingTransactions.rows →
        ∃ r' ∈ db.outgoingTransactions.rows, r'.1 = r.1 ∧ r'.2.core = r.2.core ∧
          (r = r' ∨ some marked = some r.2.state) := by
      intro p hmem
      obtain ⟨r', hr', hid, hcore, hcases⟩ := mem_setState hmem
      exact ⟨r', hr', hid, hcore, hcases.imp id fun h => congrArg some h.symm⟩
    cases access with
    | markOutgoingTxState txHash state =>
      obtain rfl := Option.some.inj hmark
      simp only [StoreOp.exec, OutgoingTransactionRepository.markState] at hmem
      split at hmem
      · exact hset _ hmem
      · exact ⟨r, hmem, rfl, rfl, .inl rfl⟩
    | markOutgoingTxStateIf txHash expected state =>
      obtain rfl := Option.some.inj hmark
      exact hset _ hmem
    | _ => cases hmark

/-- An access that neither moves, names nor inserts a message leaves the messages. -/
theorem messages_exec {access : StoreOp β} (hmoves : access.moves = none)
    (hnames : access.names = none) (hinserts : access.inserts = none) (db : Db) :
    (access.exec db).2.messages = db.messages := by
  cases access with
  | transitionMessage rowId target => cases hmoves
  | setEnvelopeMessageId rowId id => cases hnames
  | insertMessage input => cases hinserts
  | reserveCapacity amount cell => exact messages_move ..
  | markCapacityReclaimable amount => exact messages_move ..
  | releaseReclaimedCapacity amount => exact messages_move ..
  | _ =>
    simp only [StoreOp.exec, OutgoingTransactionRepository.record,
      OutgoingTransactionRepository.markState, WatchedOutpointRepository.register,
      WatchedOutpointRepository.markSpent, ContactRepository.create,
      ConversationRepository.getOrCreateForContact, AttachmentRepository.create, ProfileRepository.create] <;>
    first
      | rfl
      | (split <;> first | rfl | (split <;> first | rfl | (split <;> rfl)))

/-- A stored profile stays, and another is only added. -/
theorem mem_profiles_exec (access : StoreOp β) {r : Nat × StoredProfile} (h : r ∈ db.profiles.rows) :
    r ∈ (access.exec db).2.profiles.rows := by
  have hledger : ∀ source target amount,
      r ∈ (BalanceRepository.move source target amount db).2.profiles.rows := by
    intro source target amount
    obtain ⟨balance, hmove⟩ := BalanceRepository.move_frame source target amount db
    rw [hmove]
    exact h
  cases access with
  | createProfile input =>
    simp only [StoreOp.exec, ProfileRepository.create]
    split
    · rw [Table.rows_insert]
      exact List.mem_append_left _ h
    · exact h
  | transitionMessage rowId target =>
    simp only [StoreOp.exec]
    obtain hsame | hmoved := MessageRepository.transitionState_frame rowId target db
    · rw [hsame]
      exact h
    · rw [hmoved]
      exact h
  | reserveCapacity amount cell => exact hledger ..
  | markCapacityReclaimable amount => exact hledger ..
  | releaseReclaimedCapacity amount => exact hledger ..
  | _ =>
    simp only [StoreOp.exec, MessageRepository.setEnvelopeMessageId, MessageRepository.insert,
      OutgoingTransactionRepository.record, OutgoingTransactionRepository.markState,
      WatchedOutpointRepository.register, WatchedOutpointRepository.markSpent,
      ContactRepository.create, ConversationRepository.getOrCreateForContact,
      AttachmentRepository.create]
    first
      | exact h
      | (split <;> first | exact h | (split <;> first | exact h | (split <;> exact h)))

/-- An access that neither stores nor flags an attachment leaves the attachments. -/
theorem attachments_exec {access : StoreOp β} (hattaches : access.attaches = none)
    (hflags : access.flags = none) (db : Db) : (access.exec db).2.attachments = db.attachments := by
  have hledger : ∀ source target amount,
      (BalanceRepository.move source target amount db).2.attachments = db.attachments := by
    intro source target amount
    obtain ⟨balance, hmove⟩ := BalanceRepository.move_frame source target amount db
    exact (congrArg Db.attachments hmove).trans rfl
  cases access with
  | createAttachment input => cases hattaches
  | markAttachmentRemoteDownloaded rowId => cases hflags
  | transitionMessage rowId target =>
    obtain hsame | hmoved := MessageRepository.transitionState_frame rowId target db
    · exact congrArg Db.attachments hsame
    · exact (congrArg Db.attachments hmoved).trans rfl
  | reserveCapacity amount cell => exact hledger ..
  | markCapacityReclaimable amount => exact hledger ..
  | releaseReclaimedCapacity amount => exact hledger ..
  | _ =>
    simp only [StoreOp.exec, MessageRepository.setEnvelopeMessageId, MessageRepository.insert,
      OutgoingTransactionRepository.record, OutgoingTransactionRepository.markState,
      WatchedOutpointRepository.register, WatchedOutpointRepository.markSpent,
      ContactRepository.create, ProfileRepository.create, ConversationRepository.getOrCreateForContact]
    first
      | rfl
      | (split <;> first | rfl | (split <;> first | rfl | (split <;> rfl)))

/-- An access that stores no attachment of a message leaves the records of the message. -/
theorem recordsOf_exec {access : StoreOp β} {messageId : Nat}
    (hattaches : ∀ input, access.attaches = some input → input.messageId ≠ messageId) (db : Db) :
    AttachmentRepository.recordsOf (access.exec db).2 messageId =
      AttachmentRepository.recordsOf db messageId := by
  have hkept : access.attaches = none → access.flags = none →
      AttachmentRepository.recordsOf (access.exec db).2 messageId =
        AttachmentRepository.recordsOf db messageId := by
    intro hnone hflags
    unfold AttachmentRepository.recordsOf AttachmentRepository.ofMessage
    rw [attachments_exec hnone hflags]
  cases access with
  | createAttachment input => exact AttachmentRepository.recordsOf_create_of_ne (hattaches input rfl) db
  | markAttachmentRemoteDownloaded rowId =>
    exact AttachmentRepository.recordsOf_markRemoteDownloaded db rowId messageId
  | _ => exact hkept rfl rfl

theorem manifestsOf_exec {access : StoreOp β} {messageId : Nat}
    (hattaches : ∀ input, access.attaches = some input → input.messageId ≠ messageId) (db : Db) :
    AttachmentRepository.manifestsOf (access.exec db).2 messageId =
      AttachmentRepository.manifestsOf db messageId := by
  rw [AttachmentRepository.manifestsOf_eq, AttachmentRepository.manifestsOf_eq,
    recordsOf_exec hattaches]

/-- Only an access that flags a row makes it downloaded, when new attachments are not flagged. -/
theorem downloaded_exec {access : StoreOp β} {rowId : Nat}
    (hattaches : ∀ input, access.attaches = some input → input.remoteDownloaded = false)
    (h : AttachmentRepository.Downloaded (access.exec db).2 rowId) :
    access.flags = some rowId ∨ AttachmentRepository.Downloaded db rowId := by
  have hkept : access.attaches = none → access.flags = none →
      AttachmentRepository.Downloaded db rowId := by
    intro hnone hflags
    unfold AttachmentRepository.Downloaded at h
    rwa [attachments_exec hnone hflags] at h
  cases access with
  | createAttachment input =>
    exact .inr (AttachmentRepository.downloaded_create (hattaches input rfl) h)
  | markAttachmentRemoteDownloaded flagged =>
    obtain rfl | hold := AttachmentRepository.downloaded_markRemoteDownloaded h
    · exact .inl rfl
    · exact .inr hold
  | _ => exact .inr (hkept rfl rfl)

/-- What a message keeps over an access, and what may change: its state by a legal move the
    access carries, and its envelope message id by one that names it. -/
structure Message.Follows (access : StoreOp β) (id : Nat) (m m' : Message) : Prop where
  logicalMessageId : m'.logicalMessageId = m.logicalMessageId
  direction : m'.direction = m.direction
  state : m'.state = m.state ∨ (access.moves = some (id, m'.state) ∧
    canTransitionMessage m.direction m.state m'.state)
  envelopeMessageIdHex : m'.envelopeMessageIdHex = m.envelopeMessageIdHex ∨
    ∃ envelopeId, access.names = some (id, envelopeId) ∧ m'.envelopeMessageIdHex = some envelopeId

theorem Message.Follows.refl (access : StoreOp β) (id : Nat) (m : Message) :
    Message.Follows access id m m := ⟨rfl, rfl, .inl rfl, .inl rfl⟩

theorem get?_transitionState (rowId : Nat) (target : MessageState)
    (hget : db.messages.get? id = some m) :
    ∃ m', (MessageRepository.transitionState rowId target db).2.messages.get? id = some m' ∧
      Message.Follows (.transitionMessage rowId target) id m m' := by
  have hself : ∃ m', db.messages.get? id = some m' ∧
      Message.Follows (.transitionMessage rowId target) id m m' := ⟨m, hget, .refl ..⟩
  unfold MessageRepository.transitionState
  cases hrow : db.messages.get? rowId with
  | none => exact hself
  | some current =>
    by_cases hsame : current.state = target
    · simp only [hsame, if_true]
      exact hself
    · by_cases hcan : canTransitionMessage current.direction current.state target
      · simp only [hsame, hcan, if_false, if_true, MessageRepository.get?_setMessageState, hget,
          Option.map_some]
        refine ⟨_, rfl, ?_⟩
        by_cases hid : id = rowId
        · subst hid
          obtain rfl := Option.some.inj (hrow.symm.trans hget)
          rw [if_pos rfl, MessageRepository.withState_eq (canTransitionMessage_fits hcan)]
          exact ⟨rfl, rfl, .inr ⟨rfl, hcan⟩, .inl rfl⟩
        · rw [if_neg hid]
          exact .refl ..
      · simp only [hsame, hcan, if_false]
        exact hself

theorem get?_setEnvelopeMessageId (rowId : Nat) (envelopeId : MessageId)
    (hget : db.messages.get? id = some m) :
    ∃ m', (MessageRepository.setEnvelopeMessageId rowId envelopeId db).2.messages.get? id = some m' ∧
      Message.Follows (.setEnvelopeMessageId rowId envelopeId) id m m' := by
  unfold MessageRepository.setEnvelopeMessageId
  split
  · simp only [Table.get?_update, hget, Option.map_some, beq_iff_eq]
    refine ⟨_, rfl, ?_⟩
    by_cases hid : id = rowId
    · rw [if_pos hid]
      exact ⟨rfl, rfl, .inl rfl, .inr ⟨envelopeId, by rw [hid]; rfl, rfl⟩⟩
    · rw [if_neg hid]
      exact .refl ..
  · exact ⟨m, hget, .refl ..⟩

/-- No access removes a message. -/
theorem get?_exec (access : StoreOp β) (hget : db.messages.get? id = some m) :
    ∃ m', (access.exec db).2.messages.get? id = some m' ∧ Message.Follows access id m m' := by
  by_cases htouch : access.moves = none ∧ access.names = none ∧ access.inserts = none
  · obtain ⟨hmoves, hnames, hinserts⟩ := htouch
    exact ⟨m, by rw [messages_exec hmoves hnames hinserts, hget], .refl ..⟩
  · cases access with
    | transitionMessage rowId target => exact get?_transitionState rowId target hget
    | setEnvelopeMessageId rowId envelopeId => exact get?_setEnvelopeMessageId rowId envelopeId hget
    | insertMessage input =>
      refine ⟨m, ?_, .refl ..⟩
      simp only [StoreOp.exec, MessageRepository.insert]
      split
      next fresh => exact Table.get?_insert_of_some fresh hget
      next => split <;> exact hget
    | _ => exact absurd ⟨rfl, rfl, rfl⟩ htouch

/-- A message that is new after an access was inserted by it. -/
theorem get?_exec_new (access : StoreOp β) (hnone : db.messages.get? id = none)
    (hget : (access.exec db).2.messages.get? id = some m) :
    ∃ input, access.inserts = some input ∧ m = input.row := by
  by_cases htouch : access.moves = none ∧ access.names = none ∧ access.inserts = none
  · obtain ⟨hmoves, hnames, hinserts⟩ := htouch
    rw [messages_exec hmoves hnames hinserts, hnone] at hget
    cases hget
  · cases access with
    | transitionMessage rowId target =>
      obtain hsame | hmoved := MessageRepository.transitionState_frame rowId target db
      · simp only [StoreOp.exec] at hget
        rw [hsame, hnone] at hget
        cases hget
      · simp only [StoreOp.exec] at hget
        rw [hmoved, MessageRepository.get?_setMessageState, hnone] at hget
        cases hget
    | setEnvelopeMessageId rowId envelopeId =>
      simp only [StoreOp.exec, MessageRepository.setEnvelopeMessageId] at hget
      split at hget
      · simp only [Table.get?_update, hnone] at hget
        cases hget
      · simp only [hnone] at hget
        cases hget
    | insertMessage input =>
      refine ⟨input, rfl, ?_⟩
      simp only [StoreOp.exec, MessageRepository.insert] at hget
      split at hget
      · rw [Table.get?_insert] at hget
        split at hget
        · exact (Option.some.inj hget).symm
        · rw [hnone] at hget
          cases hget
      · split at hget
        · rw [hnone] at hget
          cases hget
        · rw [hnone] at hget
          cases hget
    | _ => exact absurd ⟨rfl, rfl, rfl⟩ htouch

/-- After a move that was carried out the message is where the move ends. -/
theorem state_of_transition_ok {rowId : Nat} {target : MessageState}
    (hok : (MessageRepository.transitionState rowId target db).1 = .ok ()) :
    ∃ m, (MessageRepository.transitionState rowId target db).2.messages.get? rowId = some m ∧
      m.state = target := by
  unfold MessageRepository.transitionState at hok ⊢
  cases hrow : db.messages.get? rowId with
  | none => simp only [hrow] at hok; cases hok
  | some current =>
    simp only [hrow] at hok ⊢
    by_cases hsame : current.state = target
    · simp only [hsame, if_true]
      exact ⟨current, hrow, hsame⟩
    · by_cases hcan : canTransitionMessage current.direction current.state target
      · simp only [hsame, hcan, if_false, if_true]
        exact ⟨_, MessageRepository.get?_setMessageState_self hrow (canTransitionMessage_fits hcan),
          rfl⟩
      · simp only [hsame, hcan, if_false] at hok
        cases hok

end Lemmas

end cemp.database
