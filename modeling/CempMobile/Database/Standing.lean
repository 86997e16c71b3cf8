import CempMobile.Database.Journal

open cemp.core cemp.database.MessageRepository

namespace cemp.database

/-- How a message stands: its row, its state, and its chain reference. -/
structure Standing where
  rowId : Nat
  state : MessageState
  chainRef : Option MessageChainRef
  deriving DecidableEq, Repr

/-- How the message with a logical id stands, if it is stored. -/
def Db.standing (db : Db) (logicalId : LogicalMessageId) : Option Standing :=
  (byLogicalId db logicalId).map fun row => ⟨row.1, row.2.state, chainRef? db row.1⟩

/-- The row whose chain reference an access would write. -/
def StoreOp.refers : {β : Type} → StoreOp β → Option Nat
  | _, setMessageChainRef rowId _ => some rowId
  | _, setChainRef ref => some ref.messageId
  | _, _ => none

/-- An access that does not move a row, write its chain reference, or insert under its logical
    id. Naming a row is not seen in how it stands. -/
structure StoreOp.Spares {β : Type} (access : StoreOp β) (db : Db) (logicalId : LogicalMessageId) :
    Prop where
  row : ∀ standing, db.standing logicalId = some standing →
    (∀ target, access.moves ≠ some (standing.rowId, target)) ∧
      access.refers ≠ some standing.rowId
  insert : ∀ input, access.inserts = some input → input.logicalMessageId ≠ logicalId

section Lemmas

variable {β : Type} {db db' : Db} {access : StoreOp β} {logicalId : LogicalMessageId} {id : Nat}
  {m : Message} {standing : Standing}

theorem standing_eq_some :
    db.standing logicalId = some standing ↔
      ∃ m, db.messages.get? standing.rowId = some m ∧ m.logicalMessageId = logicalId ∧
        m.state = standing.state ∧ chainRef? db standing.rowId = standing.chainRef := by
  unfold Db.standing
  constructor
  · intro h
    obtain ⟨⟨id, m⟩, hrow, rfl⟩ := Option.map_eq_some_iff.1 h
    obtain ⟨hget, hid⟩ := byLogicalId_eq_some.1 hrow
    exact ⟨m, hget, hid, rfl, rfl⟩
  · rintro ⟨m, hget, hid, hstate, href⟩
    rw [byLogicalId_eq_some.2 ⟨hget, hid⟩, Option.map_some, hstate, href]

theorem standing_eq_none :
    db.standing logicalId = none ↔ byLogicalId db logicalId = none := Option.map_eq_none_iff

/-- A stored message stands. -/
theorem standing_of_get? (hget : db.messages.get? id = some m) :
    db.standing m.logicalMessageId = some ⟨id, m.state, chainRef? db id⟩ :=
  standing_eq_some.2 ⟨m, hget, rfl, rfl, rfl⟩

/-- Two messages in one row are the same. -/
theorem standing_inj {other : LogicalMessageId} {standing' : Standing}
    (h : db.standing logicalId = some standing) (h' : db.standing other = some standing')
    (hrow : standing.rowId = standing'.rowId) : logicalId = other := by
  obtain ⟨m, hget, hid, -, -⟩ := standing_eq_some.1 h
  obtain ⟨m', hget', hid', -, -⟩ := standing_eq_some.1 h'
  rw [hrow] at hget
  obtain rfl := Option.some.inj (hget.symm.trans hget')
  exact hid.symm.trans hid'

/-- Writing a chain reference is seen at its row, and only there. -/
theorem chainRef?_setChainRef (db : Db) (ref : MessageChainRef) (id : Nat) :
    chainRef? (setChainRef ref db).2 id =
      if id = ref.messageId then some ref else chainRef? db id := by
  unfold chainRef? setChainRef
  by_cases hid : id = ref.messageId
  · rw [if_pos hid]
    refine Table.first?_upsert_self (by simp [MessageChainRef.key, hid]) rfl fun old hkey => ?_
    have hrow : old.messageId = ref.messageId := Option.some.inj hkey
    rw [replaceChainRef, hrow]
  · have hother : ∀ old : MessageChainRef, old.key = ref.key → (old.messageId == id) = false := by
      intro old hkey
      have hrow : old.messageId = ref.messageId := Option.some.inj hkey
      simpa [hrow] using fun h => hid h.symm
    rw [if_neg hid, Table.first?_upsert_of_ne hother]

theorem chainRefs_move (source target : BalanceCategory) (amount : Nat) (db : Db) :
    (BalanceRepository.move source target amount db).2.chainRefs = db.chainRefs := by
  obtain ⟨balance, hmove⟩ := BalanceRepository.move_frame source target amount db
  exact (congrArg Db.chainRefs hmove).trans rfl

/-- An access that writes no chain reference leaves them. -/
theorem chainRefs_exec (hrefers : access.refers = none) (db : Db) :
    (access.exec db).2.chainRefs = db.chainRefs := by
  cases access with
  | setMessageChainRef rowId ref => cases hrefers
  | setChainRef ref => cases hrefers
  | transitionMessage rowId target =>
    obtain hsame | hmoved := transitionState_frame rowId target db
    · exact congrArg Db.chainRefs hsame
    · exact (congrArg Db.chainRefs hmoved).trans rfl
  | reserveCapacity amount cell => exact chainRefs_move ..
  | markCapacityReclaimable amount => exact chainRefs_move ..
  | releaseReclaimedCapacity amount => exact chainRefs_move ..
  | _ =>
    simp only [StoreOp.exec, OutgoingTransactionRepository.record,
      OutgoingTransactionRepository.markState, MessageRepository.setEnvelopeMessageId,
      MessageRepository.insert, WatchedOutpointRepository.register,
      WatchedOutpointRepository.markSpent, ContactRepository.create,
      ConversationRepository.getOrCreateForContact, AttachmentRepository.create, ProfileRepository.create] <;>
    first
      | rfl
      | (split <;> first | rfl | (split <;> first | rfl | (split <;> rfl)))

/-- An access leaves the chain reference of a row it does not write to. -/
theorem chainRef?_exec (access : StoreOp β) (db : Db) (hrefers : access.refers ≠ some id) :
    chainRef? (access.exec db).2 id = chainRef? db id := by
  cases hwrites : access.refers with
  | none => rw [chainRef?, chainRefs_exec hwrites, chainRef?]
  | some rowId =>
    have hne : id ≠ rowId := fun h => hrefers (hwrites.trans (congrArg some h.symm))
    cases access with
    | setMessageChainRef other ref =>
      obtain rfl := Option.some.inj hwrites
      exact (chainRef?_setChainRef db _ id).trans (if_neg hne)
    | setChainRef ref =>
      obtain rfl := Option.some.inj hwrites
      exact (chainRef?_setChainRef db ref id).trans (if_neg hne)
    | _ => cases hwrites

/-- An access that inserts nothing spares a message that is not stored. -/
theorem spares_absent (hstands : db.standing logicalId = none) (hinserts : access.inserts = none) :
    access.Spares db logicalId := by
  refine ⟨fun standing h => ?_, fun input h => ?_⟩
  · rw [hstands] at h
    cases h
  · rw [hinserts] at h
    cases h

/-- A message stands as before over an access that spares it. -/
theorem standing_exec (access : StoreOp β) (hspares : access.Spares db logicalId) :
    (access.exec db).2.standing logicalId = db.standing logicalId := by
  cases hstands : db.standing logicalId with
  | some standing =>
    obtain ⟨m, hget, hid, hstate, href⟩ := standing_eq_some.1 hstands
    obtain ⟨hmoves, hrefers⟩ := hspares.row standing hstands
    obtain ⟨m', hget', hfollows⟩ := get?_exec access hget
    refine standing_eq_some.2 ⟨m', hget', hfollows.logicalMessageId.trans hid, ?_, ?_⟩
    · obtain hsame | ⟨hmove, -⟩ := hfollows.state
      · exact hsame.trans hstate
      · exact absurd hmove (hmoves _)
    · rw [chainRef?_exec access db hrefers, href]
  | none =>
    cases hafter : (access.exec db).2.standing logicalId with
    | none => rfl
    | some standing =>
      obtain ⟨m', hget', hid', -, -⟩ := standing_eq_some.1 hafter
      cases hget : db.messages.get? standing.rowId with
      | some m =>
        obtain ⟨m'', hget'', hfollows⟩ := get?_exec access hget
        obtain rfl := Option.some.inj (hget'.symm.trans hget'')
        have hid : m.logicalMessageId = logicalId := hfollows.logicalMessageId.symm.trans hid'
        have hstood := standing_of_get? hget
        rw [hid, hstands] at hstood
        cases hstood
      | none =>
        obtain ⟨input, hinserts, rfl⟩ := get?_exec_new access hget hget'
        exact absurd hid' (hspares.insert input hinserts)

/-- An insert answers the message that stands under its logical id: the one stored before, or the
    new one. -/
theorem standing_insert (input : NewMessage) (db : Db) :
    ∃ row ref, (MessageRepository.insert input db).1 = .ok row ∧
      row.2.logicalMessageId = input.logicalMessageId ∧
      (MessageRepository.insert input db).2.standing input.logicalMessageId =
        some ⟨row.1, row.2.state, ref⟩ ∧
      (db.standing input.logicalMessageId = some ⟨row.1, row.2.state, ref⟩ ∨
        db.standing input.logicalMessageId = none ∧ row.2.state = input.state) := by
  cases hrow : byLogicalId db input.logicalMessageId with
  | some row =>
    obtain ⟨hget, hid⟩ := byLogicalId_eq_some.1 hrow
    have hstands := standing_of_get? hget
    rw [hid] at hstands
    rw [insert_existing hrow]
    exact ⟨row, _, rfl, hid, hstands, .inl hstands⟩
  | none =>
    have hget : (db.messages.insert input.row (fresh_iff.2 hrow)).get? db.messages.nextId =
        some input.row := Table.get?_insert_self _
    rw [insert_new hrow]
    refine ⟨(db.messages.nextId, input.row), chainRef? db db.messages.nextId, rfl, rfl, ?_,
      .inr ⟨standing_eq_none.2 hrow, rfl⟩⟩
    exact standing_eq_some.2 ⟨input.row, hget, rfl, rfl, rfl⟩

/-- A move that is carried out is seen at its message. -/
theorem standing_transition {target : MessageState} (hstands : db.standing logicalId = some standing)
    (hok : (MessageRepository.transitionState standing.rowId target db).1 = .ok ()) :
    (MessageRepository.transitionState standing.rowId target db).2.standing logicalId =
      some { standing with state := target } := by
  obtain ⟨m, hget, hid, -, href⟩ := standing_eq_some.1 hstands
  obtain ⟨m', hget', hstate'⟩ := state_of_transition_ok hok
  obtain ⟨m'', hget'', hfollows⟩ := get?_transitionState standing.rowId target hget
  obtain rfl := Option.some.inj (hget'.symm.trans hget'')
  have hrefers : (StoreOp.transitionMessage standing.rowId target).refers ≠ some standing.rowId := by
    intro h
    cases h
  have hsame := chainRef?_exec _ db hrefers
  exact standing_eq_some.2 ⟨m', hget', hfollows.logicalMessageId.trans hid, hstate', hsame.trans href⟩

/-- A chain reference that is written is seen at its message. -/
theorem standing_setChainRef (ref : MessageChainRef) (hstands : db.standing logicalId = some standing)
    (hrow : ref.messageId = standing.rowId) :
    (setChainRef ref db).2.standing logicalId = some { standing with chainRef := some ref } := by
  obtain ⟨m, hget, hid, hstate, -⟩ := standing_eq_some.1 hstands
  refine standing_eq_some.2 ⟨m, hget, hid, hstate, ?_⟩
  rw [chainRef?_setChainRef, if_pos hrow.symm]

end Lemmas

end cemp.database
