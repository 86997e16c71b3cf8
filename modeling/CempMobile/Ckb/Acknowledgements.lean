import CempMobile.Ckb.Incoming
import CempMobile.Ckb.Lifecycle
import CempMobile.Ckb.Local

open cemp.core cemp.database cemp.database.MessageRepository cemp.database.AttachmentRepository

namespace cemp.ckb

/-- What a receipt asks for in a database: nothing, the download flag of a row's attachment,
    or the acknowledgement of a row with the capacity its journal record carries. -/
inductive ReceiptEffect where
  | skip
  | flag (rowId : Nat)
  | ack (rowId : Nat) (capacityShannon : Option Nat)
  deriving DecidableEq, Repr

/-- The row is found by its envelope message id alone. -/
def receiptEffect (db : Db) (receipt : Receipt) : ReceiptEffect :=
  match byEnvelopeMessageId db receipt.messageId with
  | none => .skip
  | some (rowId, m) =>
    if receipt.status = receiptAttachmentDownloaded then .flag rowId
    else if receipt.status = receiptDownloaded ∧ m.state ∈ ACKABLE_STATES then
      .ack rowId ((messageJournalInfo db rowId).bind (·.2))
    else .skip

/-- What a list of receipts has done so far: the rows acknowledged, the rows whose attachment
    was flagged, and the capacity moved from reserved to reclaimable. -/
structure Tally where
  acked : List Nat
  flagged : List Nat
  moved : Nat
  deriving DecidableEq, Repr

def Tally.none : Tally := ⟨[], [], 0⟩

def Tally.ack (t : Tally) (rowId : Nat) : Tally := { t with acked := rowId :: t.acked }
def Tally.flag (t : Tally) (rowId : Nat) : Tally := { t with flagged := rowId :: t.flagged }
def Tally.move (t : Tally) (amount : Nat) : Tally := { t with moved := t.moved + amount }

/-- The database after the receipts counted in a tally. -/
def Tally.apply (t : Tally) (db : Db) : Db :=
  { db with
    messages := db.messages.update (fun rowId _ => t.acked.contains rowId)
      (withState .reclaim_queued) (key_withState _)
    attachments := db.attachments.update (fun _ a => t.flagged.contains a.messageId)
      remotelyDownloaded key_remotelyDownloaded
    balance := { db.balance with
      reservedShannon := db.balance.reservedShannon - t.moved
      reclaimableShannon := db.balance.reclaimableShannon + t.moved } }

section Apply

variable {db : Db} {t : Tally} {rowId : Nat}

@[simp] theorem apply_none : Tally.none.apply db = db := by
  unfold Tally.apply Tally.none
  rw [Table.update_eq_self (by simp), Table.update_eq_self (by simp)]
  rfl

@[simp] theorem get?_apply :
    (t.apply db).messages.get? rowId =
      (db.messages.get? rowId).map fun m =>
        if rowId ∈ t.acked then withState .reclaim_queued m else m := by
  simp [Tally.apply, Table.get?_update]

theorem byEnvelopeMessageId_apply (id : MessageId) :
    byEnvelopeMessageId (t.apply db) id =
      (byEnvelopeMessageId db id).map fun row =>
        if row.1 ∈ t.acked then (row.1, withState .reclaim_queued row.2) else row := by
  unfold byEnvelopeMessageId Tally.apply
  rw [Table.first?_update (by simp)]
  simp

theorem messageJournalInfo_apply :
    messageJournalInfo (t.apply db) rowId = messageJournalInfo db rowId := by
  unfold messageJournalInfo
  rw [get?_apply, Option.map_map]
  refine congrFun (congrArg Option.map (funext fun m => ?_)) _
  simp only [Function.comp_apply, OutgoingTransactionRepository.latestByPurpose, Tally.apply]
  split <;> simp

/-- Flagging one more row. -/
theorem markRemoteDownloaded_apply :
    markRemoteDownloaded rowId (t.apply db) = (.ok (), (t.flag rowId).apply db) := by
  unfold markRemoteDownloaded Tally.apply Tally.flag
  rw [Table.update_update remotelyDownloaded_remotelyDownloaded (fun _ _ => rfl)]
  simp only [List.contains_cons]

/-- Acknowledging one more row. -/
theorem setMessageState_apply :
    setMessageState (t.apply db) rowId .reclaim_queued = (t.ack rowId).apply db := by
  unfold setMessageState Tally.apply Tally.ack
  rw [Table.update_update (withState_withState _) (fun _ _ => rfl)]
  simp only [List.contains_cons]

/-- Moving some more capacity, if that much is reserved. -/
theorem markReclaimable_apply (db : Db) (t : Tally) {amount : Nat} (hpos : 0 < amount)
    (hle : t.moved + amount ≤ db.balance.reservedShannon) :
    BalanceRepository.markReclaimable amount (t.apply db) = (.ok (), (t.move amount).apply db) := by
  have hshort : ¬db.balance.reservedShannon - t.moved < amount := by omega
  simp only [BalanceRepository.markReclaimable, BalanceRepository.move, Tally.apply, Tally.move,
    WalletBalance.get, WalletBalance.set, Nat.ne_of_gt hpos, hshort, if_false, Nat.add_assoc,
    Nat.sub_sub]

/-- A move of nothing, or of more than is reserved, is refused and changes nothing. -/
theorem markReclaimable_refused (db : Db) (t : Tally) {amount : Nat}
    (h : amount = 0 ∨ db.balance.reservedShannon - t.moved < amount) :
    ∃ e, BalanceRepository.markReclaimable amount (t.apply db) = (.error e, t.apply db) := by
  unfold BalanceRepository.markReclaimable BalanceRepository.move
  by_cases hzero : amount = 0
  · exact ⟨_, if_pos hzero⟩
  · have hshort : (t.apply db).balance.get .reserved_shannon < amount :=
      h.resolve_left hzero
    exact ⟨_, by rw [if_neg hzero, if_pos hshort]⟩

end Apply

section Receipt

variable {db : Db} {t : Tally} {receipt : Receipt} {rowId : Nat} {capacity : Option Nat}

/-- Only outgoing messages have the states an acknowledgement moves a row from. -/
theorem outgoing_of_ackable {m : Message} (h : m.state ∈ ACKABLE_STATES) :
    m.direction = .outgoing := by
  have hfits := m.fits
  cases hdir : m.direction with
  | outgoing => rfl
  | incoming =>
    rw [hdir] at hfits
    simp only [ACKABLE_STATES, List.mem_cons, List.not_mem_nil, or_false] at h
    rcases h with h | h | h <;> rw [h] at hfits <;> exact absurd hfits (by decide)

/-- A row is acknowledged only once: the move into the reclaim queue leaves the states an
    acknowledgement starts from. -/
theorem not_ackable_reclaim_queued (m : Message) :
    (withState .reclaim_queued m).state ∉ ACKABLE_STATES := by
  intro h
  have hdir := outgoing_of_ackable h
  rw [withState_direction] at hdir
  have hfits : MessageState.Fits .reclaim_queued m.direction := by
    rw [hdir]
    decide
  rw [withState_eq hfits] at h
  revert h
  simp [ACKABLE_STATES]

/-- A receipt that acknowledges a row names it, and the row is in an ackable state. -/
theorem receiptEffect_ack (h : receiptEffect db receipt = .ack rowId capacity) :
    receipt.status = receiptDownloaded ∧
      capacity = (messageJournalInfo db rowId).bind (·.2) ∧
      ∃ m, byEnvelopeMessageId db receipt.messageId = some (rowId, m) ∧
        db.messages.get? rowId = some m ∧ m.state ∈ ACKABLE_STATES := by
  unfold receiptEffect at h
  cases hrow : byEnvelopeMessageId db receipt.messageId with
  | none => simp [hrow] at h
  | some row =>
    obtain ⟨id, m⟩ := row
    simp only [hrow] at h
    split_ifs at h with hflag hack
    obtain ⟨rfl, rfl⟩ := ReceiptEffect.ack.inj h
    exact ⟨hack.1, rfl, m, rfl, Table.get?_eq_some.2 (Table.mem_of_first? hrow).1, hack.2⟩

/-- A receipt that flags a row's attachment names the row. -/
theorem receiptEffect_flag (h : receiptEffect db receipt = .flag rowId) :
    receipt.status = receiptAttachmentDownloaded ∧
      ∃ m, byEnvelopeMessageId db receipt.messageId = some (rowId, m) := by
  unfold receiptEffect at h
  cases hrow : byEnvelopeMessageId db receipt.messageId with
  | none => simp [hrow] at h
  | some row =>
    obtain ⟨id, m⟩ := row
    simp only [hrow] at h
    split_ifs at h with hflag hack
    obtain rfl := ReceiptEffect.flag.inj h
    exact ⟨hflag, m, rfl⟩

/-- The steps of an acknowledged row leave it in `reclaim_queued` and change nothing else. -/
theorem queueForReclaim_run {m : Message} (hget : db.messages.get? rowId = some m)
    (hstate : m.state ∈ ACKABLE_STATES) :
    runLocal (queueForReclaim rowId m.state) db =
      (.ok (), setMessageState db rowId .reclaim_queued) := by
  have hdir := outgoing_of_ackable hstate
  have walk : ∀ path, LegalPath .outgoing m.state path → path.getLastD m.state = .reclaim_queued →
      runLocal (Program.forEach (fun state => store (.transitionMessage rowId state)) path) db =
        (.ok (), setMessageState db rowId .reclaim_queued) := by
    intro path hpath hlast
    rw [walk_run hget (hdir ▸ hpath), hlast]
  simp only [ACKABLE_STATES, List.mem_cons, List.not_mem_nil, or_false] at hstate
  rcases hstate with h | h | h
  · rw [← walk [.downloaded_by_recipient, .acknowledged, .reclaim_queued] (h ▸ by decide) rfl]
    simp [queueForReclaim, h, Program.forEach_cons]
  · rw [← walk [.acknowledged, .reclaim_queued] (h ▸ by decide) rfl]
    simp [queueForReclaim, h, Program.forEach_cons]
  · rw [← walk [.reclaim_queued] (h ▸ by decide) rfl]
    simp [queueForReclaim, h, Program.forEach_cons]

theorem messageJournalInfo_setMessageState {id : Nat} {target : MessageState} :
    messageJournalInfo (setMessageState db id target) rowId = messageJournalInfo db rowId := by
  unfold messageJournalInfo
  rw [get?_setMessageState, Option.map_map]
  refine congrFun (congrArg Option.map (funext fun m => ?_)) _
  simp only [Function.comp_apply, OutgoingTransactionRepository.latestByPurpose, setMessageState]
  split <;> simp

/-- What one receipt does. Only a refused capacity move makes it fail. -/
theorem applyReceipt_run (receipt : Receipt) (db : Db) :
    runLocal (applyReceipt receipt) db =
      match receiptEffect db receipt with
      | .skip => (.ok none, db)
      | .flag rowId => (.ok none, (markRemoteDownloaded rowId db).2)
      | .ack rowId none => (.ok (some rowId), setMessageState db rowId .reclaim_queued)
      | .ack rowId (some amount) =>
        match BalanceRepository.markReclaimable amount
            (setMessageState db rowId .reclaim_queued) with
        | (.ok _, db') => (.ok (some rowId), db')
        | (.error e, db') => (.error e, db') := by
  have hread : runLocal (store (.findOutgoingByEnvelopeMessageId receipt.messageId)) db =
      (.ok ((byEnvelopeMessageId db receipt.messageId).map fun row => (row.1, row.2.state)), db) :=
    runLocal_store _ _
  unfold applyReceipt receiptEffect
  by_cases hflag : receipt.status = receiptAttachmentDownloaded
  · rw [if_pos hflag, Program.bind_eq_bind, runLocal_bind_ok hread]
    cases byEnvelopeMessageId db receipt.messageId with
    | none => rfl
    | some row =>
      simp only [hflag, if_true]
      exact runLocal_bind_ok (runLocal_store _ _)
  · rw [if_neg hflag]
    by_cases hdown : receipt.status = receiptDownloaded
    · rw [if_neg (not_not.2 hdown), Program.bind_eq_bind, runLocal_bind_ok hread]
      cases hrow : byEnvelopeMessageId db receipt.messageId with
      | none => rfl
      | some row =>
        obtain ⟨id, m⟩ := row
        have hget : db.messages.get? id = some m :=
          Table.get?_eq_some.2 (Table.mem_of_first? hrow).1
        by_cases hack : m.state ∈ ACKABLE_STATES
        · have hjournal := runLocal_store (.getMessageJournalInfo id)
            (setMessageState db id .reclaim_queued)
          simp only [StoreOp.exec, Method.read, messageJournalInfo_setMessageState] at hjournal
          simp only [Option.map_some, hack, not_true_eq_false, if_false, hdown, and_self,
            if_true, receiptDownloaded_ne,
            Program.bind_eq_bind]
          rw [runLocal_bind_ok (queueForReclaim_run hget hack), runLocal_bind_ok hjournal]
          cases messageJournalInfo db id with
          | none => rfl
          | some info =>
            obtain ⟨logicalId, capacity⟩ := info
            cases capacity with
            | none => rfl
            | some amount =>
              have hmove := runLocal_store (.markCapacityReclaimable amount)
                (setMessageState db id .reclaim_queued)
              simp only [StoreOp.exec] at hmove
              simp only [Option.bind_some]
              rcases hout : BalanceRepository.markReclaimable amount
                (setMessageState db id .reclaim_queued) with ⟨e | u, db'⟩
              · exact runLocal_bind_error (hmove.trans hout)
              · exact runLocal_bind_ok (hmove.trans hout)
        · simp [hack, hflag]
    · rw [if_pos hdown]
      cases byEnvelopeMessageId db receipt.messageId with
      | none => rfl
      | some row => simp [hflag, hdown]

end Receipt

/-- Whether a tally leaves enough reserved to move an amount. -/
def Movable (db : Db) (t : Tally) (amount : Nat) : Prop :=
  0 < amount ∧ t.moved + amount ≤ db.balance.reservedShannon

instance (db : Db) (t : Tally) (amount : Nat) : Decidable (Movable db t amount) :=
  inferInstanceAs (Decidable (_ ∧ _))

theorem not_movable {db : Db} {t : Tally} {amount : Nat} (h : ¬Movable db t amount) :
    amount = 0 ∨ db.balance.reservedShannon - t.moved < amount := by
  unfold Movable at h
  omega

/-- The tally of a list of receipts on top of another one. A row is acknowledged once. The
    receipt whose capacity cannot be moved is the last one applied. -/
def tally (db : Db) : Tally → List Receipt → Tally
  | t, [] => t
  | t, receipt :: receipts =>
    match receiptEffect db receipt with
    | .skip => tally db t receipts
    | .flag rowId => tally db (t.flag rowId) receipts
    | .ack rowId capacity =>
      if rowId ∈ t.acked then tally db t receipts
      else
        match capacity with
        | none => tally db (t.ack rowId) receipts
        | some amount =>
          if Movable db t amount then tally db ((t.ack rowId).move amount) receipts
          else t.ack rowId

/-- A receipt has the effect it has in the database before the others, except that a row is
    acknowledged only once. -/
theorem receiptEffect_apply {db : Db} {t : Tally} {receipt : Receipt} :
    receiptEffect (t.apply db) receipt =
      match receiptEffect db receipt with
      | .ack rowId capacity => if rowId ∈ t.acked then .skip else .ack rowId capacity
      | effect => effect := by
  unfold receiptEffect
  rw [byEnvelopeMessageId_apply]
  cases byEnvelopeMessageId db receipt.messageId with
  | none => rfl
  | some row =>
    obtain ⟨rowId, m⟩ := row
    by_cases hflag : receipt.status = receiptAttachmentDownloaded
    · by_cases hacked : rowId ∈ t.acked <;> simp [hflag, hacked]
    · by_cases hack : receipt.status = receiptDownloaded ∧ m.state ∈ ACKABLE_STATES <;>
        by_cases hacked : rowId ∈ t.acked <;>
        simp [hacked, hflag, hack, not_ackable_reclaim_queued, messageJournalInfo_apply]

/-- The receipts of a reply leave the database their tally describes. -/
theorem processAcknowledgements_run (db : Db) (t : Tally) (receipts : List Receipt) :
    (runLocal (processAcknowledgements receipts) (t.apply db)).2 =
      (tally db t receipts).apply db := by
  induction receipts generalizing t with
  | nil => rfl
  | cons receipt receipts ih =>
    have hstep := applyReceipt_run receipt (t.apply db)
    rw [receiptEffect_apply] at hstep
    have continued : ∀ acked t', runLocal (applyReceipt receipt) (t.apply db) =
          (.ok acked, Tally.apply t' db) →
        (runLocal (processAcknowledgements (receipt :: receipts)) (t.apply db)).2 =
          (tally db t' receipts).apply db := by
      intro acked t' hrun
      simp only [processAcknowledgements, Program.bind_eq_bind]
      rw [runLocal_bind_ok hrun, ← ih]
      exact Program.run_bind_ret_snd _ _ _ _
    cases heffect : receiptEffect db receipt with
    | skip =>
      simp only [heffect] at hstep
      rw [continued _ _ hstep, tally, heffect]
    | flag rowId =>
      simp only [heffect, markRemoteDownloaded_apply] at hstep
      rw [continued _ _ hstep, tally, heffect]
    | ack rowId capacity =>
      by_cases hacked : rowId ∈ t.acked
      · simp only [heffect, hacked, if_true] at hstep
        rw [continued _ _ hstep, tally, heffect]
        simp only [hacked, if_true]
      · cases capacity with
        | none =>
          simp only [heffect, hacked, if_false, setMessageState_apply] at hstep
          rw [continued _ _ hstep, tally, heffect]
          simp only [hacked, if_false]
        | some amount =>
          simp only [heffect, hacked, if_false, setMessageState_apply] at hstep
          by_cases hmovable : Movable db t amount
          · rw [markReclaimable_apply db (t.ack rowId) hmovable.1 hmovable.2] at hstep
            rw [continued _ _ hstep, tally, heffect]
            simp only [hacked, hmovable, if_true, if_false]
          · obtain ⟨e, hrefused⟩ := markReclaimable_refused db (t.ack rowId) (not_movable hmovable)
            rw [hrefused] at hstep
            simp only [processAcknowledgements, Program.bind_eq_bind]
            rw [runLocal_bind_error hstep, tally, heffect]
            simp only [hacked, hmovable, if_false]

/-- The profile an outgoing message was sent to: that of its conversation's contact. -/
def sentTo (db : Db) (rowId : Nat) : Option ProfileId :=
  (db.messages.get? rowId).bind fun m =>
    if m.direction = .outgoing then conversationProfile db m.conversationId else none

/-- Whether a receipt names a message sent to `sender`. -/
def NamesOwn (db : Db) (sender : ProfileId) (receipt : Receipt) : Prop :=
  (byEnvelopeMessageId db receipt.messageId).bind (fun row => sentTo db row.1) = some sender

instance (db : Db) (sender : ProfileId) (receipt : Receipt) :
    Decidable (NamesOwn db sender receipt) :=
  inferInstanceAs (Decidable (_ = _))

/-- The receipts of a sender changed that sender's messages only. Rows of other conversations
    and incoming rows are as they were, and the ledger is as if the receipts that name them
    had not been there. -/
structure AcknowledgementAuthentic (db : Db) (sender : ProfileId) (receipts : List Receipt)
    (db' : Db) : Prop where
  messages : ∀ rowId, sentTo db rowId ≠ some sender →
    db'.messages.get? rowId = db.messages.get? rowId
  attachments : ∀ rowId, sentTo db rowId ≠ some sender →
    ofMessage db' rowId = ofMessage db rowId
  ledger : db'.balance =
    (runLocal (processAcknowledgements (receipts.filter (NamesOwn db sender ·))) db).2.balance

/-- Whether the receipts, up to the first whose capacity cannot be moved, acknowledge only
    messages sent to `sender`, and flag no attachment of another message. -/
def ReceiptsOwn (db : Db) (sender : ProfileId) : Tally → List Receipt → Prop
  | _, [] => True
  | t, receipt :: receipts =>
    match receiptEffect db receipt with
    | .skip => ReceiptsOwn db sender t receipts
    | .flag rowId =>
      (sentTo db rowId = some sender ∨ ∀ a ∈ ofMessage db rowId, a.2.remoteDownloaded) ∧
        ReceiptsOwn db sender (t.flag rowId) receipts
    | .ack rowId capacity =>
      if rowId ∈ t.acked then ReceiptsOwn db sender t receipts
      else sentTo db rowId = some sender ∧
        match capacity with
        | none => ReceiptsOwn db sender (t.ack rowId) receipts
        | some amount =>
          Movable db t amount → ReceiptsOwn db sender ((t.ack rowId).move amount) receipts

/-- Everything in a tally is the sender's, or was done already. -/
structure OwnTally (db : Db) (sender : ProfileId) (t : Tally) : Prop where
  acked : ∀ rowId ∈ t.acked, sentTo db rowId = some sender
  flagged : ∀ rowId ∈ t.flagged,
    sentTo db rowId = some sender ∨ ∀ a ∈ ofMessage db rowId, a.2.remoteDownloaded

section Own

variable {db : Db} {sender : ProfileId} {t : Tally} {receipts : List Receipt} {rowId : Nat}

theorem ownTally_ack :
    OwnTally db sender (t.ack rowId) ↔ sentTo db rowId = some sender ∧ OwnTally db sender t := by
  constructor
  · intro h
    exact ⟨h.acked rowId List.mem_cons_self,
      fun id hid => h.acked id (List.mem_cons_of_mem _ hid), h.flagged⟩
  · rintro ⟨hrow, h⟩
    exact ⟨fun id hid => (List.mem_cons.1 hid).elim (fun heq => heq ▸ hrow) (h.acked id), h.flagged⟩

theorem ownTally_flag :
    OwnTally db sender (t.flag rowId) ↔
      (sentTo db rowId = some sender ∨ ∀ a ∈ ofMessage db rowId, a.2.remoteDownloaded) ∧
        OwnTally db sender t := by
  constructor
  · intro h
    exact ⟨h.flagged rowId List.mem_cons_self, h.acked,
      fun id hid => h.flagged id (List.mem_cons_of_mem _ hid)⟩
  · rintro ⟨hrow, h⟩
    exact ⟨h.acked, fun id hid => (List.mem_cons.1 hid).elim (fun heq => heq ▸ hrow) (h.flagged id)⟩

theorem ownTally_move {amount : Nat} :
    OwnTally db sender (t.move amount) ↔ OwnTally db sender t :=
  ⟨fun h => ⟨h.acked, h.flagged⟩, fun h => ⟨h.acked, h.flagged⟩⟩

/-- The condition on the receipts is the one on what they do. -/
theorem ownTally_tally :
    OwnTally db sender (tally db t receipts) ↔
      OwnTally db sender t ∧ ReceiptsOwn db sender t receipts := by
  induction receipts generalizing t with
  | nil => simp [tally, ReceiptsOwn]
  | cons receipt receipts ih =>
    unfold tally ReceiptsOwn
    cases receiptEffect db receipt with
    | skip => exact ih
    | flag rowId =>
      simp only [ih, ownTally_flag]
      tauto
    | ack rowId capacity =>
      by_cases hacked : rowId ∈ t.acked
      · simp only [hacked, if_true, ih]
      · cases capacity with
        | none =>
          simp only [hacked, if_false, ih, ownTally_ack]
          tauto
        | some amount =>
          by_cases hmovable : Movable db t amount
          · simp only [hacked, hmovable, if_true, if_false, ih, ownTally_move, ownTally_ack,
              forall_const]
            tauto
          · simp only [hacked, hmovable, if_false, ownTally_ack, false_imp_iff]
            tauto

/-- Only rows in an ackable state are acknowledged. -/
def AckableTally (db : Db) (t : Tally) : Prop :=
  ∀ rowId ∈ t.acked, ∃ m, db.messages.get? rowId = some m ∧ m.state ∈ ACKABLE_STATES

theorem ackableTally_tally (h : AckableTally db t) : AckableTally db (tally db t receipts) := by
  induction receipts generalizing t with
  | nil => exact h
  | cons receipt receipts ih =>
    unfold tally
    cases heffect : receiptEffect db receipt with
    | skip => exact ih h
    | flag rowId => exact ih h
    | ack rowId capacity =>
      obtain ⟨-, -, m, -, hget, hstate⟩ := receiptEffect_ack heffect
      have hack : AckableTally db (t.ack rowId) := fun id hid =>
        (List.mem_cons.1 hid).elim (fun heq => ⟨m, heq ▸ hget, hstate⟩) (h id)
      by_cases hacked : rowId ∈ t.acked
      · simp only [hacked, if_true]
        exact ih h
      · cases capacity with
        | none =>
          simp only [hacked, if_false]
          exact ih hack
        | some amount =>
          simp only [hacked, if_false]
          split
          · exact ih hack
          · exact hack

/-- The acknowledged rows are the ones whose state changed. -/
theorem messages_apply_iff (hackable : AckableTally db t) :
    (∀ id, sentTo db id ≠ some sender →
        (t.apply db).messages.get? id = db.messages.get? id) ↔
      ∀ id ∈ t.acked, sentTo db id = some sender := by
  constructor
  · intro hsame id hid
    by_contra hother
    obtain ⟨m, hget, hstate⟩ := hackable id hid
    have hkept := hsame id hother
    rw [get?_apply, hget, Option.map_some, if_pos hid, Option.some.injEq] at hkept
    rw [← hkept] at hstate
    exact not_ackable_reclaim_queued m hstate
  · intro hown id hother
    have hid : id ∉ t.acked := fun hid => hother (hown id hid)
    simp [hid]

theorem ofMessage_apply :
    ofMessage (t.apply db) rowId =
      (ofMessage db rowId).map fun a =>
        if rowId ∈ t.flagged then (a.1, remotelyDownloaded a.2) else a := by
  unfold ofMessage Tally.apply
  rw [Table.select_update (by simp [remotelyDownloaded])]
  refine List.map_congr_left fun a ha => ?_
  have hrow := (Table.mem_select.1 ha).2
  rw [beq_iff_eq] at hrow
  simp [hrow]

/-- The flagged rows are the ones whose attachment changed, where it was not flagged yet. -/
theorem attachments_apply_iff :
    (∀ id, sentTo db id ≠ some sender → ofMessage (t.apply db) id = ofMessage db id) ↔
      ∀ id ∈ t.flagged,
        sentTo db id = some sender ∨ ∀ a ∈ ofMessage db id, a.2.remoteDownloaded := by
  have hfixed : ∀ a : Nat × Attachment, (a.1, remotelyDownloaded a.2) = a ↔
      a.2.remoteDownloaded := by
    rintro ⟨id, a⟩
    constructor
    · intro h
      rw [← h]
      rfl
    · intro h
      replace h : a.remoteDownloaded = true := h
      rw [Prod.mk.injEq, Attachment.ext_iff]
      simp [remotelyDownloaded, h]
  have hall : ∀ id ∈ t.flagged, (ofMessage (t.apply db) id = ofMessage db id ↔
      ∀ a ∈ ofMessage db id, a.2.remoteDownloaded) := by
    intro id hid
    simp only [ofMessage_apply, hid, if_true]
    conv_lhs => rhs; rw [← List.map_id (ofMessage db id)]
    simp only [List.map_inj_left, id_eq, hfixed]
  constructor
  · intro hsame id hid
    by_cases hown : sentTo db id = some sender
    · exact .inl hown
    · exact .inr ((hall id hid).1 (hsame id hown))
  · intro hflagged id hother
    by_cases hid : id ∈ t.flagged
    · exact (hall id hid).2 ((hflagged id hid).resolve_left hother)
    · simp [ofMessage_apply, hid]

/-- When the condition holds, the receipts that name other messages move no capacity. -/
theorem moved_filter {t' : Tally} (hacked : t'.acked = t.acked) (hmoved : t'.moved = t.moved)
    (hown : ReceiptsOwn db sender t receipts) :
    (tally db t' (receipts.filter (NamesOwn db sender ·))).moved = (tally db t receipts).moved := by
  induction receipts generalizing t t' with
  | nil => exact hmoved
  | cons receipt receipts ih =>
    by_cases hnamed : NamesOwn db sender receipt
    · rw [List.filter_cons_of_pos (by simpa using hnamed)]
      cases heffect : receiptEffect db receipt with
      | skip =>
        simp only [ReceiptsOwn, tally, heffect] at hown ⊢
        exact ih hacked hmoved hown
      | flag rowId =>
        simp only [ReceiptsOwn, tally, heffect] at hown ⊢
        exact ih hacked hmoved hown.2
      | ack rowId capacity =>
        by_cases hmem : rowId ∈ t.acked
        · simp only [ReceiptsOwn, tally, heffect, hacked, hmem, if_true] at hown ⊢
          exact ih hacked hmoved hown
        · simp only [ReceiptsOwn, tally, heffect, hacked, hmem, if_false] at hown ⊢
          have hacked' : (t'.ack rowId).acked = (t.ack rowId).acked :=
            congrArg (rowId :: ·) hacked
          cases capacity with
          | none => exact ih hacked' hmoved hown.2
          | some amount =>
            have hiff : Movable db t' amount ↔ Movable db t amount := by
              simp only [Movable, hmoved]
            by_cases hmovable : Movable db t amount
            · simp only [hmovable, hiff, if_true] at hown ⊢
              exact ih hacked' (congrArg (· + amount) hmoved) (hown.2 trivial)
            · simp only [hmovable, hiff, if_false]
              exact hmoved
    · rw [List.filter_cons_of_neg (by simpa using hnamed)]
      cases heffect : receiptEffect db receipt with
      | skip =>
        simp only [ReceiptsOwn, tally, heffect] at hown ⊢
        exact ih hacked hmoved hown
      | flag rowId =>
        simp only [ReceiptsOwn, tally, heffect] at hown ⊢
        exact ih hacked hmoved hown.2
      | ack rowId capacity =>
        obtain ⟨-, -, m, hrow, -, -⟩ := receiptEffect_ack heffect
        by_cases hmem : rowId ∈ t.acked
        · simp only [ReceiptsOwn, tally, heffect, hmem, if_true] at hown ⊢
          exact ih hacked hmoved hown
        · simp only [ReceiptsOwn, heffect, hmem, if_false] at hown
          exact absurd (by simpa [NamesOwn, hrow] using hown.1) hnamed

end Own

/-- The receipts of a message are applied authentically exactly when, up to the first whose
    capacity cannot be moved, they name messages sent to its sender, or ask for nothing that
    is not done already. -/
theorem processAcknowledgements_authentic_iff (db : Db) (incoming : IncomingTextMessage) :
    AcknowledgementAuthentic db incoming.senderProfileId incoming.receipts
        (runLocal (processAcknowledgements incoming.receipts) db).2 ↔
      ReceiptsOwn db incoming.senderProfileId .none incoming.receipts := by
  generalize incoming.senderProfileId = sender
  generalize incoming.receipts = receipts
  have hrun := processAcknowledgements_run db .none receipts
  have hfilter := processAcknowledgements_run db .none
    (receipts.filter (NamesOwn db sender ·))
  rw [apply_none] at hrun hfilter
  have hackable : AckableTally db (tally db .none receipts) :=
    ackableTally_tally (by simp [AckableTally, Tally.none])
  have hnone : OwnTally db sender .none := ⟨by simp [Tally.none], by simp [Tally.none]⟩
  constructor
  · intro h
    rw [hrun] at h
    exact (ownTally_tally.1 ⟨(messages_apply_iff hackable).1 h.messages,
      attachments_apply_iff.1 h.attachments⟩).2
  · intro h
    have hown := ownTally_tally.2 ⟨hnone, h⟩
    rw [hrun]
    refine ⟨(messages_apply_iff hackable).2 hown.acked, attachments_apply_iff.2 hown.flagged, ?_⟩
    rw [hfilter]
    simp only [Tally.apply, moved_filter rfl rfl h]

/-- A database with one message, sent to a contact and available on chain. -/
def sentDb : Db :=
  { Db.empty with
    contacts := .singleton ⟨"alice", some (sampleProfile 1), false⟩
    conversations := .singleton ⟨1⟩
    messages := .singleton
      ⟨1, .outgoing, .available_on_chain, some "hi", .composed 1, some (sampleMessageId 7), by decide⟩ }

/-- A reply of another profile, with a receipt for that message. -/
def forgedReply : DecryptedEnvelope :=
  plainEnvelope (sampleProfile 2) (sampleProfile 3) (sampleMessageId 8) (some "") []
    [⟨sampleMessageId 7, receiptDownloaded⟩]

/-- A third party's receipt moves another conversation's message into the reclaim queue. -/
theorem processAcknowledgements_forged :
    ∃ incoming, processIncomingText (.ok forgedReply) (sampleProfile 3) = .ok incoming ∧
      ¬AcknowledgementAuthentic sentDb incoming.senderProfileId incoming.receipts
        (runLocal (processAcknowledgements incoming.receipts) sentDb).2 := by
  refine ⟨_, rfl, fun h => ?_⟩
  have hsame := congrArg (Option.map Message.state) (h.messages 1 (by decide))
  exact absurd hsame (by decide)

end cemp.ckb
