import CempMobile.Database.Standing
import CempMobile.Lib.Crash
import CempMobile.Sync.Intake
import CempMobile.Sync.PendingTransactions

open cemp.core cemp.database cemp.database.MessageRepository cemp.ckb

namespace cemp.sync

/-- All along a program, and where it stops, the message with a logical id stands as given. -/
def Leaves {α : Type} (logicalId : LogicalMessageId) (stands : Option Standing) (p : Prog α)
    (db : Db) : Prop :=
  Program.Always storeEffect (fun _ _ db' => db'.standing logicalId = stands) p db
    fun _ db' => db'.standing logicalId = stands

/-- A step that touches no row and inserts nothing under a logical id. -/
def Ignores (logicalId : LogicalMessageId) : (β : Type) → Op β → Prop
  | _, .store access => access.moves = none ∧ access.refers = none ∧
      ∀ input, access.inserts = some input → input.logicalMessageId ≠ logicalId
  | _, _ => True

/-- Whether a row holds the message with a logical id. -/
def Holds (db : Db) (rowId : Nat) (logicalId : LogicalMessageId) : Prop :=
  ∃ m, db.messages.get? rowId = some m ∧ m.logicalMessageId = logicalId

section Leaves

variable {α β : Type} {db : Db} {logicalId other : LogicalMessageId} {stands : Option Standing}
  {rowId : Nat}

theorem Ignores.spares {access : StoreOp β} (h : Ignores logicalId β (.store access)) (db : Db) :
    access.Spares db logicalId := by
  obtain ⟨hmoves, hrefers, hinserts⟩ := h
  refine ⟨fun standing _ => ?_, hinserts⟩
  rw [hmoves, hrefers]
  exact ⟨fun _ => Option.some_ne_none _ ∘ Eq.symm, Option.some_ne_none _ ∘ Eq.symm⟩

theorem uses_ignores {access : StoreOp β} (hmoves : access.moves = none)
    (hrefers : access.refers = none) (hinserts : access.inserts = none) :
    Program.Uses (Ignores logicalId) (store access) := by
  refine Program.uses_perform.2 ⟨hmoves, hrefers, fun input h => ?_⟩
  rw [hinserts] at h
  cases h

/-- A program that ignores a message leaves it. -/
theorem leaves_of_ignores {p : Prog α} (huses : Program.Uses (Ignores logicalId) p)
    (hstands : db.standing logicalId = stands) : Leaves logicalId stands p db := by
  refine huses.always ?_ hstands
  intro β op db hop hstands
  refine ⟨hstands, fun r db' heffect => ?_⟩
  cases op with
  | store access =>
    have hdb : db' = (access.exec db).2 := congrArg Prod.snd heffect.symm
    rw [hdb]
    exact (standing_exec access (hop.spares db)).trans hstands
  | _ =>
    obtain rfl : db' = db := heffect
    exact hstands

theorem Holds.exec (h : Holds db rowId logicalId) (access : StoreOp β) :
    Holds (access.exec db).2 rowId logicalId := by
  obtain ⟨m, hget, hid⟩ := h
  obtain ⟨m', hget', hfollows⟩ := get?_exec access hget
  exact ⟨m', hget', hfollows.logicalMessageId.trans hid⟩

/-- A row holds one message only. -/
theorem Holds.spares (h : Holds db rowId other) (hother : logicalId ≠ other) {access : StoreOp β}
    (hmoves : ∀ id target, access.moves = some (id, target) → id = rowId)
    (hrefers : ∀ id, access.refers = some id → id = rowId) (hinserts : access.inserts = none) :
    access.Spares db logicalId := by
  have hrow : ∀ standing, db.standing logicalId = some standing → standing.rowId ≠ rowId := by
    intro standing hstands heq
    obtain ⟨m, hget, hid⟩ := h
    obtain ⟨m', hget', hid', -, -⟩ := standing_eq_some.1 hstands
    rw [heq] at hget'
    obtain rfl := Option.some.inj (hget.symm.trans hget')
    exact hother (hid'.symm.trans hid)
  refine ⟨fun standing hstands => ⟨fun target hmove => ?_, fun hrefer => ?_⟩, ?_⟩
  · exact hrow standing hstands (hmoves _ _ hmove)
  · exact hrow standing hstands (hrefers _ hrefer)
  · rw [hinserts]
    exact fun input h => by cases h

/-- A stored message is held by its row. -/
theorem holds_insert {input : NewMessage} {row : Nat × Message}
    (hok : (MessageRepository.insert input db).1 = .ok row) :
    Holds (MessageRepository.insert input db).2 row.1 input.logicalMessageId := by
  cases hexists : byLogicalId db input.logicalMessageId with
  | some existing =>
    rw [insert_existing hexists] at hok ⊢
    obtain rfl := Except.ok.inj hok
    exact ⟨existing.2, byLogicalId_eq_some.1 hexists⟩
  | none =>
    rw [insert_new hexists] at hok ⊢
    obtain rfl := Except.ok.inj hok
    exact ⟨input.row, Table.get?_insert_self (fresh_iff.2 hexists), rfl⟩

/-- Inserting a message leaves the other ones. -/
theorem spares_insert (db : Db) {input : NewMessage} (hother : logicalId ≠ input.logicalMessageId) :
    (StoreOp.insertMessage input).Spares db logicalId := by
  refine ⟨fun standing _ => ⟨fun target h => (by cases h), fun h => (by cases h)⟩, fun input' h => ?_⟩
  obtain rfl : input = input' := Option.some.inj h
  exact Ne.symm hother

/-- Queueing an acknowledgement leaves every message but the response. -/
theorem queueAcknowledgement_leaves (conversationId : Nat) {original : LogicalMessageId}
    (originalCell : OutPoint) (hother : logicalId ≠ .response original)
    (hstands : db.standing logicalId = stands) :
    Leaves logicalId stands (queueAcknowledgement conversationId original originalCell) db := by
  refine always_store executes_storeEffect hstands ?_ fun e h => by cases h
  intro existing hexisting
  cases existing with
  | some _ => exact hstands
  | none =>
    simp only [Program.bind_eq_bind]
    have hsame : ∀ input : NewMessage, input.logicalMessageId = .response original →
        (MessageRepository.insert input db).2.standing logicalId = stands := by
      intro input hid
      have hspares := spares_insert db (fun h => hother (h.trans hid))
      exact (standing_exec (.insertMessage input) hspares).trans hstands
    refine always_store executes_storeEffect hstands ?_ ?_
    · intro row hrow
      refine always_store_last executes_storeEffect (hsame _ rfl) ?_
      have hspares : (StoreOp.setChainRef ⟨row.1, none, none, some originalCell.txHash,
          some originalCell.index⟩).Spares _ logicalId :=
        (holds_insert hrow).spares hother (fun _ _ h => by cases h)
          (fun id h => (Option.some.inj h).symm) rfl
      exact (standing_exec _ hspares).trans (hsame _ rfl)
    · intro e herror
      exact hsame _ rfl

/-- Advancing a message leaves every other message but the response to it. -/
theorem advanceIncomingToReceived_leaves {source : MessageState} {context : AdvanceContext}
    (hholds : Holds db rowId context.logicalMessageId) (hother : logicalId ≠ context.logicalMessageId)
    (hresponse : logicalId ≠ .response context.logicalMessageId)
    (hstands : db.standing logicalId = stands) :
    Leaves logicalId stands (advanceIncomingToReceived rowId source context) db := by
  unfold advanceIncomingToReceived
  split
  · exact hstands
  · rename_i startIndex _
    have hwalk : Program.Always storeEffect (fun _ _ db' => db'.standing logicalId = stands)
        (Program.forEach (fun next => store (.transitionMessage rowId next))
          (INCOMING_ADVANCE_ORDER.drop (startIndex + 1))) db
        (Program.OkOr (fun db' => db'.standing logicalId = stands ∧
          Holds db' rowId context.logicalMessageId) fun _ db' => db'.standing logicalId = stands) := by
      refine Program.Always.forEach _ _ ?_ ⟨hstands, hholds⟩
      rintro next - db ⟨hstands, hholds⟩
      have hsame := standing_exec (.transitionMessage rowId next) (hholds.spares hother
        (fun id target h => by cases h; rfl) (fun id h => by cases h) rfl)
      refine always_store_last executes_storeEffect hstands ?_
      cases ((StoreOp.transitionMessage rowId next).exec db).1 with
      | ok _ => exact ⟨hsame.trans hstands, hholds.exec _⟩
      | error e => exact hsame.trans hstands
    refine hwalk.bind ?_ fun e db' h => h
    rintro _ db' ⟨hstands, -⟩
    refine always_outside id hstands ?_ fun e => hstands
    intro _
    split
    · exact hstands
    · exact queueAcknowledgement_leaves _ _ hresponse hstands

/-- A step that may move one row and touches nothing else of a message. -/
def OnlyMoves (rowId : Nat) : (β : Type) → Op β → Prop
  | _, .store access => (∀ id target, access.moves = some (id, target) → id = rowId) ∧
      access.refers = none ∧ access.inserts = none
  | _, _ => True

/-- Moving one row leaves the messages in other rows. -/
theorem leaves_of_onlyMoves {p : Prog α} (huses : Program.Uses (OnlyMoves rowId) p)
    (hstands : db.standing logicalId = stands)
    (hother : ∀ standing, stands = some standing → standing.rowId ≠ rowId) :
    Leaves logicalId stands p db := by
  refine huses.always ?_ hstands
  intro β op db hop hstands
  refine ⟨hstands, fun r db' heffect => ?_⟩
  cases op with
  | store access =>
    obtain ⟨hmoves, hrefers, hinserts⟩ := hop
    have hdb : db' = (access.exec db).2 := congrArg Prod.snd heffect.symm
    have hspares : access.Spares db logicalId := by
      refine ⟨fun standing h => ⟨fun target hmove => ?_, fun hrefer => ?_⟩, fun input h => ?_⟩
      · exact hother standing (hstands.symm.trans h) (hmoves _ _ hmove)
      · rw [hrefers] at hrefer
        cases hrefer
      · rw [hinserts] at h
        cases h
    rw [hdb]
    exact (standing_exec access hspares).trans hstands
  | _ =>
    obtain rfl : db' = db := heffect
    exact hstands

theorem queueForReclaim_onlyMoves (rowId : Nat) (state : MessageState) :
    Program.Uses (OnlyMoves rowId) (queueForReclaim rowId state) := by
  have move : ∀ target, Program.Uses (OnlyMoves rowId) (store (.transitionMessage rowId target)) :=
    fun target => Program.uses_perform.2 ⟨fun id target h => by cases h; rfl, rfl, rfl⟩
  unfold queueForReclaim
  split_ifs
  · exact (move _).bind fun _ => (move _).bind fun _ => move _
  · exact (move _).bind fun _ => move _
  · exact (move _).bind fun _ => move _
  · exact move _

/-- A receipt leaves a message that is in no state an acknowledgement starts from. -/
theorem applyReceipt_leaves (receipt : Receipt) (hstands : db.standing logicalId = stands)
    (hquiet : ∀ standing, stands = some standing → standing.state ∉ ACKABLE_STATES) :
    Leaves logicalId stands (applyReceipt receipt) db := by
  unfold applyReceipt
  split
  · refine leaves_of_ignores ?_ hstands
    refine (uses_ignores rfl rfl rfl).bind fun target => ?_
    cases target with
    | none => trivial
    | some row => exact (uses_ignores rfl rfl rfl).bind fun _ => trivial
  · split
    · exact hstands
    · refine always_store executes_storeEffect hstands ?_ fun e h => by cases h
      intro found hfound
      cases found with
      | none => exact hstands
      | some row =>
        obtain ⟨rowId, state⟩ := row
        simp only
        split
        · exact hstands
        next hackable =>
          have hrow : ∃ m, db.messages.get? rowId = some m ∧ m.state = state := by
            obtain ⟨row, hrow, heq⟩ := Option.map_eq_some_iff.1 (Except.ok.inj hfound)
            cases heq
            exact ⟨row.2, Table.get?_eq_some.2 (Table.mem_of_first? hrow).1, rfl⟩
          refine leaves_of_onlyMoves (?_ : Program.Uses (OnlyMoves rowId) _) hstands ?_
          · refine (queueForReclaim_onlyMoves _ _).bind fun _ => ?_
            refine (Program.uses_perform.2 ⟨fun _ _ h => (by cases h), rfl, rfl⟩).bind fun journal => ?_
            split
            · exact (Program.uses_perform.2 ⟨fun _ _ h => (by cases h), rfl, rfl⟩).bind fun _ => trivial
            · trivial
          · intro standing hstanding heq
            obtain ⟨m, hget, hstate⟩ := hrow
            obtain ⟨m', hget', -, hstate', -⟩ := standing_eq_some.1 (hstands.trans hstanding)
            rw [heq] at hget'
            obtain rfl := Option.some.inj (hget.symm.trans hget')
            refine hquiet standing hstanding ?_
            rw [← hstate', hstate]
            exact not_not.1 hackable

theorem processAcknowledgements_leaves (receipts : List Receipt)
    (hstands : db.standing logicalId = stands)
    (hquiet : ∀ standing, stands = some standing → standing.state ∉ ACKABLE_STATES) :
    Leaves logicalId stands (processAcknowledgements receipts) db := by
  induction receipts generalizing db with
  | nil => exact hstands
  | cons receipt receipts ih =>
    refine (applyReceipt_leaves receipt hstands hquiet).bind ?_ fun e db' h => h
    intro acked db' hstands
    exact (ih hstands).bind (fun _ _ h => h) fun e db' h => h

/-- The steps of an ingest up to where the row of a message is stored: the limiter, the contact
    and the conversation, the insert under a logical id, the manifests. -/
def Prepares (inserted : Option LogicalMessageId) : (β : Type) → Op β → Prop
  | _, .store (.getRateLimit ..) => True
  | _, .store (.setRateLimit ..) => True
  | _, .store (.getContactByProfileId ..) => True
  | _, .store (.createContact ..) => True
  | _, .store (.getOrCreateConversation ..) => True
  | _, .store (.insertMessage input) => inserted = some input.logicalMessageId
  | _, .store (.listAttachments ..) => True
  | _, .store (.createAttachment ..) => True
  | _, .now => True
  | _, _ => False

theorem Prepares.ignores {inserted : Option LogicalMessageId} {op : Op β}
    (h : Prepares inserted β op) (hother : inserted ≠ some logicalId) : Ignores logicalId β op := by
  cases op with
  | store access =>
    cases access with
    | insertMessage input =>
      refine ⟨rfl, rfl, fun input' hinput => ?_⟩
      obtain rfl : input = input' := Option.some.inj hinput
      rintro rfl
      exact hother h
    | _ => first | exact h.elim | exact ⟨rfl, rfl, fun input h => by cases h⟩
  | _ => trivial

theorem consume_prepares (config : RateLimiterConfig) (senderProfileId : ProfileId) :
    Program.Uses (Prepares none) (consume config .incoming senderProfileId) := by
  have hrefill : ∀ bucket perHour nowMs,
      Program.Uses (Prepares none) (refill bucket perHour nowMs) := by
    intro bucket perHour nowMs
    refine (Program.uses_perform.2 trivial).bind fun existing => ?_
    cases existing with
    | none => exact (Program.uses_perform.2 trivial).bind fun _ => trivial
    | some _ => trivial
  refine Program.Uses.bind (Program.uses_perform.2 trivial) fun nowMs => ?_
  refine (hrefill _ _ _).bind fun global => (hrefill _ _ _).bind fun contact => ?_
  split
  · trivial
  · exact (Program.uses_perform.2 trivial).bind fun _ =>
      (Program.uses_perform.2 trivial).bind fun _ => trivial

theorem conversationOf_prepares (senderProfileId : ProfileId) :
    Program.Uses (Prepares none) (conversationOf senderProfileId) := by
  refine Program.Uses.bind ?_ fun _ => Program.uses_perform.2 trivial
  refine (Program.uses_perform.2 trivial).bind fun contact => ?_
  cases contact with
  | none => exact Program.uses_perform.2 trivial
  | some _ => trivial

theorem storeManifests_prepares (rowId : Nat) (incoming : IncomingTextMessage) :
    Program.Uses (Prepares none) (storeManifests rowId incoming) := by
  unfold storeManifests
  split
  · trivial
  · refine (Program.uses_perform.2 trivial).bind fun existing => ?_
    split
    · refine Program.Uses.forEach fun manifest _ => ?_
      split
      · exact Program.uses_perform.2 trivial
      · trivial
    · trivial

theorem storeRow_prepares (incoming : IncomingTextMessage) :
    Program.Uses (Prepares (some (incomingLogicalMessageId incoming.messageId)))
      (storeRow incoming) := by
  have weaken : ∀ (β : Type) (op : Op β), Prepares none β op →
      Prepares (some (incomingLogicalMessageId incoming.messageId)) β op := by
    intro β op h
    cases op with
    | store access => cases access <;> first | exact h.elim | trivial
    | _ => exact h
  refine ((conversationOf_prepares _).mono weaken).bind fun conversationId => ?_
  refine Program.Uses.bind (Program.uses_perform.2 rfl) fun inserted => ?_
  exact ((storeManifests_prepares _ _).mono weaken).bind fun _ => trivial

/-- What prepares the row of another message leaves a message. -/
theorem leaves_of_prepares {inserted : Option LogicalMessageId} {p : Prog α}
    (huses : Program.Uses (Prepares inserted) p) (hother : inserted ≠ some logicalId)
    (hstands : db.standing logicalId = stands) : Leaves logicalId stands p db :=
  leaves_of_ignores (huses.mono fun _ _ h => h.ignores hother) hstands

theorem storeRow_leaves (incoming : IncomingTextMessage)
    (hother : logicalId ≠ incomingLogicalMessageId incoming.messageId)
    (hstands : db.standing logicalId = stands) :
    Leaves logicalId stands (storeRow incoming) db :=
  leaves_of_prepares (storeRow_prepares incoming) (fun h => hother (Option.some.inj h).symm) hstands

/-- How a message stands from when its row is stored until it is advanced: as before, or newly
    discovered. -/
def Stored (stands : Option Standing) (standing : Standing) : Prop :=
  stands = some standing ∨ stands = none ∧ standing.state = .discovered

/-- Storing a row leaves its message as it stood, or stores it as discovered. -/
theorem storeRow_stands (incoming : IncomingTextMessage) (db : Db) :
    let logicalId := incomingLogicalMessageId incoming.messageId
    Program.Always storeEffect
      (fun _ _ db' => db'.standing logicalId = db.standing logicalId ∨
        ∃ standing, db'.standing logicalId = some standing ∧ Stored (db.standing logicalId) standing)
      (storeRow incoming) db fun r db' => ∃ conversationId row ref, r = .ok (conversationId, row) ∧
        row.2.logicalMessageId = logicalId ∧
        db'.standing logicalId = some ⟨row.1, row.2.state, ref⟩ ∧
        Stored (db.standing logicalId) ⟨row.1, row.2.state, ref⟩ := by
  intro logicalId
  have hconversation := (leaves_of_prepares (conversationOf_prepares incoming.senderProfileId)
    (Option.some_ne_none _).symm (rfl : db.standing logicalId = _)).and (always_access (conversationOf_access _) db)
  obtain ⟨id, contacts, conversations, hrun, -, -⟩ := conversationOf_run db incoming.senderProfileId
  refine (hconversation.weaken fun _ _ _ h => .inl h.1).bind ?_ ?_
  · rintro conversationId mid ⟨hstands, -⟩
    obtain ⟨row, ref, hok, hid, hafter, hbefore⟩ :=
      standing_insert (incomingRow incoming conversationId) mid
    have hstored : Stored (db.standing logicalId) ⟨row.1, row.2.state, ref⟩ := by
      rw [← hstands]
      exact hbefore
    refine always_store executes_storeEffect (.inl hstands) ?_ fun e herror => ?_
    · intro row' hrow'
      obtain rfl := Except.ok.inj (hok.symm.trans hrow')
      have hmanifests := (leaves_of_prepares (storeManifests_prepares row.1 incoming)
        (Option.some_ne_none _).symm hafter).and
        (always_access (storeManifests_access row.1 incoming) _)
      refine (hmanifests.weaken fun _ _ _ h => .inr ⟨_, h.1, hstored⟩).bind ?_ ?_
      · rintro _ db' ⟨hstands', -⟩
        exact ⟨conversationId, row, ref, rfl, hid, hstands', hstored⟩
      · rintro e db' ⟨-, herror⟩
        obtain ⟨attachments, hmanifests, -⟩ := storeManifests_run _ row.1 incoming
        rw [hmanifests] at herror
        cases herror
    · have hfailed : (Except.ok row : Except Error _) = .error e := hok.symm.trans herror
      cases hfailed
  · rintro e mid ⟨-, herror⟩
    rw [hrun] at herror
    cases herror

/-- Advancing a stored row leaves every message but its own and the response to it. -/
theorem advanceInserted_leaves {incoming : IncomingTextMessage} {source : Option OutPoint}
    {conversationId : Nat} {inserted : Nat × Message}
    (hholds : Holds db inserted.1 inserted.2.logicalMessageId)
    (hother : logicalId ≠ inserted.2.logicalMessageId)
    (hresponse : logicalId ≠ .response inserted.2.logicalMessageId)
    (hstands : db.standing logicalId = stands) :
    Leaves logicalId stands (advanceInserted incoming source conversationId inserted) db := by
  unfold advanceInserted
  split
  · have hnamed := standing_exec (.setEnvelopeMessageId inserted.1 incoming.messageId)
      (hholds.spares hother (fun _ _ h => by cases h) (fun _ h => by cases h) rfl)
    have hnames := hholds.exec (.setEnvelopeMessageId inserted.1 incoming.messageId)
    refine always_store executes_storeEffect hstands ?_ fun e _ => hnamed.trans hstands
    intro _ _
    cases source with
    | none => exact advanceIncomingToReceived_leaves hnames hother hresponse (hnamed.trans hstands)
    | some cell =>
      have hwritten := standing_exec (.setMessageChainRef inserted.1 cell)
        (hnames.spares hother (fun _ _ h => by cases h)
          (fun id h => (Option.some.inj h).symm) rfl)
      refine always_store executes_storeEffect (hnamed.trans hstands) ?_ fun e h => by cases h
      intro _ _
      exact advanceIncomingToReceived_leaves (hnames.exec _) hother hresponse
        (hwritten.trans (hnamed.trans hstands))
  · exact hstands

end Leaves

/-- What an ingest or a heal does to the database while the clock reads `nowMs` and the notifier
    posts for the rows in `posts`. -/
def passEffect (nowMs : Nat) (posts : Nat → Bool) : Program.Effect Op Error Db :=
  fun _ op db answer db' =>
    match op with
    | .store access => access.exec db = (answer, db')
    | .now => answer = .ok nowMs ∧ db' = db
    | .notify rowId => answer.isOk = posts rowId ∧ db' = db
    | _ => db' = db

theorem executes_passEffect (nowMs : Nat) (posts : Nat → Bool) : Executes (passEffect nowMs posts) :=
  fun _ _ _ _ _ h => h

theorem passEffect_store {nowMs : Nat} {posts : Nat → Bool} (β : Type) (op : Op β) (db : Db)
    (r : Except Error β) (db' : Db) (h : passEffect nowMs posts β op db r db') :
    storeEffect β op db r db' := by
  cases op with
  | now => exact h.2
  | notify rowId => exact h.2
  | _ => exact h

end cemp.sync
