import CempMobile.Sync.Advance
import CempMobile.Sync.Responses
import CempMobile.Sync.Senders

open cemp.core cemp.database cemp.database.MessageRepository cemp.ckb

namespace cemp.sync

/-- How an incoming message and the response to it stand. -/
def exchange (db : Db) (id : MessageId) : Option Standing × Option Standing :=
  (db.standing (.incoming id), db.standing (.response (.incoming id)))

/-- The cell a chain reference names, when it is complete. -/
def namedCell (ref : Option MessageChainRef) : Option OutPoint :=
  match ref with
  | some ⟨_, some txHash, some outpointIndex, _, _⟩ => some ⟨txHash, outpointIndex⟩
  | _ => none

/-- The states of a message that was received and not found invalid. -/
def RECEIVED_STATES : List MessageState :=
  [.received, .displayed, .response_queued, .response_sent, .awaiting_remote_reclaim,
    .remote_reclaimed]

/-- A message that is received from a cell and has its acknowledgement queued. -/
def Acknowledged (db : Db) (id : MessageId) (cell : OutPoint) : Prop :=
  ∃ row response, exchange db id = (some row, some response) ∧ row.state ∈ RECEIVED_STATES ∧
    namedCell row.chainRef = some cell ∧ response.state = .queued ∧
    repliedCell response.chainRef = some cell

/-- A message that is still to be advanced, if it is stored, and has no response. -/
def Pending (db : Db) (id : MessageId) : Prop :=
  (∀ row, (exchange db id).1 = some row → row.state ∈ STRANDABLE_INCOMING_STATES) ∧
    (exchange db id).2 = none

/-- A stored message whose chain reference names a cell. -/
def Written (db : Db) (id : MessageId) (cell : OutPoint) : Prop :=
  ∃ row, (exchange db id).1 = some row ∧ namedCell row.chainRef = some cell

/-- A message that was received without an acknowledgement. -/
def Unacknowledged (db : Db) (id : MessageId) : Prop :=
  (∃ row, (exchange db id).1 = some row ∧ row.state ∈ RECEIVED_STATES) ∧ (exchange db id).2 = none

/-- The steps of the ingest and of the heal between the move of a message to `received` and the
    chain reference of its acknowledgement: the notification, the lookup and the insert of the
    response, the write of the reference. -/
def AckWindow (id : MessageId) : (β : Type) → Op β → Db → Prop
  | _, .notify rowId, db => (db.standing (.incoming id)).map (·.rowId) = some rowId
  | _, .store (.getMessageByLogicalId logicalId), _ => logicalId = .response (.incoming id)
  | _, .store (.insertMessage input), _ => input.logicalMessageId = .response (.incoming id)
  | _, .store (.setChainRef ref), db =>
    (db.standing (.response (.incoming id))).map (·.rowId) = some ref.messageId
  | _, _, _ => False

instance (id : MessageId) (β : Type) (op : Op β) (db : Db) : Decidable (AckWindow id β op db) := by
  cases op with
  | store access =>
    cases access <;> first
      | exact inferInstanceAs (Decidable (_ = _))
      | exact isFalse fun h => h
  | notify rowId => exact inferInstanceAs (Decidable (_ = _))
  | _ => exact isFalse fun h => h

theorem written_iff {db : Db} {id : MessageId} {cell : OutPoint} :
    Written db id cell ↔ (exchange db id).1.bind (fun row => namedCell row.chainRef) = some cell :=
  Option.bind_eq_some_iff.symm

instance (db : Db) (id : MessageId) (cell : OutPoint) : Decidable (Written db id cell) :=
  decidable_of_iff _ written_iff.symm

section Exchange

variable {α : Type} {db db' : Db} {id : MessageId} {nowMs : Nat} {posts : Nat → Bool}

theorem exchange_eq {row response : Option Standing} :
    exchange db id = (row, response) ↔
      db.standing (.incoming id) = row ∧ db.standing (.response (.incoming id)) = response := by
  rw [exchange, Prod.mk.injEq]

/-- A program that leaves a message and the response to it. -/
theorem always_exchange {p : Prog α}
    (hrow : Leaves (.incoming id) (db.standing (.incoming id)) p db)
    (hresponse : Leaves (.response (.incoming id)) (db.standing (.response (.incoming id))) p db) :
    Program.Always storeEffect (fun _ _ db' => exchange db' id = exchange db id) p db
      fun _ db' => exchange db' id = exchange db id := by
  have both := hrow.and hresponse
  refine (both.weaken fun _ _ _ h => exchange_eq.2 h).mono fun _ _ h => exchange_eq.2 h

/-- What prepares a row is outside the window of every message. -/
theorem Prepares.outside {β : Type} {inserted : Option LogicalMessageId} {op : Op β}
    (h : Prepares inserted β op) (hother : inserted ≠ some (.response (.incoming id))) (db : Db) :
    ¬AckWindow id β op db := by
  cases op with
  | store access =>
    cases access with
    | insertMessage input =>
      intro hwindow
      refine hother ?_
      rw [show inserted = some input.logicalMessageId from h,
        show input.logicalMessageId = .response (.incoming id) from hwindow]
    | _ => first | exact h.elim | exact not_false
  | _ => first | exact h.elim | exact not_false

/-- What prepares the row of another message leaves a message and the response to it, and is
    outside the window. -/
theorem exchange_of_prepares {inserted : Option LogicalMessageId} {p : Prog α}
    (huses : Program.Uses (Prepares inserted) p) (hrow : inserted ≠ some (.incoming id))
    (hresponse : inserted ≠ some (.response (.incoming id))) :
    Program.Always (passEffect nowMs posts)
      (fun β op db' => exchange db' id = exchange db id ∧ ¬AckWindow id β op db') p db
      fun _ db' => exchange db' id = exchange db id := by
  have hleaves := (always_exchange (leaves_of_prepares huses hrow rfl)
    (leaves_of_prepares huses hresponse rfl)).and (huses.along db)
  refine ((hleaves.weaken ?_).mono fun _ _ h => h.1).narrow passEffect_store
  rintro β op db' ⟨hsame, hop⟩
  exact ⟨hsame, hop.outside hresponse db'⟩

end Exchange

/-- Whether an ingest gets as far as the row of a content message. -/
def Admitted (config : RateLimiterConfig) (db : Db) (incoming : IncomingTextMessage) (nowMs : Nat) :
    Prop :=
  ContactRepository.blockedProfile db incoming.senderProfileId = false ∧
    WithinRateLimit config db incoming.senderProfileId nowMs

instance (config : RateLimiterConfig) (db : Db) (incoming : IncomingTextMessage) (nowMs : Nat) :
    Decidable (Admitted config db incoming nowMs) :=
  inferInstanceAs (Decidable (_ = false ∧ 1 ≤ tokensAt _ _ _ _ ∧ 1 ≤ tokensAt _ _ _ _))

section Advance

variable {db : Db} {id : MessageId} {cell : OutPoint} {nowMs : Nat} {posts : Nat → Bool}
  {during : ∀ β : Type, Op β → Db → Prop} {post : Except Error Unit → Db → Prop} {rowId : Nat}
  {state : MessageState} {ref : Option MessageChainRef} {rest : Prog Unit}

/-- Only incoming messages can be advanced to `received`. -/
theorem incoming_of_strandable {m : Message} (h : m.state ∈ STRANDABLE_INCOMING_STATES) :
    m.direction = .incoming := by
  have hfits := m.fits
  cases hdir : m.direction with
  | incoming => rfl
  | outgoing =>
    rw [hdir] at hfits
    simp only [STRANDABLE_INCOMING_STATES, List.mem_cons, List.not_mem_nil, or_false] at h
    rcases h with h | h | h <;> rw [h] at hfits <;> exact absurd hfits (by decide)

/-- A legal move of a message that is being advanced and has no response. -/
theorem always_transition {target : MessageState}
    (hexchange : exchange db id = (some ⟨rowId, state, ref⟩, none))
    (hstrandable : state ∈ STRANDABLE_INCOMING_STATES) (hne : state ≠ target)
    (hcan : canTransitionMessage .incoming state target)
    (hnow : during Unit (.store (.transitionMessage rowId target)) db)
    (hrest : ∀ db', exchange db' id = (some ⟨rowId, target, ref⟩, none) →
      Program.Always (passEffect nowMs posts) during rest db' post) :
    Program.Always (passEffect nowMs posts) during
      ((store (.transitionMessage rowId target)).bind fun _ => rest) db post := by
  obtain ⟨hrow, hresponse⟩ := exchange_eq.1 hexchange
  obtain ⟨m, hget, hid, hstate, -⟩ := standing_eq_some.1 hrow
  dsimp only at hget hstate
  subst hstate
  have hdirection := incoming_of_strandable hstrandable
  rw [← hdirection] at hcan
  have hmove := transitionState_move hget hne hcan
  have hok : (MessageRepository.transitionState rowId target db).1 = .ok () := by rw [hmove]
  have hmoved := standing_transition hrow hok
  have hspared := standing_exec (.transitionMessage rowId target)
    (Holds.spares ⟨m, hget, hid⟩ (fun h => by cases h) (fun _ _ h => by cases h; rfl)
      (fun _ h => by cases h) rfl : StoreOp.Spares _ db (.response (.incoming id)))
  refine always_store (executes_passEffect _ _) hnow ?_ fun e h => ?_
  · intro _ _
    exact hrest _ (exchange_eq.2 ⟨hmoved, hspared.trans hresponse⟩)
  · have hfailed : (Except.ok () : Except Error Unit) = .error e := hok.symm.trans h
    cases hfailed

theorem exists_advanceIndex (h : state ∈ STRANDABLE_INCOMING_STATES) :
    ∃ startIndex, INCOMING_ADVANCE_ORDER.idxOf? state = some startIndex := by
  have hcases : state = .discovered ∨ state = .downloading ∨ state = .decrypting := by
    simpa [STRANDABLE_INCOMING_STATES] using h
  rcases hcases with rfl | rfl | rfl
  · exact ⟨0, rfl⟩
  · exact ⟨1, rfl⟩
  · exact ⟨2, rfl⟩

/-- The walk of a message from where it is to `received`. -/
theorem always_walk {startIndex : Nat}
    (hexchange : exchange db id = (some ⟨rowId, state, ref⟩, none))
    (hstrandable : state ∈ STRANDABLE_INCOMING_STATES)
    (hindex : INCOMING_ADVANCE_ORDER.idxOf? state = some startIndex)
    (hduring : ∀ source ∈ STRANDABLE_INCOMING_STATES, ∀ db',
      exchange db' id = (some ⟨rowId, source, ref⟩, none) →
      ∀ target, during Unit (.store (.transitionMessage rowId target)) db')
    (hrest : ∀ db', exchange db' id = (some ⟨rowId, .received, ref⟩, none) →
      Program.Always (passEffect nowMs posts) during rest db' post) :
    Program.Always (passEffect nowMs posts) during
      ((Program.forEach (fun next => store (.transitionMessage rowId next))
        (INCOMING_ADVANCE_ORDER.drop (startIndex + 1))).bind fun _ => rest) db post := by
  have step : ∀ {source target : MessageState} {p : Prog Unit} {db' : Db},
      source ∈ STRANDABLE_INCOMING_STATES → source ≠ target →
      canTransitionMessage .incoming source target →
      exchange db' id = (some ⟨rowId, source, ref⟩, none) →
      (∀ db'', exchange db'' id = (some ⟨rowId, target, ref⟩, none) →
        Program.Always (passEffect nowMs posts) during p db'' post) →
      Program.Always (passEffect nowMs posts) during
        ((store (.transitionMessage rowId target)).bind fun _ => p) db' post := by
    intro source target p db' hsource hne hcan hexchange' hp
    exact always_transition hexchange' hsource hne hcan (hduring _ hsource _ hexchange' _) hp
  have fromDecrypting : ∀ db', exchange db' id = (some ⟨rowId, .decrypting, ref⟩, none) →
      Program.Always (passEffect nowMs posts) during
        ((store (.transitionMessage rowId .received)).bind fun _ => rest) db' post :=
    fun db' h => step (by decide) (by decide) (by decide) h hrest
  have fromDownloading : ∀ db', exchange db' id = (some ⟨rowId, .downloading, ref⟩, none) →
      Program.Always (passEffect nowMs posts) during
        ((store (.transitionMessage rowId .decrypting)).bind fun _ =>
          (store (.transitionMessage rowId .received)).bind fun _ => rest) db' post :=
    fun db' h => step (by decide) (by decide) (by decide) h fromDecrypting
  have hcases : state = .discovered ∨ state = .downloading ∨ state = .decrypting := by
    simpa [STRANDABLE_INCOMING_STATES] using hstrandable
  rcases hcases with rfl | rfl | rfl
  · obtain rfl : 0 = startIndex := Option.some.inj hindex
    simp only [INCOMING_ADVANCE_ORDER, List.drop, Program.forEach_cons, Program.forEach_nil,
      Program.bind_assoc, Program.ret_bind]
    exact step (by decide) (by decide) (by decide) hexchange fromDownloading
  · obtain rfl : 1 = startIndex := Option.some.inj hindex
    simp only [INCOMING_ADVANCE_ORDER, List.drop, Program.forEach_cons, Program.forEach_nil,
      Program.bind_assoc, Program.ret_bind]
    exact fromDownloading db hexchange
  · obtain rfl : 2 = startIndex := Option.some.inj hindex
    simp only [INCOMING_ADVANCE_ORDER, List.drop, Program.forEach_cons, Program.forEach_nil,
      Program.bind_assoc, Program.ret_bind]
    exact fromDecrypting db hexchange

/-- Queueing the acknowledgement of a received message, all of it within the window. -/
theorem always_queueAcknowledgement (conversationId : Nat)
    (hexchange : exchange db id = (some ⟨rowId, .received, ref⟩, none))
    (hcell : namedCell ref = some cell)
    (hduring : ∀ (β : Type) (op : Op β) (db' : Db), AckWindow id β op db' → during β op db')
    (hpost : ∀ db', Acknowledged db' id cell → post (.ok ()) db') :
    Program.Always (passEffect nowMs posts) during
      (queueAcknowledgement conversationId (.incoming id) cell) db post := by
  obtain ⟨hrow, hresponse⟩ := exchange_eq.1 hexchange
  have hnone := standing_eq_none.1 hresponse
  unfold queueAcknowledgement
  rw [Program.bind_eq_bind]
  refine always_store (executes_passEffect _ _) (hduring _ _ _ rfl) ?_ fun e h => by cases h
  intro existing hexisting
  obtain rfl : none = existing := hnone.symm.trans (Except.ok.inj hexisting)
  simp only [Program.bind_eq_bind]
  refine always_store (executes_passEffect _ _) (hduring _ _ _ rfl) ?_ ?_
  · intro inserted hinserted
    obtain ⟨row, ref', hok, -, hafter, hbefore⟩ := standing_insert _ db
    obtain rfl : row = inserted := Except.ok.inj (hok.symm.trans hinserted)
    have hqueued : row.2.state = .queued := by
      rcases hbefore with h | ⟨-, h⟩
      · exact absurd (h.symm.trans hresponse) (Option.some_ne_none _)
      · exact h
    have hkept : ∀ input : NewMessage, input.logicalMessageId = .response (.incoming id) →
        (MessageRepository.insert input db).2.standing (.incoming id) =
          some ⟨rowId, .received, ref⟩ := by
      intro input hid
      have hspares : (StoreOp.insertMessage input).Spares db (.incoming id) :=
        spares_insert db fun h => by
          rw [hid] at h
          cases h
      exact (standing_exec (.insertMessage input) hspares).trans hrow
    have hwritten := standing_setChainRef
      ⟨row.1, none, none, some cell.txHash, some cell.index⟩ hafter rfl
    have hspares : (StoreOp.setChainRef ⟨row.1, none, none, some cell.txHash,
        some cell.index⟩).Spares _ (.incoming id) :=
      (holds_insert hinserted).spares (fun h => by cases h) (fun _ _ h => by cases h)
        (fun _ h => (Option.some.inj h).symm) rfl
    have hother := standing_exec _ hspares
    refine always_store_last (executes_passEffect _ _) (hduring _ _ _ ?_) (hpost _ ?_)
    · exact congrArg (Option.map Standing.rowId) hafter
    · exact ⟨_, _, exchange_eq.2 ⟨hother.trans (hkept _ rfl), hwritten⟩,
        List.mem_cons_self, hcell, hqueued, rfl⟩
  · intro e herror
    obtain ⟨row, ref', hok, -⟩ := standing_insert _ db
    have hfailed : (Except.ok row : Except Error _) = .error e := hok.symm.trans herror
    cases hfailed

/-- A message that is advanced from a cell is acknowledged, if its notification is posted. Until
    the window it is still to be advanced, with its chain reference written. -/
theorem always_advance (conversationId : Nat)
    (hexchange : exchange db id = (some ⟨rowId, state, ref⟩, none))
    (hstrandable : state ∈ STRANDABLE_INCOMING_STATES) (hcell : namedCell ref = some cell)
    (hwindow : ∀ (β : Type) (op : Op β) (db' : Db), AckWindow id β op db' → during β op db')
    (hduring : ∀ (β : Type) (op : Op β) (db' : Db), Pending db' id → Written db' id cell →
      during β op db')
    (hok : ∀ db', posts rowId = true → Acknowledged db' id cell → post (.ok ()) db')
    (herror : ∀ e db', posts rowId = false →
      exchange db' id = (some ⟨rowId, .received, ref⟩, none) → post (.error e) db') :
    Program.Always (passEffect nowMs posts) during
      (advanceIncomingToReceived rowId state ⟨conversationId, .incoming id, some cell⟩) db post := by
  unfold advanceIncomingToReceived
  obtain ⟨startIndex, hindex⟩ := exists_advanceIndex hstrandable
  simp only [hindex, Program.bind_eq_bind]
  refine always_walk hexchange hstrandable hindex ?_ ?_
  · intro source hsource db' hdb' target
    refine hduring _ _ _ ⟨?_, ?_⟩ ⟨_, by rw [hdb'], hcell⟩
    · rw [hdb']
      rintro row ⟨⟩
      exact hsource
    · rw [hdb']
  · intro db' hdb'
    have hnow : AckWindow id Unit (.notify rowId) db' :=
      congrArg (Option.map Standing.rowId) (exchange_eq.1 hdb').1
    refine Program.Always.step (hwindow _ _ _ hnow) ?_ ?_
    · rintro e db'' ⟨hposts, rfl⟩
      exact herror e _ hposts.symm hdb'
    · rintro _ db'' ⟨hposts, rfl⟩
      exact always_queueAcknowledgement conversationId hdb' hcell hwindow
        fun db' h => hok db' hposts.symm h

/-- A message that is advanced without a cell stays without an acknowledgement. -/
theorem always_advance_none (conversationId : Nat)
    (hexchange : exchange db id = (some ⟨rowId, state, ref⟩, none))
    (hstrandable : state ∈ STRANDABLE_INCOMING_STATES) :
    Program.Always (passEffect nowMs posts) Program.Anywhere
      (advanceIncomingToReceived rowId state ⟨conversationId, .incoming id, none⟩) db
      fun _ db' => exchange db' id = (some ⟨rowId, .received, ref⟩, none) := by
  unfold advanceIncomingToReceived
  obtain ⟨startIndex, hindex⟩ := exists_advanceIndex hstrandable
  simp only [hindex, Program.bind_eq_bind]
  refine always_walk hexchange hstrandable hindex (fun _ _ _ _ _ => trivial) ?_
  intro db' hdb'
  refine Program.Always.step trivial ?_ ?_
  · rintro e db'' ⟨-, rfl⟩
    exact hdb'
  · rintro _ db'' ⟨-, rfl⟩
    exact hdb'

theorem pending_of_exchange (hexchange : exchange db id = (some ⟨rowId, state, ref⟩, none))
    (hstrandable : state ∈ STRANDABLE_INCOMING_STATES) : Pending db id := by
  rw [Pending, hexchange]
  refine ⟨?_, rfl⟩
  rintro row ⟨⟩
  exact hstrandable

/-- Naming a stored row leaves how it stands. -/
theorem exchange_setEnvelopeMessageId (envelopeId : MessageId)
    (hrow : db.standing (.incoming id) = some ⟨rowId, state, ref⟩) :
    (MessageRepository.setEnvelopeMessageId rowId envelopeId db).1 = .ok () ∧
      exchange (MessageRepository.setEnvelopeMessageId rowId envelopeId db).2 id = exchange db id := by
  obtain ⟨m, hget, -⟩ := standing_eq_some.1 hrow
  have hsome : (db.messages.get? rowId).isSome := by rw [hget]; rfl
  have hspares : ∀ logicalId, (StoreOp.setEnvelopeMessageId rowId envelopeId).Spares db logicalId := by
    intro logicalId
    refine ⟨fun standing _ => ⟨fun target h => ?_, fun h => ?_⟩, fun input h => ?_⟩ <;> cases h
  refine ⟨by rw [MessageRepository.setEnvelopeMessageId, if_pos hsome], ?_⟩
  exact exchange_eq.2 ⟨standing_exec _ (hspares _), standing_exec _ (hspares _)⟩

/-- A stored message that is still to be advanced is acknowledged, if its notification is
    posted. -/
theorem always_advanceInserted (incoming : IncomingTextMessage) (conversationId : Nat)
    {inserted : Nat × Message} (hid : inserted.2.logicalMessageId = .incoming id)
    (hexchange : exchange db id = (some ⟨inserted.1, inserted.2.state, ref⟩, none))
    (hstrandable : inserted.2.state ∈ STRANDABLE_INCOMING_STATES)
    (hwindow : ∀ (β : Type) (op : Op β) (db' : Db), AckWindow id β op db' → during β op db')
    (hduring : ∀ (β : Type) (op : Op β) (db' : Db), Pending db' id →
      (Written db id cell → Written db' id cell) → during β op db')
    (hok : ∀ db', posts inserted.1 = true → Acknowledged db' id cell → post (.ok ()) db')
    (herror : ∀ e db', posts inserted.1 = false → Unacknowledged db' id → post (.error e) db') :
    Program.Always (passEffect nowMs posts) during
      (advanceInserted incoming (some cell) conversationId inserted) db post := by
  obtain ⟨hrow, hresponse⟩ := exchange_eq.1 hexchange
  have hpending := pending_of_exchange hexchange hstrandable
  obtain ⟨hnamed, hsame⟩ := exchange_setEnvelopeMessageId incoming.messageId hrow
  unfold advanceInserted
  rw [if_pos hstrandable, hid]
  simp only [Program.bind_eq_bind]
  refine always_store (executes_passEffect _ _) (hduring _ _ _ hpending fun h => h) ?_ fun e h => ?_
  · intro _ _
    obtain ⟨hrow', hresponse'⟩ := exchange_eq.1 (hsame.trans hexchange)
    have hwritten := standing_setChainRef
      ⟨inserted.1, some cell.txHash, some cell.index, none, none⟩ hrow' rfl
    have hspares : (StoreOp.setMessageChainRef inserted.1 cell).Spares _ (.response (.incoming id)) :=
      spares_absent hresponse' rfl
    refine always_store (executes_passEffect _ _) ?_ ?_ fun e h => by cases h
    · refine hduring _ _ _ (pending_of_exchange (hsame.trans hexchange) hstrandable) ?_
      intro h
      rw [Written, ← hsame] at h
      exact h
    · intro _ _
      exact always_advance conversationId
        (exchange_eq.2 ⟨hwritten, (standing_exec _ hspares).trans hresponse'⟩) hstrandable rfl hwindow
        (fun β op db' hpending' hwritten' => hduring β op db' hpending' fun _ => hwritten') hok
        fun e db' hposts h => herror e db' hposts ⟨⟨_, by rw [h], List.mem_cons_self⟩, by rw [h]⟩
  · have hfailed : (Except.ok () : Except Error Unit) = .error e := hnamed.symm.trans h
    cases hfailed

end Advance

section Ingest

variable {config : RateLimiterConfig} {incoming : IncomingTextMessage} {source : Option OutPoint}
  {db : Db} {id : MessageId} {cell : OutPoint} {nowMs : Nat} {posts : Nat → Bool}
  {during : ∀ β : Type, Op β → Db → Prop} {post : Except Error Unit → Db → Prop}

/-- The receipts of a message, once it is stored. -/
def applyReceipts (incoming : IncomingTextMessage) : Prog Unit :=
  if 0 < incoming.receipts.length then
    (processAcknowledgements incoming.receipts).bind fun _ => Program.ret ()
  else Program.ret ()

/-- The limiter admits a message exactly when it is within the rate limit. -/
theorem consume_admits (config : RateLimiterConfig) (senderProfileId : ProfileId) (db : Db) :
    Program.Always (passEffect nowMs posts) Program.Anywhere
      (consume config .incoming senderProfileId) db fun r _ =>
        ∃ admitted, r = .ok admitted ∧
          (admitted = true ↔ WithinRateLimit config db senderProfileId nowMs) := by
  unfold consume
  rw [Program.bind_eq_bind]
  refine Program.Always.step trivial ?_ ?_
  · rintro e db' ⟨h, -⟩
    cases h
  · rintro now db' ⟨h, rfl⟩
    obtain rfl := Except.ok.inj h
    obtain ⟨admitted, rateLimits, hrun, hadmitted⟩ := consumeAt_run config db' senderProfileId now
    refine ((always_access (consumeAt_access _ _ _) db').narrow passEffect_store).mono ?_
    intro r _ h
    rw [hrun] at h
    exact ⟨admitted, (congrArg Prod.fst h).symm, hadmitted⟩

/-- The ingest of a content message: it is dropped, or it is stored and its receipts applied. -/
theorem always_ingestMessage (hcontent : isPureAcknowledgement incoming = false)
    (hduring : ∀ (β : Type) (op : Op β) (db' : Db), ¬AckWindow id β op db' →
      exchange db' id = exchange db id → during β op db')
    (hdropped : ∀ db', exchange db' id = exchange db id →
      ¬Admitted config db incoming nowMs → post (.ok ()) db')
    (hstored : ∀ db', exchange db' id = exchange db id → Admitted config db incoming nowMs →
      Program.Always (passEffect nowMs posts) during
        ((storeContent incoming source).bind fun _ => applyReceipts incoming) db' post) :
    Program.Always (passEffect nowMs posts) during (ingestMessage config incoming source) db post := by
  unfold ingestMessage
  rw [Program.bind_eq_bind]
  refine always_store (executes_passEffect _ _) (hduring _ _ _ not_false rfl) ?_ fun e h => by cases h
  intro blocked hblocked
  obtain rfl := Except.ok.inj hblocked
  by_cases hunblocked : ContactRepository.blockedProfile db incoming.senderProfileId = false
  · simp only [hunblocked, hcontent, Bool.false_eq_true, if_false]
    have hprepares : Program.Always (passEffect nowMs posts)
        (fun β op db' => exchange db' id = exchange db id ∧ ¬AckWindow id β op db') _ db _ :=
      exchange_of_prepares (consume_prepares config incoming.senderProfileId)
        (fun h => by cases h) (fun h => by cases h)
    have hconsume := (hprepares.and (consume_admits config incoming.senderProfileId db))
    refine (hconsume.weaken fun β op db' h => hduring β op db' h.1.2 h.1.1).bind ?_ ?_
    · rintro admitted db' ⟨hsame, admitted', h, hadmitted⟩
      obtain rfl := Except.ok.inj h
      cases admitted with
      | false =>
        refine hdropped db' hsame fun h => ?_
        cases hadmitted.2 h.2
      | true =>
        rw [if_neg (by simp)]
        exact hstored db' hsame ⟨hunblocked, hadmitted.1 rfl⟩
    · rintro e db' ⟨-, admitted, h, -⟩
      cases h
  · rw [if_pos (by simpa using hunblocked)]
    exact hdropped _ rfl fun h => hunblocked h.1

/-- Neither a message nor the response to it is in a state an acknowledgement starts from. -/
def Quiet (db : Db) (id : MessageId) : Prop :=
  ∀ standing, (exchange db id).1 = some standing ∨ (exchange db id).2 = some standing →
    standing.state ∉ ACKABLE_STATES

/-- Receipts leave a quiet message and the response to it. -/
theorem always_applyReceipts (incoming : IncomingTextMessage) (hquiet : Quiet db id) :
    Program.Always (passEffect nowMs posts)
      (fun β op db' => exchange db' id = exchange db id ∧ ¬AckWindow id β op db')
      (applyReceipts incoming) db fun _ db' => exchange db' id = exchange db id := by
  unfold applyReceipts
  split
  · have hleaves := (always_exchange
      (processAcknowledgements_leaves incoming.receipts rfl fun s h => hquiet s (.inl h))
      (processAcknowledgements_leaves incoming.receipts rfl fun s h => hquiet s (.inr h))).and
      ((processAcknowledgements_applies incoming.receipts).along db)
    refine Program.Always.bind (((hleaves.weaken ?_).mono fun _ _ h => h.1).narrow passEffect_store)
      (fun _ _ h => h) fun _ _ h => h
    rintro β op db' ⟨hsame, hop⟩
    refine ⟨hsame, ?_⟩
    cases op with
    | store access => cases access <;> first | exact hop.elim | exact not_false
    | _ => exact hop.elim
  · rfl

/-- Storing the row of a message leaves the response to it, and the message as it stood or newly
    discovered. -/
theorem always_storeRow (hid : incoming.messageId = id) (db : Db) :
    Program.Always (passEffect nowMs posts)
      (fun β op db' => ¬AckWindow id β op db' ∧ (exchange db' id).2 = (exchange db id).2 ∧
        ((exchange db' id).1 = (exchange db id).1 ∨
          ∃ stands, (exchange db' id).1 = some stands ∧ Stored (exchange db id).1 stands))
      (storeRow incoming) db fun r db' => ∃ conversationId row ref, r = .ok (conversationId, row) ∧
        row.2.logicalMessageId = .incoming id ∧
        exchange db' id = (some ⟨row.1, row.2.state, ref⟩, (exchange db id).2) ∧
        Stored (exchange db id).1 ⟨row.1, row.2.state, ref⟩ := by
  subst hid
  have hall := ((storeRow_stands incoming db).and
    (storeRow_leaves incoming (fun h => by cases h)
      (rfl : db.standing (.response (.incoming incoming.messageId)) = _))).and
    ((storeRow_prepares incoming).along db)
  refine ((hall.weaken ?_).mono ?_).narrow passEffect_store
  · rintro β op db' ⟨⟨hstands, hresponse⟩, hop⟩
    exact ⟨hop.outside (fun h => by cases h) db', hresponse, hstands⟩
  · rintro r db' ⟨⟨⟨conversationId, row, ref, rfl, hid, hstands, hstored⟩, hresponse⟩, -⟩
    exact ⟨conversationId, row, ref, rfl, hid, exchange_eq.2 ⟨hstands, hresponse⟩, hstored⟩

theorem not_ackable_of_strandable {state : MessageState} (h : state ∈ STRANDABLE_INCOMING_STATES) :
    state ∉ ACKABLE_STATES := by
  revert state
  decide

theorem not_ackable_of_received {state : MessageState} (h : state ∈ RECEIVED_STATES) :
    state ∉ ACKABLE_STATES := by
  revert state
  decide

theorem Acknowledged.quiet (h : Acknowledged db id cell) : Quiet db id := by
  obtain ⟨row, response, hexchange, hreceived, -, hqueued, -⟩ := h
  rw [Quiet, hexchange]
  rintro standing (h | h)
  · obtain rfl := Option.some.inj h
    exact not_ackable_of_received hreceived
  · obtain rfl := Option.some.inj h
    rw [hqueued]
    decide

theorem Unacknowledged.quiet (h : Unacknowledged db id) : Quiet db id := by
  obtain ⟨⟨row, hrow, hreceived⟩, hresponse⟩ := h
  rintro standing (h | h)
  · obtain rfl := Option.some.inj (hrow.symm.trans h)
    exact not_ackable_of_received hreceived
  · rw [hresponse] at h
    cases h

theorem Pending.quiet (h : Pending db id) : Quiet db id := by
  rintro standing (hrow | hresponse)
  · exact not_ackable_of_strandable (h.1 standing hrow)
  · rw [h.2] at hresponse
    cases hresponse

/-- Before its window a message that is being ingested is still to be advanced and keeps its
    chain reference, and after it the message is acknowledged. -/
def Safe (db : Db) (id : MessageId) (cell : OutPoint) (written : Prop) : Prop :=
  Acknowledged db id cell ∨ Pending db id ∧ (written → Written db id cell)

/-- Storing the row of a message that is still to be advanced leaves it so. -/
theorem Pending.stored {db' : Db} (h : Pending db id)
    (hresponse : (exchange db' id).2 = (exchange db id).2)
    (hrow : (exchange db' id).1 = (exchange db id).1 ∨
      ∃ stands, (exchange db' id).1 = some stands ∧ Stored (exchange db id).1 stands) :
    Pending db' id := by
  rw [Pending, hresponse]
  rcases hrow with hsame | ⟨stands, hstands, hbefore | ⟨-, hdiscovered⟩⟩
  · rw [hsame]
    exact h
  · rw [hstands, ← hbefore]
    exact h
  · rw [hstands]
    refine ⟨?_, h.2⟩
    rintro row ⟨⟩
    rw [hdiscovered]
    decide

/-- Storing a row keeps a chain reference that was written. -/
theorem Written.stored {db' : Db} (h : Written db id cell)
    (hrow : (exchange db' id).1 = (exchange db id).1 ∨
      ∃ stands, (exchange db' id).1 = some stands ∧ Stored (exchange db id).1 stands) :
    Written db' id cell := by
  obtain ⟨row, hbefore, hcell⟩ := h
  rw [Written]
  rcases hrow with hsame | ⟨stands, hstands, hsame | ⟨hnone, -⟩⟩
  · exact ⟨row, hsame.trans hbefore, hcell⟩
  · exact ⟨row, (hstands.trans hsame.symm).trans hbefore, hcell⟩
  · rw [hnone] at hbefore
    cases hbefore

/-- The ingest of a message from a cell, while it is still to be advanced. -/
theorem always_ingest_pending (hid : incoming.messageId = id)
    (hcontent : isPureAcknowledgement incoming = false) (hpending : Pending db id) :
    Program.Always (passEffect nowMs posts)
      (fun β op db' => ¬AckWindow id β op db' → Safe db' id cell (Written db id cell))
      (ingestMessage config incoming (some cell)) db fun _ db' =>
        ¬Admitted config db incoming nowMs ∧ exchange db' id = exchange db id ∨
          Admitted config db incoming nowMs ∧ ∃ rowId,
            (∀ row, (exchange db id).1 = some row → row.rowId = rowId) ∧
            (posts rowId = true ∧ Acknowledged db' id cell ∨
              posts rowId = false ∧ Unacknowledged db' id) := by
  subst hid
  have hsame : ∀ db', exchange db' incoming.messageId = exchange db incoming.messageId →
      Safe db' incoming.messageId cell (Written db incoming.messageId cell) := by
    intro db' h
    right
    rw [Pending, Written, Written, h]
    exact ⟨hpending, fun h => h⟩
  refine always_ingestMessage hcontent (fun β op db' _ h _ => hsame db' h)
    (fun db' h hadmitted => .inl ⟨hadmitted, h⟩) ?_
  intro db' hdb' hadmitted
  unfold storeContent
  rw [Program.bind_eq_bind, Program.bind_assoc]
  refine Program.Always.bind ((always_storeRow rfl db').weaken ?_) ?_ ?_
  · rintro β op db'' ⟨-, hresponse, hrow⟩ -
    rw [hdb'] at hresponse hrow
    exact .inr ⟨hpending.stored hresponse hrow, fun h => h.stored hrow⟩
  · rintro stored db'' ⟨conversationId, row, ref, h, hid, hexchange, hstands⟩
    obtain rfl := Except.ok.inj h
    rw [hdb'] at hexchange hstands
    have hresponse : (exchange db'' incoming.messageId).2 = (exchange db incoming.messageId).2 := by
      rw [hexchange]
    have hrow : (exchange db'' incoming.messageId).1 = some ⟨row.1, row.2.state, ref⟩ := by
      rw [hexchange]
    have hstored : (exchange db'' incoming.messageId).1 = (exchange db incoming.messageId).1 ∨
        ∃ stands, (exchange db'' incoming.messageId).1 = some stands ∧
          Stored (exchange db incoming.messageId).1 stands := .inr ⟨_, hrow, hstands⟩
    have hpending' := hpending.stored hresponse hstored
    rw [hpending.2] at hexchange
    have hadvance : Program.Always (passEffect nowMs posts)
        (fun β op db' => ¬AckWindow incoming.messageId β op db' →
          Safe db' incoming.messageId cell (Written db incoming.messageId cell))
        (advanceInserted incoming (some cell) conversationId row) db''
        (Program.OkOr (fun db' => posts row.1 = true ∧ Acknowledged db' incoming.messageId cell)
          fun _ db' => posts row.1 = false ∧ Unacknowledged db' incoming.messageId) :=
      always_advanceInserted incoming conversationId hid hexchange (hpending'.1 _ hrow)
        (fun β op db' h hnot => absurd h hnot)
        (fun β op db' h hkept _ => .inr ⟨h, fun hwritten => hkept (hwritten.stored hstored)⟩)
        (fun db' hposts h => ⟨hposts, h⟩) fun e db' hposts h => ⟨hposts, h⟩
    have hrowId : ∀ stands, (exchange db incoming.messageId).1 = some stands →
        stands.rowId = row.1 := by
      intro stands hstands'
      rcases hstands with hbefore | ⟨hnone, -⟩
      · rw [hbefore] at hstands'
        obtain rfl := Option.some.inj hstands'
        rfl
      · rw [hnone] at hstands'
        cases hstands'
    refine hadvance.bind ?_ ?_
    · rintro _ db₃ ⟨hposts, hacknowledged⟩
      refine ((always_applyReceipts incoming hacknowledged.quiet).weaken ?_).mono ?_
      · rintro β op db₄ ⟨hsame', -⟩ -
        left
        rw [Acknowledged, hsame']
        exact hacknowledged
      · intro r db₄ hsame'
        refine .inr ⟨hadmitted, row.1, hrowId, .inl ⟨hposts, ?_⟩⟩
        rw [Acknowledged, hsame']
        exact hacknowledged
    · rintro e db₃ ⟨hposts, hunacknowledged⟩
      exact .inr ⟨hadmitted, row.1, hrowId, .inr ⟨hposts, hunacknowledged⟩⟩
  · rintro e db'' ⟨conversationId, row, ref, h, -⟩
    cases h

/-- The ingest of a message from a chain-less source, while it is still to be advanced. -/
theorem always_ingest_chainless (hid : incoming.messageId = id)
    (hcontent : isPureAcknowledgement incoming = false) (hpending : Pending db id) :
    Program.Always (passEffect nowMs posts) Program.Anywhere (ingestMessage config incoming none) db
      fun _ db' => ¬Admitted config db incoming nowMs ∧ exchange db' id = exchange db id ∨
        Admitted config db incoming nowMs ∧ Unacknowledged db' id := by
  subst hid
  refine always_ingestMessage hcontent (fun _ _ _ _ _ => trivial)
    (fun db' h hadmitted => .inl ⟨hadmitted, h⟩) ?_
  intro db' hdb' hadmitted
  unfold storeContent
  rw [Program.bind_eq_bind, Program.bind_assoc]
  refine Program.Always.bind ((always_storeRow rfl db').weaken fun _ _ _ _ => trivial) ?_ ?_
  · rintro stored db'' ⟨conversationId, row, ref, h, hid, hexchange, hstands⟩
    obtain rfl := Except.ok.inj h
    rw [hdb'] at hexchange hstands
    have hrow : (exchange db'' incoming.messageId).1 = some ⟨row.1, row.2.state, ref⟩ := by
      rw [hexchange]
    have hresponse : (exchange db'' incoming.messageId).2 = (exchange db incoming.messageId).2 := by
      rw [hexchange]
    have hstrandable := (hpending.stored hresponse (.inr ⟨_, hrow, hstands⟩)).1 _ hrow
    rw [hpending.2] at hexchange
    have hadvance : Program.Always (passEffect nowMs posts) Program.Anywhere
        (advanceInserted incoming none conversationId row) db''
        fun _ db' => exchange db' incoming.messageId = (some ⟨row.1, .received, ref⟩, none) := by
      obtain ⟨hnamed, hsame⟩ :=
        exchange_setEnvelopeMessageId incoming.messageId (exchange_eq.1 hexchange).1
      unfold advanceInserted
      rw [if_pos hstrandable, hid]
      simp only [Program.bind_eq_bind]
      refine always_store (executes_passEffect _ _) trivial ?_ fun e h => ?_
      · intro _ _
        exact always_advance_none conversationId (hsame.trans hexchange) hstrandable
      · have hfailed : (Except.ok () : Except Error Unit) = .error e := hnamed.symm.trans h
        cases hfailed
    have hreceived : ∀ db', exchange db' incoming.messageId = (some ⟨row.1, .received, ref⟩, none) →
        Unacknowledged db' incoming.messageId := by
      intro db' h
      exact ⟨⟨_, by rw [h], List.mem_cons_self⟩, by rw [h]⟩
    refine hadvance.bind ?_ ?_
    · intro _ db₃ hexchange'
      refine ((always_applyReceipts incoming (hreceived _ hexchange').quiet).weaken
        fun _ _ _ _ => trivial).mono ?_
      intro r db₄ hsame'
      exact .inr ⟨hadmitted, hreceived _ (hsame'.trans hexchange')⟩
    · intro e db₃ hexchange'
      exact .inr ⟨hadmitted, hreceived _ hexchange'⟩
  · rintro e db'' ⟨conversationId, row, ref, h, -⟩
    cases h

/-- An ingest that has nothing to advance: a mere acknowledgement, another message, or a message
    that was advanced before. -/
def Indifferent (db : Db) (id : MessageId) (incoming : IncomingTextMessage) : Prop :=
  isPureAcknowledgement incoming = true ∨ incoming.messageId ≠ id ∨
    ∃ row, (exchange db id).1 = some row ∧ row.state ∉ STRANDABLE_INCOMING_STATES

/-- A mere acknowledgement leaves a message and the response to it. -/
theorem always_ingest_acknowledgement (hpure : isPureAcknowledgement incoming = true)
    (hquiet : Quiet db id) :
    Program.Always (passEffect nowMs posts) (fun _ _ db' => exchange db' id = exchange db id)
      (ingestMessage config incoming source) db fun _ db' => exchange db' id = exchange db id := by
  unfold ingestMessage
  rw [Program.bind_eq_bind]
  refine always_store (executes_passEffect _ _) rfl ?_ fun e h => by cases h
  intro blocked hblocked
  have hreceipts : applyReceipts incoming =
      (processAcknowledgements incoming.receipts).bind fun _ => Program.ret () := by
    have hsome : 0 < incoming.receipts.length := by
      simp only [isPureAcknowledgement, Bool.and_eq_true, decide_eq_true_eq] at hpure
      exact hpure.2
    rw [applyReceipts, if_pos hsome]
  cases blocked with
  | true => rfl
  | false =>
    rw [if_neg (by simp), if_pos hpure, Program.bind_eq_bind, Program.pure_eq_ret, ← hreceipts]
    exact (always_applyReceipts incoming hquiet).weaken fun _ _ _ h => h.1

/-- Storing a message that was advanced before advances nothing. -/
theorem always_storeContent_advanced (hid : incoming.messageId = id)
    (hadvanced : ∃ row, (exchange db id).1 = some row ∧ row.state ∉ STRANDABLE_INCOMING_STATES) :
    Program.Always (passEffect nowMs posts) (fun _ _ db' => exchange db' id = exchange db id)
      (storeContent incoming source) db fun _ db' => exchange db' id = exchange db id := by
  obtain ⟨before, hbefore, hpast⟩ := hadvanced
  have hsame : ∀ db', (exchange db' id).2 = (exchange db id).2 →
      ((exchange db' id).1 = (exchange db id).1 ∨
        ∃ stands, (exchange db' id).1 = some stands ∧ Stored (exchange db id).1 stands) →
      exchange db' id = exchange db id := by
    rintro db' hresponse (hrow | ⟨stands, hstands, hrow | ⟨hnone, -⟩⟩)
    · exact Prod.ext hrow hresponse
    · exact Prod.ext (hstands.trans hrow.symm) hresponse
    · rw [hnone] at hbefore
      cases hbefore
  unfold storeContent
  rw [Program.bind_eq_bind]
  refine Program.Always.bind ((always_storeRow hid db).weaken ?_) ?_ ?_
  · rintro β op db' ⟨-, hresponse, hrow⟩
    exact hsame db' hresponse hrow
  · rintro stored db' ⟨conversationId, row, ref, h, -, hexchange, hstands⟩
    obtain rfl := Except.ok.inj h
    have hrow : (exchange db' id).1 = some ⟨row.1, row.2.state, ref⟩ := by rw [hexchange]
    have hafter := hsame db' (by rw [hexchange]) (.inr ⟨_, hrow, hstands⟩)
    have hstate : row.2.state ∉ STRANDABLE_INCOMING_STATES := by
      rw [hafter, hbefore] at hrow
      obtain rfl := Option.some.inj hrow
      exact hpast
    unfold advanceInserted
    rw [if_neg hstate]
    exact hafter
  · rintro e db' ⟨conversationId, row, ref, h, -⟩
    cases h

/-- Storing another message leaves a message and the response to it. -/
theorem always_storeContent_other (hid : incoming.messageId ≠ id) :
    Program.Always (passEffect nowMs posts) (fun _ _ db' => exchange db' id = exchange db id)
      (storeContent incoming source) db fun _ db' => exchange db' id = exchange db id := by
  have hother : LogicalMessageId.incoming id ≠ .incoming incoming.messageId := by
    intro h
    exact hid (LogicalMessageId.incoming.inj h).symm
  have hprepares : Program.Always (passEffect nowMs posts)
      (fun β op db' => exchange db' id = exchange db id ∧ ¬AckWindow id β op db')
      (storeRow incoming) db fun _ db' => exchange db' id = exchange db id :=
    exchange_of_prepares (storeRow_prepares incoming)
      (fun h => hother (Option.some.inj h).symm) (fun h => by cases h)
  unfold storeContent
  rw [Program.bind_eq_bind]
  refine Program.Always.bind ((hprepares.and (always_storeRow rfl db)).weaken fun _ _ _ h => h.1.1) ?_ ?_
  · rintro stored db' ⟨hsame, conversationId, row, ref, h, hlogical, hexchange, -⟩
    obtain rfl := Except.ok.inj h
    obtain ⟨m, hget, hmid, -⟩ := standing_eq_some.1 (exchange_eq.1 hexchange).1
    have hholds : Holds db' row.1 row.2.logicalMessageId := ⟨m, hget, hmid.trans hlogical.symm⟩
    rw [← hsame]
    refine (always_exchange (advanceInserted_leaves hholds ?_ ?_ rfl)
      (advanceInserted_leaves hholds ?_ ?_ rfl)).narrow passEffect_store <;> rw [hlogical]
    · exact hother
    · exact fun h => by cases h
    · exact fun h => by cases h
    · exact fun h => hother (LogicalMessageId.response.inj h)
  · rintro e db' ⟨-, conversationId, row, ref, h, -⟩
    cases h

/-- Such an ingest leaves the message and the response to it. -/
theorem always_ingest_indifferent (hquiet : Quiet db id) (h : Indifferent db id incoming) :
    Program.Always (passEffect nowMs posts) (fun _ _ db' => exchange db' id = exchange db id)
      (ingestMessage config incoming source) db fun _ db' => exchange db' id = exchange db id := by
  by_cases hpure : isPureAcknowledgement incoming = true
  · exact always_ingest_acknowledgement hpure hquiet
  · refine always_ingestMessage (by simpa using hpure) (fun _ _ _ _ h => h) (fun _ h _ => h) ?_
    intro db' hdb' _
    have hstored : Program.Always (passEffect nowMs posts)
        (fun _ _ db'' => exchange db'' id = exchange db' id) (storeContent incoming source) db'
        fun _ db'' => exchange db'' id = exchange db' id := by
      obtain hpure' | hother | hadvanced := h
      · exact absurd hpure' hpure
      · exact always_storeContent_other hother
      · by_cases hid : incoming.messageId = id
        · exact always_storeContent_advanced hid (by rw [hdb']; exact hadvanced)
        · exact always_storeContent_other hid
    refine (hstored.weaken fun _ _ _ h => h.trans hdb').bind ?_ fun _ _ h => h.trans hdb'
    intro _ db'' hdb''
    have hsame := hdb''.trans hdb'
    have hquiet' : Quiet db'' id := by
      rw [Quiet, hsame]
      exact hquiet
    refine ((always_applyReceipts incoming hquiet').weaken ?_).mono ?_
    · exact fun _ _ _ h => h.1.trans hsame
    · exact fun _ _ h => h.trans hsame

end Ingest

end cemp.sync
