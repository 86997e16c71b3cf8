import CempMobile.Sync.Content

open cemp.core cemp.database cemp.database.MessageRepository cemp.ckb

namespace cemp.sync

/-- An envelope handed to the ingest, with the message it opens to. -/
structure Delivery (ownProfileId : ProfileId) where
  decrypted : DecryptedEnvelope
  source : Option OutPoint
  nowMs : Nat
  incoming : IncomingTextMessage
  opens : processIncomingText (.ok decrypted) ownProfileId = .ok incoming

/-- Envelopes ingested one after the other, each from a sender who is unblocked and within the
    rate limit when it arrives. -/
def IngestRuns (config : RateLimiterConfig) {ownProfileId : ProfileId} :
    Db → List (Delivery ownProfileId) → Db → Prop
  | db, [], db' => db' = db
  | db, d :: ds, db' =>
    ContactRepository.blockedProfile db d.incoming.senderProfileId = false ∧
      WithinRateLimit config db d.incoming.senderProfileId d.nowMs ∧
      ∃ out mid,
        Program.Runs (localEffect d.nowMs)
          (ingestIncomingCellData config ownProfileId (.ok d.decrypted) d.source) db out mid ∧
        IngestRuns config mid ds db'

/-- The sender of the message stored under an envelope message id. -/
def ownerOf (db : Db) (messageId : MessageId) : Option ProfileId :=
  (byLogicalId db (.incoming messageId)).bind fun row =>
    if row.2.direction = .incoming then conversationProfile db row.2.conversationId else none

/-- Every row under an incoming logical id is an incoming message of somebody. -/
def OwnedRows (db : Db) : Prop :=
  ∀ messageId, (byLogicalId db (.incoming messageId)).isSome → (ownerOf db messageId).isSome

/-- What one ingest adds under an envelope message id. -/
def addedBy {ownProfileId : ProfileId} (d : Delivery ownProfileId) (messageId : MessageId) :
    Option ProfileId :=
  if d.incoming.messageId = messageId ∧ isPureAcknowledgement d.incoming = false then
    some d.incoming.senderProfileId
  else none

section Step

variable {config : RateLimiterConfig} {ownProfileId : ProfileId} {db db' stored : Db}
  {d : Delivery ownProfileId} {out : Except Error Unit}

theorem ownerOf_sameContent (h : SameContent db db') (messageId : MessageId) :
    ownerOf db' messageId = ownerOf db messageId := by
  have hrow := h.row messageId
  have hprofile : ∀ id, conversationProfile db' id = conversationProfile db id := by
    intro id
    simp only [conversationProfile, h.contacts, h.conversations]
  unfold ownerOf
  cases hnew : byLogicalId db' (.incoming messageId) <;>
    cases hold : byLogicalId db (.incoming messageId) <;>
    simp only [hnew, hold, Option.map_none, Option.map_some, Option.some.injEq, Prod.mk.injEq,
      reduceCtorEq] at hrow
  · rfl
  · simp only [Option.bind_some, hrow, hprofile]

theorem isSome_sameContent (h : SameContent db db') (messageId : MessageId) :
    (byLogicalId db' (.incoming messageId)).isSome = (byLogicalId db (.incoming messageId)).isSome := by
  have hrow := congrArg Option.isSome (h.row messageId)
  simpa only [Option.isSome_map] using hrow

/-- A row that is kept keeps its owner. -/
theorem ownerOf_grows (howned : OwnedRows db) (hgrows : db.Grows db') {messageId : MessageId}
    (hrow : byLogicalId db' (.incoming messageId) = byLogicalId db (.incoming messageId)) :
    ownerOf db' messageId = ownerOf db messageId := by
  have hsome := howned messageId
  unfold ownerOf at hsome ⊢
  rw [hrow]
  cases hold : byLogicalId db (.incoming messageId) with
  | none => rfl
  | some row =>
    simp only [hold, Option.isSome_some, Option.bind_some, forall_const] at hsome ⊢
    split_ifs at hsome ⊢ with hincoming
    · obtain ⟨profileId, hprofile⟩ := Option.isSome_iff_exists.1 hsome
      rw [hprofile, hgrows.conversationProfile hprofile]
    · rfl

/-- Storing a row gives its message id an owner, unless it has one. -/
theorem ownerOf_stored {conversationId rowId : Nat} {m : Message} (howned : OwnedRows db)
    (hstored : RowStored db d.incoming conversationId rowId m stored) (messageId : MessageId) :
    ownerOf stored messageId =
      (ownerOf db messageId).or
        (if d.incoming.messageId = messageId then some d.incoming.senderProfileId else none) := by
  by_cases hid : d.incoming.messageId = messageId
  · subst hid
    have hkept := hstored.kept
    have hfound := hstored.found
    simp only [incomingLogicalMessageId] at hkept hfound
    cases hold : byLogicalId db (.incoming d.incoming.messageId) with
    | none =>
      simp only [hold] at hkept
      have hnone : ownerOf db d.incoming.messageId = none := by simp [ownerOf, hold]
      rw [hnone, Option.none_or, if_pos rfl]
      simp [ownerOf, hfound, hkept.2, NewMessage.row, incomingRow, hstored.profile]
    | some row =>
      simp only [hold] at hkept
      have hsame := ownerOf_grows howned hstored.grows (hfound.trans (hkept ▸ hold.symm))
      obtain ⟨profileId, hprofile⟩ :=
        Option.isSome_iff_exists.1 (howned d.incoming.messageId (by simp [hold]))
      rw [hsame, hprofile]
      rfl
  · have hother : LogicalMessageId.incoming messageId ≠
        incomingLogicalMessageId d.incoming.messageId := by
      simpa [incomingLogicalMessageId] using fun h => hid h.symm
    rw [if_neg hid, Option.or_none]
    exact ownerOf_grows howned hstored.grows (hstored.others _ hother)

/-- One ingest: the first message stored under an id decides who owns it. -/
theorem ownerOf_ingest (howned : OwnedRows db)
    (hunblocked : ContactRepository.blockedProfile db d.incoming.senderProfileId = false)
    (hlimit : WithinRateLimit config db d.incoming.senderProfileId d.nowMs)
    (hrun : Program.Runs (localEffect d.nowMs)
      (ingestIncomingCellData config ownProfileId (.ok d.decrypted) d.source) db out db')
    (messageId : MessageId) :
    ownerOf db' messageId = (ownerOf db messageId).or (addedBy d messageId) := by
  rw [ingestIncomingCellData, d.opens] at hrun
  by_cases hpure : isPureAcknowledgement d.incoming = false
  · obtain ⟨conversationId, rowId, m, stored, hstored, hsame⟩ :=
      ingestMessage_content hunblocked hlimit hpure hrun
    rw [ownerOf_sameContent hsame, ownerOf_stored howned hstored, addedBy]
    simp only [hpure, and_true]
  · have hsame := ingestMessage_acknowledgement (Bool.eq_true_of_not_eq_false hpure) hrun
    rw [ownerOf_sameContent hsame, addedBy, if_neg (fun h => hpure h.2), Option.or_none]

/-- One ingest leaves every incoming row owned. -/
theorem OwnedRows.ingest (howned : OwnedRows db)
    (hunblocked : ContactRepository.blockedProfile db d.incoming.senderProfileId = false)
    (hlimit : WithinRateLimit config db d.incoming.senderProfileId d.nowMs)
    (hrun : Program.Runs (localEffect d.nowMs)
      (ingestIncomingCellData config ownProfileId (.ok d.decrypted) d.source) db out db') :
    OwnedRows db' := by
  intro messageId hrow
  rw [ownerOf_ingest howned hunblocked hlimit hrun]
  have hold : (byLogicalId db (.incoming messageId)).isSome →
      ((ownerOf db messageId).or (addedBy d messageId)).isSome := by
    intro h
    rw [Option.isSome_or, howned messageId h, Bool.true_or]
  rw [ingestIncomingCellData, d.opens] at hrun
  by_cases hpure : isPureAcknowledgement d.incoming = false
  · obtain ⟨conversationId, rowId, m, stored, hstored, hsame⟩ :=
      ingestMessage_content hunblocked hlimit hpure hrun
    by_cases hid : d.incoming.messageId = messageId
    · rw [addedBy, if_pos ⟨hid, hpure⟩, Option.isSome_or, Option.isSome_some, Bool.or_true]
    · have hother : LogicalMessageId.incoming messageId ≠
          incomingLogicalMessageId d.incoming.messageId := by
        simpa [incomingLogicalMessageId] using fun h => hid h.symm
      rw [isSome_sameContent hsame, hstored.others _ hother] at hrow
      exact hold hrow
  · have hsame := ingestMessage_acknowledgement (Bool.eq_true_of_not_eq_false hpure) hrun
    exact hold ((isSome_sameContent hsame messageId).symm.trans hrow)

end Step

/-- The sender whose message ends up stored under an envelope message id: the one stored
    before, or else the first in the list that is not consumed as an acknowledgement. -/
def storedBy {ownProfileId : ProfileId} (db : Db) (ds : List (Delivery ownProfileId))
    (messageId : MessageId) : Option ProfileId :=
  (ownerOf db messageId).or (ds.findSome? (addedBy · messageId))

/-- Over a whole sequence, in any order, the first one stored under an id owns it. -/
theorem ownerOf_ingestRuns {config : RateLimiterConfig} {ownProfileId : ProfileId} {db db' : Db}
    {ds : List (Delivery ownProfileId)} (howned : OwnedRows db)
    (hruns : IngestRuns config db ds db') (messageId : MessageId) :
    ownerOf db' messageId = storedBy db ds messageId := by
  induction ds generalizing db with
  | nil =>
    obtain rfl := hruns
    simp [storedBy]
  | cons d ds ih =>
    obtain ⟨hunblocked, hlimit, out, mid, hrun, hrest⟩ := hruns
    rw [ih (howned.ingest hunblocked hlimit hrun) hrest, storedBy, storedBy,
      ownerOf_ingest howned hunblocked hlimit hrun, Option.or_assoc, List.findSome?_cons]
    cases addedBy d messageId <;> rfl

/-- The row a message ends up in: under its id, incoming, in its sender's conversation. -/
def RowOf (db : Db) (incoming : IncomingTextMessage) (rowId : Nat) : Prop :=
  ∃ m, byLogicalId db (incomingLogicalMessageId incoming.messageId) = some (rowId, m) ∧
    m.direction = .incoming ∧
    conversationProfile db m.conversationId = some incoming.senderProfileId

/-- Two content messages that differ in sender or id end up in two rows, and a message is not
    taken for received because another sender used its id. -/
structure NoSuppression {ownProfileId : ProfileId} (ds : List (Delivery ownProfileId)) (db' : Db) :
    Prop where
  distinct : ∀ d ∈ ds, ∀ e ∈ ds, CarriesContent d.incoming → CarriesContent e.incoming →
    (d.incoming.senderProfileId, d.incoming.messageId) ≠
      (e.incoming.senderProfileId, e.incoming.messageId) →
    ∃ i j, i ≠ j ∧ RowOf db' d.incoming i ∧ RowOf db' e.incoming j
  received : ∀ d ∈ ds, ∀ e ∈ ds, CarriesContent d.incoming →
    e.incoming.senderProfileId ≠ d.incoming.senderProfileId →
    e.incoming.messageId = d.incoming.messageId → ∃ i, RowOf db' d.incoming i

/-- Whether a message competes with another one: with a content message that differs in sender
    or id, or with any message of another sender under its id. -/
def Rivalled {ownProfileId : ProfileId} (ds : List (Delivery ownProfileId))
    (d : Delivery ownProfileId) : Prop :=
  ∃ e ∈ ds,
    (CarriesContent e.incoming ∧ (d.incoming.senderProfileId, d.incoming.messageId) ≠
      (e.incoming.senderProfileId, e.incoming.messageId)) ∨
    (e.incoming.senderProfileId ≠ d.incoming.senderProfileId ∧
      e.incoming.messageId = d.incoming.messageId)

/-- Every content message with a rival is its own sender's first under its id. -/
def FirstUnderId {ownProfileId : ProfileId} (db : Db) (ds : List (Delivery ownProfileId)) : Prop :=
  ∀ d ∈ ds, CarriesContent d.incoming → Rivalled ds d →
    storedBy db ds d.incoming.messageId = some d.incoming.senderProfileId

theorem exists_rowOf {db : Db} {incoming : IncomingTextMessage} :
    (∃ rowId, RowOf db incoming rowId) ↔
      ownerOf db incoming.messageId = some incoming.senderProfileId := by
  unfold RowOf ownerOf incomingLogicalMessageId
  cases byLogicalId db (.incoming incoming.messageId) with
  | none => simp
  | some row =>
    obtain ⟨rowId, m⟩ := row
    simp

/-- Messages in one row are of one sender and under one id. -/
theorem RowOf.same {db : Db} {first second : IncomingTextMessage} {rowId : Nat}
    (hfirst : RowOf db first rowId) (hsecond : RowOf db second rowId) :
    (first.senderProfileId, first.messageId) = (second.senderProfileId, second.messageId) := by
  obtain ⟨m, hrow, -, hprofile⟩ := hfirst
  obtain ⟨m', hrow', -, hprofile'⟩ := hsecond
  obtain ⟨hget, hid⟩ := byLogicalId_eq_some.1 hrow
  obtain ⟨hget', hid'⟩ := byLogicalId_eq_some.1 hrow'
  obtain rfl := Option.some.inj (hget.symm.trans hget')
  have hsender := Option.some.inj (hprofile.symm.trans hprofile')
  have hmessage := LogicalMessageId.incoming.inj (hid.symm.trans hid')
  rw [hsender, hmessage]

/-- A sequence of envelopes suppresses no message exactly when every content message with a
    rival is the first stored under its id. -/
theorem ingestRuns_noSuppression_iff {config : RateLimiterConfig} {ownProfileId : ProfileId}
    {db db' : Db} {ds : List (Delivery ownProfileId)} (howned : OwnedRows db)
    (hruns : IngestRuns config db ds db') :
    NoSuppression ds db' ↔ FirstUnderId db ds := by
  have hrow : ∀ d : Delivery ownProfileId, (∃ i, RowOf db' d.incoming i) ↔
      storedBy db ds d.incoming.messageId = some d.incoming.senderProfileId := by
    intro d
    rw [exists_rowOf, ownerOf_ingestRuns howned hruns]
  constructor
  · rintro h d hd hcontent ⟨e, he, ⟨hother, hpair⟩ | ⟨hsender, hid⟩⟩
    · obtain ⟨i, -, -, hi, -⟩ := h.distinct d hd e he hcontent hother hpair
      exact (hrow d).1 ⟨i, hi⟩
    · exact (hrow d).1 (h.received d hd e he hcontent hsender hid)
  · intro h
    refine ⟨fun d hd e he hcontent hother hpair => ?_, fun d hd e he hcontent hsender hid => ?_⟩
    · obtain ⟨i, hi⟩ := (hrow d).2 (h d hd hcontent ⟨e, he, .inl ⟨hother, hpair⟩⟩)
      obtain ⟨j, hj⟩ := (hrow e).2 (h e he hother ⟨d, hd, .inl ⟨hcontent, hpair.symm⟩⟩)
      refine ⟨i, j, ?_, hi, hj⟩
      rintro rfl
      exact hpair (hi.same hj)
    · exact (hrow d).2 (h d hd hcontent ⟨e, he, .inr ⟨hsender, hid⟩⟩)

/-- A text of one profile, and two of another one, the first of them under the same id. -/
def fromAlice : Delivery (sampleProfile 3) where
  decrypted := plainEnvelope (sampleProfile 1) (sampleProfile 3) (sampleMessageId 8) (some "a") [] []
  source := some ⟨5, 0⟩
  nowMs := 0
  incoming := _
  opens := rfl

def fromBob : Delivery (sampleProfile 3) where
  decrypted := plainEnvelope (sampleProfile 2) (sampleProfile 3) (sampleMessageId 8) (some "b") [] []
  source := some ⟨6, 0⟩
  nowMs := 0
  incoming := _
  opens := rfl

def fromBobLater : Delivery (sampleProfile 3) where
  decrypted := plainEnvelope (sampleProfile 2) (sampleProfile 3) (sampleMessageId 9) (some "b") [] []
  source := some ⟨7, 0⟩
  nowMs := 0
  incoming := _
  opens := rfl

theorem ownedRows_empty : OwnedRows Db.empty := by
  intro messageId h
  simp [byLogicalId, Table.first?, Db.empty] at h

/-- The database after two envelopes are ingested into an empty one. -/
def ingestedTwo (first second : Delivery (sampleProfile 3)) : Db :=
  (Program.run (clockedHandler 0) (ingestIncomingCellData DEFAULT_RATE_LIMITS (sampleProfile 3)
    (.ok second.decrypted) second.source) (ingested first.decrypted)).2

theorem ingestRuns_two {first second : Delivery (sampleProfile 3)}
    (hfirst : first.nowMs = 0 ∧ first.source = some ⟨5, 0⟩) (hsecond : second.nowMs = 0)
    (hunblocked : ContactRepository.blockedProfile (ingested first.decrypted)
      second.incoming.senderProfileId = false)
    (hlimit : WithinRateLimit DEFAULT_RATE_LIMITS (ingested first.decrypted)
      second.incoming.senderProfileId 0) :
    IngestRuns DEFAULT_RATE_LIMITS Db.empty [first, second] (ingestedTwo first second) := by
  obtain ⟨decrypted, source, nowMs, incoming, opens⟩ := first
  obtain ⟨decrypted', source', nowMs', incoming', opens'⟩ := second
  obtain ⟨rfl, rfl⟩ := hfirst
  obtain rfl := hsecond
  exact ⟨rfl, withinRateLimit_empty _, _, _, runs_clockedHandler 0 _ _, hunblocked, hlimit, _, _,
    runs_clockedHandler 0 _ _, rfl⟩

/-- The second sender's message is taken for received. -/
theorem second_sender_suppressed :
    IngestRuns DEFAULT_RATE_LIMITS Db.empty [fromAlice, fromBob] (ingestedTwo fromAlice fromBob) ∧
      ¬NoSuppression [fromAlice, fromBob] (ingestedTwo fromAlice fromBob) := by
  have hruns : IngestRuns DEFAULT_RATE_LIMITS Db.empty [fromAlice, fromBob]
      (ingestedTwo fromAlice fromBob) :=
    ingestRuns_two ⟨rfl, rfl⟩ rfl (by decide) (by constructor <;> decide +kernel)
  refine ⟨hruns, fun h => ?_⟩
  have hbob := h.received fromBob (by simp) fromAlice (by simp) (.inl (by decide)) (by decide) rfl
  have howner := exists_rowOf.1 hbob
  rw [ownerOf_ingestRuns ownedRows_empty hruns] at howner
  exact absurd howner (by decide)

/-- Under two ids both messages are kept. -/
theorem two_ids_kept :
    NoSuppression [fromAlice, fromBobLater] (ingestedTwo fromAlice fromBobLater) := by
  refine (ingestRuns_noSuppression_iff ownedRows_empty
    (ingestRuns_two ⟨rfl, rfl⟩ rfl (by decide) (by constructor <;> decide +kernel))).2 ?_
  intro d hd _ _
  simp only [List.mem_cons, List.not_mem_nil, or_false] at hd
  rcases hd with rfl | rfl <;> decide

end cemp.sync
