import CempMobile.Ckb.Acknowledgements
import CempMobile.Sync.Content
import Mathlib.Tactic.Linarith
import Mathlib.Tactic.NormNum
import Mathlib.Tactic.Positivity

open cemp.core cemp.database cemp.database.MessageRepository cemp.ckb

namespace cemp.sync

/-- A device: its database and the notifications it has posted. -/
structure Device where
  db : Db
  notified : List Nat

/-- What the ingest does to a device while the clock reads `nowMs`. -/
def deviceEffect (nowMs : Nat) : Program.Effect Op Error Device := fun _ op s answer s' =>
  match op with
  | .store access => answer = (access.exec s.db).1 ∧ s' = { s with db := (access.exec s.db).2 }
  | .now => answer = .ok nowMs ∧ s' = s
  | .notify rowId => s' = { s with notified := s.notified ++ [rowId] }
  | _ => s' = s

/-- The hourly rate of a bucket. -/
def hourlyRate (config : RateLimiterConfig) (bucket : BucketName) : ℚ :=
  match bucket.profileId with
  | none => config.globalPerHour
  | some _ => config.perContactPerHour

@[simp] theorem hourlyRate_global (config : RateLimiterConfig) (scope : RateLimitScope) :
    hourlyRate config ⟨scope, none⟩ = config.globalPerHour := rfl

@[simp] theorem hourlyRate_contact (config : RateLimiterConfig) (scope : RateLimitScope)
    (profileId : ProfileId) :
    hourlyRate config ⟨scope, some profileId⟩ = config.perContactPerHour := rfl

/-- The token level of a bucket at a time. -/
def tokenLevel (config : RateLimiterConfig) (db : Db) (bucket : BucketName) (nowMs : Nat) : ℚ :=
  tokensAt db bucket (hourlyRate config bucket) nowMs

/-- What ingesting a known cell again must leave as it was. The queued responses are messages
    and chain references. -/
structure Unchanged (config : RateLimiterConfig) (s s' : Device) : Prop where
  messages : s'.db.messages = s.db.messages
  chainRefs : s'.db.chainRefs = s.db.chainRefs
  attachments : s'.db.attachments = s.db.attachments
  notified : s'.notified = s.notified
  levels : ∀ bucket nowMs, tokenLevel config s'.db bucket nowMs = tokenLevel config s.db bucket nowMs
  admits : ∀ profileId nowMs,
    WithinRateLimit config s'.db profileId nowMs ↔ WithinRateLimit config s.db profileId nowMs

/-- A receipt with nothing left to do. -/
def ReceiptSettled (db : Db) (receipt : Receipt) : Prop :=
  match receiptEffect db receipt with
  | .skip => True
  | .flag rowId => ∀ r ∈ db.attachments.rows, r.2.messageId = rowId → r.2.remoteDownloaded = true
  | .ack .. => False

/-- What a full ingest of a message leaves: its row received, its attachment stored, its
    receipts applied. -/
structure FullyIngested (db : Db) (incoming : IncomingTextMessage) : Prop where
  stored : isPureAcknowledgement incoming = false →
    ∃ rowId m, byLogicalId db (incomingLogicalMessageId incoming.messageId) = some (rowId, m) ∧
      m.state ∉ STRANDABLE_INCOMING_STATES ∧
      (acceptedManifests incoming ≠ [] → AttachmentRepository.ofMessage db rowId ≠ [])
  receipts : ∀ receipt ∈ incoming.receipts, ReceiptSettled db receipt

/-- A message that does not get as far as a charge of the rate limiter. -/
def NeverCharged (config : RateLimiterConfig) (db : Db) (incoming : IncomingTextMessage)
    (nowMs : Nat) : Prop :=
  ContactRepository.blockedProfile db incoming.senderProfileId = true ∨
    isPureAcknowledgement incoming = true ∨
    ¬WithinRateLimit config db incoming.senderProfileId nowMs

section Device

variable {α : Type} {nowMs : Nat} {s s' : Device} {out : Except Error α}

/-- A program that only accesses the database has one run on a device. -/
theorem runs_deviceEffect_iff {p : Prog α} (huses : Program.Uses IsAccess p) :
    Program.Runs (deviceEffect nowMs) p s out s' ↔
      runLocal p s.db = (out, s'.db) ∧ s'.notified = s.notified := by
  induction p generalizing s with
  | ret a =>
    simp only [Program.runs_ret, runLocal, Program.run_ret, Prod.mk.injEq]
    constructor
    · rintro ⟨rfl, rfl⟩
      exact ⟨⟨rfl, rfl⟩, rfl⟩
    · rintro ⟨⟨rfl, hdb⟩, hnotified⟩
      obtain ⟨db, notified⟩ := s'
      exact ⟨rfl, by cases hdb; cases hnotified; rfl⟩
  | throw e =>
    simp only [Program.runs_throw, runLocal, Program.run_throw, Prod.mk.injEq]
    constructor
    · rintro ⟨rfl, rfl⟩
      exact ⟨⟨rfl, rfl⟩, rfl⟩
    · rintro ⟨⟨rfl, hdb⟩, hnotified⟩
      obtain ⟨db, notified⟩ := s'
      exact ⟨rfl, by cases hdb; cases hnotified; rfl⟩
  | call op k ih =>
    obtain ⟨hop, hk⟩ := huses
    cases op with
    | store access =>
      simp only [Program.runs_call, deviceEffect, ih _ (hk _), runLocal, Program.run, localHandler]
      constructor
      · rintro ⟨_, _, ⟨rfl, rfl⟩, hrest⟩
        exact hrest
      · intro hrest
        exact ⟨_, _, ⟨rfl, rfl⟩, hrest⟩
    | _ => exact absurd hop id

/-- Where accesses succeed, a run goes on with the rest of the program. -/
theorem runs_deviceEffect_bind {β : Type} {p : Prog β} {f : β → Prog α}
    (huses : Program.Uses IsAccess p) {db : Db} {b : β} (h : runLocal p s.db = (.ok b, db)) :
    Program.Runs (deviceEffect nowMs) (p.bind f) s out s' ↔
      Program.Runs (deviceEffect nowMs) (f b) { s with db := db } out s' := by
  simp only [Program.runs_bind, runs_deviceEffect_iff huses, h, Prod.mk.injEq]
  constructor
  · rintro (⟨b', ⟨db', notified⟩, ⟨⟨hb, rfl⟩, rfl⟩, hrest⟩ | ⟨e, ⟨⟨he, -⟩, -⟩, -⟩)
    · obtain rfl := Except.ok.inj hb
      exact hrest
    · cases he
  · intro hrest
    exact .inl ⟨b, { s with db := db }, ⟨⟨rfl, rfl⟩, rfl⟩, hrest⟩

theorem runs_deviceEffect_now {f : Nat → Prog α} :
    Program.Runs (deviceEffect nowMs) ((call .now).bind f) s out s' ↔
      Program.Runs (deviceEffect nowMs) (f nowMs) s out s' := by
  simp only [Program.runs_bind, Program.runs_perform, deviceEffect]
  constructor
  · rintro (⟨now, mid, ⟨hnow, rfl⟩, hrest⟩ | ⟨e, ⟨he, -⟩, -⟩)
    · obtain rfl := Except.ok.inj hnow
      exact hrest
    · cases he
  · intro hrest
    exact .inl ⟨nowMs, s, ⟨rfl, rfl⟩, hrest⟩

end Device

section Levels

variable {config : RateLimiterConfig} {db : Db} {nowMs : Nat}

theorem tokenLevel_withBucket (config : RateLimiterConfig) (db : Db) (stored : RateLimitBucket) (bucket : BucketName)
    (time : Nat) :
    tokenLevel config (RateLimitRepository.withBucket db stored) bucket time =
      if bucket = stored.bucket then
        min (hourlyRate config bucket) (stored.tokens +
          (((time - stored.updatedAtMs : Nat) : ℚ) / HOUR_MS) * hourlyRate config bucket)
      else tokenLevel config db bucket time := by
  unfold tokenLevel tokensAt
  by_cases hbucket : bucket = stored.bucket
  · rw [if_pos hbucket, hbucket, RateLimitRepository.byBucket_withBucket_self]
  · rw [if_neg hbucket, RateLimitRepository.byBucket_withBucket_of_ne (Ne.symm hbucket)]

/-- Storing a full bucket where none was stored changes no level. -/
theorem tokenLevel_full {bucket : BucketName} (hrate : 0 ≤ hourlyRate config bucket)
    (hnone : RateLimitRepository.byBucket db bucket = none) (other : BucketName) (time : Nat) :
    tokenLevel config
        (RateLimitRepository.withBucket db ⟨bucket, hourlyRate config bucket, nowMs⟩) other time =
      tokenLevel config db other time := by
  rw [tokenLevel_withBucket]
  dsimp only
  by_cases hother : other = bucket
  · subst hother
    have hlevel : tokenLevel config db other time = hourlyRate config other := by
      unfold tokenLevel tokensAt
      rw [hnone]
    have hgain : 0 ≤ (((time - nowMs : Nat) : ℚ) / HOUR_MS) * hourlyRate config other := by
      have hhour : (0 : ℚ) ≤ HOUR_MS := by norm_num [HOUR_MS]
      positivity
    rw [if_pos rfl, hlevel, min_eq_left]
    linarith
  · rw [if_neg hother]

/-- Reading a bucket changes no level. -/
theorem refill_level (db : Db) (bucket : BucketName) (hrate : 0 ≤ hourlyRate config bucket)
    (nowMs : Nat) :
    ∃ rateLimits, runLocal (refill bucket (hourlyRate config bucket) nowMs) db =
        (.ok (tokenLevel config db bucket nowMs), { db with rateLimits := rateLimits }) ∧
      ∀ other time, tokenLevel config { db with rateLimits := rateLimits } other time =
        tokenLevel config db other time := by
  have hread := runLocal_store (.getRateLimit bucket) db
  simp only [StoreOp.exec, RateLimitRepository.get, Method.read] at hread
  unfold refill tokenLevel tokensAt
  rw [Program.bind_eq_bind, runLocal_bind_ok hread]
  cases hbucket : RateLimitRepository.byBucket db bucket with
  | some state => exact ⟨db.rateLimits, rfl, fun _ _ => rfl⟩
  | none =>
    have hset := runLocal_store (.setRateLimit ⟨bucket, hourlyRate config bucket, nowMs⟩) db
    exact ⟨_, runLocal_bind_ok hset, tokenLevel_full hrate hbucket⟩

/-- The limiter refuses a message without changing any level, or admits it and takes a token. -/
theorem consumeAt_level (hcontact : 0 ≤ config.perContactPerHour) (hglobal : 0 ≤ config.globalPerHour)
    (db : Db) (senderProfileId : ProfileId) (nowMs : Nat) :
    ∃ admitted rateLimits, runLocal (consumeAt config .incoming senderProfileId nowMs) db =
        (.ok admitted, { db with rateLimits := rateLimits }) ∧
      (admitted = true ↔ WithinRateLimit config db senderProfileId nowMs) ∧
      (admitted = false → ∀ other time,
        tokenLevel config { db with rateLimits := rateLimits } other time =
          tokenLevel config db other time) ∧
      (admitted = true →
        tokenLevel config { db with rateLimits := rateLimits } ⟨.incoming, none⟩ nowMs <
          tokenLevel config db ⟨.incoming, none⟩ nowMs) := by
  obtain ⟨global, hreadGlobal, hsameGlobal⟩ :=
    refill_level db ⟨.incoming, none⟩ hglobal nowMs
  obtain ⟨contact, hreadContact, hsameContact⟩ := refill_level
    { db with rateLimits := global } ⟨.incoming, some senderProfileId⟩ hcontact nowMs
  rw [hsameGlobal, hourlyRate_contact] at hreadContact
  rw [hourlyRate_global] at hreadGlobal
  have hwithin : WithinRateLimit config db senderProfileId nowMs ↔
      1 ≤ tokenLevel config db ⟨.incoming, some senderProfileId⟩ nowMs ∧
        1 ≤ tokenLevel config db ⟨.incoming, none⟩ nowMs := Iff.rfl
  unfold consumeAt
  rw [Program.bind_eq_bind, runLocal_bind_ok hreadGlobal, Program.bind_eq_bind,
    runLocal_bind_ok hreadContact]
  by_cases hlimit : tokenLevel config db ⟨.incoming, some senderProfileId⟩ nowMs < 1 ∨
      tokenLevel config db ⟨.incoming, none⟩ nowMs < 1
  · rw [if_pos hlimit]
    refine ⟨false, contact, rfl, ?_, fun _ other time => ?_, fun h => by cases h⟩
    · rw [hwithin]
      constructor
      · intro h
        cases h
      · rintro ⟨hone, hall⟩
        rcases hlimit with h | h <;> linarith
    · rw [← hsameGlobal other time]
      exact hsameContact other time
  · rw [if_neg hlimit, Program.bind_eq_bind, runLocal_bind_ok (runLocal_store _ _),
      Program.bind_eq_bind, runLocal_bind_ok (runLocal_store _ _)]
    rw [not_or, not_lt, not_lt] at hlimit
    refine ⟨true, _, rfl, by simp [hwithin, hlimit], fun h => (by cases h), fun _ => ?_⟩
    have hcharged := tokenLevel_withBucket config
      (RateLimitRepository.withBucket { db with rateLimits := contact }
        ⟨⟨.incoming, some senderProfileId⟩,
          tokenLevel config db ⟨.incoming, some senderProfileId⟩ nowMs - 1, nowMs⟩)
      ⟨⟨.incoming, none⟩, tokenLevel config db ⟨.incoming, none⟩ nowMs - 1, nowMs⟩
      ⟨.incoming, none⟩ nowMs
    rw [if_pos rfl, Nat.sub_self] at hcharged
    have hle : tokenLevel config _ ⟨.incoming, none⟩ nowMs ≤ _ := hcharged.trans_le (min_le_right _ _)
    refine lt_of_le_of_lt hle ?_
    simp

end Levels

section Known

variable {config : RateLimiterConfig} {db : Db} {incoming : IncomingTextMessage} {rowId : Nat}
  {m : Message}

/-- A settled receipt has nothing to do. -/
theorem applyReceipt_settled {receipt : Receipt} (h : ReceiptSettled db receipt) :
    runLocal (applyReceipt receipt) db = (.ok none, db) := by
  rw [applyReceipt_run]
  unfold ReceiptSettled at h
  cases heffect : receiptEffect db receipt with
  | skip => rfl
  | flag rowId =>
    rw [heffect] at h
    have hsame : (AttachmentRepository.markRemoteDownloaded rowId db).2 = db := by
      simp only [AttachmentRepository.markRemoteDownloaded]
      rw [Table.update_eq_self]
      intro r hr hrow
      have hflagged := h r hr (by simpa using hrow)
      exact Attachment.ext rfl rfl rfl rfl rfl rfl hflagged.symm
    simp only [hsame]
  | ack rowId capacity =>
    rw [heffect] at h
    exact h.elim

theorem processAcknowledgements_settled {receipts : List Receipt}
    (h : ∀ receipt ∈ receipts, ReceiptSettled db receipt) :
    runLocal (processAcknowledgements receipts) db = (.ok [], db) := by
  induction receipts with
  | nil => rfl
  | cons receipt receipts ih =>
    have hfirst := applyReceipt_settled (h receipt List.mem_cons_self)
    have hrest := ih fun r hr => h r (List.mem_cons_of_mem _ hr)
    unfold processAcknowledgements
    rw [Program.bind_eq_bind, runLocal_bind_ok hfirst, Program.bind_eq_bind, runLocal_bind_ok hrest]
    rfl

/-- The manifests of a message that has its attachment, or that has none to keep. -/
theorem storeManifests_known
    (h : acceptedManifests incoming ≠ [] → AttachmentRepository.ofMessage db rowId ≠ []) :
    runLocal (storeManifests rowId incoming) db = (.ok (), db) := by
  unfold storeManifests
  by_cases hnone : incoming.attachmentManifests = []
  · rw [if_pos hnone]
    rfl
  · have hread := runLocal_store (.listAttachments rowId) db
    simp only [StoreOp.exec, AttachmentRepository.listForMessage, Method.read] at hread
    rw [if_neg hnone, Program.bind_eq_bind, runLocal_bind_ok hread]
    by_cases hstored : AttachmentRepository.ofMessage db rowId = []
    · have hrejected : ∀ manifest ∈ incoming.attachmentManifests, ¬acceptsManifest manifest :=
        List.filter_eq_nil_iff.1 (by_contra fun hsome => h hsome hstored)
      rw [hstored, List.isEmpty_nil, if_pos rfl]
      clear h hnone hread hstored
      generalize incoming.attachmentManifests = manifests at hrejected ⊢
      induction manifests with
      | nil => rfl
      | cons manifest manifests ih =>
        rw [Program.forEach_cons, if_neg (hrejected manifest List.mem_cons_self)]
        exact ih fun other hother => hrejected other (List.mem_cons_of_mem _ hother)
    · have hsome : (AttachmentRepository.ofMessage db rowId).isEmpty = false := by
        rw [List.isEmpty_eq_false_iff]
        exact hstored
      rw [hsome]
      rfl

/-- Storing a row that is there creates at most a contact and a conversation. -/
theorem storeRow_known
    (hrow : byLogicalId db (incomingLogicalMessageId incoming.messageId) = some (rowId, m))
    (h : acceptedManifests incoming ≠ [] → AttachmentRepository.ofMessage db rowId ≠ []) :
    ∃ conversationId contacts conversations, runLocal (storeRow incoming) db =
      (.ok (conversationId, rowId, m),
        { db with contacts := contacts, conversations := conversations }) := by
  obtain ⟨conversationId, contacts, conversations, hconversation, -, -⟩ :=
    conversationOf_run db incoming.senderProfileId
  have hinsert := runLocal_store (.insertMessage (incomingRow incoming conversationId))
    { db with contacts := contacts, conversations := conversations }
  simp only [StoreOp.exec] at hinsert
  rw [insert_existing hrow] at hinsert
  have hmanifests : runLocal (storeManifests rowId incoming)
      { db with contacts := contacts, conversations := conversations } =
        (.ok (), { db with contacts := contacts, conversations := conversations }) :=
    storeManifests_known h
  refine ⟨conversationId, contacts, conversations, ?_⟩
  unfold storeRow
  rw [Program.bind_eq_bind, runLocal_bind_ok hconversation, Program.bind_eq_bind,
    runLocal_bind_ok hinsert, Program.bind_eq_bind, runLocal_bind_ok hmanifests]
  rfl

/-- Where the limiter comes in when a known message is ingested again: the message never gets
    to it, or it is refused, or it is charged. -/
theorem reingest_run {nowMs : Nat} {source : Option OutPoint} {s s' : Device}
    {out : Except Error Unit} (hcontact : 0 ≤ config.perContactPerHour)
    (hglobal : 0 ≤ config.globalPerHour) (hknown : FullyIngested s.db incoming)
    (hrun : Program.Runs (deviceEffect nowMs) (ingestMessage config incoming source) s out s') :
    (NeverCharged config s.db incoming nowMs ∧ s'.notified = s.notified ∧
      ∃ rateLimits, s'.db = { s.db with rateLimits := rateLimits } ∧
        ∀ bucket time, tokenLevel config s'.db bucket time = tokenLevel config s.db bucket time) ∨
    (¬NeverCharged config s.db incoming nowMs ∧
      tokenLevel config s'.db ⟨.incoming, none⟩ nowMs <
        tokenLevel config s.db ⟨.incoming, none⟩ nowMs) := by
  have hread : runLocal (store (.isBlockedByProfileId incoming.senderProfileId)) s.db =
      (.ok (ContactRepository.blockedProfile s.db incoming.senderProfileId), s.db) :=
    runLocal_store _ _
  unfold ingestMessage at hrun
  rw [Program.bind_eq_bind, runs_deviceEffect_bind (uses_store _) hread] at hrun
  by_cases hblocked : ContactRepository.blockedProfile s.db incoming.senderProfileId = true
  · rw [if_pos hblocked] at hrun
    obtain ⟨-, rfl⟩ := hrun
    exact .inl ⟨.inl hblocked, rfl, s.db.rateLimits, rfl, fun _ _ => rfl⟩
  rw [if_neg hblocked] at hrun
  by_cases hpure : isPureAcknowledgement incoming = true
  · have hsettled := processAcknowledgements_settled hknown.receipts
    rw [if_pos hpure, Program.bind_eq_bind,
      runs_deviceEffect_bind (processAcknowledgements_access _) hsettled] at hrun
    obtain ⟨-, rfl⟩ := hrun
    exact .inl ⟨.inr (.inl hpure), rfl, s.db.rateLimits, rfl, fun _ _ => rfl⟩
  obtain ⟨admitted, rateLimits, hconsume, hadmitted, hrefused, hcharged⟩ :=
    consumeAt_level hcontact hglobal s.db incoming.senderProfileId nowMs
  rw [if_neg hpure, Program.bind_eq_bind] at hrun
  unfold consume at hrun
  rw [Program.bind_eq_bind, Program.bind_assoc, runs_deviceEffect_now,
    runs_deviceEffect_bind (consumeAt_access _ _ _) hconsume] at hrun
  cases admitted with
  | false =>
    obtain ⟨-, rfl⟩ := hrun
    have hlimit : ¬WithinRateLimit config s.db incoming.senderProfileId nowMs := by
      intro h
      cases hadmitted.2 h
    exact .inl ⟨.inr (.inr hlimit), rfl, rateLimits, rfl, hrefused rfl⟩
  | true =>
    have hnever : ¬NeverCharged config s.db incoming nowMs := by
      rintro (h | h | h)
      · exact hblocked h
      · exact hpure h
      · exact h (hadmitted.1 rfl)
    obtain ⟨rowId, m, hrow, hreceived, hattached⟩ := hknown.stored (by simpa using hpure)
    have hrow' : byLogicalId { s.db with rateLimits := rateLimits }
        (incomingLogicalMessageId incoming.messageId) = some (rowId, m) := hrow
    obtain ⟨conversationId, contacts, conversations, hstore⟩ := storeRow_known hrow' hattached
    have hsettled : runLocal (processAcknowledgements incoming.receipts)
        { s.db with rateLimits := rateLimits, contacts := contacts, conversations := conversations } =
          (.ok [], { s.db with
            rateLimits := rateLimits, contacts := contacts, conversations := conversations }) :=
      processAcknowledgements_settled hknown.receipts
    rw [if_neg (by simp), Program.bind_eq_bind] at hrun
    unfold storeContent advanceInserted at hrun
    rw [Program.bind_eq_bind, Program.bind_assoc,
      runs_deviceEffect_bind (storeRow_access _) hstore] at hrun
    simp only [hreceived, if_false, Program.pure_eq_ret, Program.ret_bind] at hrun
    refine .inr ⟨hnever, ?_⟩
    have hdb : s'.db = { s.db with
        rateLimits := rateLimits, contacts := contacts, conversations := conversations } := by
      by_cases hreceipts : 0 < incoming.receipts.length
      · rw [if_pos hreceipts, Program.bind_eq_bind,
          runs_deviceEffect_bind (processAcknowledgements_access _) hsettled] at hrun
        rw [hrun.2]
      · rw [if_neg hreceipts] at hrun
        rw [hrun.2]
    rw [hdb]
    exact hcharged rfl

end Known

/-- One cell ingested again and again: the clock's reading at each time, and what it left. -/
def Reingests (config : RateLimiterConfig) (ownProfileId : ProfileId)
    (decryptEnvelope : Except Error DecryptedEnvelope) (source : Option OutPoint) :
    Device → List (Nat × Device) → Prop
  | _, [] => True
  | s, (nowMs, after) :: steps =>
    (∃ out, Program.Runs (deviceEffect nowMs)
      (ingestIncomingCellData config ownProfileId decryptEnvelope source) s out after) ∧
    Reingests config ownProfileId decryptEnvelope source after steps

theorem withinRateLimit_iff (config : RateLimiterConfig) (db : Db) (profileId : ProfileId)
    (nowMs : Nat) :
    WithinRateLimit config db profileId nowMs ↔
      1 ≤ tokenLevel config db ⟨.incoming, some profileId⟩ nowMs ∧
        1 ≤ tokenLevel config db ⟨.incoming, none⟩ nowMs := Iff.rfl

section Unchanged

variable {config : RateLimiterConfig} {s mid s' : Device}

/-- Where only the limiter's rows were touched, and no level changed, all is unchanged. -/
theorem unchanged_of_levels {rateLimits : Table RateLimitBucket.key}
    (hdb : mid.db = { s.db with rateLimits := rateLimits }) (hnotified : mid.notified = s.notified)
    (hlevels : ∀ bucket time, tokenLevel config mid.db bucket time = tokenLevel config s.db bucket time) :
    Unchanged config s mid where
  messages := by rw [hdb]
  chainRefs := by rw [hdb]
  attachments := by rw [hdb]
  notified := hnotified
  levels := hlevels
  admits profileId nowMs := by simp only [withinRateLimit_iff, hlevels]

/-- What is unchanged since a state is unchanged since any state like it. -/
theorem Unchanged.since (h : Unchanged config s mid) :
    Unchanged config mid s' ↔ Unchanged config s s' := by
  constructor
  · intro h'
    exact ⟨h'.messages.trans h.messages, h'.chainRefs.trans h.chainRefs,
      h'.attachments.trans h.attachments, h'.notified.trans h.notified,
      fun bucket time => (h'.levels bucket time).trans (h.levels bucket time),
      fun profileId time => (h'.admits profileId time).trans (h.admits profileId time)⟩
  · intro h'
    exact ⟨h'.messages.trans h.messages.symm, h'.chainRefs.trans h.chainRefs.symm,
      h'.attachments.trans h.attachments.symm, h'.notified.trans h.notified.symm,
      fun bucket time => (h'.levels bucket time).trans (h.levels bucket time).symm,
      fun profileId time => (h'.admits profileId time).trans (h.admits profileId time).symm⟩

end Unchanged

/-- Ingesting a known cell again, any number of times and at any times, leaves everything as it
    was exactly when the message never gets to the limiter, or is refused by it: an admitted
    message is charged before the row is found to be there. -/
theorem reingests_unchanged_iff {config : RateLimiterConfig} (hcontact : 0 ≤ config.perContactPerHour)
    (hglobal : 0 ≤ config.globalPerHour) {ownProfileId : ProfileId}
    {decryptEnvelope : Except Error DecryptedEnvelope} {source : Option OutPoint}
    {incoming : IncomingTextMessage} {s : Device} {steps : List (Nat × Device)}
    (hopens : processIncomingText decryptEnvelope ownProfileId = .ok incoming)
    (hknown : FullyIngested s.db incoming)
    (hruns : Reingests config ownProfileId decryptEnvelope source s steps) :
    (∀ step ∈ steps, Unchanged config s step.2) ↔
      ∀ step ∈ steps, NeverCharged config s.db incoming step.1 := by
  induction steps generalizing s with
  | nil => simp
  | cons step steps ih =>
    obtain ⟨nowMs, after⟩ := step
    obtain ⟨⟨out, hrun⟩, hrest⟩ := hruns
    rw [ingestIncomingCellData, hopens] at hrun
    simp only [List.forall_mem_cons]
    obtain ⟨hnever, hnotified, rateLimits, hdb, hlevels⟩ | ⟨hcharged, hlevel⟩ :=
      reingest_run hcontact hglobal hknown hrun
    · have hsame := unchanged_of_levels hdb hnotified hlevels
      have hknown' : FullyIngested after.db incoming := by
        rw [hdb]
        exact ⟨hknown.stored, hknown.receipts⟩
      have hblocked : ContactRepository.blockedProfile after.db incoming.senderProfileId =
          ContactRepository.blockedProfile s.db incoming.senderProfileId := by
        rw [hdb]
        rfl
      have hnever' : ∀ time, NeverCharged config after.db incoming time ↔
          NeverCharged config s.db incoming time := by
        intro time
        simp only [NeverCharged, hblocked, withinRateLimit_iff, hlevels]
      have hstep := ih hknown' hrest
      simp only [hsame.since, hnever'] at hstep
      simp only [hsame, hnever, true_and, hstep]
    · constructor
      · intro h
        exact absurd (h.1.levels ⟨.incoming, none⟩ nowMs) (ne_of_lt hlevel)
      · intro h
        exact absurd h.1 hcharged

/-- Executes the ingest on a device. -/
def deviceHandler (nowMs : Nat) : Program.Handler Op Error Device := fun _ op s =>
  match op with
  | .store access => ((access.exec s.db).1, { s with db := (access.exec s.db).2 })
  | .now => (.ok nowMs, s)
  | .notify rowId => (.ok (), { s with notified := s.notified ++ [rowId] })
  | _ => (.error (.other "no such call"), s)

theorem runs_deviceHandler {α : Type} (nowMs : Nat) (p : Prog α) (s : Device) :
    Program.Runs (deviceEffect nowMs) p s (Program.run (deviceHandler nowMs) p s).1
      (Program.run (deviceHandler nowMs) p s).2 := by
  refine Program.runs_of_run (deviceHandler nowMs) id ?_ p s
  intro β op s
  cases op <;> first | rfl | exact ⟨rfl, rfl⟩

def knownText : DecryptedEnvelope :=
  plainEnvelope (sampleProfile 1) (sampleProfile 3) (sampleMessageId 8) (some "a") [] []

/-- A device that has ingested a text, and the same device after its sender was blocked. -/
def knownDevice : Device := ⟨ingested knownText, [1]⟩

def blockedDevice : Device :=
  { knownDevice with
    db := { knownDevice.db with contacts := .singleton ⟨"alice", some (sampleProfile 1), true⟩ } }

/-- The device after the text is ingested again. -/
def reingested (s : Device) : Device :=
  (Program.run (deviceHandler 0) (ingestIncomingCellData DEFAULT_RATE_LIMITS (sampleProfile 3)
    (.ok knownText) (some ⟨5, 0⟩)) s).2

theorem reingests_once (s : Device) :
    Reingests DEFAULT_RATE_LIMITS (sampleProfile 3) (.ok knownText) (some ⟨5, 0⟩) s
      [(0, reingested s)] :=
  ⟨⟨_, runs_deviceHandler 0 _ _⟩, trivial⟩

theorem known_text_ingested :
    ∃ incoming, processIncomingText (.ok knownText) (sampleProfile 3) = .ok incoming ∧
      FullyIngested knownDevice.db incoming ∧ FullyIngested blockedDevice.db incoming ∧
      ContactRepository.blockedProfile blockedDevice.db incoming.senderProfileId = true := by
  refine ⟨_, rfl, ⟨fun _ => ⟨1, _, rfl, by decide, fun h => absurd rfl h⟩, ?_⟩,
    ⟨fun _ => ⟨1, _, rfl, by decide, fun h => absurd rfl h⟩, ?_⟩, by decide⟩
  · simp
  · simp

/-- The known text of a blocked sender changes nothing. -/
theorem blocked_text_unchanged :
    Unchanged DEFAULT_RATE_LIMITS blockedDevice (reingested blockedDevice) := by
  obtain ⟨incoming, hopens, -, hknown, hblocked⟩ := known_text_ingested
  have hall := (reingests_unchanged_iff (by decide) (by decide) hopens hknown
    (reingests_once blockedDevice)).2 fun step _ => .inl hblocked
  exact hall _ (List.mem_singleton_self _)

/-- The known text of an unblocked sender takes a token. -/
theorem known_text_charged :
    ∃ incoming, processIncomingText (.ok knownText) (sampleProfile 3) = .ok incoming ∧
      FullyIngested knownDevice.db incoming ∧
      Reingests DEFAULT_RATE_LIMITS (sampleProfile 3) (.ok knownText) (some ⟨5, 0⟩) knownDevice
        [(0, reingested knownDevice)] ∧
      ¬Unchanged DEFAULT_RATE_LIMITS knownDevice (reingested knownDevice) := by
  obtain ⟨incoming, hopens, hknown, -, -⟩ := known_text_ingested
  refine ⟨incoming, hopens, hknown, reingests_once _, fun h => ?_⟩
  have hlevel := h.levels ⟨.incoming, none⟩ 0
  exact absurd hlevel (by decide +kernel)

end cemp.sync
