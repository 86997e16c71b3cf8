import CempMobile.Database.Schema

open cemp.core

namespace cemp.database

namespace ContactRepository

def byProfileId (db : Db) (profileIdHex : ProfileId) : Option (Nat × Contact) :=
  db.contacts.first? fun c => c.profileIdHex == some profileIdHex

/-- A second contact with the same profile id violates the UNIQUE column. -/
def create (contact : Contact) : Method Nat := fun db =>
  if fresh : db.contacts.Fresh contact then
    (.ok db.contacts.nextId, { db with contacts := db.contacts.insert contact fresh })
  else
    (.error (.database .constraint_violation
      "contact insert failed (profile id already used?)"), db)

def getById (id : Nat) : Method (Option Contact) := .read fun db => db.contacts.get? id

def getByProfileId (profileIdHex : ProfileId) : Method (Option (Nat × Contact)) :=
  .read fun db => byProfileId db profileIdHex

/-- Whether the contact with this profile id is blocked; an unknown one is not. -/
def blockedProfile (db : Db) (profileIdHex : ProfileId) : Bool :=
  match byProfileId db profileIdHex with
  | none => false
  | some (_, contact) => contact.blocked

def isBlockedByProfileId (profileIdHex : ProfileId) : Method Bool :=
  .read fun db => blockedProfile db profileIdHex

end ContactRepository

namespace ConversationRepository

def byContact (db : Db) (contactId : Nat) : Option (Nat × Conversation) :=
  db.conversations.first? fun c => c.contactId == contactId

/-- The contact's only conversation, created when it has none. -/
def getOrCreateForContact (contactId : Nat) : Method Nat := fun db =>
  match byContact db contactId with
  | some (id, _) => (.ok id, db)
  | none =>
    if fresh : db.conversations.Fresh ⟨contactId⟩ then
      (.ok db.conversations.nextId, { db with
        conversations := db.conversations.insert ⟨contactId⟩ fresh })
    else
      (.error (.database .constraint_violation
        ("cannot create conversation for contact " ++ toString contactId)), db)

def getById (id : Nat) : Method (Option Conversation) := .read fun db => db.conversations.get? id

end ConversationRepository

namespace ProfileRepository

/-- A second profile with the same id violates the UNIQUE column. -/
def create (input : StoredProfile) : Method Unit := fun db =>
  if fresh : db.profiles.Fresh input then
    (.ok (), { db with profiles := db.profiles.insert input fresh })
  else
    (.error (.database .constraint_violation
      "profile insert failed (profile id already used?)"), db)

/-- The active profile of an account that was stored last. -/
def getActiveByAccount (accountId : Nat) : Method (Option StoredProfile) := .read fun db =>
  (db.profiles.last? fun p => p.accountId == accountId && p.state == .active).map (·.2)

end ProfileRepository

/-- The profile a conversation is with. -/
def conversationProfile (db : Db) (conversationId : Nat) : Option ProfileId :=
  (db.conversations.get? conversationId).bind fun conversation =>
    (db.contacts.get? conversation.contactId).bind (·.profileIdHex)

/-- Contacts and conversations were added, if anything. -/
structure Db.Grows (db db' : Db) : Prop where
  contacts : ∀ id contact, db.contacts.get? id = some contact →
    db'.contacts.get? id = some contact
  conversations : ∀ id conversation, db.conversations.get? id = some conversation →
    db'.conversations.get? id = some conversation

theorem Db.Grows.refl (db : Db) : db.Grows db := ⟨fun _ _ h => h, fun _ _ h => h⟩

theorem Db.Grows.trans {db db' db'' : Db} (h : db.Grows db') (h' : db'.Grows db'') :
    db.Grows db'' :=
  ⟨fun id contact hget => h'.contacts id contact (h.contacts id contact hget),
    fun id conversation hget => h'.conversations id conversation (h.conversations id _ hget)⟩

/-- A conversation stays with whom it is. -/
theorem Db.Grows.conversationProfile {db db' : Db} (h : db.Grows db') {conversationId : Nat}
    {profileId : ProfileId} (hprofile : conversationProfile db conversationId = some profileId) :
    conversationProfile db' conversationId = some profileId := by
  unfold cemp.database.conversationProfile at hprofile ⊢
  obtain ⟨conversation, hconversation, hcontact⟩ := Option.bind_eq_some_iff.1 hprofile
  obtain ⟨contact, hget, hid⟩ := Option.bind_eq_some_iff.1 hcontact
  rw [h.conversations _ _ hconversation, Option.bind_some, h.contacts _ _ hget, Option.bind_some,
    hid]

namespace RateLimitRepository

def byBucket (db : Db) (bucket : BucketName) : Option RateLimitBucket :=
  (db.rateLimits.first? fun b => b.bucket == bucket).map (·.2)

def get (bucket : BucketName) : Method (Option RateLimitBucket) := .read fun db => byBucket db bucket

def replacedBucket (bucket old : RateLimitBucket) : RateLimitBucket :=
  { bucket with bucket := old.bucket }

theorem key_replacedBucket (bucket old : RateLimitBucket) :
    (replacedBucket bucket old).key = old.key := rfl

/-- The database with the state of a bucket inserted or replaced. -/
def withBucket (db : Db) (bucket : RateLimitBucket) : Db :=
  { db with
    rateLimits := db.rateLimits.upsert bucket replacedBucket (key_replacedBucket bucket) }

def set (bucket : RateLimitBucket) : Method Unit := fun db => (.ok (), withBucket db bucket)

theorem byBucket_withBucket_of_ne {db : Db} {name : BucketName} {bucket : RateLimitBucket}
    (h : bucket.bucket ≠ name) : byBucket (withBucket db bucket) name = byBucket db name := by
  unfold byBucket withBucket
  rw [Table.first?_upsert_of_ne]
  intro b hb
  simp only [RateLimitBucket.key, Option.some.injEq] at hb
  simp [hb, h]

theorem byBucket_withBucket_self (db : Db) (bucket : RateLimitBucket) :
    byBucket (withBucket db bucket) bucket.bucket = some bucket := by
  refine Table.first?_upsert_self (by simp [RateLimitBucket.key]) rfl fun old hkey => ?_
  have hname : old.bucket = bucket.bucket := Option.some.inj hkey
  rw [replacedBucket, hname]

end RateLimitRepository

end cemp.database
