import CempMobile.Database.Schema

open cemp.core

namespace cemp.database

/-- The input of `MessageRepository.insert`: the row as it will be stored, its state set. -/
structure NewMessage where
  conversationId : Nat
  direction : MessageDirection
  body : Option String
  logicalMessageId : LogicalMessageId
  state : MessageState
  fits : state.Fits direction

def NewMessage.row (input : NewMessage) : Message :=
  ⟨input.conversationId, input.direction, input.state, input.body, input.logicalMessageId, none,
    input.fits⟩

namespace MessageRepository

/-- `SELECT * FROM messages WHERE logical_message_id = ?`. -/
def byLogicalId (db : Db) (id : LogicalMessageId) : Option (Nat × Message) :=
  db.messages.first? fun m => m.logicalMessageId == id

/-- `ON CONFLICT (logical_message_id) DO NOTHING`, then the row is read back: an existing row
    is returned unchanged. -/
def insert (input : NewMessage) : Method (Nat × Message) := fun db =>
  if fresh : db.messages.Fresh input.row then
    let id := db.messages.nextId
    (.ok (id, input.row), { db with messages := db.messages.insert input.row fresh })
  else match byLogicalId db input.logicalMessageId with
  | some row => (.ok row, db)
  | none =>
    (.error (.database .adapter_error "message insert did not produce a readable row"), db)

def getById (id : Nat) : Method (Option Message) := .read fun db => db.messages.get? id

def getByLogicalId (id : LogicalMessageId) : Method (Option (Nat × Message)) :=
  .read fun db => byLogicalId db id

/-- The rows in one of the given states, at most `limit` of them, oldest first. -/
def selectByState (db : Db) (states : List MessageState) (limit : Nat) : List (Nat × Message) :=
  (db.messages.select fun m => states.contains m.state).take limit

def listByState (states : List MessageState) : Method (List (Nat × Message)) :=
  .read fun db => selectByState db states 500

/-- A move to another state, kept within the states of the row's direction. -/
def withState (target : MessageState) (m : Message) : Message :=
  if h : target.Fits m.direction then { m with state := target, fits := h } else m

theorem key_withState (target : MessageState) (m : Message) :
    (withState target m).key = m.key := by
  unfold withState Message.key
  split <;> rfl

/-- The database with the state of one message changed. -/
def setMessageState (db : Db) (id : Nat) (target : MessageState) : Db :=
  { db with
    messages := db.messages.update (fun rowId _ => rowId == id) (withState target)
      (key_withState target) }

/-- Enforces the state machine: an unknown row and an illegal move throw, a move to the
    current state does nothing. -/
def transitionState (id : Nat) (target : MessageState) : Method Unit := fun db =>
  match db.messages.get? id with
  | none => (.error (.database .not_found ("message " ++ toString id ++ " does not exist")), db)
  | some current =>
    if current.state = target then (.ok (), db)
    else if canTransitionMessage current.direction current.state target then
      (.ok (), setMessageState db id target)
    else
      (.error (.database .illegal_state_transition (current.direction.text ++
        " message cannot transition " ++ current.state.text ++ " → " ++ target.text)), db)

def chainRef? (db : Db) (messageId : Nat) : Option MessageChainRef :=
  (db.chainRefs.first? fun ref => ref.messageId == messageId).map (·.2)

def replaceChainRef (ref old : MessageChainRef) : MessageChainRef :=
  { ref with messageId := old.messageId }

theorem key_replaceChainRef (ref old : MessageChainRef) :
    (replaceChainRef ref old).key = old.key := rfl

/-- Inserts or replaces the row's references; a reference not given becomes NULL. -/
def setChainRef (ref : MessageChainRef) : Method Unit := fun db =>
  (.ok (), { db with
    chainRefs := db.chainRefs.upsert ref replaceChainRef (key_replaceChainRef ref) })

def getChainRef (messageId : Nat) : Method (Option MessageChainRef) :=
  .read fun db => chainRef? db messageId

def withEnvelopeMessageId (envelopeMessageIdHex : MessageId) (m : Message) : Message :=
  { m with envelopeMessageIdHex := some envelopeMessageIdHex }

theorem key_withEnvelopeMessageId (envelopeMessageIdHex : MessageId) (m : Message) :
    (withEnvelopeMessageId envelopeMessageIdHex m).key = m.key := rfl

def setEnvelopeMessageId (id : Nat) (envelopeMessageIdHex : MessageId) : Method Unit := fun db =>
  if (db.messages.get? id).isSome then
    (.ok (), { db with
      messages := db.messages.update (fun rowId _ => rowId == id)
        (withEnvelopeMessageId envelopeMessageIdHex)
        (key_withEnvelopeMessageId envelopeMessageIdHex) })
  else (.error (.database .not_found ("message " ++ toString id ++ " does not exist")), db)

/-- The first row with an envelope message id, whatever its direction or its sender. -/
def byEnvelopeMessageId (db : Db) (envelopeMessageIdHex : MessageId) : Option (Nat × Message) :=
  db.messages.first? fun m => m.envelopeMessageIdHex == some envelopeMessageIdHex

section Lemmas

variable {db : Db} {id id' : Nat} {m : Message} {target : MessageState}

theorem withState_eq (h : target.Fits m.direction) :
    withState target m = { m with state := target, fits := h } := by
  simp [withState, h]

theorem withState_withState (target : MessageState) (m : Message) :
    withState target (withState target m) = withState target m := by
  by_cases h : target.Fits m.direction <;> simp [withState, h]

@[simp] theorem withState_logicalMessageId :
    (withState target m).logicalMessageId = m.logicalMessageId := by
  unfold withState
  split <;> rfl

@[simp] theorem withState_envelopeMessageIdHex :
    (withState target m).envelopeMessageIdHex = m.envelopeMessageIdHex := by
  unfold withState
  split <;> rfl

@[simp] theorem withState_body : (withState target m).body = m.body := by
  unfold withState
  split <;> rfl

@[simp] theorem withState_direction : (withState target m).direction = m.direction := by
  unfold withState
  split <;> rfl

@[simp] theorem withState_conversationId :
    (withState target m).conversationId = m.conversationId := by
  unfold withState
  split <;> rfl

theorem get?_setMessageState :
    (setMessageState db id target).messages.get? id' =
      (db.messages.get? id').map fun m => if id' = id then withState target m else m := by
  simp only [setMessageState, Table.get?_update, beq_iff_eq]

theorem get?_setMessageState_self (hget : db.messages.get? id = some m)
    (h : target.Fits m.direction) :
    (setMessageState db id target).messages.get? id =
      some { m with state := target, fits := h } := by
  rw [get?_setMessageState, hget]
  simp [withState_eq h]

/-- Moving a message to the state it is in changes nothing. -/
theorem setMessageState_self (hget : db.messages.get? id = some m) :
    setMessageState db id m.state = db := by
  unfold setMessageState
  rw [Table.update_eq_self]
  intro r hr hid
  rw [beq_iff_eq] at hid
  have hmem : (id, r.2) ∈ db.messages.rows := hid ▸ hr
  obtain rfl : r.2 = m := Table.val_of_id hmem (Table.get?_eq_some.1 hget)
  exact withState_eq r.2.fits

/-- The later of two moves of one message decides its state. -/
theorem setMessageState_setMessageState {first : MessageState}
    (hget : db.messages.get? id = some m) (hfirst : first.Fits m.direction)
    (htarget : target.Fits m.direction) :
    setMessageState (setMessageState db id first) id target = setMessageState db id target := by
  unfold setMessageState
  congr 1
  refine Table.ext ?_
  simp only [Table.rows_update, List.map_map]
  refine List.map_congr_left fun r hr => ?_
  by_cases hid : r.1 = id
  · have hmem : (id, r.2) ∈ db.messages.rows := hid ▸ hr
    have hm : r.2 = m := Table.val_of_id hmem (Table.get?_eq_some.1 hget)
    simp [hid, hm, withState, hfirst, htarget]
  · simp [hid]

/-- The row with a logical id is the only one. -/
theorem byLogicalId_eq_some {logicalId : LogicalMessageId} :
    byLogicalId db logicalId = some (id, m) ↔
      db.messages.get? id = some m ∧ m.logicalMessageId = logicalId := by
  rw [Table.get?_eq_some]
  constructor
  · intro h
    have hrow := Table.mem_of_first? h
    exact ⟨hrow.1, by simpa using hrow.2⟩
  · rintro ⟨hmem, hid⟩
    have hkey : Message.key m = some logicalId := by simp [Message.key, hid]
    exact Table.first?_of_key (by simp [Message.key]) hmem hkey

theorem fresh_iff {input : NewMessage} :
    db.messages.Fresh input.row ↔ byLogicalId db input.logicalMessageId = none := by
  unfold Table.Fresh byLogicalId
  rw [Table.first?_eq_none]
  simp [Message.key, NewMessage.row]

/-- After an insert under a new logical id, the row is found under it and only there. -/
theorem byLogicalId_insert {input : NewMessage} (fresh : db.messages.Fresh input.row)
    (logicalId : LogicalMessageId) :
    byLogicalId { db with messages := db.messages.insert input.row fresh } logicalId =
      if logicalId = input.logicalMessageId then some (db.messages.nextId, input.row)
      else byLogicalId db logicalId := by
  unfold byLogicalId
  rw [Table.first?_insert]
  by_cases h : logicalId = input.logicalMessageId
  · have hnone := fresh_iff.1 fresh
    unfold byLogicalId at hnone
    simp [h, hnone, NewMessage.row]
  · have hne : (input.row.logicalMessageId == logicalId) = false := by
      simpa [NewMessage.row] using fun heq => h heq.symm
    simp [h, hne]

/-- An insert under a logical id in use answers the row that has it. -/
theorem insert_existing {input : NewMessage} {row : Nat × Message}
    (h : byLogicalId db input.logicalMessageId = some row) : insert input db = (.ok row, db) := by
  have hfresh : ¬db.messages.Fresh input.row := by simp [fresh_iff, h]
  simp [insert, hfresh, h]

/-- An insert under a new logical id adds the row. -/
theorem insert_new {input : NewMessage} (h : byLogicalId db input.logicalMessageId = none) :
    insert input db = (.ok (db.messages.nextId, input.row),
      { db with messages := db.messages.insert input.row (fresh_iff.2 h) }) := by
  simp [insert, fresh_iff.2 h]

/-- A transition changes the state of its message, or nothing. -/
theorem transitionState_frame (id : Nat) (target : MessageState) (db : Db) :
    (transitionState id target db).2 = db ∨
      (transitionState id target db).2 = setMessageState db id target := by
  unfold transitionState
  cases db.messages.get? id with
  | none => exact .inl rfl
  | some current =>
    simp only
    split_ifs
    · exact .inl rfl
    · exact .inr rfl
    · exact .inl rfl

/-- A legal move is carried out. -/
theorem transitionState_move (hget : db.messages.get? id = some m) (hne : m.state ≠ target)
    (hcan : canTransitionMessage m.direction m.state target) :
    transitionState id target db = (.ok (), setMessageState db id target) := by
  simp [transitionState, hget, hne, hcan]

/-- A move to the current state does nothing. -/
theorem transitionState_same (hget : db.messages.get? id = some m) (heq : m.state = target) :
    transitionState id target db = (.ok (), db) := by
  simp [transitionState, hget, heq]

end Lemmas

end MessageRepository

end cemp.database
