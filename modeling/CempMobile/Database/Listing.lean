import CempMobile.Database.Schema
import CempMobile.Lib.Keyset

open cemp.core

namespace cemp.database.listing

/-- A row of `messages`, its logical id the string the table holds. -/
structure Message where
  conversationId : Nat
  direction : MessageDirection
  state : MessageState
  body : Option String
  logicalMessageId : String
  envelopeMessageIdHex : Option String
  createdAtMs : Int
  updatedAtMs : Int
  deriving DecidableEq, Repr

def Message.key (m : Message) : Option String := some m.logicalMessageId

structure Conversation where
  contactId : Nat
  createdAtMs : Int
  lastActivityAtMs : Int
  deriving DecidableEq, Repr

def Conversation.key (c : Conversation) : Option Nat := some c.contactId

structure Contact where
  displayName : String
  profileIdHex : Option String
  deriving DecidableEq, Repr

/-- The tables that a conversation's screens read. -/
structure Tables where
  contacts : Table Contact.profileIdHex
  conversations : Table Conversation.key
  messages : Table Message.key
  chainRefs : Table MessageChainRef.key

def startsWith (id start : String) : Bool := start.toList.isPrefixOf id.toList

/-- `LIKE 'start%'`, which tells no upper case letter of ASCII from its lower case. -/
def likeStart (id start : String) : Bool :=
  (start.toList.map Char.toLower).isPrefixOf (id.toList.map Char.toLower)

/-- What the logical id of a receipt row starts with, and the status of the receipt. -/
structure ReceiptKind where
  start : String
  status : Nat
  deriving DecidableEq, Repr

def RECEIPT_KINDS : List ReceiptKind := [⟨"response:", 0x01⟩, ⟨"ack-attachment:", 0x05⟩]

def receiptKindOf (logicalMessageId : String) : Option ReceiptKind :=
  RECEIPT_KINDS.find? fun kind => startsWith logicalMessageId kind.start

/-- `conversation_id = ? AND logical_message_id NOT LIKE 'response:%'`. -/
def listed (conversationId : Nat) (m : Message) : Bool :=
  m.conversationId == conversationId && !likeStart m.logicalMessageId "response:"

namespace MessageRepository

/-- The newest rows first, at most fifty of them where no limit is given. -/
def listByConversation (db : Tables) (conversationId : Nat) (beforeId : Option Nat)
    (limit : Option Int) : List (Nat × Message) :=
  Keyset.page (listed conversationId) (limit.getD 50) db.messages.rows beforeId

structure NewMessage where
  conversationId : Nat
  direction : MessageDirection
  body : Option String
  logicalMessageId : String
  state : Option MessageState
  createdAtMs : Option Int
  deriving DecidableEq, Repr

def NewMessage.row (input : NewMessage) (now : Int) : Message where
  conversationId := input.conversationId
  direction := input.direction
  state := input.state.getD (initialMessageState input.direction)
  body := input.body
  logicalMessageId := input.logicalMessageId
  envelopeMessageIdHex := none
  createdAtMs := input.createdAtMs.getD now
  updatedAtMs := now

/-- `last_activity_timems = MAX(last_activity_timems, ?)`. -/
def touched (atMs : Int) (c : Conversation) : Conversation :=
  { c with lastActivityAtMs := max c.lastActivityAtMs atMs }

/-- A row whose logical id is there already is left as it is. -/
def insert (input : NewMessage) (now : Int) (db : Tables) : Tables :=
  if fresh : db.messages.Fresh (input.row now) then
    { db with
      messages := db.messages.insert (input.row now) fresh
      conversations := db.conversations.update (fun id _ => id == input.conversationId)
        (touched (input.createdAtMs.getD now)) fun _ => rfl }
  else db

def getByLogicalId (db : Tables) (logicalMessageId : String) : Option (Nat × Message) :=
  db.messages.first? fun m => m.logicalMessageId == logicalMessageId

def getChainRef (db : Tables) (messageId : Nat) : Option MessageChainRef :=
  (db.chainRefs.first? fun ref => ref.messageId == messageId).map (·.2)

def setChainRef (ref : MessageChainRef) (db : Tables) : Tables :=
  { db with
    chainRefs := db.chainRefs.upsert ref (fun new old => { new with messageId := old.messageId })
      fun _ => rfl }

end MessageRepository

open MessageRepository

/-- Queues the confirmation of a downloaded attachment as an outgoing row of its conversation. -/
def queueAttachmentAck (messageId : Nat) (now : Int) (db : Tables) : Tables :=
  match db.messages.get? messageId with
  | none => db
  | some message =>
    if message.direction ≠ .incoming then db
    else if (getByLogicalId db ("ack-attachment:" ++ message.logicalMessageId)).isSome then db
    else match getChainRef db messageId with
      | some ⟨_, some txHash, some outpointIndex, _, _⟩ =>
        let inserted := insert ⟨message.conversationId, .outgoing, some "",
          "ack-attachment:" ++ message.logicalMessageId, some .queued, none⟩ now db
        match getByLogicalId inserted ("ack-attachment:" ++ message.logicalMessageId) with
        | none => inserted
        | some (rowId, _) =>
          setChainRef ⟨rowId, none, none, some txHash, some outpointIndex⟩ inserted
      | _ => db

/-- What the conversation list shows of the last message. -/
structure Preview where
  lastMessageBody : Option String
  lastMessageState : Option MessageState
  lastMessageDirection : Option MessageDirection
  deriving DecidableEq, Repr

structure ConversationListItem where
  id : Nat
  conversation : Conversation
  contactDisplayName : String
  preview : Preview
  unreadCount : Nat
  deriving DecidableEq, Repr

/-- Each field comes from the row its subquery selects, and is NULL without one. -/
def previewOf (row : Option (Nat × Message)) : Preview where
  lastMessageBody := row.bind (·.2.body)
  lastMessageState := row.map (·.2.state)
  lastMessageDirection := row.map (·.2.direction)

namespace ConversationRepository

/-- The row of `ORDER BY id DESC LIMIT 1`. -/
def lastMessage (db : Tables) (conversationId : Nat) : Option (Nat × Message) :=
  db.messages.last? (listed conversationId)

/-- The rows that `COUNT(*)` counts, the receipt rows among them. -/
def unreadCount (db : Tables) (conversationId : Nat) : Nat :=
  (db.messages.select fun m =>
    m.conversationId == conversationId && m.direction == .incoming && m.state == .received).length

/-- A conversation joined to its contact. -/
def listItem (db : Tables) (c : Nat × Conversation) : Option ConversationListItem :=
  (db.contacts.get? c.2.contactId).map fun ct =>
    ⟨c.1, c.2, ct.displayName, previewOf (lastMessage db c.1), unreadCount db c.1⟩

/-- The conversations with the newest activity first. -/
def listWithPreview (db : Tables) : List ConversationListItem :=
  (db.conversations.rows.filterMap (listItem db)).mergeSort fun item item' =>
    item'.conversation.lastActivityAtMs ≤ item.conversation.lastActivityAtMs

end ConversationRepository

open listing.ConversationRepository

/-- A row that is there for the person who reads the conversation, and not for a worker. -/
def isVisible (conversationId : Nat) (m : Message) : Bool :=
  m.conversationId == conversationId && (receiptKindOf m.logicalMessageId).isNone

/-- The visible messages of a conversation, newest first. -/
def visible (db : Tables) (conversationId : Nat) : List (Nat × Message) :=
  (db.messages.select (isVisible conversationId)).reverse

/-- Pages of a conversation, each asked for before the smallest id of the one that precedes it, and
    messages inserted between them. An empty page ends the paging. -/
inductive Paging (conversationId : Nat) (start : Tables) : List (List (Nat × Message)) → Tables → Prop
  | start : Paging conversationId start [] start
  | insert {pages : List (List (Nat × Message))} {db : Tables}
      (paging : Paging conversationId start pages db) (hpages : pages ≠ [])
      (input : NewMessage) (now : Int) :
      Paging conversationId start pages (MessageRepository.insert input now db)
  | page {pages : List (List (Nat × Message))} {db : Tables}
      (paging : Paging conversationId start pages db) (limit : Option Int)
      (hpage : listByConversation db conversationId (Keyset.cursorOf pages) limit ≠ []) :
      Paging conversationId start
        (pages ++ [listByConversation db conversationId (Keyset.cursorOf pages) limit]) db

/-- What the screens of a conversation promise about the rows there are when it is opened. -/
structure ShowsMessages (db : Tables) (conversationId : Nat) : Prop where
  /-- Paged to its end, it has listed each visible message once, newest first. -/
  enumerates : ∀ pages now limit, Paging conversationId db pages now → limit ≠ some 0 →
    listByConversation now conversationId (Keyset.cursorOf pages) limit = [] →
      pages.flatten = visible db conversationId
  /-- The end is reached. -/
  ends : ∀ pages now, Paging conversationId db pages now →
    pages.length ≤ (visible db conversationId).length
  hides : ∀ pages now, Paging conversationId db pages now → ∀ page ∈ pages, ∀ r ∈ page,
    receiptKindOf r.2.logicalMessageId = none
  /-- The list of conversations shows the newest visible message. -/
  previews : ∀ item ∈ listWithPreview db, item.id = conversationId →
    item.preview = previewOf (visible db conversationId).head?

/-- No row confirms an attachment, and a row that `LIKE` takes for a response is one. -/
def OnlyResponses (db : Tables) (conversationId : Nat) : Prop :=
  ∀ r ∈ db.messages.rows, r.2.conversationId = conversationId →
    startsWith r.2.logicalMessageId "ack-attachment:" = false ∧
      (likeStart r.2.logicalMessageId "response:" = true →
        startsWith r.2.logicalMessageId "response:" = true)

section Lemmas

variable {db : Tables} {conversationId : Nat} {pages : List (List (Nat × Message))} {now : Tables}
  {m : Message} {id : String}

theorem likeStart_of_startsWith {start : String} (h : startsWith id start = true) :
    likeStart id start = true := by
  unfold startsWith at h
  unfold likeStart
  rw [List.isPrefixOf_iff_prefix] at h ⊢
  exact h.map Char.toLower

/-- A confirmation of an attachment is not taken for a response. -/
theorem likeStart_of_ackAttachment (h : startsWith id "ack-attachment:" = true) :
    likeStart id "response:" = false := by
  have hlower := likeStart_of_startsWith h
  unfold likeStart at hlower ⊢
  rw [List.isPrefixOf_iff_prefix] at hlower
  obtain ⟨rest, hrest⟩ := hlower
  rw [← hrest]
  rfl

theorem receiptKindOf_isNone :
    (receiptKindOf id).isNone = (!startsWith id "response:" && !startsWith id "ack-attachment:") := by
  unfold receiptKindOf RECEIPT_KINDS
  cases hresponse : startsWith id "response:" <;> cases hack : startsWith id "ack-attachment:" <;>
    simp [List.find?, hresponse, hack]

/-- The query and the worker agree on a row. -/
theorem listed_eq_isVisible_iff :
    listed conversationId m = isVisible conversationId m ↔
      (m.conversationId = conversationId →
        startsWith m.logicalMessageId "ack-attachment:" = false ∧
          (likeStart m.logicalMessageId "response:" = true →
            startsWith m.logicalMessageId "response:" = true)) := by
  rw [listed, isVisible, receiptKindOf_isNone]
  by_cases hconversation : m.conversationId = conversationId
  · cases hack : startsWith m.logicalMessageId "ack-attachment:" with
    | true => simp [hconversation, likeStart_of_ackAttachment hack]
    | false =>
      cases hresponse : startsWith m.logicalMessageId "response:" with
      | true => simp [hconversation, likeStart_of_startsWith hresponse]
      | false => simp [hconversation]
  · rw [beq_false_of_ne hconversation]
    simp [hconversation]

theorem rows_insert (input : NewMessage) (now : Int) (db : Tables) :
    db.messages.rows <+: (MessageRepository.insert input now db).messages.rows := by
  unfold MessageRepository.insert
  split
  · exact List.prefix_append ..
  · exact List.prefix_rfl

theorem Paging.run (paging : Paging conversationId db pages now) :
    Keyset.Run (listed conversationId) db.messages.rows pages now.messages.rows := by
  induction paging with
  | start => exact .start
  | insert _ hpages input now' ih =>
    exact ih.grow hpages (rows_insert input now' _) (Table.sorted _)
  | page _ limit hpage ih => exact ih.next (limit.getD 50) hpage

/-- One page without a limit, and then the empty one. -/
theorem exists_paging_ended (db : Tables) (conversationId : Nat) :
    ∃ pages, Paging conversationId db pages db ∧
      listByConversation db conversationId (Keyset.cursorOf pages) (some (-1)) = [] := by
  by_cases hempty : listByConversation db conversationId none (some (-1)) = []
  · exact ⟨[], .start, hempty⟩
  · exact ⟨_, Paging.start.page (some (-1)) hempty,
      Keyset.Run.page_after_unlimited db.messages.sorted hempty⟩

theorem visible_eq (db : Tables) (conversationId : Nat) :
    visible db conversationId =
      Keyset.remaining (isVisible conversationId) db.messages.rows none := rfl

theorem remaining_eq_visible_iff :
    Keyset.remaining (listed conversationId) db.messages.rows none = visible db conversationId ↔
      OnlyResponses db conversationId := by
  rw [visible_eq]
  constructor
  · intro h r hr
    have hiff : listed conversationId r.2 = true ↔ isVisible conversationId r.2 = true := by
      have hmem : r ∈ Keyset.remaining (listed conversationId) db.messages.rows none ↔
          r ∈ Keyset.remaining (isVisible conversationId) db.messages.rows none := by
        rw [h]
      simpa [Keyset.mem_remaining, hr, Keyset.before] using hmem
    exact listed_eq_isVisible_iff.1 (Bool.eq_iff_iff.2 hiff)
  · intro h
    exact Keyset.remaining_congr fun r hr => listed_eq_isVisible_iff.2 (h r hr)

theorem lastMessage_eq (h : OnlyResponses db conversationId) :
    lastMessage db conversationId = (visible db conversationId).head? := by
  rw [← remaining_eq_visible_iff.2 h, Keyset.remaining, List.head?_reverse]
  rfl

theorem mem_listWithPreview {item : ConversationListItem} :
    item ∈ listWithPreview db ↔ ∃ c ∈ db.conversations.rows, listItem db c = some item := by
  simp [listWithPreview]

theorem listItem_preview {c : Nat × Conversation} {item : ConversationListItem}
    (h : listItem db c = some item) : item.preview = previewOf (lastMessage db item.id) := by
  obtain ⟨ct, -, rfl⟩ := Option.map_eq_some_iff.1 h
  rfl

theorem mem_insert_iff {input : NewMessage} {time : Int} {r : Nat × Message}
    (hnew : getByLogicalId db input.logicalMessageId = none) :
    r ∈ (MessageRepository.insert input time db).messages.rows ↔
      r ∈ db.messages.rows ∨ r = (db.messages.nextId, input.row time) := by
  have hfresh : db.messages.Fresh (input.row time) := by
    intro r hr hkey
    have hne := Table.first?_eq_none.1 hnew r hr
    exact absurd (beq_iff_eq.2 (Option.some.inj hkey)) hne
  rw [MessageRepository.insert, dif_pos hfresh]
  exact @Table.mem_insert _ _ _ _ _ _ hfresh

/-- Once the confirmation of an attachment is queued, the conversation has a row that is neither a
    message nor taken for a response. -/
theorem queueAttachmentAck_not_onlyResponses {messageId : Nat} {time : Int} {txHash : Hash}
    {outpointIndex : Nat} {ref : MessageChainRef} (hget : db.messages.get? messageId = some m)
    (hincoming : m.direction = .incoming)
    (hnew : getByLogicalId db ("ack-attachment:" ++ m.logicalMessageId) = none)
    (href : getChainRef db messageId = some ref) (htxHash : ref.txHash = some txHash)
    (hindex : ref.outpointIndex = some outpointIndex) :
    ¬OnlyResponses (queueAttachmentAck messageId time db) m.conversationId := by
  intro honly
  obtain ⟨_, _, _, _, _⟩ := ref
  obtain rfl : _ = some txHash := htxHash
  obtain rfl : _ = some outpointIndex := hindex
  let input : NewMessage := ⟨m.conversationId, .outgoing, some "",
    "ack-attachment:" ++ m.logicalMessageId, some .queued, none⟩
  have hrows : (queueAttachmentAck messageId time db).messages =
      (MessageRepository.insert input time db).messages := by
    simp only [queueAttachmentAck, hget, hincoming, hnew, href, ne_eq, not_true, if_false,
      Option.isSome_none, Bool.false_eq_true]
    split <;> rfl
  have hmem : (db.messages.nextId, input.row time) ∈
      (queueAttachmentAck messageId time db).messages.rows := by
    rw [hrows]
    exact (mem_insert_iff hnew).2 (.inr rfl)
  have hstart : startsWith ("ack-attachment:" ++ m.logicalMessageId) "ack-attachment:" = true := by
    rw [startsWith, List.isPrefixOf_iff_prefix, String.toList_append]
    exact List.prefix_append ..
  exact absurd ((honly _ hmem rfl).1.symm.trans hstart) Bool.false_ne_true

end Lemmas

/-- The screens of a conversation show its messages and nothing else exactly when none of its rows
    confirms an attachment, and no other row is taken for a response. -/
theorem showsMessages_iff (db : Tables) (conversationId : Nat) :
    ShowsMessages db conversationId ↔ OnlyResponses db conversationId := by
  constructor
  · intro h
    obtain ⟨pages, paging, hend⟩ := exists_paging_ended db conversationId
    have hlisted := paging.run.complete db.messages.sorted (by decide) hend
    rw [h.enumerates pages db (some (-1)) paging (by decide) hend] at hlisted
    exact remaining_eq_visible_iff.1 hlisted.symm
  · intro h
    have hall := remaining_eq_visible_iff.2 h
    refine ⟨fun pages now limit paging hlimit hend => ?_, fun pages now paging => ?_,
      fun pages now paging page hpage r hr => ?_, fun item hitem hid => ?_⟩
    · have hne : limit.getD 50 ≠ 0 := by
        cases limit with
        | none => decide
        | some limit => exact fun hzero => hlimit (congrArg some hzero)
      rw [← hall]
      exact paging.run.complete db.messages.sorted hne hend
    · rw [← hall]
      exact paging.run.length_le db.messages.sorted
    · obtain ⟨hmem, hlisted⟩ := paging.run.mem_start db.messages.sorted hpage hr
      rw [listed_eq_isVisible_iff.2 (h r hmem), isVisible, Bool.and_eq_true,
        Option.isNone_iff_eq_none] at hlisted
      exact hlisted.2
    · obtain ⟨c, -, hc⟩ := mem_listWithPreview.1 hitem
      rw [listItem_preview hc, hid, lastMessage_eq h]

/-- One image, received in the only conversation there is. -/
def imageReceived : Tables where
  contacts := .singleton ⟨"Bob", none⟩
  conversations := .singleton ⟨1, 0, 0⟩
  messages := .singleton ⟨1, .incoming, .displayed, some "a photo", "incoming:ab", some "ab", 0, 0⟩
  chainRefs := .singleton ⟨1, some 7, some 0, none, none⟩

/-- Downloading the image puts an empty bubble in the conversation. -/
theorem download_listed : ¬ShowsMessages (queueAttachmentAck 1 1 imageReceived) 1 := by
  intro h
  have hpage : listByConversation (queueAttachmentAck 1 1 imageReceived) 1 none none =
      [(2, ⟨1, .outgoing, .queued, some "", "ack-attachment:incoming:ab", none, 1, 1⟩),
        (1, ⟨1, .incoming, .displayed, some "a photo", "incoming:ab", some "ab", 0, 0⟩)] := by
    decide +kernel
  have opened : Paging 1 (queueAttachmentAck 1 1 imageReceived) [] _ := .start
  have paging := opened.page none (hpage ▸ List.cons_ne_nil _ _)
  have hhidden := h.hides _ _ paging _ (List.mem_append_right _ (List.mem_singleton.2 rfl)) _
    (hpage ▸ List.mem_cons_self)
  exact absurd hhidden (by decide +kernel)

end cemp.database.listing
