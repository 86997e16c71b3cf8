import CempMobile.Ckb.Publisher
import CempMobile.Ckb.Responder

open cemp.core cemp.database cemp.ckb

namespace cemp.sync

/-- A receipt-carrying response: the message it answers, and the status of its receipt. -/
structure ReceiptKind where
  original : LogicalMessageId
  status : Nat
  deriving DecidableEq, Repr

/-- `response:` confirms the envelope and `ack-attachment:` the bytes of its attachment. -/
def receiptKindOf : LogicalMessageId → Option ReceiptKind
  | .response original => some ⟨original, 0x01⟩
  | .ackAttachment original => some ⟨original, 0x05⟩
  | _ => none

/-- The cell a response answers, when its chain reference names one. -/
def repliedCell (ref : Option MessageChainRef) : Option OutPoint :=
  match ref with
  | some ⟨_, _, _, some txHash, some outpointIndex⟩ => some ⟨txHash, outpointIndex⟩
  | _ => none

/-- The states an answered message is walked through. -/
def RESPONDED_ORDER : List MessageState := [.received, .displayed, .response_queued, .response_sent]

/-- Whether a state comes before another one in the order. A state that is not in it counts as
    before all of them. -/
def precedes (state target : MessageState) : Bool :=
  match RESPONDED_ORDER.idxOf? state, RESPONDED_ORDER.idxOf? target with
  | none, some _ => true
  | some i, some j => i < j
  | _, none => false

/-- One step of the walk. -/
def advanceOriginal (originalId : Nat) (state : MessageState) : Prog Unit := do
  let current ← store (.getMessage originalId)
  match current with
  | none => return ()
  | some m =>
    if m.state = state then return ()
    else if precedes m.state state then store (.transitionMessage originalId state)

/-- What follows a published envelope acknowledgement: the original is walked to
    `response_sent`, and its cell is watched. -/
def finalizeOriginal (originalId : Nat) (originalCell : OutPoint) : Prog Unit := do
  Program.forEach (advanceOriginal originalId) [.displayed, .response_queued, .response_sent]
  finalizeResponseSent originalId originalCell

/-- The profile id a response is sent to. -/
def recipientOf (conversationId : Nat) : Prog (Option ProfileId) := do
  let conversation ← store (.getConversation conversationId)
  match conversation with
  | none => return none
  | some conversation =>
    let contact ← store (.getContact conversation.contactId)
    return contact.bind (·.profileIdHex)

/-- The publish of a response. -/
def responseInput (response : Nat × Message) (recipient : ProfileId) (originalMessageId : MessageId)
    (originalCell : OutPoint) (status : Nat) : PublishTextInput where
  messageRowId := response.1
  logicalMessageId := response.2.logicalMessageId
  text := response.2.body.getD ""
  recipientProfileIdHex := recipient
  replyTo := some (originalMessageId, originalCell)
  receipts := [⟨originalMessageId, status⟩]
  receiptRequest := none
  contentType := none
  attachmentManifests := []
  attachmentEnvelope := none
  timeoutMs := none

/-- Sends one queued response, unless it is not fully prepared. -/
def sendResponse (deps : PipelineDeps) (response : Nat × Message) : Prog Unit := do
  let chainRef ← store (.getChainRef response.1)
  match repliedCell chainRef, receiptKindOf response.2.logicalMessageId with
  | some originalCell, some kind =>
    let original ← store (.getMessageByLogicalId kind.original)
    match original with
    | some (originalId, ⟨_, _, _, _, _, some originalMessageId, _⟩) =>
      let recipient ← recipientOf response.2.conversationId
      match recipient with
      | some recipient =>
        let _ ← publishText deps
          (responseInput response recipient originalMessageId originalCell kind.status)
        if kind.status ≠ 0x01 then return ()
        else finalizeOriginal originalId originalCell
      | none => return ()
    | _ => return ()
  | _, _ => return ()

/-- The queued responses among some message rows. -/
def queuedResponses (rows : List (Nat × Message)) : List (Nat × Message) :=
  rows.filter fun row =>
    row.2.direction == .outgoing && (receiptKindOf row.2.logicalMessageId).isSome

/-- The response worker: sends every queued response. -/
def runResponseSender (deps : PipelineDeps) : Prog Unit := do
  let queued ← store (.listMessagesByState [.queued])
  Program.forEach (sendResponse deps) (queuedResponses queued)

end cemp.sync
