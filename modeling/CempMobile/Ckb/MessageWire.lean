import CempMobile.Crypto.Envelope
import CempMobile.Lib.Utf8
import Mathlib.Data.Rat.Defs

open Molecule mol cemp.core.codec cemp.crypto

namespace cemp.ckb.wire

/-! Messages as bytes: how a text message is assembled to an envelope, and how the bytes of a
    message cell are processed. -/

inductive MessageError where
  | cempCkb (context detail : String)
  | codec (error : CempCodecError)
  | envelope (error : EnvelopeError)
  /-- `BigInt` of a value that is no integer. -/
  | notAnInteger
  deriving DecidableEq, Repr

/-! ### Identity -/

section Identity

variable (ckbHash : Buffer → Buffer)

/-- Lexicographic byte-order comparison, negative when the first is less. -/
def compareBytes : Buffer → Buffer → ℤ
  | a :: as, b :: bs => if a = b then compareBytes as bs else (a.toNat : ℤ) - b.toNat
  | as, bs => (as.length : ℤ) - bs.length

def deriveConversationId (profileIdA profileIdB : Buffer) : Buffer :=
  let domain := "CEMP-CONVERSATION-V1".toUTF8.toList
  if compareBytes profileIdA profileIdB ≤ 0 then ckbHash (domain ++ profileIdA ++ profileIdB)
  else ckbHash (domain ++ profileIdB ++ profileIdA)

def deriveRouteTag (recipientProfileId : Buffer) (routingEpoch : ℤ) : Buffer :=
  ckbHash ("CEMP-ROUTE-V1".toUTF8.toList ++ recipientProfileId ++
    packUint 8 (routingEpoch % 2 ^ 64).toNat)

end Identity

/-! ### Hex and integers -/

/-- The length of a text in UTF-16 code units. -/
def utf16Length (text : List Char) : Nat :=
  (text.map fun c => if c.toNat < 0x10000 then 1 else 2).sum

def lowerHexDigit? (c : Char) : Option Nat :=
  if '0' ≤ c ∧ c ≤ '9' then some (c.toNat - '0'.toNat)
  else if 'a' ≤ c ∧ c ≤ 'f' then some (c.toNat - 'a'.toNat + 10)
  else none

/-- The bytes of pairs of lowercase digits. -/
def hexPairs? : List Char → Option Buffer
  | [] => some []
  | high :: low :: rest => do
    let h ← lowerHexDigit? high
    let l ← lowerHexDigit? low
    let bytes ← hexPairs? rest
    return UInt8.ofNat (16 * h + l) :: bytes
  | [_] => none

/-- Anything but even-length lowercase hex is rejected. -/
def hexToBytes (hex : List Char) : Except CempCodecError Buffer :=
  match hexPairs? hex with
  | some bytes => .ok bytes
  | none =>
    .error ⟨"hex", "invalid lowercase hex string of length " ++ toString (utf16Length hex), none⟩

def strip0x (hex : String) : List Char :=
  match hex.toList with
  | '0' :: 'x' :: rest => rest
  | text => text

def isSpace (c : Char) : Bool :=
  [0x09, 0x0A, 0x0B, 0x0C, 0x0D, 0x20, 0xA0, 0x1680, 0x2028, 0x2029, 0x202F, 0x205F, 0x3000,
    0xFEFF].contains c.toNat || (0x2000 ≤ c.toNat && c.toNat ≤ 0x200A)

def trim (text : List Char) : List Char :=
  ((text.dropWhile isSpace).reverse.dropWhile isSpace).reverse

def digit? (radix : Nat) (c : Char) : Option Nat :=
  let lower := c.toLower
  let value :=
    if '0' ≤ lower ∧ lower ≤ '9' then lower.toNat - '0'.toNat
    else if 'a' ≤ lower ∧ lower ≤ 'z' then lower.toNat - 'a'.toNat + 10
    else radix
  if value < radix then some value else none

def natural? (radix : Nat) (digits : List Char) : Option ℤ :=
  if digits.isEmpty then none
  else (digits.mapM (digit? radix)).map fun values =>
    ((values.foldl (fun n value => radix * n + value) 0 : Nat) : ℤ)

/-- An index of an out point, as a caller may pass it. -/
inductive Index where
  | text (value : String)
  | number (value : ℚ)

/-- `BigInt(index)` -/
def Index.bigInt? : Index → Option ℤ
  | .number value => if value.den = 1 then some value.num else none
  | .text value =>
    match trim value.toList with
    | [] => some 0
    | '0' :: 'x' :: digits | '0' :: 'X' :: digits => natural? 16 digits
    | '0' :: 'o' :: digits | '0' :: 'O' :: digits => natural? 8 digits
    | '0' :: 'b' :: digits | '0' :: 'B' :: digits => natural? 2 digits
    | '+' :: digits => natural? 10 digits
    | '-' :: digits => (natural? 10 digits).map fun value => -value
    | digits => natural? 10 digits

/-! ### Assembly -/

/-- 30 days, in seconds. -/
def ROUTING_EPOCH_SECONDS : ℤ := 2592000

def currentRoutingEpoch (nowMs : ℤ) : ℤ := nowMs / 1000 / ROUTING_EPOCH_SECONDS

structure OutPointParam where
  txHash : String
  index : Index

structure ReplyTo where
  messageId : Buffer
  outPoint : OutPointParam

structure Receipt where
  messageId : Buffer
  status : ℤ
  deriving DecidableEq, Repr

inductive TextContentType where
  | Text
  | AttachmentManifest
  deriving DecidableEq, Repr

def TextContentType.byte : TextContentType → ℤ
  | Text => 0x01
  | AttachmentManifest => 0x03

structure AttachmentEnvelope where
  kemMessage : Buffer
  nonce : Buffer

structure AssembleTextMessageParams where
  text : String
  senderProfileId : Buffer
  recipientProfileId : Buffer
  recipientKemPublicKey : Buffer
  senderDeviceId : Buffer
  replyTo : Option ReplyTo
  receipts : Option (List Receipt)
  receiptRequest : Option ℤ
  attachmentManifests : Option (List AttachmentManifestV1)
  contentType : Option TextContentType
  messageId : Option Buffer
  nowMs : Option ℤ
  attachmentEnvelope : Option AttachmentEnvelope

/-- The clock, and what the generator draws. -/
structure Ambient where
  nowMs : ℤ
  messageId : Buffer
  messageNonce : Buffer
  padding : Buffer
  entropy : Entropy

structure AssembledMessage where
  messageId : Buffer
  conversationId : Buffer
  routeTag : Buffer
  conversationTag : Buffer
  messageNonce : Buffer
  envelopeBytes : Buffer
  attachmentKey : Buffer

/-- What failed with an error of a package below. -/
def lift {ε α : Type} (wrap : ε → MessageError) : Except ε α → Except MessageError α
  | .ok value => .ok value
  | .error error => .error (wrap error)

/-- The out point of a reply, on the wire. A number that `Number` would round is out of its range. -/
def replyOutpoint (outPoint : OutPointParam) : Except MessageError OutPointV1 := do
  let tx_hash ← lift .codec (hexToBytes (strip0x outPoint.txHash))
  match outPoint.index.bigInt? with
  | some index => .ok ⟨tx_hash, index⟩
  | none => .error .notAnInteger

def replyOutpoint? : Option ReplyTo → Except MessageError (Option OutPointV1)
  | none => .ok none
  | some replyTo => some <$> replyOutpoint replyTo.outPoint

/-- The text of a payload. An attachment message without a caption has none. -/
def payloadText (params : AssembleTextMessageParams) : Option Buffer :=
  if params.contentType = some .AttachmentManifest ∧ params.text = "" then none
  else some (Utf8.encode params.text.toList)

def textPayload (params : AssembleTextMessageParams) (ambient : Ambient)
    (reply_to_outpoint : Option OutPointV1) : CempPayloadV1 where
  message_id := params.messageId.getD ambient.messageId
  body_type := (params.contentType.getD .Text).byte
  recipient_profile_id := params.recipientProfileId
  text := payloadText params
  attachment_manifests := params.attachmentManifests.getD []
  reply_to_message_id := params.replyTo.map ReplyTo.messageId
  reply_to_outpoint := reply_to_outpoint
  receipts := (params.receipts.getD []).map fun receipt => ⟨receipt.messageId, receipt.status⟩
  receipt_request := params.receiptRequest.getD 0
  client_timestamp := params.nowMs.getD ambient.nowMs / 1000
  sender_device_id := params.senderDeviceId
  padding := ambient.padding

section Pipelines

variable (ckbHash : Buffer → Buffer) (suite : Suite) (reader : Reader) (libraryText : String)

def envelopeHeader (params : AssembleTextMessageParams) (ambient : Ambient) :
    CempEnvelopeHeaderV1 where
  protocol_version := 1
  network := 0x01
  content_type := (params.contentType.getD .Text).byte
  message_id := params.messageId.getD ambient.messageId
  conversation_id := deriveConversationId ckbHash params.senderProfileId params.recipientProfileId
  sender_profile_id := params.senderProfileId
  created_at_client := params.nowMs.getD ambient.nowMs / 1000
  reply_to_message_id := params.replyTo.map ReplyTo.messageId
  expiry_hint := 0

/-- A payload has to be valid before it is sealed, and after it is opened. -/
def checkPayload (context complaint : String) (payload : Buffer) : Except MessageError Unit :=
  match validatePayload reader libraryText payload with
  | .ok => .ok ()
  | .fail reason => .error (.cempCkb context (complaint ++ reason))

/-- Builds and encrypts a text message: payload, header, envelope. -/
def assembleTextMessage (ambient : Ambient) (params : AssembleTextMessageParams) :
    Except MessageError AssembledMessage := do
  let conversationId :=
    deriveConversationId ckbHash params.senderProfileId params.recipientProfileId
  let routeTag := deriveRouteTag ckbHash params.recipientProfileId
    (currentRoutingEpoch (params.nowMs.getD ambient.nowMs))
  let reply_to_outpoint ← replyOutpoint? params.replyTo
  let payload ← lift .codec
    (Schema.CempPayloadV1.encode reader (textPayload params ambient reply_to_outpoint))
  checkPayload reader libraryText "assembleTextMessage" "assembled payload failed validation: "
    payload
  let sealed ← lift .envelope (encryptEnvelope suite reader libraryText ambient.entropy
    ⟨payload, params.recipientKemPublicKey, envelopeHeader ckbHash params ambient,
      params.attachmentEnvelope.map AttachmentEnvelope.nonce,
      params.attachmentEnvelope.map AttachmentEnvelope.kemMessage⟩)
  return ⟨params.messageId.getD ambient.messageId, conversationId, routeTag,
    conversationId.take 16, ambient.messageNonce, sealed.envelopeBytes, sealed.attachmentKey⟩

/-! ### Processing -/

structure ReplyToOutpoint where
  txHash : String
  index : ℤ
  deriving DecidableEq, Repr

structure IncomingTextMessage where
  contentType : ℤ
  messageId : Buffer
  conversationId : Buffer
  senderProfileId : Buffer
  text : String
  attachmentManifests : List AttachmentManifestV1
  replyToMessageId : Option Buffer
  replyToOutpoint : Option ReplyToOutpoint
  receipts : List Receipt
  clientTimestamp : ℤ
  senderDeviceId : Buffer
  attachmentKey : Buffer

structure ProcessIncomingTextInput where
  cellData : Buffer
  ownKemSecretKey : Buffer
  ownProfileId : Buffer

/-- `new TextDecoder().decode` -/
def decodeText (bytes : Buffer) : String := String.ofList (Utf8.decode bytes)

def checkConsistency (header : CempEnvelopeHeaderV1) (payload : CempPayloadV1)
    (ownProfileId : Buffer) : Except MessageError Unit :=
  match validateSemanticConsistency header payload ownProfileId with
  | .ok => .ok ()
  | .fail reason => .error (.cempCkb "processIncomingText" ("header/payload mismatch: " ++ reason))

/-- Decrypts and validates one message cell. -/
def processIncomingText (input : ProcessIncomingTextInput) :
    Except MessageError IncomingTextMessage := do
  let opened ← lift .envelope (decryptEnvelope suite reader libraryText
    ⟨input.cellData, input.ownKemSecretKey, input.ownProfileId⟩)
  checkPayload reader libraryText "processIncomingText" "payload failed validation: "
    opened.payloadBytes
  let (payload : CempPayloadV1) ←
    lift .codec (Schema.CempPayloadV1.decode reader opened.payloadBytes)
  checkConsistency opened.header payload input.ownProfileId
  if payload.body_type ≠ 0x01 ∧ payload.body_type ≠ 0x03 then
    .error (.cempCkb "processIncomingText"
      ("unsupported payload body_type " ++ toString payload.body_type))
  else
    .ok
      { contentType := payload.body_type
        messageId := payload.message_id
        conversationId := opened.header.conversation_id
        senderProfileId := opened.header.sender_profile_id
        text := (payload.text.map decodeText).getD ""
        attachmentManifests := payload.attachment_manifests
        replyToMessageId := payload.reply_to_message_id
        replyToOutpoint := payload.reply_to_outpoint.map fun outpoint =>
          ⟨core.bytesToHex outpoint.tx_hash, outpoint.index⟩
        receipts := payload.receipts.map fun receipt => ⟨receipt.message_id, receipt.status⟩
        clientTimestamp := payload.client_timestamp
        senderDeviceId := payload.sender_device_id
        attachmentKey := opened.attachmentKey }

end Pipelines

end cemp.ckb.wire
