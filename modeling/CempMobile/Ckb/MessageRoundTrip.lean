import CempMobile.Ckb.MessageWire
import CempMobile.Crypto.EnvelopeRoundTrip
import Mathlib.Tactic.IntervalCases

open Except Molecule mol cemp.core.codec cemp.crypto

namespace cemp.ckb.wire

/-! ### Hex -/

theorem digitChar_of_lowerHexDigit {c : Char} {digit : Nat} (h : lowerHexDigit? c = some digit) :
    digit < 16 ∧ Nat.digitChar digit = c := by
  unfold lowerHexDigit? at h
  split at h
  · next hrange =>
    obtain ⟨hlow, hhigh⟩ := hrange
    have hdigit : c.toNat - 48 = digit := Option.some.inj h
    have hlow : 48 ≤ c.toNat := hlow
    have hhigh : c.toNat ≤ 57 := hhigh
    have hchar : c = Char.ofNat (48 + digit) := by
      rw [← Char.ofNat_toNat c]
      congr 1
      omega
    have hsmall : digit < 10 := by omega
    subst hchar
    clear h hlow hhigh hdigit
    interval_cases digit <;> decide
  split at h
  · next hrange =>
    obtain ⟨hlow, hhigh⟩ := hrange
    have hdigit : c.toNat - 97 + 10 = digit := Option.some.inj h
    have hlow : 97 ≤ c.toNat := hlow
    have hhigh : c.toNat ≤ 102 := hhigh
    have hchar : c = Char.ofNat (87 + digit) := by
      rw [← Char.ofNat_toNat c]
      congr 1
      omega
    have hlarge : 10 ≤ digit := by omega
    have hsmall : digit < 16 := by omega
    subst hchar
    clear h hlow hhigh hdigit
    interval_cases digit <;> decide
  · cases h

/-- The digits that bytes were read from are the ones they are written with. -/
theorem bytesToHex_of_hexPairs {digits : List Char} {bytes : Buffer}
    (h : hexPairs? digits = some bytes) : (core.bytesToHex bytes).toList = digits := by
  unfold core.bytesToHex
  rw [String.toList_ofList]
  induction digits using hexPairs?.induct generalizing bytes with
  | case1 =>
    obtain rfl := Option.some.inj h
    rfl
  | case2 high low rest ih =>
    simp only [hexPairs?, Option.bind_eq_bind, Option.bind_eq_some_iff, Option.pure_def,
      Option.some.injEq] at h
    obtain ⟨hi, hhigh, lo, hlow, tail, htail, rfl⟩ := h
    obtain ⟨hsmall, hhighChar⟩ := digitChar_of_lowerHexDigit hhigh
    obtain ⟨hsmall', hlowChar⟩ := digitChar_of_lowerHexDigit hlow
    have hbyte : (UInt8.ofNat (16 * hi + lo)).toNat = 16 * hi + lo := Utf8.toNat_ofNat (by omega)
    have hdiv : (16 * hi + lo) / 16 = hi := by omega
    have hmod : (16 * hi + lo) % 16 = lo := by omega
    rw [List.flatMap_cons, hbyte, hdiv, hmod, hhighChar, hlowChar, ih htail]
    rfl
  | case3 => cases h

theorem hexToBytes_eq_ok {digits : List Char} {bytes : Buffer} (h : hexToBytes digits = .ok bytes) :
    (core.bytesToHex bytes).toList = digits := by
  unfold hexToBytes at h
  cases hpairs : hexPairs? digits with
  | none =>
    rw [hpairs] at h
    cases h
  | some read =>
    rw [hpairs] at h
    obtain rfl := Except.ok.inj h
    exact bytesToHex_of_hexPairs hpairs

/-! ### Text -/

/-- The text that the recipient reads is the one that was sent, unless it begins with a byte order
    mark. -/
theorem text_survives_iff (params : AssembleTextMessageParams) :
    ((payloadText params).map decodeText).getD "" = params.text ↔
      params.text.toList.head? ≠ some Utf8.byteOrderMark := by
  unfold payloadText
  by_cases hcaption : params.contentType = some .AttachmentManifest ∧ params.text = ""
  · rw [if_pos hcaption, hcaption.2]
    simp
  · rw [if_neg hcaption, ← Utf8.decode_encode_eq_iff]
    change String.ofList (Utf8.decode (Utf8.encode params.text.toList)) = params.text ↔ _
    constructor
    · intro h
      have hchars := congrArg String.toList h
      rwa [String.toList_ofList] at hchars
    · intro h
      rw [h, String.ofList_toList]

/-! ### Assembly -/

theorem lift_eq_ok_iff {ε α : Type} {wrap : ε → MessageError} {result : Except ε α} {value : α} :
    lift wrap result = .ok value ↔ result = .ok value := by
  cases result <;> simp [lift]

/-- The out point that was received is the one that was sent, without its hex prefix. -/
def SameOutpoint (sent : OutPointParam) (received : ReplyToOutpoint) : Prop :=
  received.txHash.toList = strip0x sent.txHash ∧ sent.index.bigInt? = some received.index

theorem sameOutpoint_of_replyOutpoint {sent : OutPointParam} {outpoint : OutPointV1}
    (h : replyOutpoint sent = .ok outpoint) :
    SameOutpoint sent ⟨core.bytesToHex outpoint.tx_hash, outpoint.index⟩ := by
  obtain ⟨tx_hash, hhash, hindex⟩ := bind_eq_ok_iff.1 h
  have hhash := hexToBytes_eq_ok (lift_eq_ok_iff.1 hhash)
  cases hvalue : sent.index.bigInt? with
  | none =>
    rw [hvalue] at hindex
    cases hindex
  | some index =>
    rw [hvalue] at hindex
    cases hindex
    exact ⟨hhash, hvalue⟩

theorem sameOutpoint_of_replyOutpoint? {replyTo : Option ReplyTo} {outpoint : Option OutPointV1}
    (h : replyOutpoint? replyTo = .ok outpoint) :
    Option.Rel SameOutpoint (replyTo.map ReplyTo.outPoint)
      (outpoint.map fun outpoint => ⟨core.bytesToHex outpoint.tx_hash, outpoint.index⟩) := by
  cases replyTo with
  | none =>
    cases h
    exact .none
  | some replyTo =>
    obtain ⟨sent, hsent, rfl⟩ := map_eq_ok_iff.1 h
    exact .some (sameOutpoint_of_replyOutpoint hsent)

section Pipelines

variable {ckbHash : Buffer → Buffer} {suite : Suite} {reader : Reader} {libraryText : String}

theorem checkPayload_eq_ok_iff {context complaint : String} {payload : Buffer} :
    checkPayload reader libraryText context complaint payload = .ok () ↔
      validatePayload reader libraryText payload = .ok := by
  unfold checkPayload
  cases validatePayload reader libraryText payload <;> simp

theorem checkConsistency_eq_ok_iff {header : CempEnvelopeHeaderV1} {payload : CempPayloadV1}
    {ownProfileId : Buffer} :
    checkConsistency header payload ownProfileId = .ok () ↔
      validateSemanticConsistency header payload ownProfileId = .ok := by
  unfold checkConsistency
  cases validateSemanticConsistency header payload ownProfileId <;> simp

/-- How the envelope of a message is encrypted. -/
def envelopeParams (ckbHash : Buffer → Buffer) (ambient : Ambient)
    (params : AssembleTextMessageParams) (payload : Buffer) : EncryptEnvelopeParams :=
  ⟨payload, params.recipientKemPublicKey, envelopeHeader ckbHash params ambient,
    params.attachmentEnvelope.map AttachmentEnvelope.nonce,
    params.attachmentEnvelope.map AttachmentEnvelope.kemMessage⟩

/-- An assembled message is a valid payload in a sealed envelope. -/
theorem assembleTextMessage_ok {ambient : Ambient} {params : AssembleTextMessageParams}
    {assembled : AssembledMessage}
    (h : assembleTextMessage ckbHash suite reader libraryText ambient params = .ok assembled) :
    ∃ outpoint payload sealed, replyOutpoint? params.replyTo = .ok outpoint ∧
      Schema.CempPayloadV1.encode reader (textPayload params ambient outpoint) = .ok payload ∧
      validatePayload reader libraryText payload = .ok ∧
      encryptEnvelope suite reader libraryText ambient.entropy
        (envelopeParams ckbHash ambient params payload) = .ok sealed ∧
      assembled.envelopeBytes = sealed.envelopeBytes ∧
      assembled.attachmentKey = sealed.attachmentKey := by
  obtain ⟨outpoint, houtpoint, h1⟩ := bind_eq_ok_iff.1 h
  obtain ⟨payload, hpayload, h2⟩ := bind_eq_ok_iff.1 h1
  obtain ⟨⟨⟩, hvalid, h3⟩ := bind_eq_ok_iff.1 h2
  obtain ⟨sealed, hsealed, h4⟩ := bind_eq_ok_iff.1 h3
  cases h4
  exact ⟨outpoint, payload, sealed, houtpoint, lift_eq_ok_iff.1 hpayload,
    checkPayload_eq_ok_iff.1 hvalid, lift_eq_ok_iff.1 hsealed, rfl, rfl⟩

/-! ### Processing -/

/-- What the recipient makes of a payload. -/
def incomingOf (header : CempEnvelopeHeaderV1) (payload : CempPayloadV1) (attachmentKey : Buffer) :
    IncomingTextMessage where
  contentType := payload.body_type
  messageId := payload.message_id
  conversationId := header.conversation_id
  senderProfileId := header.sender_profile_id
  text := (payload.text.map decodeText).getD ""
  attachmentManifests := payload.attachment_manifests
  replyToMessageId := payload.reply_to_message_id
  replyToOutpoint := payload.reply_to_outpoint.map fun outpoint =>
    ⟨core.bytesToHex outpoint.tx_hash, outpoint.index⟩
  receipts := payload.receipts.map fun receipt => ⟨receipt.message_id, receipt.status⟩
  clientTimestamp := payload.client_timestamp
  senderDeviceId := payload.sender_device_id
  attachmentKey := attachmentKey

/-- The recipient processes what was assembled for it, and reads the payload that was sealed. -/
theorem processIncomingText_of_assembled (hreads : reader.Reads) (hsuite : suite.Correct)
    {ambient : Ambient} {params : AssembleTextMessageParams} {secretKey : Buffer}
    (hkeys : suite.KeyPair params.recipientKemPublicKey secretKey)
    (hentropy : ambient.entropy.kemMessage.length = ML_KEM_768_SIZES.sharedSecret)
    {assembled : AssembledMessage}
    (h : assembleTextMessage ckbHash suite reader libraryText ambient params = .ok assembled) :
    ∃ outpoint, replyOutpoint? params.replyTo = .ok outpoint ∧
      processIncomingText suite reader libraryText
          ⟨assembled.envelopeBytes, secretKey, params.recipientProfileId⟩ =
        .ok (incomingOf (envelopeHeader ckbHash params ambient)
          (textPayload params ambient outpoint) assembled.attachmentKey) := by
  obtain ⟨outpoint, payload, sealed, houtpoint, hencode, hvalid, hsealed, hbytes, hkey⟩ :=
    assembleTextMessage_ok h
  refine ⟨outpoint, houtpoint, ?_⟩
  obtain ⟨decoded, sharedSecret, aad, hsealing⟩ := encryptEnvelope_eq_ok_iff.1 hsealed
  have hencode := strictEncode_eq_ok_iff.1 hencode
  have hdecode : Schema.CempPayloadV1.decode reader payload =
      .ok (textPayload params ambient outpoint) :=
    strictDecode_eq_ok_iff.2 ⟨(CempPayloadV1Codec_lawful hreads).decodes hencode, hencode⟩
  cases hdecode.symm.trans hsealing.decoded
  have hmessage : ((envelopeParams ckbHash ambient params payload).kemMessage.getD
      ambient.entropy.kemMessage).length = ML_KEM_768_SIZES.sharedSecret := by
    cases hfixed : (envelopeParams ckbHash ambient params payload).kemMessage with
    | none => exact hentropy
    | some kemMessage => exact hsealing.kemMessage kemMessage hfixed
  have hopened := decryptEnvelope_of_sealing hreads hsuite hkeys hmessage hsealing
  rw [← hbytes, ← hkey] at hopened
  have hrecipient : params.recipientProfileId.length = 32 :=
    ((CempPayloadV1Codec_lawful hreads).inRange hencode).1.2.2.1
  have hconsistent := validateSemanticConsistency_eq_ok_iff.2
    ⟨hsealing.message_id, hsealing.body_type, hrecipient, rfl⟩
  refine bind_eq_ok_iff.2 ⟨_, lift_eq_ok_iff.2 hopened, ?_⟩
  refine bind_eq_ok_iff.2 ⟨(), checkPayload_eq_ok_iff.2 hvalid, ?_⟩
  refine bind_eq_ok_iff.2 ⟨_, lift_eq_ok_iff.2 hdecode, ?_⟩
  refine bind_eq_ok_iff.2 ⟨(), checkConsistency_eq_ok_iff.2 hconsistent, ?_⟩
  have hbody : ¬ ((textPayload params ambient outpoint).body_type ≠ 0x01 ∧
      (textPayload params ambient outpoint).body_type ≠ 0x03) := by
    change ¬ ((params.contentType.getD .Text).byte ≠ 0x01 ∧
      (params.contentType.getD .Text).byte ≠ 0x03)
    cases params.contentType.getD .Text <;> decide
  rw [if_neg hbody]
  rfl

/-- The same text, receipts, manifests and reply reference, and the same attachment key. -/
structure SameMessage (params : AssembleTextMessageParams) (assembled : AssembledMessage)
    (incoming : IncomingTextMessage) : Prop where
  text : incoming.text = params.text
  receipts : incoming.receipts = params.receipts.getD []
  attachmentManifests : incoming.attachmentManifests = params.attachmentManifests.getD []
  replyToMessageId : incoming.replyToMessageId = params.replyTo.map ReplyTo.messageId
  replyToOutpoint : Option.Rel SameOutpoint (params.replyTo.map ReplyTo.outPoint)
    incoming.replyToOutpoint
  attachmentKey : incoming.attachmentKey = assembled.attachmentKey

/-- The recipient reads the message that was assembled, exactly when its text does not begin with
    a byte order mark. -/
theorem message_round_trips_iff (hreads : reader.Reads) (hsuite : suite.Correct)
    {ambient : Ambient} {params : AssembleTextMessageParams} {secretKey : Buffer}
    (hkeys : suite.KeyPair params.recipientKemPublicKey secretKey)
    (hentropy : ambient.entropy.kemMessage.length = ML_KEM_768_SIZES.sharedSecret)
    {assembled : AssembledMessage}
    (h : assembleTextMessage ckbHash suite reader libraryText ambient params = .ok assembled) :
    (∃ incoming, processIncomingText suite reader libraryText
          ⟨assembled.envelopeBytes, secretKey, params.recipientProfileId⟩ = .ok incoming ∧
        SameMessage params assembled incoming) ↔
      params.text.toList.head? ≠ some Utf8.byteOrderMark := by
  obtain ⟨outpoint, houtpoint, hprocess⟩ :=
    processIncomingText_of_assembled hreads hsuite hkeys hentropy h
  constructor
  · rintro ⟨incoming, hincoming, hsame⟩
    cases hprocess.symm.trans hincoming
    exact (text_survives_iff params).1 hsame.text
  · intro hmark
    refine ⟨_, hprocess, (text_survives_iff params).2 hmark, ?_, rfl, rfl,
      sameOutpoint_of_replyOutpoint? houtpoint, rfl⟩
    change ((params.receipts.getD []).map fun receipt => ReceiptEntryV1.mk receipt.messageId
      receipt.status).map (fun receipt => Receipt.mk receipt.message_id receipt.status) = _
    rw [List.map_map]
    exact List.map_id _

end Pipelines

/-! ### A sample -/

def sampleHash (_ : Buffer) : Buffer := List.replicate 32 8

def sampleAmbient : Ambient where
  nowMs := 1700000000000
  messageId := List.replicate 16 3
  messageNonce := List.replicate 16 4
  padding := [7]
  entropy := ⟨List.replicate 12 5, List.replicate 32 6⟩

def sampleParams (text : String) : AssembleTextMessageParams where
  text := text
  senderProfileId := List.replicate 32 9
  recipientProfileId := List.replicate 32 10
  recipientKemPublicKey := samplePublicKey
  senderDeviceId := List.replicate 16 11
  replyTo := some ⟨List.replicate 16 12, ⟨"0x" ++ String.ofList (List.replicate 64 'a'), .text "0x1"⟩⟩
  receipts := some [⟨List.replicate 16 13, 3⟩]
  receiptRequest := some 1
  attachmentManifests := none
  contentType := none
  messageId := none
  nowMs := none
  attachmentEnvelope := none

def assembleSample (text : String) : Except MessageError AssembledMessage :=
  assembleTextMessage sampleHash sampleSuite offsetReader "" sampleAmbient (sampleParams text)

theorem message_round_trips_sample : ∃ assembled incoming, assembleSample "hi" = .ok assembled ∧
    processIncomingText sampleSuite offsetReader ""
        ⟨assembled.envelopeBytes, sampleSecretKey, List.replicate 32 10⟩ = .ok incoming ∧
      SameMessage (sampleParams "hi") assembled incoming := by
  have hassembles : (assembleSample "hi").toBool = true := by decide +kernel
  cases hassembled : assembleSample "hi" with
  | error error => simp [hassembled, Except.toBool] at hassembles
  | ok assembled =>
    obtain ⟨incoming, hincoming, hsame⟩ := (message_round_trips_iff offsetReader_reads
      sampleSuite_correct sampleSuite_keyPair List.length_replicate hassembled).2 (by decide +kernel)
    exact ⟨assembled, incoming, rfl, hincoming, hsame⟩

def markedText : String := String.ofList [Utf8.byteOrderMark, 'h', 'i']

/-- The decoder of the recipient drops the mark. -/
theorem not_message_round_trips :
    ¬ ∀ (ckbHash : Buffer → Buffer) (suite : Suite) (reader : Reader) (libraryText : String)
        (ambient : Ambient) (params : AssembleTextMessageParams) (secretKey : Buffer)
        (assembled : AssembledMessage), reader.Reads → suite.Correct →
      suite.KeyPair params.recipientKemPublicKey secretKey →
      ambient.entropy.kemMessage.length = ML_KEM_768_SIZES.sharedSecret →
      assembleTextMessage ckbHash suite reader libraryText ambient params = .ok assembled →
      ∃ incoming, processIncomingText suite reader libraryText
          ⟨assembled.envelopeBytes, secretKey, params.recipientProfileId⟩ = .ok incoming ∧
        SameMessage params assembled incoming := by
  intro hclaim
  have hassembles : (assembleSample markedText).toBool = true := by decide +kernel
  cases hassembled : assembleSample markedText with
  | error error => simp [hassembled, Except.toBool] at hassembles
  | ok assembled =>
    obtain ⟨incoming, hincoming, hsame⟩ := hclaim _ _ _ _ _ _ _ _ offsetReader_reads
      sampleSuite_correct sampleSuite_keyPair List.length_replicate hassembled
    obtain ⟨outpoint, -, hprocess⟩ := processIncomingText_of_assembled offsetReader_reads
      sampleSuite_correct sampleSuite_keyPair List.length_replicate hassembled
    cases hprocess.symm.trans hincoming
    have hmarked := (text_survives_iff (sampleParams markedText)).1 hsame.text
    exact hmarked (by decide +kernel)

end cemp.ckb.wire
