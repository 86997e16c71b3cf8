import CempMobile.Core.Validate
import CempMobile.Lib.FirstKept
import CempMobile.Sync.LoraPoll
import Mathlib.Tactic.IntervalCases

open cemp.core cemp.ckb cemp.sync
open mol

namespace cemp.lora

/-! What one poll of a gateway returns, whatever the gateway lists. -/

section

variable (reader : Reader) (libraryText : String)

/-- The codec's check of an envelope without keys. -/
def codecCheck (data : Bytes) : Bool := codec.validateEnvelope reader libraryText data == .ok

/-- The message id in the header of an envelope. -/
def headerMessageId (cellData : Bytes) : Option Bytes :=
  match codec.Schema.CempEnvelopeV1.decode reader cellData with
  | .ok envelope => some envelope.header.message_id
  | .error _ => none

/-- An object listed under the message id of its own header. -/
def LoraObject.Genuine (object : LoraObject) : Prop :=
  (headerMessageId reader object.cellData).map bytesToHex = some object.id

/-- The transport with the codec's check. -/
def checkedTransport (baseUrl : String) (routeTags : List Bytes) (maxObjectsPerPoll : Nat) :
    LoraTransport :=
  ⟨baseUrl, routeTags, codecCheck reader libraryText, maxObjectsPerPoll⟩

/-- The well-formed objects that pages list, in order. -/
def listedObjects (pages : List LoraPage) : List LoraObject :=
  (pages.flatMap (·.objects)).filterMap (sanitizeObject (codecCheck reader libraryText))

/-- What the objects of one poll are to be, of those that its pages list. -/
structure GenuineObjects (maxObjectsPerPoll : Nat) (listed objects : List LoraObject) : Prop where
  distinct : (objects.map (·.id)).Nodup
  genuine : ∀ object ∈ objects, object.Genuine reader
  valid : ∀ object ∈ objects, codec.validateEnvelope reader libraryText object.cellData = .ok
  intact : ∀ object ∈ objects, cemp.lora.crc32 object.cellData = object.crc32
  atMost : objects.length ≤ maxObjectsPerPoll
  /-- No object is returned under the id of a genuine one that is not genuine itself. -/
  unshadowed : ∀ own ∈ listed, own.Genuine reader → ∀ object ∈ objects, object.id = own.id →
    object.Genuine reader

end

section

variable {reader : Reader} {libraryText : String} {validateEnvelope : Bytes → Bool}
  {maxObjectsPerPoll : Nat} {entry : Json} {object : LoraObject}

theorem sanitizeObject_sound (h : sanitizeObject validateEnvelope entry = some object) :
    validateEnvelope object.cellData = true ∧ cemp.lora.crc32 object.cellData = object.crc32 := by
  unfold sanitizeObject at h
  split at h
  · next id bytesHex crc receivedAt _ _ _ _ =>
    split at h
    · cases h
    split at h
    · cases h
    · next cellData _ =>
      split_ifs at h with _ _ hcrc hvalid
      obtain rfl := Option.some.inj h
      have hnum := congrArg Rat.num (not_not.1 hcrc)
      refine ⟨by simpa using hvalid, ?_⟩
      simp only [Rat.num_natCast] at hnum
      change cemp.lora.crc32 cellData = crc.num.toNat
      omega
  · cases h

theorem takeEntry_eq (objects : List LoraObject) :
    takeEntry validateEnvelope maxObjectsPerPoll objects entry =
      match sanitizeObject validateEnvelope entry with
      | some object => FirstKept.keep (·.id) maxObjectsPerPoll objects object
      | none => objects := by
  unfold takeEntry FirstKept.keep
  cases sanitizeObject validateEnvelope entry <;> rfl

/-- A poll keeps the first of the listed objects with each id, up to the cap. -/
theorem mergePages_objects (pages : List LoraPage) :
    (mergePages (codecCheck reader libraryText) maxObjectsPerPoll pages).objects =
      FirstKept.keepAll (·.id) maxObjectsPerPoll (listedObjects reader libraryText pages) := by
  unfold mergePages FirstKept.keepAll listedObjects
  rw [List.foldl_filterMap, List.foldl_flatMap]
  change _ = pages.foldl _ (⟨[], none⟩ : LoraPollResult).objects
  generalize (⟨[], none⟩ : LoraPollResult) = result
  induction pages generalizing result with
  | nil => rfl
  | cons page pages ih =>
    rw [List.foldl_cons, List.foldl_cons, ih]
    congr 1
    exact congrArg (page.objects.foldl · result.objects)
      (funext fun objects => funext fun entry => by
        rw [takeEntry_eq]
        cases sanitizeObject (codecCheck reader libraryText) entry <;> rfl)

theorem listedObjects_sound {pages : List LoraPage}
    (h : object ∈ listedObjects reader libraryText pages) :
    codec.validateEnvelope reader libraryText object.cellData = .ok ∧
      cemp.lora.crc32 object.cellData = object.crc32 := by
  obtain ⟨entry, -, hentry⟩ := List.mem_filterMap.1 h
  obtain ⟨hvalid, hcrc⟩ := sanitizeObject_sound hentry
  exact ⟨by simpa [codecCheck] using hvalid, hcrc⟩

/-- What a poll keeps is genuine if the first object listed under each id is, as far as the cap
    reaches. -/
theorem genuineObjects_iff (pages : List LoraPage) :
    GenuineObjects reader libraryText maxObjectsPerPoll (listedObjects reader libraryText pages)
        (FirstKept.keepAll (·.id) maxObjectsPerPoll (listedObjects reader libraryText pages)) ↔
      ∀ front object back, listedObjects reader libraryText pages = front ++ object :: back →
        object.id ∉ front.map (·.id) → FirstKept.keys (·.id) front < maxObjectsPerPoll →
        object.Genuine reader := by
  constructor
  · intro h front object back hsplit hnew hroom
    exact h.genuine object (FirstKept.mem_keepAll_iff.2 ⟨front, back, hsplit, hnew, hroom⟩)
  · intro h
    have hgenuine : ∀ object ∈ FirstKept.keepAll (·.id) maxObjectsPerPoll
        (listedObjects reader libraryText pages), object.Genuine reader := fun object hmem => by
      obtain ⟨front, back, hsplit, hnew, hroom⟩ := FirstKept.mem_keepAll_iff.1 hmem
      exact h front object back hsplit hnew hroom
    exact {
      distinct := FirstKept.nodup_keepAll _
      genuine := hgenuine
      valid := fun object hmem => (listedObjects_sound (FirstKept.mem_of_mem_keepAll hmem)).1
      intact := fun object hmem => (listedObjects_sound (FirstKept.mem_of_mem_keepAll hmem)).2
      atMost := FirstKept.length_keepAll_le _
      unshadowed := fun _ _ _ object hmem _ => hgenuine object hmem }

/-- A poll that succeeds returns what its pages merge to. -/
theorem poll_objects {baseUrl : String} {routeTags : List Bytes} {since : Option String}
    {w w' : LoraWorld} {result : LoraPollResult} (hpages : w.pages = [])
    (hrun : Program.Runs loraEffect
      ((checkedTransport reader libraryText baseUrl routeTags maxObjectsPerPoll).poll since) w
      (.ok result) w') :
    result.objects =
      FirstKept.keepAll (·.id) maxObjectsPerPoll (listedObjects reader libraryText w'.pages) := by
  have hpoll := always_pollRoutes
    (checkedTransport reader libraryText baseUrl routeTags maxObjectsPerPoll) since routeTags w
  rw [hpages] at hpoll
  obtain ⟨-, hresult⟩ := hpoll.runs hrun
  rw [hresult result rfl]
  exact mergePages_objects w'.pages

/-- The objects of a poll are genuine exactly when the first well-formed object its pages list
    under each id, before which fewer ids than the cap are listed, names its own message. -/
theorem poll_genuine_iff {baseUrl : String} {routeTags : List Bytes} {since : Option String}
    {w w' : LoraWorld} {result : LoraPollResult} (hpages : w.pages = [])
    (hrun : Program.Runs loraEffect
      ((checkedTransport reader libraryText baseUrl routeTags maxObjectsPerPoll).poll since) w
      (.ok result) w') :
    GenuineObjects reader libraryText maxObjectsPerPoll (listedObjects reader libraryText w'.pages)
        result.objects ↔
      ∀ front object back, listedObjects reader libraryText w'.pages = front ++ object :: back →
        object.id ∉ front.map (·.id) → FirstKept.keys (·.id) front < maxObjectsPerPoll →
        object.Genuine reader := by
  rw [poll_objects hpages hrun]
  exact genuineObjects_iff w'.pages

end

/-! ### A gateway with one envelope -/

theorem hexDigit_digitChar {n : Nat} (h : n < 16) : hexDigit? (Nat.digitChar n) = some n := by
  interval_cases n <;> rfl

/-- The hex text of bytes is decoded to them. -/
theorem hexToBytes_bytesToHex {bytes : Bytes} (hne : bytes ≠ []) :
    hexToBytes (bytesToHex bytes) = some bytes := by
  have hpairs (bytes : Bytes) : hexPairs (bytes.flatMap fun b =>
      [Nat.digitChar (b.toNat / 16), Nat.digitChar (b.toNat % 16)]) = some bytes := by
    induction bytes with
    | nil => rfl
    | cons b bytes ih =>
      have hb : b.toNat < 256 := b.toNat_lt
      have hhigh := hexDigit_digitChar (show b.toNat / 16 < 16 by omega)
      have hlow := hexDigit_digitChar (show b.toNat % 16 < 16 by omega)
      have hbyte : 16 * (b.toNat / 16) + b.toNat % 16 = b.toNat := by omega
      simp only [List.flatMap_cons, List.cons_append, List.nil_append, hexPairs, hhigh, hlow, ih,
        Option.bind_eq_bind, Option.bind_some, hbyte, UInt8.ofNat_toNat, Option.pure_def]
  unfold hexToBytes bytesToHex
  rw [String.toList_ofList, if_neg, hpairs]
  cases bytes with
  | nil => exact absurd rfl hne
  | cons b bytes => simp

def sampleEnvelope : codec.CempEnvelopeV1 where
  header :=
    { protocol_version := 1, network := 1, content_type := 1, message_id := List.replicate 16 3,
      conversation_id := List.replicate 32 8, sender_profile_id := List.replicate 32 9,
      created_at_client := 1700000000, reply_to_message_id := none, expiry_hint := 0 }
  kem_ciphertext := List.replicate 1088 0
  nonce := List.replicate 12 0
  encrypted_payload := List.replicate 16 0

def sampleData : Bytes :=
  ((codec.CempEnvelopeV1Codec offsetReader).encode sampleEnvelope).toOption.getD []

theorem sampleData_encodes :
    (codec.CempEnvelopeV1Codec offsetReader).encode sampleEnvelope = .ok sampleData := by
  have hencodes : ((codec.CempEnvelopeV1Codec offsetReader).encode sampleEnvelope).toBool = true := by
    decide +kernel
  unfold sampleData
  cases hencode : (codec.CempEnvelopeV1Codec offsetReader).encode sampleEnvelope with
  | error fault => simp [hencode, Except.toBool] at hencodes
  | ok bytes => rfl

theorem sampleData_decodes :
    codec.Schema.CempEnvelopeV1.decode offsetReader sampleData = .ok sampleEnvelope :=
  codec.strictDecode_eq_ok_iff.2
    ⟨(codec.CempEnvelopeV1Codec_lawful offsetReader_reads).decodes sampleData_encodes,
      sampleData_encodes⟩

theorem sampleData_length : sampleData.length ≤ V1_LIMITS.maxEnvelopeBytes ∧ sampleData ≠ [] := by
  decide +kernel

theorem sampleData_valid : codecCheck offsetReader "" sampleData = true := by
  rw [codecCheck, codec.validateEnvelope_eq_ok_iff.2 ⟨sampleData_length.1, sampleEnvelope,
    sampleData_decodes, by decide +kernel⟩]
  rfl

theorem crc32_le (bytes : Bytes) : cemp.lora.crc32 bytes ≤ 0xffffffff :=
  Nat.le_of_lt_succ (UInt32.toNat_lt _)

/-- The entry of a gateway that lists cell data under an id. -/
def entryOf (id : String) (data : Bytes) : Json :=
  .object [("id", .string id), ("bytes_hex", .string (bytesToHex data)),
    ("crc32", .number (cemp.lora.crc32 data)), ("received_at", .number 0)]

def objectOf (id : String) (data : Bytes) : LoraObject :=
  ⟨String.ofList (id.toList.map Char.toLower), data, cemp.lora.crc32 data, 0⟩

/-- An entry with the checksum of its data is taken up, whatever id it has. -/
theorem sanitizeObject_entryOf {id : String} {data : Bytes} (hid : isObjectId id = true)
    (hne : data ≠ []) (hlength : data.length ≤ V1_LIMITS.maxEnvelopeBytes)
    (hvalid : validateEnvelope data = true) :
    sanitizeObject validateEnvelope (entryOf id data) = some (objectOf id data) := by
  have hcrc : (cemp.lora.crc32 data : ℚ) ≤ 0xffffffff := by
    exact_mod_cast crc32_le data
  have hproperty : (entryOf id data).property "id" = some (.string id) := rfl
  have hproperty1 : (entryOf id data).property "bytes_hex" = some (.string (bytesToHex data)) := rfl
  have hproperty2 : (entryOf id data).property "crc32" = some (.number (cemp.lora.crc32 data)) := rfl
  have hproperty3 : (entryOf id data).property "received_at" = some (.number 0) := rfl
  unfold sanitizeObject
  rw [hproperty, hproperty1, hproperty2, hproperty3]
  simp only [hid, hexToBytes_bytesToHex hne, hvalid, Nat.not_lt.2 hlength, not_true_eq_false,
    if_false, not_lt.2 hcrc, Rat.den_natCast, ne_eq, false_or, or_false, objectOf, Rat.num_natCast,
    Int.toNat_natCast]
  rw [if_neg (by simp)]

/-- The page of a gateway that lists the envelope under an id. -/
def pageWith (id : String) : LoraPage := ⟨[entryOf id sampleData], "1"⟩

theorem listedObjects_pageWith {id : String} (hid : isObjectId id = true) :
    listedObjects offsetReader "" [pageWith id] = [objectOf id sampleData] := by
  have hentry := sanitizeObject_entryOf hid sampleData_length.2 sampleData_length.1 sampleData_valid
  simp [listedObjects, pageWith, hentry]

theorem objectOf_genuine_iff {id : String} :
    (objectOf id sampleData).Genuine offsetReader ↔
      bytesToHex (List.replicate 16 3) = String.ofList (id.toList.map Char.toLower) := by
  unfold LoraObject.Genuine headerMessageId objectOf
  rw [sampleData_decodes]
  exact Option.some_inj

/-- A poll of that gateway. -/
theorem runs_pageWith (id : String) :
    Program.Runs loraEffect
      ((checkedTransport offsetReader "" "http://gateway" [List.replicate 32 0]
        DEFAULT_MAX_OBJECTS_PER_POLL).poll none) unpolled
      (.ok (mergePages (codecCheck offsetReader "") DEFAULT_MAX_OBJECTS_PER_POLL [pageWith id]))
      { unpolled with pages := [pageWith id] } :=
  runs_gatewayHandler [("1", entryOf id sampleData)] _ _

/-- The envelope under its own id is genuine. -/
theorem poll_genuine_sample :
    GenuineObjects offsetReader "" DEFAULT_MAX_OBJECTS_PER_POLL
      (listedObjects offsetReader "" [pageWith "03030303030303030303030303030303"])
      (mergePages (codecCheck offsetReader "") DEFAULT_MAX_OBJECTS_PER_POLL
        [pageWith "03030303030303030303030303030303"]).objects := by
  refine (poll_genuine_iff rfl (runs_pageWith "03030303030303030303030303030303")).2 ?_
  intro front object back hsplit hnew hroom
  have hmem : object ∈ listedObjects offsetReader "" [pageWith "03030303030303030303030303030303"] :=
    hsplit ▸ List.mem_append_right _ (List.mem_cons_self ..)
  rw [listedObjects_pageWith (by decide +kernel)] at hmem
  obtain rfl := List.mem_singleton.1 hmem
  exact objectOf_genuine_iff.2 (by decide +kernel)

/-- Under another id it is returned all the same. -/
theorem foreign_id_returned : ∃ w' result,
    Program.Runs loraEffect
      ((checkedTransport offsetReader "" "http://gateway" [List.replicate 32 0]
        DEFAULT_MAX_OBJECTS_PER_POLL).poll none) unpolled (.ok result) w' ∧
      ¬GenuineObjects offsetReader "" DEFAULT_MAX_OBJECTS_PER_POLL
        (listedObjects offsetReader "" w'.pages) result.objects := by
  have hrun := runs_pageWith "08080808080808080808080808080808"
  refine ⟨_, _, hrun, fun h => ?_⟩
  have hobjects := poll_objects rfl hrun
  rw [listedObjects_pageWith (by decide +kernel)] at hobjects
  have hgenuine := h.genuine (objectOf "08080808080808080808080808080808" sampleData)
    (hobjects ▸ List.mem_singleton.2 rfl)
  exact absurd (objectOf_genuine_iff.1 hgenuine) (by decide +kernel)

end cemp.lora
