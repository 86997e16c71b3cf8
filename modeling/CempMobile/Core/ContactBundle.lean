import CempMobile.Core.Fingerprint
import CempMobile.Lib.Results
import CempMobile.Vault.FormatText

/-! The payload of a contact's QR code. A scanned one is hostile: it is decoded strictly. -/

open cemp.core.fingerprint cemp.secureVault

namespace cemp.core

namespace CKB_TESTNET

def name : String := "ckb_testnet"

end CKB_TESTNET

structure ContactBundleV1 where
  profileTypeId : String
  lockScriptHash : String
  address : String
  fingerprint : String
  network : String
  deriving DecidableEq, Repr

namespace contactBundle

def CONTACT_BUNDLE_PROTOCOL : String := "cemp-contact"

def CONTACT_BUNDLE_VERSION : Nat := 1

def wireFields (bundle : ContactBundleV1) : List (String × Json) :=
  [("protocol", .string CONTACT_BUNDLE_PROTOCOL),
    ("version", .number CONTACT_BUNDLE_VERSION),
    ("network", .string bundle.network),
    ("profileTypeId", .string bundle.profileTypeId),
    ("lockScriptHash", .string bundle.lockScriptHash),
    ("address", .string bundle.address),
    ("fingerprint", .string bundle.fingerprint)]

variable (otherNumberText : ℚ → List Char)

def encodeContactBundle (bundle : ContactBundleV1) : List Char :=
  stringify otherNumberText (.object (wireFields bundle))

def fail {α : Type} (detail : String) : Except Error α := .error (.other ("contact bundle: " ++ detail))

/-- `JSON.stringify` of a property, in the text of an error. -/
def shown : Option Json → String
  | none => "undefined"
  | some value => String.ofList (stringify otherNumberText value)

def isHash32 : List Char → Bool
  | '0' :: 'x' :: digits => digits.length = 64 && digits.all fun c =>
    ('0' ≤ c && c ≤ '9') || ('a' ≤ c && c ≤ 'f')
  | _ => false

def expectHash32 (value : Option Json) (field : String) : Except Error String :=
  match value with
  | some (.string text) =>
    if isHash32 text.toList then .ok text
    else fail (field ++ " must be 0x-prefixed lowercase 32-byte hex")
  | _ => fail (field ++ " must be 0x-prefixed lowercase 32-byte hex")

/-- `text.length`: its code units. -/
def length (text : String) : Nat := (text.toList.flatMap JSON.units).length

def expectAddress (value : Option Json) (expectedNetwork : String) : Except Error String :=
  match value with
  | some (.string address) =>
    if length address = 0 ∨ length address > 128 then fail "address must be a non-empty string"
    else if expectedNetwork = CKB_TESTNET.name ∧ ¬ "ckt1".toList <+: address.toList then
      fail "address is not a testnet (ckt1) address"
    else .ok address
  | _ => fail "address must be a non-empty string"

def expectFingerprint : Option Json → Except Error String
  | some (.string text) =>
    match parseFingerprint text.toList with
    | .ok canonical => .ok (String.ofList canonical)
    | .error _ => fail "fingerprint is malformed"
  | _ => fail "fingerprint must be a string"

/-- The fields behind the three that say what a card is. -/
def decodeFields (raw : Json) (expectedNetwork : String) : Except Error ContactBundleV1 := do
  let profileTypeId ← expectHash32 (raw.property "profileTypeId") "profileTypeId"
  let lockScriptHash ← expectHash32 (raw.property "lockScriptHash") "lockScriptHash"
  let address ← expectAddress (raw.property "address") expectedNetwork
  let fingerprint ← expectFingerprint (raw.property "fingerprint")
  .ok ⟨profileTypeId, lockScriptHash, address, fingerprint, expectedNetwork⟩

/-- `value === text`. -/
def isString (value : Option Json) (text : String) : Bool :=
  match value with
  | some (.string found) => found = text
  | _ => false

/-- `value === n`. -/
def isNumber (value : Option Json) (n : Nat) : Bool :=
  match value with
  | some (.number found) => found = n
  | _ => false

def decodeContactBundle (text : List Char) (expectedNetwork : String) :
    Except Error ContactBundleV1 :=
  match JSON.parse text with
  | none => fail "not valid JSON"
  | some (.object fields) =>
    let raw : Json := .object fields
    if ¬ isString (raw.property "protocol") CONTACT_BUNDLE_PROTOCOL then
      fail "unknown protocol marker"
    else if ¬ isNumber (raw.property "version") CONTACT_BUNDLE_VERSION then
      fail ("unsupported version " ++ shown otherNumberText (raw.property "version"))
    else if ¬ isString (raw.property "network") expectedNetwork then
      fail ("network " ++ shown otherNumberText (raw.property "network") ++ " is not " ++
        expectedNetwork)
    else decodeFields raw expectedNetwork
  | some _ => fail "must be a JSON object"

end contactBundle

open contactBundle

/-- What a bundle is when it was decoded on a network. -/
structure ContactBundleV1.Valid (bundle : ContactBundleV1) (network : String) : Prop where
  sameNetwork : bundle.network = network
  profileTypeId : isHash32 bundle.profileTypeId.toList = true
  lockScriptHash : isHash32 bundle.lockScriptHash.toList = true
  address : contactBundle.length bundle.address ≠ 0 ∧ contactBundle.length bundle.address ≤ 128
  testnet : network = CKB_TESTNET.name → "ckt1".toList <+: bundle.address.toList
  fingerprint : parseFingerprint bundle.fingerprint.toList = .ok bundle.fingerprint.toList

namespace contactBundle

variable {otherNumberText : ℚ → List Char} {bundle : ContactBundleV1} {network : String}

theorem readable_wireFields (bundle : ContactBundleV1) : Readable (.object (wireFields bundle)) := by
  have hversion : ∃ n : Nat, n ≤ 2 ^ 53 ∧ ((CONTACT_BUNDLE_VERSION : Nat) : ℚ) = n :=
    ⟨1, by decide, rfl⟩
  have hnames : ["protocol", "version", "network", "profileTypeId", "lockScriptHash", "address",
      "fingerprint"].Nodup := by decide
  exact ⟨hnames, trivial, hversion, trivial, trivial, trivial, trivial, trivial, trivial⟩

theorem expectHash32_eq_ok {value : Option Json} {field text : String}
    (h : expectHash32 value field = .ok text) : isHash32 text.toList = true := by
  unfold expectHash32 at h
  split at h
  · split at h
    · next hhash =>
      obtain rfl := Except.ok.inj h
      exact hhash
    · cases h
  · cases h

theorem expectAddress_eq_ok {value : Option Json} {text : String}
    (h : expectAddress value network = .ok text) :
    (contactBundle.length text ≠ 0 ∧ contactBundle.length text ≤ 128) ∧
      (network = CKB_TESTNET.name → "ckt1".toList <+: text.toList) := by
  unfold expectAddress at h
  split at h
  · split at h
    · cases h
    · next hlength =>
      split at h
      · cases h
      · next hprefix =>
        obtain rfl := Except.ok.inj h
        obtain ⟨hsome, hsmall⟩ := not_or.1 hlength
        refine ⟨⟨hsome, Nat.not_lt.1 hsmall⟩, fun hnetwork => ?_⟩
        exact not_not.1 fun hother => hprefix ⟨hnetwork, hother⟩
  · cases h

theorem expectFingerprint_eq_ok {value : Option Json} {text : String}
    (h : expectFingerprint value = .ok text) : parseFingerprint text.toList = .ok text.toList := by
  unfold expectFingerprint at h
  split at h
  · split at h
    · next canonical hparse =>
      obtain rfl := Except.ok.inj h
      rw [String.toList_ofList]
      exact parseFingerprint_canonical hparse
    · cases h
  · cases h

theorem decodeFields_eq_ok {raw : Json} (h : decodeFields raw network = .ok bundle) :
    bundle.Valid network := by
  unfold decodeFields at h
  obtain ⟨profileTypeId, hprofile, h⟩ := Except.bind_eq_ok_iff.1 h
  obtain ⟨lockScriptHash, hlock, h⟩ := Except.bind_eq_ok_iff.1 h
  obtain ⟨address, haddress, h⟩ := Except.bind_eq_ok_iff.1 h
  obtain ⟨fingerprint, hfingerprint, h⟩ := Except.bind_eq_ok_iff.1 h
  obtain rfl := Except.ok.inj h
  exact
    { sameNetwork := rfl
      profileTypeId := expectHash32_eq_ok hprofile
      lockScriptHash := expectHash32_eq_ok hlock
      address := (expectAddress_eq_ok haddress).1
      testnet := (expectAddress_eq_ok haddress).2
      fingerprint := expectFingerprint_eq_ok hfingerprint }

theorem decodeContactBundle_valid {text : List Char}
    (h : decodeContactBundle otherNumberText text network = .ok bundle) : bundle.Valid network := by
  unfold decodeContactBundle at h
  split at h
  · cases h
  · dsimp only at h
    split at h
    · cases h
    · split at h
      · cases h
      · split at h
        · cases h
        · exact decodeFields_eq_ok h
  · cases h

theorem decodeFields_wireFields (h : bundle.Valid network) :
    decodeFields (.object (wireFields bundle)) network = .ok bundle := by
  have hprofile : expectHash32 (some (.string bundle.profileTypeId)) "profileTypeId" =
      .ok bundle.profileTypeId := if_pos h.profileTypeId
  have hlock : expectHash32 (some (.string bundle.lockScriptHash)) "lockScriptHash" =
      .ok bundle.lockScriptHash := if_pos h.lockScriptHash
  have haddress : expectAddress (some (.string bundle.address)) network = .ok bundle.address := by
    unfold expectAddress
    dsimp only
    rw [if_neg, if_neg]
    · exact fun hother => hother.2 (h.testnet hother.1)
    · exact not_or.2 ⟨h.address.1, Nat.not_lt.2 h.address.2⟩
  have hfingerprint : expectFingerprint (some (.string bundle.fingerprint)) =
      .ok bundle.fingerprint := by
    unfold expectFingerprint
    dsimp only
    rw [h.fingerprint]
    dsimp only
    rw [String.ofList_toList]
  change (do
    let profileTypeId ← expectHash32 (some (.string bundle.profileTypeId)) "profileTypeId"
    let lockScriptHash ← expectHash32 (some (.string bundle.lockScriptHash)) "lockScriptHash"
    let address ← expectAddress (some (.string bundle.address)) network
    let fingerprint ← expectFingerprint (some (.string bundle.fingerprint))
    Except.ok (ContactBundleV1.mk profileTypeId lockScriptHash address fingerprint network)) = _
  rw [hprofile, hlock, haddress, hfingerprint, ← h.sameNetwork]
  rfl

/-- The bundles that are decoded, from whatever text, are the valid ones, and these are read back
from the text that is shared. -/
theorem decode_encode_iff (bundle : ContactBundleV1) (network : String) :
    (decodeContactBundle otherNumberText (encodeContactBundle otherNumberText bundle) network =
        .ok bundle ↔ bundle.Valid network) ∧
      ((∃ text, decodeContactBundle otherNumberText text network = .ok bundle) ↔
        bundle.Valid network) := by
  have hdecode : bundle.Valid network → decodeContactBundle otherNumberText
      (encodeContactBundle otherNumberText bundle) network = .ok bundle := by
    intro h
    unfold decodeContactBundle encodeContactBundle
    rw [parse_stringify (readable_wireFields bundle)]
    have hprotocol : isString ((Json.object (wireFields bundle)).property "protocol")
        CONTACT_BUNDLE_PROTOCOL = true := rfl
    have hversion : isNumber ((Json.object (wireFields bundle)).property "version")
        CONTACT_BUNDLE_VERSION = true := by
      change decide ((1 : ℚ) = 1) = true
      exact decide_eq_true rfl
    have hnetwork : isString ((Json.object (wireFields bundle)).property "network") network =
        true := by
      change decide (bundle.network = network) = true
      exact decide_eq_true h.sameNetwork
    dsimp only
    rw [if_neg (not_not.2 hprotocol), if_neg (not_not.2 hversion), if_neg (not_not.2 hnetwork)]
    exact decodeFields_wireFields h
  exact ⟨⟨decodeContactBundle_valid, hdecode⟩,
    ⟨fun ⟨_, htext⟩ => decodeContactBundle_valid htext, fun h => ⟨_, hdecode h⟩⟩⟩

end contactBundle

end cemp.core
