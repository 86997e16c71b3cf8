import CempMobile.Core.ContactBundle
import CempMobile.Core.Text

/-! What a scanned contact card is to this device. -/

open cemp.core.contactBundle cemp.core.text

namespace cemp.core

inductive UnreadableReason where
  | notACard | unsupportedVersion | wrongNetwork | damaged
  deriving DecidableEq, Repr

inductive ScanOutcome where
  | addable (bundle : ContactBundleV1)
  | self (bundle : ContactBundleV1)
  | duplicate (bundle : ContactBundleV1) (existingContactId : Nat)
  | unreadable (reason : UnreadableReason)
  deriving DecidableEq, Repr

namespace contactImport

def classifyUnreadable (trimmed : List Char) : UnreadableReason :=
  match JSON.parse trimmed with
  | none => .notACard
  | some (.object fields) =>
    let raw : Json := .object fields
    if ¬ isString (raw.property "protocol") CONTACT_BUNDLE_PROTOCOL then .notACard
    else if ¬ isNumber (raw.property "version") CONTACT_BUNDLE_VERSION then .unsupportedVersion
    else if ¬ isString (raw.property "network") CKB_TESTNET.name then .wrongNetwork
    else .damaged
  | some _ => .notACard

/-- The database's form of an id. -/
def normalizeProfileId (value : String) : List Char :=
  match value.toList.map Char.toLower with
  | '0' :: 'x' :: digits => digits
  | digits => digits

variable (otherNumberText : ℚ → List Char)

/-- Nothing stands for a value that is no string. -/
def classifyScannedCard (text : Option (List Char)) (myProfileIdHex : Option String)
    (findExisting : List Char → Option Nat) : ScanOutcome :=
  match text with
  | none => .unreadable .notACard
  | some text =>
    let trimmed := trim text
    match decodeContactBundle otherNumberText trimmed CKB_TESTNET.name with
    | .error _ => .unreadable (classifyUnreadable trimmed)
    | .ok bundle =>
      let scanned := normalizeProfileId bundle.profileTypeId
      if myProfileIdHex.map normalizeProfileId = some scanned then .self bundle
      else
        match findExisting scanned with
        | some existing => .duplicate bundle existing
        | none => .addable bundle

/-! ### Reasons -/

variable {otherNumberText : ℚ → List Char} {text : List Char}

/-- The errors of the decoder that a reason stands for. -/
def errorsOf : UnreadableReason → Error → Prop
  | .notACard, error => ∃ detail ∈ ["not valid JSON", "must be a JSON object",
      "unknown protocol marker"], error = .other ("contact bundle: " ++ detail)
  | .unsupportedVersion, error => ∃ version,
      error = .other ("contact bundle: " ++ ("unsupported version " ++ version))
  | .wrongNetwork, error => ∃ network, error = .other ("contact bundle: " ++
      ("network " ++ network ++ " is not " ++ CKB_TESTNET.name))
  | .damaged, error => ∃ detail ∈ ["profileTypeId must be 0x-prefixed lowercase 32-byte hex",
      "lockScriptHash must be 0x-prefixed lowercase 32-byte hex",
      "address must be a non-empty string", "address is not a testnet (ckt1) address",
      "fingerprint must be a string", "fingerprint is malformed"],
      error = .other ("contact bundle: " ++ detail)

theorem expectHash32_error {value : Option Json} {field : String} {error : Error}
    (h : expectHash32 value field = .error error) :
    error = .other ("contact bundle: " ++ (field ++ " must be 0x-prefixed lowercase 32-byte hex")) := by
  unfold expectHash32 fail at h
  split at h
  · split at h
    · cases h
    · exact (Except.error.inj h).symm
  · exact (Except.error.inj h).symm

theorem expectAddress_error {value : Option Json} {network : String} {error : Error}
    (h : expectAddress value network = .error error) :
    error = .other ("contact bundle: " ++ "address must be a non-empty string") ∨
      error = .other ("contact bundle: " ++ "address is not a testnet (ckt1) address") := by
  unfold expectAddress fail at h
  split at h
  · split at h
    · exact .inl (Except.error.inj h).symm
    · split at h
      · exact .inr (Except.error.inj h).symm
      · cases h
  · exact .inl (Except.error.inj h).symm

theorem expectFingerprint_error {value : Option Json} {error : Error}
    (h : expectFingerprint value = .error error) :
    error = .other ("contact bundle: " ++ "fingerprint must be a string") ∨
      error = .other ("contact bundle: " ++ "fingerprint is malformed") := by
  unfold expectFingerprint fail at h
  split at h
  · split at h
    · cases h
    · exact .inr (Except.error.inj h).symm
  · exact .inl (Except.error.inj h).symm

theorem decodeFields_error {raw : Json} {network : String} {error : Error}
    (h : decodeFields raw network = .error error) : errorsOf .damaged error := by
  unfold decodeFields at h
  obtain hprofile | ⟨profileTypeId, -, h⟩ := Except.bind_eq_error_iff.1 h
  · exact ⟨_, by decide, expectHash32_error hprofile⟩
  obtain hlock | ⟨lockScriptHash, -, h⟩ := Except.bind_eq_error_iff.1 h
  · exact ⟨_, by decide, expectHash32_error hlock⟩
  obtain haddress | ⟨address, -, h⟩ := Except.bind_eq_error_iff.1 h
  · obtain heq | heq := expectAddress_error haddress
    · exact ⟨_, by decide, heq⟩
    · exact ⟨_, by decide, heq⟩
  obtain hfingerprint | ⟨fingerprint, -, h⟩ := Except.bind_eq_error_iff.1 h
  · obtain heq | heq := expectFingerprint_error hfingerprint
    · exact ⟨_, by decide, heq⟩
    · exact ⟨_, by decide, heq⟩
  cases h

/-- The reason given is the check of the decoder that failed. -/
theorem errorsOf_classifyUnreadable {error : Error}
    (h : decodeContactBundle otherNumberText text CKB_TESTNET.name = .error error) :
    errorsOf (classifyUnreadable text) error := by
  unfold decodeContactBundle at h
  unfold classifyUnreadable
  generalize JSON.parse text = parsed at h ⊢
  cases parsed with
  | none => exact ⟨_, by decide, (Except.error.inj h).symm⟩
  | some found =>
    cases found with
    | object fields =>
      dsimp only at h ⊢
      split at h
      · next hprotocol =>
        rw [if_pos hprotocol]
        exact ⟨_, by decide, (Except.error.inj h).symm⟩
      · next hprotocol =>
        rw [if_neg hprotocol]
        split at h
        · next hversion =>
          rw [if_pos hversion]
          exact ⟨_, (Except.error.inj h).symm⟩
        · next hversion =>
          rw [if_neg hversion]
          split at h
          · next hnetwork =>
            rw [if_pos hnetwork]
            exact ⟨_, (Except.error.inj h).symm⟩
          · next hnetwork =>
            rw [if_neg hnetwork]
            exact decodeFields_error h
    | _ => exact ⟨_, by decide, (Except.error.inj h).symm⟩

/-- What an outcome says of the text, this device's own id and the contacts that were found. -/
def Justified (otherNumberText : ℚ → List Char) (text : List Char) (myProfileIdHex : Option String)
    (finds : List Char → Option Nat → Prop) : ScanOutcome → Prop
  | .unreadable reason => ∃ error, decodeContactBundle otherNumberText (trim text)
      CKB_TESTNET.name = .error error ∧ errorsOf reason error
  | .self bundle => decodeContactBundle otherNumberText (trim text) CKB_TESTNET.name = .ok bundle ∧
      myProfileIdHex.map normalizeProfileId = some (normalizeProfileId bundle.profileTypeId)
  | .duplicate bundle existing =>
    decodeContactBundle otherNumberText (trim text) CKB_TESTNET.name = .ok bundle ∧
      myProfileIdHex.map normalizeProfileId ≠ some (normalizeProfileId bundle.profileTypeId) ∧
        finds (normalizeProfileId bundle.profileTypeId) (some existing)
  | .addable bundle => decodeContactBundle otherNumberText (trim text) CKB_TESTNET.name = .ok bundle ∧
      myProfileIdHex.map normalizeProfileId ≠ some (normalizeProfileId bundle.profileTypeId) ∧
        finds (normalizeProfileId bundle.profileTypeId) none

theorem classifyScannedCard_justified (text : List Char) (myProfileIdHex : Option String)
    (findExisting : List Char → Option Nat) :
    Justified otherNumberText text myProfileIdHex (fun id found => findExisting id = found)
      (classifyScannedCard otherNumberText (some text) myProfileIdHex findExisting) := by
  unfold classifyScannedCard
  dsimp only
  split
  · next error hdecode => exact ⟨error, hdecode, errorsOf_classifyUnreadable hdecode⟩
  · next bundle hdecode =>
    split
    · next hself => exact ⟨hdecode, hself⟩
    · next hself =>
      split
      · next existing hexisting => exact ⟨hdecode, hself, hexisting⟩
      · next hexisting => exact ⟨hdecode, hself, hexisting⟩

/-! ### Ids -/

theorem toLower_of_hash {c : Char} (h : ('0' ≤ c && c ≤ '9' || 'a' ≤ c && c ≤ 'f') = true) :
    c.toLower = c := by
  have hsmall : ¬ (65 ≤ c.toNat ∧ c.toNat ≤ 90) := by
    simp only [Bool.or_eq_true, Bool.and_eq_true, decide_eq_true_eq] at h
    rintro ⟨hlow, hhigh⟩
    obtain ⟨-, hnine⟩ | ⟨ha, -⟩ := h
    · have hnine' : c.toNat ≤ 57 := hnine
      omega
    · have ha' : 97 ≤ c.toNat := ha
      omega
  unfold Char.toLower
  exact dif_neg hsmall

/-- The id of a bundle that was decoded is what stands behind its 0x. -/
theorem normalizeProfileId_hash {value : String} (h : isHash32 value.toList = true) :
    value.toList = '0' :: 'x' :: normalizeProfileId value := by
  unfold isHash32 at h
  split at h
  · next digits hdigits =>
    simp only [Bool.and_eq_true] at h
    have hlower : digits.map Char.toLower = digits := by
      refine (List.map_congr_left fun c hc => ?_).trans (List.map_id' _)
      exact toLower_of_hash (List.all_eq_true.1 h.2 c hc)
    have hzero : Char.toLower '0' = '0' := by decide
    have hx : Char.toLower 'x' = 'x' := by decide
    unfold normalizeProfileId
    simp only [hdigits, List.map_cons, hzero, hx, hlower]
  · cases h

end contactImport

end cemp.core
