import CempMobile.Vault.Format
import CempMobile.Lib.Results
import Mathlib.Data.Nat.Digits.Defs
import Mathlib.Tactic.IntervalCases

open cemp.core Except

namespace cemp.secureVault

variable {other : ℚ → List Char}

/-! ### Fields read back -/

theorem hexDigit_digitChar {n : Nat} (h : n < 16) : hexDigit? (Nat.digitChar n) = some n := by
  interval_cases n <;> rfl

theorem hexPairs_hexChars (bytes : Bytes) : hexPairs (hexChars bytes) = some bytes := by
  induction bytes with
  | nil => rfl
  | cons b bytes ih =>
    have hb : b.toNat < 256 := b.toNat_lt
    have hhigh := hexDigit_digitChar (show b.toNat / 16 < 16 by omega)
    have hlow := hexDigit_digitChar (show b.toNat % 16 < 16 by omega)
    have hbyte : 16 * (b.toNat / 16) + b.toNat % 16 = b.toNat := by omega
    have hchars : hexChars (b :: bytes) = Nat.digitChar (b.toNat / 16) ::
        Nat.digitChar (b.toNat % 16) :: hexChars bytes := by
      simp [hexChars]
    rw [hchars]
    simp only [hexPairs, hhigh, hlow, ih, Option.bind_eq_bind, Option.bind_some, hbyte,
      UInt8.ofNat_toNat, Option.pure_def]

@[simp] theorem hexToBytes_hexJson (bytes : Bytes) (detail : String) :
    hexToBytes (hexJson bytes) detail = .ok bytes := by
  simp [hexToBytes, hexJson, hexPairs_hexChars]

theorem expectUint_toWire {n m : Number} {detail : String} {min max : Nat} :
    expectUint n.toWire detail min max = .ok m ↔ m = n ∧ n.isIntegerIn min max = true := by
  cases n with
  | finite q =>
    simp only [Number.toWire, expectUint, fail]
    split
    · next h => simp [h, eq_comm]
    · next h => simp [h]
  | notFinite => simp [Number.toWire, expectUint, fail, Number.isIntegerIn]

theorem expectUint_number {q : ℚ} {m : Number} {detail : String} {min max : Nat} :
    expectUint (.number q) detail min max = .ok m ↔
      m = .finite q ∧ (Number.finite q).isIntegerIn min max = true :=
  @expectUint_toWire (.finite q) _ _ _ _

@[simp] theorem expectBool_bool (b : Bool) (detail : String) :
    expectBool (.bool b) detail = .ok b := rfl

theorem expectUint_version :
    expectUint (.number VAULT_FORMAT_VERSION) "version" 1 1 = .ok (.finite 1) := rfl

/-- An integer in a range is in every wider one. -/
theorem Number.isIntegerIn_mono {n : Number} {min max min' max' : Nat}
    (h : n.isIntegerIn min max = true) (hmin : min' ≤ min) (hmax : max ≤ max') :
    n.isIntegerIn min' max' = true := by
  cases n with
  | notFinite => cases h
  | finite q =>
    simp only [isIntegerIn, Bool.and_eq_true, decide_eq_true_eq] at h ⊢
    obtain ⟨⟨hden, hlow⟩, hhigh⟩ := h
    have hmin' : (min' : ℚ) ≤ min := by exact_mod_cast hmin
    have hmax' : (max : ℚ) ≤ max' := by exact_mod_cast hmax
    exact ⟨⟨hden, hmin'.trans hlow⟩, hhigh.trans hmax'⟩

theorem validateKdfParams_argon2id {m t p : Number} {salt : Bytes} :
    validateKdfParams (.argon2id m t p salt) = .ok () ↔
      (8 ≤ salt.length ∧ salt.length ≤ 64) ∧ m.isIntegerIn 8 1048576 = true ∧
        t.isIntegerIn 1 16 = true ∧ p.isIntegerIn 1 8 = true ∧ 8 * p.value ≤ m.value := by
  unfold validateKdfParams kdfFail
  rw [guard_eq_ok_iff]
  refine and_congr (by simp only [KdfParams.salt]; omega) ?_
  simp only
  split
  · next h =>
    simp only [Bool.and_eq_true, decide_eq_true_eq] at h
    obtain ⟨⟨⟨hm, ht⟩, hp⟩, hle⟩ := h
    exact ⟨fun _ => ⟨hm, ht, hp, hle⟩, fun _ => rfl⟩
  · next h =>
    simp only [Bool.and_eq_true, decide_eq_true_eq] at h
    constructor
    · intro hok
      cases hok
    · rintro ⟨hm, ht, hp, hle⟩
      exact absurd ⟨⟨⟨hm, ht⟩, hp⟩, hle⟩ h

theorem validateKdfParams_scrypt {logN r p : Number} {salt : Bytes} :
    validateKdfParams (.scrypt logN r p salt) = .ok () ↔
      (8 ≤ salt.length ∧ salt.length ≤ 64) ∧ logN.isIntegerIn 1 20 = true ∧
        r.isIntegerIn 1 8 = true ∧ p.isIntegerIn 1 8 = true := by
  unfold validateKdfParams kdfFail
  rw [guard_eq_ok_iff]
  refine and_congr (by simp only [KdfParams.salt]; omega) ?_
  simp only
  split
  · next h =>
    simp only [Bool.and_eq_true] at h
    obtain ⟨⟨hlogN, hr⟩, hp⟩ := h
    exact ⟨fun _ => ⟨hlogN, hr, hp⟩, fun _ => rfl⟩
  · next h =>
    simp only [Bool.and_eq_true] at h
    constructor
    · intro hok
      cases hok
    · rintro ⟨hlogN, hr, hp⟩
      exact absurd ⟨⟨hlogN, hr⟩, hp⟩ h

/-! ### Parts read back -/

theorem parseKdf_kdfToWire {params params' : KdfParams} :
    parseKdf (kdfToWire params) = .ok params' ↔
      params' = params ∧ validateKdfParams params = .ok () := by
  cases params with
  | argon2id m t p salt =>
    simp [parseKdf, kdfToWire, expectObject, expectObjectField, expectHexField,
      expectUintField, bind_eq_ok_iff, map_eq_ok_iff, List.lookup_cons, expectUint_toWire]
    constructor
    · rintro ⟨-, -, -, ⟨_, hvalid⟩, rfl⟩
      exact ⟨rfl, hvalid⟩
    · rintro ⟨rfl, hvalid⟩
      obtain ⟨-, hm, ht, hp, -⟩ := validateKdfParams_argon2id.1 hvalid
      exact ⟨Number.isIntegerIn_mono hm (by decide) (by decide),
        Number.isIntegerIn_mono ht (by decide) (by decide),
        Number.isIntegerIn_mono hp (by decide) (by decide), ⟨(), hvalid⟩, rfl⟩
  | scrypt logN r p salt =>
    simp [parseKdf, kdfToWire, expectObject, expectObjectField, expectHexField,
      expectUintField, bind_eq_ok_iff, map_eq_ok_iff, List.lookup_cons, expectUint_toWire]
    constructor
    · rintro ⟨-, -, -, ⟨_, hvalid⟩, rfl⟩
      exact ⟨rfl, hvalid⟩
    · rintro ⟨rfl, hvalid⟩
      obtain ⟨-, hlogN, hr, hp⟩ := validateKdfParams_scrypt.1 hvalid
      exact ⟨Number.isIntegerIn_mono hlogN (by decide) (by decide),
        Number.isIntegerIn_mono hr (by decide) (by decide),
        Number.isIntegerIn_mono hp (by decide) (by decide), ⟨(), hvalid⟩, rfl⟩

theorem parsePasswordSlot_slotToWire {slot slot' : WrapSlot} :
    parsePasswordSlot (slotToWire (some slot.nonce) slot.wrappedVek) = .ok slot' ↔
      slot' = slot ∧ slot.nonce.length = AES_GCM_NONCE_BYTES ∧
        slot.wrappedVek.length = VEK_WRAP_BYTES := by
  simp [parsePasswordSlot, slotToWire, expectObject, expectObjectField, expectHexField,
    bind_eq_ok_iff, List.lookup_cons, fail, require_eq_ok_iff, pure, Except.pure]
  constructor
  · rintro ⟨hnonce, hwrapped, rfl⟩
    exact ⟨rfl, hnonce, hwrapped⟩
  · rintro ⟨rfl, hnonce, hwrapped⟩
    exact ⟨hnonce, hwrapped, rfl⟩

/-- A slot that the parser accepts. -/
structure BiometricWrapSlot.Acceptable (slot : BiometricWrapSlot) : Prop where
  min : 16 ≤ slot.wrappedVek.length
  max : slot.wrappedVek.length ≤ BIOMETRIC_BLOB_MAX_BYTES
  nonce : ∀ nonce ∈ slot.nonce, nonce.length = AES_GCM_NONCE_BYTES

theorem parseBiometricSlot_biometricToWire {slot slot' : Option BiometricWrapSlot} :
    parseBiometricSlot (biometricToWire slot) = .ok slot' ↔
      slot' = slot ∧ ∀ s ∈ slot, s.Acceptable := by
  cases slot with
  | none => simp [parseBiometricSlot, biometricToWire, eq_comm]
  | some slot =>
    obtain ⟨nonce, wrappedVek⟩ := slot
    cases nonce with
    | none =>
      simp [parseBiometricSlot, biometricToWire, slotToWire, expectObject, expectObjectField,
        expectHexField, bind_eq_ok_iff, List.lookup_cons, fail, guard_eq_ok_iff, pure, Except.pure]
      constructor
      · rintro ⟨⟨hmin, hmax⟩, rfl⟩
        exact ⟨rfl, hmin, hmax, by simp⟩
      · rintro ⟨rfl, hslot⟩
        exact ⟨⟨hslot.min, hslot.max⟩, rfl⟩
    | some nonce =>
      simp [parseBiometricSlot, biometricToWire, slotToWire, expectObject, expectObjectField,
        expectHexField, bind_eq_ok_iff, List.lookup_cons, fail, guard_eq_ok_iff, require_eq_ok_iff,
        pure, Except.pure]
      constructor
      · rintro ⟨⟨hmin, hmax⟩, hnonce, rfl⟩
        exact ⟨rfl, hmin, hmax, by simpa using hnonce⟩
      · rintro ⟨rfl, hslot⟩
        exact ⟨⟨hslot.min, hslot.max⟩, hslot.nonce nonce rfl, rfl⟩

theorem parseMeta_metaToWire {fileMeta fileMeta' : VaultFileMeta} {fields : List (String × Json)}
    (hfields : metaToWire fileMeta = .object fields) :
    parseMeta fields = .ok fileMeta' ↔
      fileMeta' = fileMeta ∧ fileMeta.createdAt.isIntegerIn 0 MAX_SAFE_INTEGER = true ∧
        fileMeta.autoLockSeconds.isIntegerIn 1 2147483 = true := by
  obtain ⟨createdAt, wordCount, hasPassphrase, autoLockSeconds⟩ := fileMeta
  cases hfields
  have hcount : parseWordCount [("createdAt", createdAt.toWire),
      ("wordCount", .number wordCount.toNat), ("hasPassphrase", .bool hasPassphrase),
      ("autoLockSeconds", autoLockSeconds.toWire)] = .ok wordCount := by
    cases wordCount with
    | twelve => rfl
    | twentyFour => rfl
  simp [parseMeta, hcount, expectUintField, expectObjectField, List.lookup_cons, bind_eq_ok_iff,
    map_eq_ok_iff, expectUint_toWire, -Bool.exists_bool]
  constructor
  · rintro ⟨hcreatedAt, hautoLock, rfl⟩
    exact ⟨rfl, hcreatedAt, hautoLock⟩
  · rintro ⟨rfl, hcreatedAt, hautoLock⟩
    exact ⟨hcreatedAt, hautoLock, rfl⟩

/-- A file whose document the parser accepts. -/
structure VaultFileV1.Acceptable (file : VaultFileV1) : Prop where
  kdf : validateKdfParams file.kdf = .ok ()
  nonce : file.passwordSlot.nonce.length = AES_GCM_NONCE_BYTES
  wrappedVek : file.passwordSlot.wrappedVek.length = VEK_WRAP_BYTES
  biometricSlot : ∀ slot ∈ file.biometricSlot, slot.Acceptable
  payloadNonce : file.payload.nonce.length = AES_GCM_NONCE_BYTES
  ct : file.payload.ct.length = secretPayloadBytes file.fileMeta.wordCount + 16
  createdAt : file.fileMeta.createdAt.isIntegerIn 0 MAX_SAFE_INTEGER = true
  autoLockSeconds : file.fileMeta.autoLockSeconds.isIntegerIn 1 2147483 = true

theorem parseDocument_serializeVaultFile {byteLength : Nat} {file file' : VaultFileV1} :
    parseDocument byteLength (serializeVaultFile file) = .ok file' ↔
      file' = file ∧ byteLength ≤ VAULT_FILE_MAX_BYTES ∧ file.Acceptable := by
  obtain ⟨⟨kdf, passwordSlot, biometricSlot⟩, payload, fileMeta⟩ := file
  obtain ⟨fields, hfields⟩ : ∃ fields, metaToWire fileMeta = .object fields := ⟨_, rfl⟩
  simp [parseDocument, serializeVaultFile, headerToWire, expectObject, expectObjectField,
    expectHexField, bind_eq_ok_iff, List.lookup_cons, fail, guard_eq_ok_iff, require_eq_ok_iff,
    parseKdf_kdfToWire, parsePasswordSlot_slotToWire, parseBiometricSlot_biometricToWire,
    expectUint_version, hfields, parseMeta_metaToWire hfields, pure, Except.pure]
  constructor
  · rintro ⟨hlength, hkdf, ⟨hnonce, hwrapped⟩, hbiometric, hpayload, ⟨hcreatedAt, hautoLock⟩, hct,
      rfl⟩
    exact ⟨rfl, hlength, hkdf, hnonce, hwrapped, hbiometric, hpayload, hct, hcreatedAt, hautoLock⟩
  · rintro ⟨rfl, hlength, h⟩
    exact ⟨hlength, h.kdf, ⟨h.nonce, h.wrappedVek⟩, h.biometricSlot, h.payloadNonce,
      ⟨h.createdAt, h.autoLockSeconds⟩, h.ct, rfl⟩

/-! ### The size of a document -/

theorem length_textBytes_le (text : List Char) : (textBytes text).length ≤ 4 * text.length := by
  induction text with
  | nil => rfl
  | cons c text ih =>
    have hchar : (String.utf8EncodeChar c).length ≤ 4 := by
      rw [String.length_utf8EncodeChar]
      exact c.utf8Size_le_four
    simp only [textBytes, List.flatMap_cons, List.length_append, List.length_cons] at ih ⊢
    omega

theorem length_quoteChar_le (c : Char) : (quoteChar c).length ≤ 6 := by
  unfold quoteChar
  repeat' split
  all_goals simp

theorem length_quote_le (text : String) : (quote text).length ≤ 6 * text.toList.length + 2 := by
  have hchars : ∀ chars : List Char, (chars.flatMap quoteChar).length ≤ 6 * chars.length := by
    intro chars
    induction chars with
    | nil => simp
    | cons c chars ih =>
      have hchar := length_quoteChar_le c
      simp only [List.flatMap_cons, List.length_append, List.length_cons]
      omega
  have htext := hchars text.toList
  simp only [quote, List.length_cons, List.length_append, List.length_nil]
  omega

theorem length_stringify_hexJson_le (other : ℚ → List Char) (bytes : Bytes) :
    (stringify other (hexJson bytes)).length ≤ 12 * bytes.length + 2 := by
  have hchars : (hexChars bytes).length = 2 * bytes.length := by
    induction bytes with
    | nil => rfl
    | cons b bytes ih =>
      simp only [hexChars, List.flatMap_cons, List.length_append, List.length_cons] at ih ⊢
      simp only [List.length_nil]
      omega
  have hquote := length_quote_le (String.ofList (hexChars bytes))
  simp only [String.toList_ofList, hchars] at hquote
  simp only [hexJson, stringify]
  omega

/-- The text of an integer that is in a range. -/
theorem length_stringify_toWire_le (other : ℚ → List Char) {n : Number} {min max : Nat}
    (h : n.isIntegerIn min max = true) (hmax : max < 10 ^ 16) :
    (stringify other n.toWire).length ≤ 16 := by
  cases n with
  | notFinite => cases h
  | finite q =>
    simp only [Number.isIntegerIn, Bool.and_eq_true, decide_eq_true_eq] at h
    obtain ⟨⟨hden, hlow⟩, hhigh⟩ := h
    obtain ⟨z, rfl⟩ : ∃ z : ℤ, q = z := ⟨q.num, (Rat.coe_int_num_of_den_eq_one hden).symm⟩
    have hnonneg : 0 ≤ z := by
      have hcast : (min : ℚ) ≤ z := hlow
      have hmin : (0 : ℚ) ≤ min := Nat.cast_nonneg min
      exact_mod_cast hmin.trans hcast
    have hle : z ≤ max := by exact_mod_cast hhigh
    have hdigits : (Nat.toDigits 10 z.toNat).length ≤ 16 :=
      Nat.toDigitsCore_length 10 _ _ 16 (by decide) (by omega)
    have hsmall : z < 10 ^ 21 := by omega
    simp only [Number.toWire, stringify, numberText, Rat.den_intCast, Rat.num_intCast, hnonneg,
      hsmall, and_self, if_true]
    exact hdigits

/-- A bound on the text of fields: names are quoted, and fields separated. -/
def fieldsWeight (other : ℚ → List Char) : List (String × Json) → Nat
  | [] => 0
  | (name, value) :: fields =>
    6 * name.toList.length + 4 + (stringify other value).length + fieldsWeight other fields

theorem length_stringify_object_le (other : ℚ → List Char) (fields : List (String × Json)) :
    (stringify other (.object fields)).length ≤ fieldsWeight other fields + 2 := by
  have hfields : (stringifyFields other fields).length ≤ fieldsWeight other fields := by
    induction fields with
    | nil => simp [stringifyFields]
    | cons field fields ih =>
      obtain ⟨name, value⟩ := field
      have hquote := length_quote_le name
      cases fields with
      | nil =>
        simp only [stringifyFields, fieldsWeight, List.length_append, List.length_cons]
        omega
      | cons next fields =>
        simp only [stringifyFields, fieldsWeight, List.length_append, List.length_cons] at ih ⊢
        omega
  simp only [stringify, List.length_cons, List.length_append, List.length_nil]
  omega

theorem length_stringify_kdfToWire_le (other : ℚ → List Char) {params : KdfParams}
    (h : validateKdfParams params = .ok ()) :
    (stringify other (kdfToWire params)).length ≤ 1100 := by
  cases params with
  | argon2id m t p salt =>
    obtain ⟨⟨-, hsalt⟩, hm, ht, hp, -⟩ := validateKdfParams_argon2id.1 h
    have hmText := length_stringify_toWire_le other hm (by decide)
    have htText := length_stringify_toWire_le other ht (by decide)
    have hpText := length_stringify_toWire_le other hp (by decide)
    have hsaltText := length_stringify_hexJson_le other salt
    have halg := length_quote_le "argon2id"
    refine (length_stringify_object_le other _).trans ?_
    simp [fieldsWeight, stringify] at halg ⊢
    omega
  | scrypt logN r p salt =>
    obtain ⟨⟨-, hsalt⟩, hlogN, hr, hp⟩ := validateKdfParams_scrypt.1 h
    have hlogNText := length_stringify_toWire_le other hlogN (by decide)
    have hrText := length_stringify_toWire_le other hr (by decide)
    have hpText := length_stringify_toWire_le other hp (by decide)
    have hsaltText := length_stringify_hexJson_le other salt
    have halg := length_quote_le "scrypt"
    refine (length_stringify_object_le other _).trans ?_
    simp [fieldsWeight, stringify] at halg ⊢
    omega

theorem length_stringify_slotToWire_le (other : ℚ → List Char) {nonce wrappedVek : Bytes}
    (hnonce : nonce.length = AES_GCM_NONCE_BYTES) :
    (stringify other (slotToWire (some nonce) wrappedVek)).length ≤
      12 * wrappedVek.length + 250 := by
  have hnonceText := length_stringify_hexJson_le other nonce
  have hwrappedText := length_stringify_hexJson_le other wrappedVek
  refine (length_stringify_object_le other _).trans ?_
  simp [fieldsWeight, AES_GCM_NONCE_BYTES] at hnonce ⊢
  omega

theorem length_stringify_biometricToWire_le (other : ℚ → List Char) {slot : Option BiometricWrapSlot}
    (h : ∀ s ∈ slot, s.Acceptable) : (stringify other (biometricToWire slot)).length ≤ 6400 := by
  cases slot with
  | none => simp [biometricToWire, stringify]
  | some slot =>
    have hslot := h slot rfl
    have hmax := hslot.max
    obtain ⟨nonce, wrappedVek⟩ := slot
    cases nonce with
    | some nonce =>
      refine (length_stringify_slotToWire_le other (hslot.nonce nonce rfl)).trans ?_
      simp only [BIOMETRIC_BLOB_MAX_BYTES] at hmax ⊢
      omega
    | none =>
      have hwrappedText := length_stringify_hexJson_le other wrappedVek
      refine (length_stringify_object_le other _).trans ?_
      simp [fieldsWeight, BIOMETRIC_BLOB_MAX_BYTES] at hmax ⊢
      omega

theorem length_stringify_metaToWire_le (other : ℚ → List Char) {fileMeta : VaultFileMeta}
    (hcreatedAt : fileMeta.createdAt.isIntegerIn 0 MAX_SAFE_INTEGER = true)
    (hautoLock : fileMeta.autoLockSeconds.isIntegerIn 1 2147483 = true) :
    (stringify other (metaToWire fileMeta)).length ≤ 400 := by
  have hcreatedAtText := length_stringify_toWire_le other hcreatedAt (by decide)
  have hautoLockText := length_stringify_toWire_le other hautoLock (by decide)
  have hinteger : (Number.finite fileMeta.wordCount.toNat).isIntegerIn 0 24 = true := by
    cases fileMeta.wordCount <;> rfl
  have hcount := length_stringify_toWire_le other hinteger (by decide)
  simp only [Number.toWire] at hcount
  have hflag : (stringify other (.bool fileMeta.hasPassphrase)).length ≤ 5 := by
    cases fileMeta.hasPassphrase <;> simp [stringify]
  refine (length_stringify_object_le other _).trans ?_
  simp [fieldsWeight]
  omega

/-- An acceptable file is far below the cap. -/
theorem VaultFileV1.Acceptable.length_le (other : ℚ → List Char) {file : VaultFileV1}
    (h : file.Acceptable) :
    (documentBytes other (serializeVaultFile file)).length ≤ VAULT_FILE_MAX_BYTES := by
  have hkdf := length_stringify_kdfToWire_le other h.kdf
  have hslot : (stringify other
      (slotToWire (some file.passwordSlot.nonce) file.passwordSlot.wrappedVek)).length ≤
        12 * VEK_WRAP_BYTES + 250 := by
    rw [← h.wrappedVek]
    exact length_stringify_slotToWire_le other h.nonce
  have hbiometric := length_stringify_biometricToWire_le other h.biometricSlot
  have hmeta := length_stringify_metaToWire_le other h.createdAt h.autoLockSeconds
  have hinteger : (Number.finite VAULT_FORMAT_VERSION).isIntegerIn 1 1 = true := rfl
  have hversion : (stringify other (.number VAULT_FORMAT_VERSION)).length ≤ 16 :=
    length_stringify_toWire_le other hinteger (by decide)
  have hct : file.payload.ct.length ≤ 130 := by
    rw [h.ct]
    cases file.fileMeta.wordCount <;> decide
  have hpayload := length_stringify_object_le other
    [("nonce", hexJson file.payload.nonce), ("ct", hexJson file.payload.ct)]
  have hnonceText := length_stringify_hexJson_le other file.payload.nonce
  have hctText := length_stringify_hexJson_le other file.payload.ct
  have hnonce := h.payloadNonce
  have htext := length_textBytes_le (stringify other (serializeVaultFile file))
  have hdocument : (stringify other (serializeVaultFile file)).length ≤ 16384 := by
    refine (length_stringify_object_le other _).trans ?_
    simp [headerToWire, fieldsWeight, AES_GCM_NONCE_BYTES, VEK_WRAP_BYTES, VEK_BYTES]
      at hpayload hnonce hversion hslot ⊢
    omega
  simp only [documentBytes, VAULT_FILE_MAX_BYTES]
  omega

/-- The parser accepts what was serialized exactly when the file is acceptable, and returns it. -/
theorem parseVaultFile_serializeVaultFile {file file' : VaultFileV1} :
    parseVaultFile other (serializeVaultFile file) = .ok file' ↔
      file' = file ∧ file.Acceptable := by
  unfold parseVaultFile
  rw [parseDocument_serializeVaultFile]
  exact ⟨fun ⟨heq, _, h⟩ => ⟨heq, h⟩, fun ⟨heq, h⟩ => ⟨heq, h.length_le other, h⟩⟩

/-! ### The secret payload -/

theorem decodeSecretPayload_encodeSecretPayload {payload : VaultSecretPayload} {bytes : Bytes}
    (h : encodeSecretPayload payload = .ok bytes) :
    decodeSecretPayload bytes = .ok payload ∧
      (payload.entropy.length = 16 ∨ payload.entropy.length = 32) ∧
      payload.seed.length = SEED_BYTES ∧
      bytes.length = 1 + payload.entropy.length + SEED_BYTES + 1 := by
  unfold encodeSecretPayload at h
  rw [guard_eq_ok_iff, guard_eq_ok_iff] at h
  obtain ⟨hentropy, hseed, h⟩ := h
  obtain rfl := ok.inj h
  obtain ⟨entropy, seed, hasPassphrase⟩ := payload
  simp only at hentropy hseed ⊢
  have hlength : entropy.length = 16 ∨ entropy.length = 32 := by omega
  have hfirst : (UInt8.ofNat entropy.length).toNat = entropy.length := by
    rcases hlength with h | h <;> rw [h] <;> rfl
  have hseed : seed.length = SEED_BYTES := by omega
  refine ⟨?_, hlength, hseed, by simp [hseed]; omega⟩
  have hlast : ∀ flag : UInt8,
      (UInt8.ofNat entropy.length :: (entropy ++ seed ++ [flag])).getLastD 0 = flag := by
    intro flag
    rw [← List.cons_append, List.getLastD_concat]
  unfold decodeSecretPayload
  simp only [hfirst, hlast]
  rw [if_neg (by omega), if_neg (by simp [hseed]; omega)]
  cases hasPassphrase with
  | false => simp [hseed]
  | true => simp [hseed]

end cemp.secureVault
