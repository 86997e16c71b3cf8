import CempMobile.Lib.Utf8
import CempMobile.Vault.FormatRoundTrip
import CempMobile.Vault.FormatText

/-! The vault file as bytes. -/

open cemp.core Except

namespace cemp.secureVault

variable {other : ℚ → List Char}

/-- `parseVaultFile` on what is stored. -/
def parseVaultBytes (bytes : Bytes) : Except VaultError VaultFileV1 :=
  if VAULT_FILE_MAX_BYTES < bytes.length then
    fail ("file is " ++ toString bytes.length ++ " bytes, above the " ++
      toString VAULT_FILE_MAX_BYTES ++ "-byte cap")
  else
    match JSON.parse (Utf8.decode bytes) with
    | none => fail "not valid JSON"
    | some raw => parseDocument bytes.length raw

/-- The canonical wire form of a header under a version. -/
def headerToWireAt (version : Nat) (header : VaultHeader) : List (String × Json) :=
  [("version", .number version),
    ("kdf", kdfToWire header.kdf),
    ("passwordSlot", slotToWire (some header.passwordSlot.nonce) header.passwordSlot.wrappedVek),
    ("biometricSlot", biometricToWire header.biometricSlot)]

theorem headerToWireAt_one (header : VaultHeader) :
    headerToWireAt VAULT_FORMAT_VERSION header = headerToWire header := rfl

def payloadAadAt (other : ℚ → List Char) (version : Nat) (header : VaultHeader) : Bytes :=
  documentBytes other (.object (headerToWireAt version header))

/-- A header that the parser accepts. -/
structure VaultHeader.Acceptable (header : VaultHeader) : Prop where
  kdf : validateKdfParams header.kdf = .ok ()
  nonce : header.passwordSlot.nonce.length = AES_GCM_NONCE_BYTES
  wrappedVek : header.passwordSlot.wrappedVek.length = VEK_WRAP_BYTES
  biometricSlot : ∀ slot ∈ header.biometricSlot, slot.Acceptable

/-! ### Documents that their text spells -/

theorem readable_toWire {n : Number} {min max : Nat} (h : n.isIntegerIn min max = true)
    (hmax : max ≤ 2 ^ 53) : Readable n.toWire := by
  cases n with
  | notFinite => cases h
  | finite q =>
    simp only [Number.isIntegerIn, Bool.and_eq_true, decide_eq_true_eq] at h
    obtain ⟨⟨hden, hlow⟩, hhigh⟩ := h
    obtain ⟨z, rfl⟩ : ∃ z : ℤ, q = z := ⟨q.num, (Rat.coe_int_num_of_den_eq_one hden).symm⟩
    have hmin : (0 : ℚ) ≤ min := Nat.cast_nonneg min
    have hnonneg : 0 ≤ z := by exact_mod_cast hmin.trans hlow
    have hle : z ≤ max := by exact_mod_cast hhigh
    refine ⟨z.toNat, by omega, ?_⟩
    exact_mod_cast (Int.toNat_of_nonneg hnonneg).symm

theorem readable_kdfToWire {params : KdfParams} (h : validateKdfParams params = .ok ()) :
    Readable (kdfToWire params) := by
  cases params with
  | argon2id m t p salt =>
    obtain ⟨-, hm, ht, hp, -⟩ := validateKdfParams_argon2id.1 h
    exact ⟨by simp, trivial, readable_toWire hm (by decide), readable_toWire ht (by decide),
      readable_toWire hp (by decide), trivial, trivial⟩
  | scrypt logN r p salt =>
    obtain ⟨-, hlogN, hr, hp⟩ := validateKdfParams_scrypt.1 h
    exact ⟨by simp, trivial, readable_toWire hlogN (by decide), readable_toWire hr (by decide),
      readable_toWire hp (by decide), trivial, trivial⟩

theorem readable_slotToWire (nonce : Option Bytes) (wrappedVek : Bytes) :
    Readable (slotToWire nonce wrappedVek) := by
  cases nonce with
  | none => exact ⟨by simp, trivial, trivial⟩
  | some nonce => exact ⟨by simp, trivial, trivial, trivial⟩

theorem readable_biometricToWire (slot : Option BiometricWrapSlot) :
    Readable (biometricToWire slot) := by
  cases slot with
  | none => trivial
  | some slot => exact readable_slotToWire slot.nonce slot.wrappedVek

theorem readable_header {version : Nat} (hversion : version ≤ 2 ^ 53) {header : VaultHeader}
    (h : header.Acceptable) : Readable (.object (headerToWireAt version header)) :=
  ⟨by simp [headerToWireAt], ⟨version, hversion, rfl⟩, readable_kdfToWire h.kdf,
    readable_slotToWire _ _, readable_biometricToWire _, trivial⟩

theorem readable_metaToWire {fileMeta : VaultFileMeta}
    (hcreatedAt : fileMeta.createdAt.isIntegerIn 0 MAX_SAFE_INTEGER = true)
    (hautoLock : fileMeta.autoLockSeconds.isIntegerIn 1 2147483 = true) :
    Readable (metaToWire fileMeta) := by
  have hcount : fileMeta.wordCount.toNat ≤ 2 ^ 53 := by cases fileMeta.wordCount <;> decide
  exact ⟨by simp, readable_toWire hcreatedAt (by decide), ⟨_, hcount, rfl⟩, trivial,
    readable_toWire hautoLock (by decide), trivial⟩

theorem VaultFileV1.Acceptable.readable {file : VaultFileV1} (h : file.Acceptable) :
    Readable (serializeVaultFile file) :=
  ⟨by simp [headerToWire], ⟨1, by decide, by norm_num [VAULT_FORMAT_VERSION]⟩, readable_kdfToWire h.kdf,
    readable_slotToWire _ _, readable_biometricToWire _, ⟨by simp, trivial, trivial, trivial⟩,
    readable_metaToWire h.createdAt h.autoLockSeconds, trivial⟩

/-! ### Bytes read back -/

/-- The text of an object is read back from its bytes. -/
theorem decode_documentBytes (fields : List (String × Json)) :
    Utf8.decode (documentBytes other (.object fields)) = stringify other (.object fields) := by
  have hbytes : documentBytes other (.object fields) =
      Utf8.encode (stringify other (.object fields)) := rfl
  rw [hbytes, Utf8.decode_encode_eq_iff, stringify, List.head?_cons]
  decide

theorem parse_documentBytes {fields : List (String × Json)} (h : Readable (.object fields)) :
    JSON.parse (Utf8.decode (documentBytes other (.object fields))) = some (.object fields) := by
  rw [decode_documentBytes, parse_stringify h]

/-- What is stored as text is parsed as the document it spells. -/
theorem parseVaultBytes_documentBytes {fields : List (String × Json)}
    (h : Readable (.object fields)) :
    parseVaultBytes (documentBytes other (.object fields)) =
      parseStored other (.document (.object fields)) := by
  unfold parseVaultBytes
  rw [parse_documentBytes h]
  split
  · next hlong =>
    simp only [parseStored, parseVaultFile, parseDocument]
    rw [if_pos hlong]
  · rfl

theorem parseVaultBytes_serialize {file : VaultFileV1} (h : file.Acceptable) :
    parseVaultBytes (documentBytes other (serializeVaultFile file)) = .ok file := by
  have hparse : parseVaultBytes (documentBytes other (serializeVaultFile file)) =
      parseStored other (.document (serializeVaultFile file)) :=
    parseVaultBytes_documentBytes h.readable
  rw [hparse]
  exact parseVaultFile_serializeVaultFile.2 ⟨rfl, h⟩

/-- The authenticated data spells the version and the whole header. -/
theorem payloadAadAt_injective {version version' : Nat} {header header' : VaultHeader}
    (hversion : version ≤ 2 ^ 53) (hversion' : version' ≤ 2 ^ 53) (h : header.Acceptable)
    (h' : header'.Acceptable)
    (heq : payloadAadAt other version header = payloadAadAt other version' header') :
    version = version' ∧ header = header' := by
  have hread := @parse_documentBytes other _ (readable_header hversion h)
  have hread' := @parse_documentBytes other _ (readable_header hversion' h')
  have hsame : documentBytes other (.object (headerToWireAt version header)) =
      documentBytes other (.object (headerToWireAt version' header')) := heq
  rw [hsame, hread'] at hread
  have hfields : headerToWireAt version' header' = headerToWireAt version header :=
    Json.object.inj (Option.some.inj hread)
  simp only [headerToWireAt, List.cons.injEq, Prod.mk.injEq, Json.number.injEq, true_and, and_true,
    Nat.cast_inj] at hfields
  obtain ⟨hnumber, hkdf, hpassword, hbiometric⟩ := hfields
  refine ⟨hnumber.symm, ?_⟩
  have hkdf' := parseKdf_kdfToWire.2 ⟨rfl, h.kdf⟩
  rw [← hkdf] at hkdf'
  have hpassword' := parsePasswordSlot_slotToWire.2 ⟨rfl, h.nonce, h.wrappedVek⟩
  rw [← hpassword] at hpassword'
  have hbiometric' := parseBiometricSlot_biometricToWire.2 ⟨rfl, h.biometricSlot⟩
  rw [← hbiometric] at hbiometric'
  obtain ⟨kdf, passwordSlot, biometricSlot⟩ := header
  obtain ⟨kdf', passwordSlot', biometricSlot'⟩ := header'
  obtain rfl := (parseKdf_kdfToWire.1 hkdf').1
  obtain rfl := (parsePasswordSlot_slotToWire.1 hpassword').1
  obtain rfl := (parseBiometricSlot_biometricToWire.1 hbiometric').1
  rfl

/-! ### What is accepted is within the limits -/

theorem isIntegerIn_of_expectUint {value : Json} {detail : String} {min max : Nat} {n : Number}
    (h : expectUint value detail min max = .ok n) : n.isIntegerIn min max = true := by
  cases value with
  | number q => exact (expectUint_number.1 h).1 ▸ (expectUint_number.1 h).2
  | null => cases h
  | bool value => cases h
  | infinite => cases h
  | string value => cases h
  | array items => cases h
  | object fields => cases h

theorem isIntegerIn_of_expectUintField {fields : List (String × Json)} {field detail : String}
    {min max : Nat} {n : Number} (h : expectUintField fields field detail min max = .ok n) :
    n.isIntegerIn min max = true := by
  obtain ⟨value, -, hvalue⟩ := bind_eq_ok_iff.1 h
  exact isIntegerIn_of_expectUint hvalue

theorem validateKdfParams_of_parseKdf {value : Json} {params : KdfParams}
    (h : parseKdf value = .ok params) : validateKdfParams params = .ok () := by
  simp only [parseKdf, bind_eq_ok_iff] at h
  obtain ⟨obj, -, alg, -, salt, -, h⟩ := h
  split at h
  · simp only [bind_eq_ok_iff] at h
    obtain ⟨m, -, t, -, p, -, params', -, _, hvalid, hreturn⟩ := h
    obtain rfl := ok.inj hreturn
    exact hvalid
  · simp only [bind_eq_ok_iff] at h
    obtain ⟨logN, -, r, -, p, -, params', -, _, hvalid, hreturn⟩ := h
    obtain rfl := ok.inj hreturn
    exact hvalid
  · cases h

theorem lengths_of_parsePasswordSlot {value : Json} {slot : WrapSlot}
    (h : parsePasswordSlot value = .ok slot) :
    slot.nonce.length = AES_GCM_NONCE_BYTES ∧ slot.wrappedVek.length = VEK_WRAP_BYTES := by
  simp only [parsePasswordSlot, fail, bind_eq_ok_iff, guard_eq_ok_iff, ne_eq, not_not] at h
  obtain ⟨obj, -, nonce, -, wrappedVek, -, hnonce, hwrapped, hreturn⟩ := h
  obtain rfl := ok.inj hreturn
  exact ⟨hnonce, hwrapped⟩

theorem acceptable_of_parseBiometricSlot {value : Json} {slot : Option BiometricWrapSlot}
    (h : parseBiometricSlot value = .ok slot) : ∀ s ∈ slot, s.Acceptable := by
  unfold parseBiometricSlot at h
  split at h
  · obtain rfl := ok.inj h
    simp
  · simp only [fail, bind_eq_ok_iff, guard_eq_ok_iff, not_or, not_lt] at h
    obtain ⟨obj, -, wrappedVek, -, ⟨hmin, hmax⟩, h⟩ := h
    split at h
    · simp only [bind_eq_ok_iff, guard_eq_ok_iff, ne_eq, not_not] at h
      obtain ⟨nonce, -, hnonce, hreturn⟩ := h
      obtain rfl := ok.inj hreturn
      rintro s ⟨⟩
      exact ⟨hmin, hmax, by rintro n ⟨⟩; exact hnonce⟩
    · obtain rfl := ok.inj h
      rintro s ⟨⟩
      exact ⟨hmin, hmax, by simp⟩

theorem integers_of_parseMeta {fields : List (String × Json)} {fileMeta : VaultFileMeta}
    (h : parseMeta fields = .ok fileMeta) :
    fileMeta.createdAt.isIntegerIn 0 MAX_SAFE_INTEGER = true ∧
      fileMeta.autoLockSeconds.isIntegerIn 1 2147483 = true := by
  simp only [parseMeta, bind_eq_ok_iff] at h
  obtain ⟨count, -, createdAt, hcreatedAt, raw, -, flag, -, autoLock, hautoLock, hreturn⟩ := h
  obtain rfl := ok.inj hreturn
  exact ⟨isIntegerIn_of_expectUintField hcreatedAt, isIntegerIn_of_expectUintField hautoLock⟩

/-- The parser returns acceptable files only, whatever document it is given. -/
theorem acceptable_of_parseDocument {byteLength : Nat} {raw : Json} {file : VaultFileV1}
    (h : parseDocument byteLength raw = .ok file) : file.Acceptable := by
  simp only [parseDocument, fail, bind_eq_ok_iff, guard_eq_ok_iff, ne_eq, not_not] at h
  obtain ⟨-, obj, -, version, -, number, -, kdfRaw, -, kdf, hkdf, slotRaw, -, slot, hslot,
    biometricRaw, -, biometric, hbiometric, payloadRaw, -, payload, -, nonce, -, ct, -, hnonce,
    metaRaw, -, metaObj, -, fileMeta, hmeta, hct, hreturn⟩ := h
  obtain rfl := ok.inj hreturn
  have hlengths := lengths_of_parsePasswordSlot hslot
  have hintegers := integers_of_parseMeta hmeta
  exact
    { kdf := validateKdfParams_of_parseKdf hkdf
      nonce := hlengths.1
      wrappedVek := hlengths.2
      biometricSlot := acceptable_of_parseBiometricSlot hbiometric
      payloadNonce := hnonce
      ct := hct
      createdAt := hintegers.1
      autoLockSeconds := hintegers.2 }

theorem acceptable_of_parseVaultBytes {bytes : Bytes} {file : VaultFileV1}
    (h : parseVaultBytes bytes = .ok file) : file.Acceptable := by
  simp only [parseVaultBytes, fail, guard_eq_ok_iff] at h
  obtain ⟨-, h⟩ := h
  split at h
  · cases h
  · exact acceptable_of_parseDocument h

/-- Bytes are two parts and a last byte. -/
theorem parts_of_length {rest : Bytes} {n m : Nat} (h : rest.length = n + m + 1) :
    rest.take n ++ (rest.drop n).take m ++ [rest.getLastD 0] = rest := by
  have hne : rest ≠ [] := by
    intro hnil
    simp [hnil] at h
  have hinit : rest.take n ++ (rest.drop n).take m = rest.dropLast := by
    rw [← List.take_add, List.dropLast_eq_take, h, Nat.add_sub_cancel]
  rw [hinit, List.getLastD_eq_getLast?, List.getLast?_eq_getLast_of_ne_nil hne, Option.getD_some,
    List.dropLast_append_getLast]

/-- The decoder accepts what the encoder writes, and nothing else. -/
theorem encodeSecretPayload_decodeSecretPayload {payload : VaultSecretPayload} {bytes : Bytes}
    (h : decodeSecretPayload bytes = .ok payload) : encodeSecretPayload payload = .ok bytes := by
  cases bytes with
  | nil => cases h
  | cons first rest =>
    simp only [decodeSecretPayload, fail, guard_eq_ok_iff] at h
    obtain ⟨hfirst, hlength, hflag, hreturn⟩ := h
    obtain rfl := ok.inj hreturn
    have hrest : rest.length = first.toNat + SEED_BYTES + 1 := by
      simp only [List.length_cons] at hlength
      omega
    have hentropy : (rest.take first.toNat).length = first.toNat := by
      rw [List.length_take]
      omega
    have hseed : ((rest.drop first.toNat).take SEED_BYTES).length = SEED_BYTES := by
      rw [List.length_take, List.length_drop]
      omega
    have hlast : (first :: rest).getLastD 0 = rest.getLastD 0 := by
      cases rest with
      | nil => cases hrest
      | cons second rest => rfl
    simp only [encodeSecretPayload]
    rw [if_neg (by omega), if_neg (by omega), hentropy, UInt8.ofNat_toNat, hlast]
    rw [hlast] at hflag
    have hwritten : (if decide (rest.getLastD 0 = 1) = true then 1 else 0) = rest.getLastD 0 := by
      by_cases hone : rest.getLastD 0 = 1
      · rw [hone]
        rfl
      · have hzero : rest.getLastD 0 = 0 := by
          by_contra hne
          exact hflag ⟨hne, hone⟩
        rw [hzero]
        rfl
    rw [hwritten, parts_of_length hrest]

/-! ### The format -/

theorem VaultFileV1.Acceptable.header {file : VaultFileV1} (h : file.Acceptable) :
    file.toVaultHeader.Acceptable :=
  ⟨h.kdf, h.nonce, h.wrappedVek, h.biometricSlot⟩

/-- A file whose key is wrapped by a password and by the key store. -/
def sampleFile : VaultFileV1 where
  kdf := .scrypt (.finite 17) (.finite 8) (.finite 1) (List.replicate 16 7)
  passwordSlot := ⟨List.replicate 12 1, List.replicate 48 2⟩
  biometricSlot := some ⟨none, List.replicate 64 3⟩
  payload := ⟨List.replicate 12 4, List.replicate 98 5⟩
  fileMeta := ⟨.finite 1700000000000, .twelve, false, .finite 300⟩

theorem sampleFile_acceptable : sampleFile.Acceptable where
  kdf := rfl
  nonce := rfl
  wrappedVek := rfl
  biometricSlot := by
    rintro slot ⟨⟩
    exact ⟨by decide, by decide, by simp⟩
  payloadNonce := rfl
  ct := rfl
  createdAt := rfl
  autoLockSeconds := rfl

end cemp.secureVault
