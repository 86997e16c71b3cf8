import CempMobile.App.RouteTagCache
import CempMobile.Vault.States

/-! The platform's key stores: Android's, over a keychain that the route-tag cache shares, and the
    one in memory that tests and desktops use. -/

open cemp.core cemp.secureVault

namespace cemp.app.keystores

/-! ### The keychain -/

/-- What the keychain has under a service. -/
structure Entry where
  password : String
  /-- `ACCESS_CONTROL.BIOMETRY_ANY`: it is read only with the user's consent. -/
  biometric : Bool
  deriving DecidableEq, Repr

/-- The services; `none` is the default one. -/
abbrev Keychain : Type := Option String → Option Entry

def setGenericPassword (service : Option String) (entry : Entry) (keychain : Keychain) : Keychain :=
  Function.update keychain service (some entry)

def resetGenericPassword (service : Option String) (keychain : Keychain) : Keychain :=
  Function.update keychain service none

inductive KeychainError where
  | malformedBlob
  | noSecret
  /-- The user refused the prompt. -/
  | refused
  deriving DecidableEq, Repr

def KeychainError.message : KeychainError → String
  | malformedBlob => "keychain-blob: malformed blob"
  | noSecret => "android keystore: no secret for this blob (reinstall or keystore reset)"
  | refused => "User canceled the operation"

def getGenericPassword (service : Option String) (accepts : Bool) (keychain : Keychain) :
    Except KeychainError String :=
  match keychain service with
  | none => .error .noSecret
  | some entry => if entry.biometric && !accepts then .error .refused else .ok entry.password

/-! ### Blobs -/

def BLOB_PREFIX : List Char := "ck1.".toList

def SERVICE_HEX_CHARS : Nat := 16

/-- `/[0-9a-f]/` -/
def isLowerHex (c : Char) : Bool := ('0' ≤ c && c ≤ '9') || ('a' ≤ c && c ≤ 'f')

def isKeychainBlob (blob : Bytes) : Bool :=
  let text := Utf8.decode blob
  BLOB_PREFIX.isPrefixOf text && text.length == BLOB_PREFIX.length + SERVICE_HEX_CHARS &&
    (text.drop BLOB_PREFIX.length).all isLowerHex

/-- The blob of a service id, which has sixteen hex digits. -/
def keychainBlobFromServiceId (serviceId : String) : Bytes :=
  Utf8.encode (BLOB_PREFIX ++ serviceId.toList)

def serviceIdFromKeychainBlob (blob : Bytes) : Option String :=
  if isKeychainBlob blob then some (String.ofList ((Utf8.decode blob).drop BLOB_PREFIX.length))
  else none

def keyService (serviceId : String) : Option String := some ("cemp.ks." ++ serviceId)

/-! ### The vault's key store -/

namespace AndroidKeychainKeyStore

/-- The blob, and the keychain with a new entry, under a service id of eight random bytes. -/
def wrap (serviceBytes key : Bytes) (biometric : Bool) (keychain : Keychain) : Bytes × Keychain :=
  (keychainBlobFromServiceId (bytesToHex serviceBytes),
    setGenericPassword (keyService (bytesToHex serviceBytes)) ⟨bytesToHex key, biometric⟩ keychain)

def unwrap (blob : Bytes) (accepts : Bool) (keychain : Keychain) : Except KeychainError Bytes :=
  match serviceIdFromKeychainBlob blob with
  | none => .error .malformedBlob
  | some serviceId => (getGenericPassword (keyService serviceId) accepts keychain).map hexToBytes

def deleteKey (keychain : Keychain) : Keychain := resetGenericPassword none keychain

end AndroidKeychainKeyStore

/-! ### The route-tag cache's key store -/

def ROUTE_TAG_SERVICE : Option String := some "cemp.rt.v1"

def ROUTE_TAG_BLOB_MARKER : List Char := "rt1".toList

/-- One fixed service, and a blob that says nothing. -/
def AndroidRouteTagKeyStore : RouteTagKeyStore Keychain where
  wrap value keychain :=
    (Utf8.encode ROUTE_TAG_BLOB_MARKER,
      setGenericPassword ROUTE_TAG_SERVICE ⟨bytesToHex value, false⟩ keychain)
  unwrap blob keychain :=
    if Utf8.decode blob = ROUTE_TAG_BLOB_MARKER then
      ((getGenericPassword ROUTE_TAG_SERVICE true keychain).map hexToBytes).toOption
    else none

def AndroidRouteTagKeyStore.clear (keychain : Keychain) : Keychain :=
  resetGenericPassword ROUTE_TAG_SERVICE keychain

/-- The interface's `deleteKey`: no blob is unwrapped any more. -/
def Destroys {σ ε : Type} (unwrap : Bytes → Bool → σ → Except ε Bytes) (deleteKey : σ → σ) : Prop :=
  ∀ blob accepts s secret, unwrap blob accepts (deleteKey s) ≠ .ok secret

/-! ### The key store in memory -/

namespace EphemeralSoftwareKeyStore

def WRAP_AAD_PREFIX : Bytes := "CEMP/KEYSTORE/wrap/v1".toUTF8.toList

inductive KeyStoreError where
  | deleted
  | noBiometrics
  | malformed
  | rejected
  | foreign
  deriving DecidableEq, Repr

def KeyStoreError.message : KeyStoreError → String
  | deleted => "ephemeral keystore: key has been deleted"
  | noBiometrics => "ephemeral keystore: biometrics not available"
  | malformed => "ephemeral keystore: malformed blob"
  | rejected => "ephemeral keystore: biometric prompt rejected"
  | foreign => "ephemeral keystore: blob cannot be unwrapped by this instance"

variable (crypto : Crypto)

/-- The flag of a biometric blob, the nonce, and the key sealed with the flag in its AAD. -/
def wrap (key : Option Bytes) (biometricAvailable : Bool) (nonce secret : Bytes) (biometric : Bool) :
    Except KeyStoreError Bytes :=
  match key with
  | none => .error .deleted
  | some key =>
    if biometric && !biometricAvailable then .error .noBiometrics
    else
      let flags : Bytes := [if biometric then 1 else 0]
      .ok (flags ++ nonce ++ crypto.gcmEncrypt key nonce secret (WRAP_AAD_PREFIX ++ flags))

def unwrap (blob : Bytes) (accepts : Bool) (key : Option Bytes) : Except KeyStoreError Bytes :=
  match key, blob with
  | none, _ => .error .deleted
  | some _, [] => .error .malformed
  | some key, flags :: rest =>
    if rest.length < 12 + 16 then .error .malformed
    else if flags &&& 1 = 1 ∧ ¬ accepts then .error .rejected
    else
      match crypto.gcmDecrypt key (rest.take 12) (rest.drop 12) (WRAP_AAD_PREFIX ++ [flags]) with
      | some secret => .ok secret
      | none => .error .foreign

/-- The key is wiped, and forgotten. -/
def deleteKey : Option Bytes → Option Bytes := fun _ => none

theorem destroys : Destroys (unwrap crypto) deleteKey := fun _ _ _ _ => nofun

variable {crypto}

/-- What is wrapped is unwrapped, with the user's consent where it was asked for. -/
theorem unwrap_wrap {key secret nonce blob : Bytes} {available biometric : Bool} (accepts : Bool)
    (hcorrect : ∀ aad, crypto.gcmDecrypt key nonce (crypto.gcmEncrypt key nonce secret aad) aad =
      some secret)
    (hlong : ∀ aad, 16 ≤ (crypto.gcmEncrypt key nonce secret aad).length)
    (hnonce : nonce.length = 12)
    (h : wrap crypto (some key) available nonce secret biometric = .ok blob) :
    unwrap crypto blob accepts (some key) =
      if biometric && !accepts then .error .rejected else .ok secret := by
  unfold wrap at h
  dsimp only at h
  split at h
  · cases h
  · obtain rfl := Except.ok.inj h
    have hlong' := hlong (WRAP_AAD_PREFIX ++ [if biometric then 1 else 0])
    simp only [unwrap, List.cons_append, List.nil_append, List.length_append, hnonce,
      List.take_left' hnonce, List.drop_left' hnonce, hcorrect, if_neg (by omega :
        ¬ 12 + (crypto.gcmEncrypt key nonce secret
          (WRAP_AAD_PREFIX ++ [if biometric then 1 else 0])).length < 12 + 16)]
    cases biometric <;> cases accepts <;> rfl

end EphemeralSoftwareKeyStore

/-! ### Blobs are read back -/

theorem isLowerHex_digitChar {n : Nat} (h : n < 16) : isLowerHex (Nat.digitChar n) = true := by
  interval_cases n <;> decide

theorem all_isLowerHex_bytesToHex (bytes : Bytes) :
    (bytesToHex bytes).toList.all isLowerHex = true := by
  rw [bytesToHex, String.toList_ofList]
  induction bytes with
  | nil => rfl
  | cons b bytes ih =>
    have hb := b.toNat_lt
    rw [List.flatMap_cons, List.all_append, ih, List.all_cons, List.all_cons,
      isLowerHex_digitChar (by omega), isLowerHex_digitChar (by omega)]
    rfl

theorem serviceIdFromKeychainBlob_fromServiceId {serviceBytes : Bytes}
    (hbytes : serviceBytes.length = 8) :
    serviceIdFromKeychainBlob (keychainBlobFromServiceId (bytesToHex serviceBytes)) =
      some (bytesToHex serviceBytes) := by
  have htext : Utf8.decode (keychainBlobFromServiceId (bytesToHex serviceBytes)) =
      BLOB_PREFIX ++ (bytesToHex serviceBytes).toList := by
    refine Utf8.decode_encode_eq_iff.2 ?_
    have hhead : (BLOB_PREFIX ++ (bytesToHex serviceBytes).toList).head? = some 'c' := rfl
    rw [hhead]
    decide
  have hvalid : isKeychainBlob (keychainBlobFromServiceId (bytesToHex serviceBytes)) = true := by
    have hprefix : BLOB_PREFIX.isPrefixOf (BLOB_PREFIX ++ (bytesToHex serviceBytes).toList) = true :=
      List.isPrefixOf_iff_prefix.2 (List.prefix_append ..)
    simp only [isKeychainBlob, htext, hprefix, List.length_append, length_bytesToHex, hbytes,
      List.drop_left, all_isLowerHex_bytesToHex, SERVICE_HEX_CHARS, beq_self_eq_true, Bool.and_self]
  rw [serviceIdFromKeychainBlob, if_pos hvalid, htext, List.drop_left, String.ofList_toList]

theorem keyService_ne {id id' : String} (h : id' ≠ id) : keyService id ≠ keyService id' := by
  intro heq
  exact h ((String.append_right_inj _).1 (Option.some.inj heq)).symm

theorem keyService_ne_routeTag (id : String) : keyService id ≠ ROUTE_TAG_SERVICE := by
  intro heq
  have hlong := congrArg (fun service : String => service.toList[5]?) (Option.some.inj heq)
  simp at hlong

theorem setGenericPassword_of_ne {service other : Option String} (h : other ≠ service) (entry : Entry)
    (keychain : Keychain) : setGenericPassword service entry keychain other = keychain other :=
  Function.update_of_ne h _ _

theorem resetGenericPassword_of_ne {service other : Option String} (h : other ≠ service)
    (keychain : Keychain) : resetGenericPassword service keychain other = keychain other :=
  Function.update_of_ne h _ _

/-- The route-tag cache's key store unwraps what it wrapped last. -/
theorem AndroidRouteTagKeyStore_unwraps : AndroidRouteTagKeyStore.Unwraps := by
  intro value keychain
  have hmarker : Utf8.decode (Utf8.encode ROUTE_TAG_BLOB_MARKER) = ROUTE_TAG_BLOB_MARKER := by
    decide
  simp only [AndroidRouteTagKeyStore, hmarker, if_true, getGenericPassword, setGenericPassword,
    Function.update_self, Bool.false_and, Bool.false_eq_true, if_false, Except.map,
    hexToBytes_bytesToHex]
  rfl

/-! ### Runs -/

/-- What the calls of the vault do to the keychain; no wrap draws the service id `id`. A call of the
    keychain that throws changed nothing. -/
def keychainEffect (id : String) : Program.Effect VaultOp VaultError Keychain
  | _, .wrap (some key) biometric, keychain, r, keychain' =>
    (∃ serviceBytes, serviceBytes.length = 8 ∧ bytesToHex serviceBytes ≠ id ∧
      r = .ok (AndroidKeychainKeyStore.wrap serviceBytes key biometric keychain).1 ∧
      keychain' = (AndroidKeychainKeyStore.wrap serviceBytes key biometric keychain).2) ∨
    (∃ e, r = .error e) ∧ keychain' = keychain
  | _, .wrap none _, keychain, r, keychain' => (∃ e, r = .error e) ∧ keychain' = keychain
  | _, .unwrap blob, keychain, r, keychain' =>
    (∃ accepts, r = (AndroidKeychainKeyStore.unwrap blob accepts keychain).mapError fun _ => .external) ∧
      keychain' = keychain
  | _, .deleteKey, keychain, r, keychain' =>
    (r = .ok () ∧ keychain' = AndroidKeychainKeyStore.deleteKey keychain) ∨
    (∃ e, r = .error e) ∧ keychain' = keychain
  | _, _, keychain, _, keychain' => keychain' = keychain

/-- What happens to the keychain between the calls of the vault, of which one is about to begin. -/
inductive Elsewhere : Keychain → VaultCall → Keychain → Prop where
  | nothing (keychain : Keychain) (call : VaultCall) : Elsewhere keychain call keychain
  | cached {keychain keychain' : Keychain} {call : VaultCall} (value : Bytes) :
      Elsewhere (AndroidRouteTagKeyStore.wrap value keychain).2 call keychain' →
      Elsewhere keychain call keychain'
  | cleared {keychain keychain' : Keychain} {call : VaultCall} :
      Elsewhere (AndroidRouteTagKeyStore.clear keychain) call keychain' →
      Elsewhere keychain call keychain'

section Runs

variable {crypto : Crypto} {id : String} {keychain keychain' : Keychain}

/-- No call of the vault touches the entry of another service id. -/
theorem keychainEffect_keeps {β : Type} {op : VaultOp β} {r : Except VaultError β}
    (h : keychainEffect id β op keychain r keychain') :
    keychain' (keyService id) = keychain (keyService id) := by
  cases op with
  | wrap key biometric =>
    cases key with
    | none => rw [h.2]
    | some key =>
      obtain ⟨serviceBytes, -, hother, -, rfl⟩ | ⟨-, rfl⟩ := h
      · exact setGenericPassword_of_ne (keyService_ne hother) _ _
      · rfl
  | unwrap blob => rw [h.2]
  | deleteKey =>
    obtain ⟨-, rfl⟩ | ⟨-, rfl⟩ := h
    · exact resetGenericPassword_of_ne (Option.some_ne_none _) _
    · rfl
  | _ => rw [show keychain' = keychain from h]

theorem Elsewhere.keeps {call : VaultCall} (h : Elsewhere keychain call keychain') :
    keychain' (keyService id) = keychain (keyService id) := by
  induction h with
  | nothing => rfl
  | cached value _ ih => exact ih.trans (setGenericPassword_of_ne (keyService_ne_routeTag id)
    ⟨bytesToHex value, false⟩ _)
  | cleared _ ih => exact ih.trans (resetGenericPassword_of_ne (keyService_ne_routeTag id) _)

theorem unwrap_of_entry {serviceBytes : Bytes} (hbytes : serviceBytes.length = 8) (accepts : Bool)
    (keychain : Keychain) :
    AndroidKeychainKeyStore.unwrap (keychainBlobFromServiceId (bytesToHex serviceBytes)) accepts
        keychain =
      (getGenericPassword (keyService (bytesToHex serviceBytes)) accepts keychain).map hexToBytes := by
  rw [AndroidKeychainKeyStore.unwrap, serviceIdFromKeychainBlob_fromServiceId hbytes]

/-- Android's key store does not destroy its keys. -/
theorem AndroidKeychainKeyStore.not_destroys :
    ¬ Destroys AndroidKeychainKeyStore.unwrap AndroidKeychainKeyStore.deleteKey := by
  intro hdestroys
  let wrapped := AndroidKeychainKeyStore.wrap (List.replicate 8 0) [1] false fun _ => none
  exact hdestroys wrapped.1 true wrapped.2 [1] (unwrap_of_entry rfl true _)

/-- The wipe of a vault on a device on which a key was wrapped. -/
def wipeCall : Program.Call VaultCall VaultError Unit Keychain :=
  let wrapped := (AndroidKeychainKeyStore.wrap (List.replicate 8 0) [1, 2, 3] false fun _ => none).2
  ⟨.wipe, wrapped, some (.ok ()), AndroidKeychainKeyStore.deleteKey wrapped⟩

end Runs

end cemp.app.keystores
