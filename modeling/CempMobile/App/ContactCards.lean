import CempMobile.Core.CardImage
import CempMobile.Core.ContactImport
import CempMobile.Database.Listing

/-! Contact cards between two devices: one shows its card, the other scans it and saves a contact. -/

open cemp.core cemp.core.fingerprint cemp.core.contactBundle cemp.core.contactImport
open cemp.core.cardImage cemp.core.text cemp.database

namespace cemp.app.contactCards

/-- What a card is made of, besides the id of the published profile. -/
structure CardDeps where
  blake2b : Blake2b
  mlDsaPublicKey : Bytes
  mlKemPublicKey : Bytes
  lockScriptHash : Bytes
  address : String

/-- `MessagingService.myContactBundle`. -/
def myContactBundle (deps : CardDeps) (myProfileId : Option Bytes) :
    Except Error (Option ContactBundleV1) :=
  match myProfileId with
  | none => .ok none
  | some profileId => do
    let fingerprint ← formatFingerprint deps.blake2b
      ⟨profileId, deps.mlDsaPublicKey, deps.mlKemPublicKey⟩
    .ok (some ⟨"0x" ++ bytesToHex profileId, "0x" ++ bytesToHex deps.lockScriptHash, deps.address,
      String.ofList fingerprint, CKB_TESTNET.name⟩)

abbrev Contacts : Type := Table listing.Contact.profileIdHex

def getByProfileId (contacts : Contacts) (profileIdHex : List Char) : Option Nat :=
  (contacts.first? fun contact => contact.profileIdHex == some (String.ofList profileIdHex)).map (·.1)

/-- A second contact with the same profile id violates the UNIQUE column. -/
def create (contact : listing.Contact) (contacts : Contacts) : Except Error (Nat × Contacts) :=
  if fresh : contacts.Fresh contact then .ok (contacts.nextId, contacts.insert contact fresh)
  else
    .error (.database .constraint_violation "contact insert failed (profile id already used?)")

/-- What the screen shows of a scan. -/
inductive Handled where
  | ignored
  | classifyError (message : String)
  | result (outcome : ScanOutcome)
  deriving DecidableEq, Repr

variable (otherNumberText : ℚ → List Char)

/-- The screen's two passes: the contacts are looked at for a card only that may be added. -/
def handleScanned (hasMessaging : Bool) (myProfileId : Except Error (Option String))
    (getByProfileId : List Char → Except Error (Option Nat)) (text : Option (List Char)) : Handled :=
  match text with
  | none => .ignored
  | some text =>
    match if hasMessaging then myProfileId else .ok none with
    | .error _ => .classifyError ("The messaging system isn't running, so this scan couldn't be " ++
        "checked against your own profile. Try again shortly.")
    | .ok myProfileIdHex =>
      match classifyScannedCard otherNumberText (some text) myProfileIdHex fun _ => none with
      | .addable bundle =>
        match getByProfileId (normalizeProfileId bundle.profileTypeId) with
        | .error _ => .classifyError "Could not check this code against your saved contacts."
        | .ok (some existing) => .result (.duplicate bundle existing)
        | .ok none => .result (.addable bundle)
      | outcome => .result outcome

/-- The screen's save button, where a card may be added and there is a name. -/
def save (displayName : String) (bundle : ContactBundleV1) (contacts : Contacts) :
    Except Error (Nat × Contacts) :=
  create ⟨displayName, some (String.ofList (normalizeProfileId bundle.profileTypeId))⟩ contacts

variable {otherNumberText : ℚ → List Char}

/-- With the contacts at hand the two passes classify as one would. -/
theorem handleScanned_eq {hasMessaging : Bool} {myProfileId : Except Error (Option String)}
    {myProfileIdHex : Option String} {getByProfileId : List Char → Except Error (Option Nat)}
    {findExisting : List Char → Option Nat}
    (hmine : (if hasMessaging then myProfileId else .ok none) = .ok myProfileIdHex)
    (hfind : ∀ id, getByProfileId id = .ok (findExisting id)) (text : List Char) :
    handleScanned otherNumberText hasMessaging myProfileId getByProfileId (some text) =
      .result (classifyScannedCard otherNumberText (some text) myProfileIdHex findExisting) := by
  unfold handleScanned classifyScannedCard
  simp only [hmine]
  cases decodeContactBundle otherNumberText (trim text) CKB_TESTNET.name with
  | error error => rfl
  | ok bundle =>
    dsimp only
    by_cases hself : myProfileIdHex.map normalizeProfileId =
        some (normalizeProfileId bundle.profileTypeId)
    · rw [if_pos hself, if_pos hself]
    · rw [if_neg hself, if_neg hself]
      simp only [hfind]
      cases findExisting (normalizeProfileId bundle.profileTypeId) with
      | none => rfl
      | some existing => rfl

/-- What the screen shows is right for the text, the own profile and the contacts; and it reports
that it could not tell only where it needed what could not be read. -/
theorem handleScanned_justified (hasMessaging : Bool) (myProfileId : Except Error (Option String))
    (getByProfileId : List Char → Except Error (Option Nat)) (text : Option (List Char)) :
    match handleScanned otherNumberText hasMessaging myProfileId getByProfileId text with
    | .ignored => text = none
    | .classifyError _ => (hasMessaging = true ∧ ∃ error, myProfileId = .error error) ∨
      ∃ scanned bundle error, text = some scanned ∧
        decodeContactBundle otherNumberText (trim scanned) CKB_TESTNET.name = .ok bundle ∧
          getByProfileId (normalizeProfileId bundle.profileTypeId) = .error error
    | .result outcome => ∃ scanned myProfileIdHex, text = some scanned ∧
      (if hasMessaging then myProfileId else .ok none) = .ok myProfileIdHex ∧
        Justified otherNumberText scanned myProfileIdHex (fun id found => getByProfileId id = .ok found)
          outcome := by
  unfold handleScanned
  cases text with
  | none => rfl
  | some scanned =>
    dsimp only
    cases hmine : if hasMessaging then myProfileId else .ok none with
    | error error =>
      cases hasMessaging with
      | true => exact .inl ⟨rfl, error, hmine⟩
      | false => cases hmine
    | ok myProfileIdHex =>
      have hjustified := @classifyScannedCard_justified otherNumberText scanned myProfileIdHex
        fun _ => none
      dsimp only
      cases houtcome : classifyScannedCard otherNumberText (some scanned) myProfileIdHex
        fun _ => none with
      | addable bundle =>
        rw [houtcome] at hjustified
        obtain ⟨hdecode, hself, -⟩ := hjustified
        dsimp only
        cases hfind : getByProfileId (normalizeProfileId bundle.profileTypeId) with
        | error error => exact .inr ⟨scanned, bundle, error, rfl, hdecode, hfind⟩
        | ok found =>
          cases found with
          | none => exact ⟨scanned, myProfileIdHex, rfl, rfl, hdecode, hself, hfind⟩
          | some existing => exact ⟨scanned, myProfileIdHex, rfl, rfl, hdecode, hself, hfind⟩
      | self bundle =>
        rw [houtcome] at hjustified
        exact ⟨scanned, myProfileIdHex, rfl, rfl, hjustified⟩
      | duplicate bundle existing =>
        rw [houtcome] at hjustified
        cases hjustified.2.2
      | unreadable reason =>
        rw [houtcome] at hjustified
        exact ⟨scanned, myProfileIdHex, rfl, rfl, hjustified⟩

/-! ### A card that another device shows -/

/-- The scanner reads every picture that shows a code. -/
def ReadsCodes (qrcode : Qrcode) (scanImage : Png.Image → Option (List Char)) : Prop :=
  ∀ text size isDark modulePixels quietModules image, 0 < modulePixels → 4 ≤ quietModules →
    qrcode text = .ok (size, isDark) → Shows image size isDark modulePixels quietModules →
      scanImage image = some text

theorem isHash32_hex {bytes : Bytes} (hlength : bytes.length = 32) :
    isHash32 ("0x" ++ bytesToHex bytes).toList = true := by
  have hchars : ("0x" ++ bytesToHex bytes).toList = '0' :: 'x' :: (bytesToHex bytes).toList := by
    rw [String.toList_append]
    rfl
  rw [hchars]
  simp only [isHash32, length_bytesToHex, hlength, Bool.and_eq_true]
  refine ⟨rfl, List.all_eq_true.2 fun c hc => ?_⟩
  rw [bytesToHex_toList] at hc
  obtain ⟨b, -, hc⟩ := List.mem_flatMap.1 hc
  have hb := b.toNat_lt
  have hdigit : ∀ n, n < 16 → ('0' ≤ Nat.digitChar n && Nat.digitChar n ≤ '9' ||
      'a' ≤ Nat.digitChar n && Nat.digitChar n ≤ 'f') = true := by
    intro n hn
    interval_cases n <;> rfl
  obtain rfl | hc := List.mem_cons.1 hc
  · exact hdigit _ (by omega)
  · obtain rfl := List.mem_singleton.1 hc
    exact hdigit _ (by omega)

theorem normalizeProfileId_hex {bytes : Bytes} (hlength : bytes.length = 32) :
    normalizeProfileId ("0x" ++ bytesToHex bytes) = (bytesToHex bytes).toList := by
  have hchars : ("0x" ++ bytesToHex bytes).toList = '0' :: 'x' :: (bytesToHex bytes).toList := by
    rw [String.toList_append]
    rfl
  have hnormal := normalizeProfileId_hash (isHash32_hex hlength)
  rw [hchars] at hnormal
  exact (List.cons.inj (List.cons.inj hnormal).2).2.symm

theorem length_ne_zero {text : String} (h : "ckt1".toList <+: text.toList) : length text ≠ 0 := by
  obtain ⟨rest, hrest⟩ := h
  have hunits : JSON.units 'c' ≠ [] := by decide
  have hfirst : text.toList = 'c' :: (['k', 't', '1'] ++ rest) := hrest.symm
  unfold contactBundle.length
  rw [hfirst, List.flatMap_cons, List.length_append]
  have hpos := List.length_pos_of_ne_nil hunits
  omega

/-- The card of a device whose id and hash have their lengths and whose address is of the test
network. -/
theorem myContactBundle_valid {deps : CardDeps} {profileId : Bytes}
    (hblake2b : ∀ text dkLen personal, (deps.blake2b text dkLen personal).length = dkLen)
    (hprofile : profileId.length = 32) (hlock : deps.lockScriptHash.length = 32)
    (haddress : "ckt1".toList <+: deps.address.toList) (hlength : length deps.address ≤ 128) :
    ∃ bundle, myContactBundle deps (some profileId) = .ok (some bundle) ∧
      bundle.Valid CKB_TESTNET.name ∧ bundle.address = deps.address ∧
        bundle.profileTypeId = "0x" ++ bytesToHex profileId := by
  have hshown : formatFingerprint deps.blake2b
      ⟨profileId, deps.mlDsaPublicKey, deps.mlKemPublicKey⟩ = .ok (format (deps.blake2b
        (profileId ++ deps.mlDsaPublicKey ++ deps.mlKemPublicKey) FINGERPRINT_BYTES
        FINGERPRINT_PERSONAL.toUTF8.toList)) := by
    unfold formatFingerprint fingerprintBytes
    rw [if_neg (not_not.2 hprofile)]
    rfl
  have hbundle : myContactBundle deps (some profileId) = .ok (some ⟨"0x" ++ bytesToHex profileId,
      "0x" ++ bytesToHex deps.lockScriptHash, deps.address, String.ofList (format (deps.blake2b
        (profileId ++ deps.mlDsaPublicKey ++ deps.mlKemPublicKey) FINGERPRINT_BYTES
        FINGERPRINT_PERSONAL.toUTF8.toList)), CKB_TESTNET.name⟩) := by
    unfold myContactBundle
    dsimp only
    rw [hshown]
    rfl
  refine ⟨_, hbundle, ?_, rfl, rfl⟩
  · exact
      { sameNetwork := rfl
        profileTypeId := isHash32_hex hprofile
        lockScriptHash := isHash32_hex hlock
        address := ⟨length_ne_zero haddress, hlength⟩
        testnet := fun _ => haddress
        fingerprint := by
          rw [String.toList_ofList]
          exact (formatFingerprint_equal hblake2b hshown).1 }

theorem trim_encodeContactBundle (bundle : ContactBundleV1) :
    trim (encodeContactBundle otherNumberText bundle) = encodeContactBundle otherNumberText bundle := by
  unfold trim encodeContactBundle
  rw [secureVault.stringify, List.dropWhile_cons_of_neg (by decide), ← List.cons_append,
    List.rdropWhile_concat_neg _ _ _ (by decide)]

/-- A saved contact is what the next scan of its id finds. -/
theorem getByProfileId_save {displayName : String} {bundle : ContactBundleV1} {contacts : Contacts}
    (hnew : getByProfileId contacts (normalizeProfileId bundle.profileTypeId) = none) :
    ∃ contacts', save displayName bundle contacts = .ok (contacts.nextId, contacts') ∧
      getByProfileId contacts' (normalizeProfileId bundle.profileTypeId) = some contacts.nextId := by
  have hnone : (contacts.first? fun contact => contact.profileIdHex ==
      some (String.ofList (normalizeProfileId bundle.profileTypeId))) = none :=
    Option.map_eq_none_iff.1 hnew
  have hfresh : contacts.Fresh
      ⟨displayName, some (String.ofList (normalizeProfileId bundle.profileTypeId))⟩ := by
    intro r hr hkey
    exact absurd (beq_iff_eq.2 hkey) (Table.first?_eq_none.1 hnone r hr)
  refine ⟨_, dif_pos hfresh, ?_⟩
  unfold getByProfileId
  rw [Table.first?_insert, hnone, Option.none_or, if_pos (beq_self_eq_true _)]
  rfl

/-- What a scan of the text of a valid card finds. -/
theorem handleScanned_encode {bundle : ContactBundleV1} (hvalid : bundle.Valid CKB_TESTNET.name)
    (myProfileIdHex : Option String) (contacts : Contacts) :
    handleScanned otherNumberText true (.ok myProfileIdHex)
        (fun id => .ok (getByProfileId contacts id))
        (some (encodeContactBundle otherNumberText bundle)) =
      .result (if myProfileIdHex.map normalizeProfileId =
            some (normalizeProfileId bundle.profileTypeId) then
          .self bundle
        else
          match getByProfileId contacts (normalizeProfileId bundle.profileTypeId) with
          | some existing => .duplicate bundle existing
          | none => .addable bundle) := by
  rw [handleScanned_eq (if_pos rfl) (fun id => rfl)]
  unfold classifyScannedCard
  have hdecode := (@decode_encode_iff otherNumberText bundle CKB_TESTNET.name).1.2 hvalid
  cases hfind : getByProfileId contacts (normalizeProfileId bundle.profileTypeId) with
  | none => simp only [trim_encodeContactBundle, hdecode, hfind]
  | some existing => simp only [trim_encodeContactBundle, hdecode, hfind]

/-- A published device shows its card and another one scans the picture. It finds the device
itself, or the contact that has its id, or a card to add; and once this is saved the same picture
is the contact's. -/
theorem card_scanned {deps : CardDeps} {qrcode : Qrcode} {scanImage : Png.Image → Option (List Char)}
    {profileId : Bytes} {size : Nat} {isDark : Nat → Nat → Bool}
    (hblake2b : ∀ text dkLen personal, (deps.blake2b text dkLen personal).length = dkLen)
    (hscan : ReadsCodes qrcode scanImage)
    (hprofile : profileId.length = 32) (hlock : deps.lockScriptHash.length = 32)
    (haddress : "ckt1".toList <+: deps.address.toList) (hlength : length deps.address ≤ 128)
    (hprintable : deps.address.toList.all isPrintable = true)
    (hqrcode : ∀ bundle, myContactBundle deps (some profileId) = .ok (some bundle) →
      qrcode (encodeContactBundle otherNumberText bundle) = .ok (size, isDark))
    (hsize : size ≤ 177) :
    ∃ bundle png image scanned, myContactBundle deps (some profileId) = .ok (some bundle) ∧
      contactCardPng otherNumberText qrcode bundle ⟨none, none⟩ = .ok png ∧
      Png.decode png = some image ∧ scanImage image = some scanned ∧
      ∀ (myProfileIdHex : Option String) (contacts : Contacts),
        (handleScanned otherNumberText true (.ok myProfileIdHex)
            (fun id => .ok (getByProfileId contacts id)) (some scanned) =
          .result (if myProfileIdHex.map normalizeProfileId = some (bytesToHex profileId).toList then
              .self bundle
            else
              match getByProfileId contacts (bytesToHex profileId).toList with
              | some existing => .duplicate bundle existing
              | none => .addable bundle)) ∧
        ∀ displayName, myProfileIdHex.map normalizeProfileId ≠ some (bytesToHex profileId).toList →
          getByProfileId contacts (bytesToHex profileId).toList = none →
            ∃ id contacts', save displayName bundle contacts = .ok (id, contacts') ∧
              handleScanned otherNumberText true (.ok myProfileIdHex)
                (fun id => .ok (getByProfileId contacts' id)) (some scanned) =
                  .result (.duplicate bundle id) := by
  obtain ⟨bundle, hbundle, hvalid, hsame, hid⟩ :=
    myContactBundle_valid hblake2b hprofile hlock haddress hlength
  have hencoded : (encodeContactBundle otherNumberText bundle).all isPrintable = true :=
    all_isPrintable_encode hvalid (hsame ▸ hprintable)
  have hside : png.dataBytes ((size + 4 * 2) * 8) ((size + 4 * 2) * 8) < 2 ^ 31 := by
    have hlines : ((size + 4 * 2) * 8 + 1) * ((size + 4 * 2) * 8) ≤ 1481 * 1480 :=
      Nat.mul_le_mul (by omega) (by omega)
    unfold png.dataBytes
    omega
  obtain ⟨png, image, hpng, hdecode, hshows⟩ := @contactCardPng_shows otherNumberText qrcode bundle
    ⟨none, none⟩ 8 4 _ _ (by rfl) (by rfl) (by decide) (by decide) hencoded (hqrcode bundle hbundle)
    hside
  have hread := hscan _ _ _ _ _ _ (by decide) (by decide) (hqrcode bundle hbundle) hshows
  refine ⟨bundle, png, image, _, hbundle, hpng, hdecode, hread, fun myProfileIdHex contacts => ?_⟩
  have hnormal : normalizeProfileId bundle.profileTypeId = (bytesToHex profileId).toList := by
    rw [hid]
    exact normalizeProfileId_hex hprofile
  have hclassify := @handleScanned_encode otherNumberText bundle hvalid myProfileIdHex
  simp only [hnormal] at hclassify
  refine ⟨hclassify contacts, fun displayName hother hnew => ?_⟩
  rw [← hnormal] at hnew
  obtain ⟨contacts', hsave, hfound⟩ := @getByProfileId_save displayName _ _ hnew
  rw [hnormal] at hfound
  refine ⟨_, _, hsave, ?_⟩
  rw [hclassify contacts', if_neg hother, hfound]

/-! A card of the usual size, with its code. -/

def sampleDeps : CardDeps :=
  ⟨sampleBlake2b, [], [], List.replicate 32 0xcd, "ckt1" ++ String.ofList (List.replicate 120 'q')⟩

def sampleBundle : ContactBundleV1 :=
  ⟨"0x" ++ String.ofList (List.replicate 64 '0'), "0x" ++ bytesToHex (List.replicate 32 0xcd),
    sampleDeps.address, "7E8A-F47B-A7EA-C5D2-B76E-8532-0E93-B362", CKB_TESTNET.name⟩

def sampleText : List Char := encodeContactBundle (fun _ => []) sampleBundle

/-- The rows of the code, a bit a module. -/
def sampleModules : List Nat :=
  [0x1fdff90ca3041f5c4587f, 0x10555cdc1187305d82f41, 0x174b071c27a179be30d5d,
    0x175fae3c238e35adf1d5d, 0x174d1e9fe06b1fe16885d, 0x104bde11fc1ad1dd5ca41,
    0x1fd55555555555555557f, 0x1de3d1ed3eb1a17b200, 0x16eefddf62f81f248274b, 0x83efc64c30e2f7b26927,
    0x18e92927f68d422bf0bc3, 0xf2e8c5a37e169dbe5178, 0x145561a3b029550b5b38, 0x30bd859606b98d649226,
    0xef95d47a85e2df14bca8, 0x1f2b28277835b93e13ece, 0x1cceb29d306b26c71c569,
    0xa17cbb1d492512492597, 0x1579b942d7ca7e85f851a, 0x103cc662abde28207b3a1,
    0x18ed51b956b022bd1afbc, 0x171f66f5e29c862b35c29, 0xc722905160de55a87e77, 0x89bc3e7a14353a1579,
    0x13f6b6df05e85f5835bf8, 0x31c46d13ac191f42f51a, 0x552eab530d635e85f952, 0xb1c3211fa15b13e42f14,
    0x3ff295fbae1bf93493f5, 0x58e0dab6c1acb42c60b1, 0xcf77502b5ea5a94d94e4, 0x29d9495237835f4a74d9,
    0x167f5a1f1e18fc64564fe, 0x2bac1a020bf064924f9d, 0x7d61f393e85e11e80f4b,
    0x1d8976f1a4927d1221209, 0x9d9f9ba929f224165e42, 0x1bb222722bd0a6f01a648,
    0x166fd5ef7b6da13cd4f3f, 0x482349a88af943b1759e, 0x7e7e65b4ea5b79a00e8d, 0x28fbf04263b6e50f1093,
    0x114e7c4f2516efa4fe6ac, 0x16908536adb6d0906faf0, 0x7ee0d90b2f42cfdc6c5e,
    0x480a74a37ca415b62d27, 0xadb5104b249397fa5fc3, 0x17a01c67afadd913e4608, 0xff5655f938a3f58259f8,
    0xb19b3b1586391937911a, 0xd5af9b538d6959d0bd58, 0x171e50918a13313ed3d1e,
    0x13fcb2bf006fbf8b181f5, 0x1a0e027ec6b0c82092751, 0x1af16ec205e0a594fd092,
    0x1c2564e2035809e17a5db, 0x195d6e8366b06dbd0bfae, 0x71e6c5e3a17920d60f41,
    0x1740d8f93e85d35f85f57, 0x5253db6c581251fa05d1, 0x11f6f9e967c8f70064e90,
    0xb1e40251ac024b01f108, 0x60ce23e2f61cac5ede4, 0xe21eaeec29f3e3a5794c, 0x9ec2fdbe24911924937f,
    0xe95674dbc1ac471c73f1, 0x6c8bc5a3d60c495e9404, 0x172879f6617800e52f649, 0xa7c80c7ec18f935925ae,
    0x14ae442841be122e40ec7, 0xe42ba563e84d34d94f69, 0x8835d8c15814842f4092, 0xe661ebf21ae1fc1ec9f8,
    0x1d42717ad0b1920971a, 0x1fd523956b6e95b84fb5c, 0x1056fdf12b0691bb15f1c,
    0x174bbdbf5ac19f5addbff, 0x1750f3818e38f5a5b43aa, 0x1753a4f1c5e85504ac1c4,
    0x104a21281ad9f7ada67e1, 0x1fd54be8ce14c0b9dbe94]

def sampleQrcode : Qrcode := fun text =>
  if text = sampleText then .ok (81, fun row col => (sampleModules.getD row 0).testBit (80 - col))
  else .error "code length overflow."

theorem readsCodes_sample : ReadsCodes sampleQrcode fun _ => some sampleText := by
  intro text size isDark modulePixels quietModules image hpixels hmargin hqrcode hshows
  unfold sampleQrcode at hqrcode
  split at hqrcode
  · next htext => rw [htext]
  · cases hqrcode

theorem card_scanned_sample : ∃ bundle png image scanned,
    myContactBundle sampleDeps (some (List.replicate 32 0)) = .ok (some bundle) ∧
      contactCardPng (fun _ => []) sampleQrcode bundle ⟨none, none⟩ = .ok png ∧
      Png.decode png = some image ∧ (fun _ => some sampleText) image = some scanned ∧
      handleScanned (fun _ => []) true (.ok none)
        (fun id => .ok (getByProfileId .empty id)) (some scanned) = .result (.addable bundle) := by
  have hbundle : myContactBundle sampleDeps (some (List.replicate 32 0)) =
      .ok (some sampleBundle) := by decide +kernel
  have hqrcode : ∀ bundle,
      myContactBundle sampleDeps (some (List.replicate 32 0)) = .ok (some bundle) →
        sampleQrcode (encodeContactBundle (fun _ => []) bundle) =
          .ok (81, fun row col => (sampleModules.getD row 0).testBit (80 - col)) := by
    intro bundle h
    rw [hbundle] at h
    obtain rfl := Option.some.inj (Except.ok.inj h)
    exact if_pos rfl
  obtain ⟨bundle, png, image, scanned, hmine, hpng, hdecode, hread, hhandled⟩ :=
    card_scanned length_sampleBlake2b readsCodes_sample (by decide) (by decide)
      (by decide +kernel) (by decide +kernel) (by decide +kernel) hqrcode (by decide)
  exact ⟨bundle, png, image, scanned, hmine, hpng, hdecode, hread, (hhandled none .empty).1⟩

end cemp.app.contactCards
