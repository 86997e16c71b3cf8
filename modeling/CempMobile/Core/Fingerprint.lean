import CempMobile.Core.Codec
import Mathlib.Tactic.IntervalCases

/-! Profile fingerprints: the forms a user compares and types. -/

namespace cemp.core

def FINGERPRINT_PERSONAL : String := "cemp-fingerprint"

def FINGERPRINT_BYTES : Nat := 16

structure FingerprintInput where
  profileId : Bytes
  mlDsaPublicKey : Bytes
  mlKemPublicKey : Bytes

namespace fingerprint

/-- The digest of a text with the length and the personalisation that it is asked for. -/
abbrev Blake2b : Type := Bytes → Nat → Bytes → Bytes

def fingerprintBytes (blake2b : Blake2b) (input : FingerprintInput) : Except Error Bytes :=
  if input.profileId.length ≠ 32 then
    .error (.other ("fingerprint: profileId length " ++ toString input.profileId.length ++ " != 32"))
  else
    .ok (blake2b (input.profileId ++ input.mlDsaPublicKey ++ input.mlKemPublicKey)
      FINGERPRINT_BYTES FINGERPRINT_PERSONAL.toUTF8.toList)

/-- Four characters at a time. -/
def groups : List Char → List (List Char)
  | [] => []
  | a :: hex => (a :: hex.take 3) :: groups (hex.drop 3)
termination_by hex => hex.length
decreasing_by
  simp only [List.length_drop, List.length_cons]
  omega

def join (groups : List (List Char)) : List Char := List.intercalate ['-'] groups

/-- The text of a digest. -/
def format (digest : Bytes) : List Char :=
  (join (groups (bytesToHex digest).toList)).map Char.toUpper

def formatFingerprint (blake2b : Blake2b) (input : FingerprintInput) : Except Error (List Char) :=
  (fingerprintBytes blake2b input).map format

def isHex (c : Char) : Bool :=
  ('0' ≤ c && c ≤ '9') || ('A' ≤ c && c ≤ 'F') || ('a' ≤ c && c ≤ 'f')

/-- The text without its dashes. -/
def compact (text : List Char) : List Char := text.filter (· ≠ '-')

def parseFingerprint (text : List Char) : Except Error (List Char) :=
  let compact := compact text
  if compact.length ≠ FINGERPRINT_BYTES * 2 ∨ ¬ compact.all isHex then
    .error (.other "fingerprint: expected 32 hex characters (8 groups of 4)")
  else .ok (join ((groups compact).map (·.map Char.toUpper)))

def fingerprintsEqual (a b : List Char) : Bool :=
  match parseFingerprint a, parseFingerprint b with
  | .ok a, .ok b => a = b
  | _, _ => false

/-! ### Groups -/

theorem groups_cons (a : Char) (hex : List Char) :
    groups (a :: hex) = (a :: hex.take 3) :: groups (hex.drop 3) := by
  rw [groups]

theorem flatten_groups (hex : List Char) : (groups hex).flatten = hex := by
  induction hex using groups.induct with
  | case1 => rw [groups, List.flatten_nil]
  | case2 a hex ih =>
    rw [groups_cons, List.flatten_cons, ih, List.cons_append, List.take_append_drop]

theorem groups_map (f : Char → Char) (hex : List Char) :
    groups (hex.map f) = (groups hex).map (·.map f) := by
  induction hex using groups.induct with
  | case1 => simp only [List.map_nil, groups]
  | case2 a hex ih =>
    rw [List.map_cons, groups_cons, groups_cons, ← List.map_drop, ← List.map_take, ih,
      List.map_cons, List.map_cons]

theorem join_map (f : Char → Char) (hdash : f '-' = '-') (groups : List (List Char)) :
    join (groups.map (·.map f)) = (join groups).map f := by
  unfold join
  induction groups with
  | nil => rfl
  | cons group rest ih =>
    cases rest with
    | nil => simp only [List.map_cons, List.map_nil, List.intercalate_singleton]
    | cons second rest =>
      simp only [List.map_cons, List.intercalate_cons_cons, List.map_append] at ih ⊢
      rw [ih]
      simp only [List.map_nil, hdash]

/-- Without its dashes a joined text is the text that was split. -/
theorem compact_join {groups : List (List Char)} (hplain : ∀ group ∈ groups, '-' ∉ group) :
    compact (join groups) = groups.flatten := by
  unfold join compact
  induction groups with
  | nil => rfl
  | cons group rest ih =>
    have hgroup : group.filter (· ≠ '-') = group := by
      rw [List.filter_eq_self]
      intro c hc
      have hne : c ≠ '-' := fun heq => hplain group List.mem_cons_self (heq ▸ hc)
      exact decide_eq_true hne
    cases rest with
    | nil =>
      rw [List.intercalate_singleton, hgroup, List.flatten_cons, List.flatten_nil, List.append_nil]
    | cons second rest =>
      have hrest := ih fun group hgroup => hplain group (List.mem_cons_of_mem _ hgroup)
      have hdash : ['-'].filter (· ≠ '-') = [] := rfl
      rw [List.intercalate_cons_cons, List.filter_append, List.filter_append, hrest, hgroup, hdash,
        List.append_nil]
      rfl

/-! ### Letters -/

theorem toUpper_of_letter {c : Char} (hlow : 'a' ≤ c) (hhigh : c ≤ 'z') :
    isHex c.toUpper = isHex c ∧ c.toUpper.toUpper = c.toUpper := by
  have hlow' : 97 ≤ c.toNat := hlow
  have hhigh' : c.toNat ≤ 122 := hhigh
  rw [← Char.ofNat_toNat c]
  generalize c.toNat = n at hlow' hhigh'
  interval_cases n <;> decide

theorem toUpper_of_not_letter {c : Char} (h : ¬ ('a' ≤ c ∧ c ≤ 'z')) : c.toUpper = c := by
  unfold Char.toUpper
  exact dif_neg h

theorem isHex_toUpper (c : Char) : isHex c.toUpper = isHex c := by
  by_cases h : 'a' ≤ c ∧ c ≤ 'z'
  · exact (toUpper_of_letter h.1 h.2).1
  · rw [toUpper_of_not_letter h]

theorem toUpper_toUpper (c : Char) : c.toUpper.toUpper = c.toUpper := by
  by_cases h : 'a' ≤ c ∧ c ≤ 'z'
  · exact (toUpper_of_letter h.1 h.2).2
  · rw [toUpper_of_not_letter h, toUpper_of_not_letter h]

theorem ne_dash_of_isHex {c : Char} (h : isHex c = true) : c ≠ '-' := by
  rintro rfl
  exact absurd h (by decide)

/-! ### Forms of a fingerprint -/

theorem all_isHex_map_toUpper (text : List Char) :
    (text.map Char.toUpper).all isHex = text.all isHex := by
  rw [List.all_map]
  congr 1
  funext c
  exact isHex_toUpper c

theorem parseFingerprint_eq {text : List Char} (hlength : (compact text).length = 32)
    (hhex : (compact text).all isHex = true) :
    parseFingerprint text = .ok (join (groups ((compact text).map Char.toUpper))) := by
  unfold parseFingerprint
  rw [if_neg, groups_map]
  rintro (hlong | hother)
  · exact hlong hlength
  · exact hother hhex

theorem parseFingerprint_eq_ok {text canonical : List Char}
    (h : parseFingerprint text = .ok canonical) :
    (compact text).length = 32 ∧ (compact text).all isHex = true := by
  unfold parseFingerprint at h
  dsimp only at h
  split at h
  · cases h
  · next hform =>
    obtain ⟨hlength, hhex⟩ := not_or.1 hform
    exact ⟨not_not.1 hlength, not_not.1 hhex⟩

/-- What was parsed has the characters that were typed, in capitals. -/
theorem compact_canonical {text : List Char} (hhex : (compact text).all isHex = true) :
    compact (join (groups ((compact text).map Char.toUpper))) = (compact text).map Char.toUpper := by
  rw [compact_join, flatten_groups]
  intro group hgroup hdash
  have hmem : '-' ∈ (compact text).map Char.toUpper := by
    rw [← flatten_groups ((compact text).map Char.toUpper)]
    exact List.mem_flatten_of_mem hgroup hdash
  have hall := List.all_eq_true.1 ((all_isHex_map_toUpper _).trans hhex) '-' hmem
  exact ne_dash_of_isHex hall rfl

/-- What was parsed parses as itself. -/
theorem parseFingerprint_canonical {text canonical : List Char}
    (h : parseFingerprint text = .ok canonical) : parseFingerprint canonical = .ok canonical := by
  obtain ⟨hlength, hhex⟩ := parseFingerprint_eq_ok h
  rw [parseFingerprint_eq hlength hhex] at h
  obtain rfl := Except.ok.inj h
  have hcompact := compact_canonical hhex
  have hlength' : (compact (join (groups ((compact text).map Char.toUpper)))).length = 32 := by
    rw [hcompact, List.length_map]
    exact hlength
  have hhex' : (compact (join (groups ((compact text).map Char.toUpper)))).all isHex = true := by
    rw [hcompact, all_isHex_map_toUpper]
    exact hhex
  rw [parseFingerprint_eq hlength' hhex', hcompact, List.map_map]
  congr 3
  exact List.map_congr_left fun c _ => toUpper_toUpper c

theorem fingerprintsEqual_iff {a b : List Char} : fingerprintsEqual a b = true ↔
    (compact a).length = 32 ∧ (compact a).all isHex = true ∧
      (compact b).map Char.toUpper = (compact a).map Char.toUpper := by
  constructor
  · intro h
    unfold fingerprintsEqual at h
    split at h
    · next canonical canonical' ha hb =>
      obtain ⟨hlength, hhex⟩ := parseFingerprint_eq_ok ha
      obtain ⟨hlength', hhex'⟩ := parseFingerprint_eq_ok hb
      rw [parseFingerprint_eq hlength hhex] at ha
      rw [parseFingerprint_eq hlength' hhex'] at hb
      obtain rfl := Except.ok.inj ha
      obtain rfl := Except.ok.inj hb
      refine ⟨hlength, hhex, ?_⟩
      rw [← compact_canonical hhex, ← compact_canonical hhex', of_decide_eq_true h]
    · cases h
  · rintro ⟨hlength, hhex, hsame⟩
    have hlength' : (compact b).length = 32 := by
      have hmap := congrArg List.length hsame
      rw [List.length_map, List.length_map] at hmap
      exact hmap.trans hlength
    have hhex' : (compact b).all isHex = true := by
      rw [← all_isHex_map_toUpper, hsame, all_isHex_map_toUpper]
      exact hhex
    unfold fingerprintsEqual
    rw [parseFingerprint_eq hlength hhex, parseFingerprint_eq hlength' hhex', hsame]
    exact decide_eq_true rfl

/-! ### The form that is shown -/

theorem bytesToHex_toList (bytes : Bytes) : (bytesToHex bytes).toList =
    bytes.flatMap fun b => [Nat.digitChar (b.toNat / 16), Nat.digitChar (b.toNat % 16)] :=
  String.toList_ofList

/-- A digit of a byte is known from its capital. -/
theorem digitChar_toUpper_inj {n m : Nat} (hn : n < 16) (hm : m < 16)
    (h : (Nat.digitChar n).toUpper = (Nat.digitChar m).toUpper) : n = m := by
  interval_cases n <;> interval_cases m <;> first | rfl | exact absurd h (by decide)

theorem isHex_digitChar {n : Nat} (hn : n < 16) : isHex (Nat.digitChar n) = true := by
  interval_cases n <;> rfl

theorem upper_bytesToHex_inj {bytes bytes' : Bytes}
    (h : (bytesToHex bytes).toList.map Char.toUpper = (bytesToHex bytes').toList.map Char.toUpper) :
    bytes = bytes' := by
  rw [bytesToHex_toList, bytesToHex_toList] at h
  induction bytes generalizing bytes' with
  | nil =>
    cases bytes' with
    | nil => rfl
    | cons b' bytes' => cases h
  | cons b bytes ih =>
    cases bytes' with
    | nil => cases h
    | cons b' bytes' =>
      simp only [List.flatMap_cons, List.map_cons, List.cons_append, List.nil_append,
        List.cons.injEq] at h
      obtain ⟨hhigh, hlow, hrest⟩ := h
      have hb := b.toNat_lt
      have hb' := b'.toNat_lt
      have hdiv := digitChar_toUpper_inj (by omega) (by omega) hhigh
      have hmod := digitChar_toUpper_inj (by omega) (by omega) hlow
      rw [ih hrest, UInt8.toNat_inj.1 (show b.toNat = b'.toNat by omega)]

theorem isHex_bytesToHex (bytes : Bytes) : (bytesToHex bytes).toList.all isHex = true := by
  rw [bytesToHex_toList, List.all_eq_true]
  intro c hc
  obtain ⟨b, -, hc⟩ := List.mem_flatMap.1 hc
  have hb := b.toNat_lt
  obtain rfl | hc := List.mem_cons.1 hc
  · exact isHex_digitChar (by omega)
  · obtain rfl := List.mem_singleton.1 hc
    exact isHex_digitChar (by omega)

theorem compact_format (digest : Bytes) :
    compact (format digest) = (bytesToHex digest).toList.map Char.toUpper := by
  unfold format
  rw [← join_map Char.toUpper rfl, ← groups_map, compact_join, flatten_groups]
  intro group hgroup hdash
  have hmem : '-' ∈ (bytesToHex digest).toList.map Char.toUpper := by
    rw [← flatten_groups ((bytesToHex digest).toList.map Char.toUpper)]
    exact List.mem_flatten_of_mem hgroup hdash
  have hall := List.all_eq_true.1 ((all_isHex_map_toUpper _).trans (isHex_bytesToHex digest)) '-' hmem
  exact ne_dash_of_isHex hall rfl

theorem length_compact_format {digest : Bytes} (hlength : digest.length = FINGERPRINT_BYTES) :
    (compact (format digest)).length = 32 := by
  rw [compact_format, List.length_map, length_bytesToHex, hlength]
  rfl

theorem isHex_compact_format (digest : Bytes) : (compact (format digest)).all isHex = true := by
  rw [compact_format, all_isHex_map_toUpper]
  exact isHex_bytesToHex digest

theorem upper_compact_format (digest : Bytes) :
    (compact (format digest)).map Char.toUpper = compact (format digest) := by
  rw [compact_format, List.map_map]
  congr 1
  funext c
  exact toUpper_toUpper c

theorem parseFingerprint_format {digest : Bytes} (hlength : digest.length = FINGERPRINT_BYTES) :
    parseFingerprint (format digest) = .ok (format digest) := by
  rw [parseFingerprint_eq (length_compact_format hlength) (isHex_compact_format digest),
    upper_compact_format, compact_format, groups_map, join_map _ rfl]
  rfl

variable {blake2b : Blake2b}

theorem formatFingerprint_eq_ok {input : FingerprintInput} {shown : List Char}
    (h : formatFingerprint blake2b input = .ok shown) :
    ∃ digest, fingerprintBytes blake2b input = .ok digest ∧ format digest = shown := by
  unfold formatFingerprint at h
  cases hdigest : fingerprintBytes blake2b input with
  | error e =>
    rw [hdigest] at h
    cases h
  | ok digest =>
    rw [hdigest] at h
    exact ⟨digest, rfl, Except.ok.inj h⟩

theorem length_fingerprintBytes {input : FingerprintInput} {digest : Bytes}
    (hblake2b : ∀ text dkLen personal, (blake2b text dkLen personal).length = dkLen)
    (h : fingerprintBytes blake2b input = .ok digest) : digest.length = FINGERPRINT_BYTES := by
  unfold fingerprintBytes at h
  split at h
  · cases h
  · rw [← Except.ok.inj h]
    exact hblake2b _ _ _

/-- A fingerprint that is shown is in canonical form. What a user types is taken to be it whatever
the case and wherever dashes stand, and only then; and two that are shown are taken to be one only
if their digests are. -/
theorem formatFingerprint_equal
    (hblake2b : ∀ text dkLen personal, (blake2b text dkLen personal).length = dkLen)
    {input : FingerprintInput} {shown : List Char}
    (hshown : formatFingerprint blake2b input = .ok shown) :
    parseFingerprint shown = .ok shown ∧
      (∀ typed, fingerprintsEqual shown typed = true ↔
        (compact typed).map Char.toUpper = compact shown) ∧
      ∀ input' shown', formatFingerprint blake2b input' = .ok shown' →
        (fingerprintsEqual shown shown' = true ↔
          fingerprintBytes blake2b input = fingerprintBytes blake2b input') := by
  obtain ⟨digest, hdigest, rfl⟩ := formatFingerprint_eq_ok hshown
  have hlength := length_fingerprintBytes hblake2b hdigest
  have htyped : ∀ typed, fingerprintsEqual (format digest) typed = true ↔
      (compact typed).map Char.toUpper = compact (format digest) := by
    intro typed
    rw [fingerprintsEqual_iff, upper_compact_format]
    exact ⟨fun h => h.2.2, fun h => ⟨length_compact_format hlength, isHex_compact_format digest, h⟩⟩
  refine ⟨parseFingerprint_format hlength, htyped, fun input' shown' hshown' => ?_⟩
  obtain ⟨digest', hdigest', rfl⟩ := formatFingerprint_eq_ok hshown'
  rw [htyped, upper_compact_format, compact_format, compact_format, hdigest, hdigest']
  constructor
  · intro h
    rw [upper_bytesToHex_inj h]
  · intro h
    rw [Except.ok.inj h]

/-- The digest of thirty-two zeros. -/
def sampleBlake2b : Blake2b := fun _ dkLen _ =>
  if dkLen = 16 then
    [0x7e, 0x8a, 0xf4, 0x7b, 0xa7, 0xea, 0xc5, 0xd2, 0xb7, 0x6e, 0x85, 0x32, 0x0e, 0x93, 0xb3, 0x62]
  else List.replicate dkLen 0

theorem length_sampleBlake2b (text : Bytes) (dkLen : Nat) (personal : Bytes) :
    (sampleBlake2b text dkLen personal).length = dkLen := by
  unfold sampleBlake2b
  split
  · next h => exact h.symm
  · exact List.length_replicate

theorem formatFingerprint_equal_sample :
    parseFingerprint "7E8A-F47B-A7EA-C5D2-B76E-8532-0E93-B362".toList =
        .ok "7E8A-F47B-A7EA-C5D2-B76E-8532-0E93-B362".toList ∧
      fingerprintsEqual "7E8A-F47B-A7EA-C5D2-B76E-8532-0E93-B362".toList
        "7e8af47ba7eac5d2b76e85320e93b362".toList = true := by
  have hshown : formatFingerprint sampleBlake2b ⟨List.replicate 32 0, [], []⟩ =
      .ok "7E8A-F47B-A7EA-C5D2-B76E-8532-0E93-B362".toList := by decide +kernel
  have h := formatFingerprint_equal length_sampleBlake2b hshown
  exact ⟨h.1, (h.2.1 _).2 (by decide +kernel)⟩

end fingerprint

end cemp.core
