import CempMobile.Core.Codec

namespace cemp.core

/-- What is saved of a contact's profile: its id and both public keys. -/
structure SavedContactProfile where
  profileId : ProfileId
  mlDsaPublicKey : Bytes
  mlKemPublicKey : Bytes
  deriving DecidableEq, Repr

/-- A profile as it is fetched, and a link of a rotation chain. -/
structure ProfileTrustView extends SavedContactProfile where
  rotationSequence : Nat
  /-- The profile that was rotated. A profile that was not rotated names none. -/
  previousProfileId : Option ProfileId
  deriving DecidableEq, Repr

structure RotationChainResult where
  valid : Bool
  reason : Option String
  deriving DecidableEq, Repr

/-- What is wrong with the link at a position of a chain, given its predecessor. -/
def linkFailure (i : Nat) (previous : Option ProfileTrustView) (link : ProfileTrustView) :
    Option String :=
  if link.rotationSequence ≠ i then
    some ("rotation sequence " ++ toString link.rotationSequence ++ " at position " ++ toString i ++
      " (must increment by 1 from 0)")
  else
    match previous with
    | none =>
      if link.previousProfileId ≠ none then some "the chain root names a previous profile" else none
    | some previous =>
      if link.previousProfileId ≠ some previous.profileId then
        some ("link " ++ toString i ++ " does not name its predecessor's profile id")
      else none

/-- The first failure of the links from a position on. -/
def chainFailure (i : Nat) (previous : Option ProfileTrustView) :
    List ProfileTrustView → Option String
  | [] => none
  | link :: links => (linkFailure i previous link).or (chainFailure (i + 1) (some link) links)

/-- Structural validation of a rotation chain, oldest link first. -/
def validateRotationChain (chain : List ProfileTrustView) : RotationChainResult :=
  if chain.isEmpty then ⟨false, some "empty chain"⟩
  else
    match chainFailure 0 none chain with
    | some reason => ⟨false, some reason⟩
    | none => ⟨true, none⟩

inductive ContactTrustVerdict where
  | first_use
  | trusted
  | rotation_verified
  | key_changed_blocking
  deriving DecidableEq, Repr

structure ContactTrustResult where
  verdict : ContactTrustVerdict
  /-- The text of the blocking warning, where the verdict has one. -/
  warning : Option String
  deriving DecidableEq, Repr

def keyChangedWarning : String :=
  "This contact's profile keys changed without a valid rotation chain. " ++
    "Verify the new fingerprint with the contact through another channel before continuing."

/-- Whether a chain starts at the saved profile id and ends at the fetched one. No key is looked
    at, and nothing keeps the two ends apart. -/
def chainLinksSavedToFetched (saved : SavedContactProfile) (fetched : ProfileTrustView)
    (chain : List ProfileTrustView) : Bool :=
  match chain.head?, chain.getLast? with
  | some root, some tip => root.profileId == saved.profileId && tip.profileId == fetched.profileId
  | _, _ => false

/-- The verdict on a profile that was fetched for a contact. -/
def evaluateContactProfile (saved : Option SavedContactProfile) (fetched : ProfileTrustView)
    (chain : List ProfileTrustView) : ContactTrustResult :=
  match saved with
  | none => ⟨.first_use, none⟩
  | some saved =>
    if saved.mlDsaPublicKey = fetched.mlDsaPublicKey ∧ saved.mlKemPublicKey = fetched.mlKemPublicKey ∧
        saved.profileId = fetched.profileId then
      ⟨.trusted, none⟩
    else if (validateRotationChain chain).valid ∧ chainLinksSavedToFetched saved fetched chain then
      ⟨.rotation_verified, none⟩
    else ⟨.key_changed_blocking, some keyChangedWarning⟩

/-- A chain leads from a saved profile to a fetched one: a link before its tip is the saved
    profile, and the tip is the fetched one, each with its id and both keys. -/
def LeadsFromTo (saved : SavedContactProfile) (fetched : ProfileTrustView)
    (chain : List ProfileTrustView) : Prop :=
  (∃ link ∈ chain.dropLast, link.toSavedContactProfile = saved) ∧
    chain.getLast?.map ProfileTrustView.toSavedContactProfile = some fetched.toSavedContactProfile

instance (saved : SavedContactProfile) (fetched : ProfileTrustView)
    (chain : List ProfileTrustView) : Decidable (LeadsFromTo saved fetched chain) :=
  inferInstanceAs (Decidable (_ ∧ _))

/-- The verdict that a changed profile deserves. -/
def deservedVerdict (saved : SavedContactProfile) (fetched : ProfileTrustView)
    (chain : List ProfileTrustView) : ContactTrustVerdict :=
  if (validateRotationChain chain).valid ∧ LeadsFromTo saved fetched chain then .rotation_verified
  else .key_changed_blocking

/-- What the ids at the two ends of a valid chain say is true of the keys as well. -/
structure EndsFaithfully (saved : SavedContactProfile) (fetched : ProfileTrustView)
    (chain : List ProfileTrustView) : Prop where
  /-- A chain between the two ids passes through the saved profile, and ends in the fetched one. -/
  keyed : chain.head?.map (·.profileId) = some saved.profileId →
    chain.getLast?.map (·.profileId) = some fetched.profileId → LeadsFromTo saved fetched chain
  /-- A chain that leads from the saved profile to the fetched one starts at the saved id. -/
  rooted : LeadsFromTo saved fetched chain →
    chain.head?.map (·.profileId) = some saved.profileId

/-- Each link counts its position in the chain. -/
def Counted (i : Nat) (chain : List ProfileTrustView) : Prop :=
  ∀ j link, chain[j]? = some link → link.rotationSequence = i + j

/-- A link names the profile that the one before it retired. -/
def Names (previous link : ProfileTrustView) : Prop :=
  link.previousProfileId = some previous.profileId

section Chain

variable {i : Nat} {chain : List ProfileTrustView} {previous link : ProfileTrustView}

theorem linkFailure_eq_none {previous : Option ProfileTrustView} :
    linkFailure i previous link = none ↔
      link.rotationSequence = i ∧ link.previousProfileId = previous.map (·.profileId) := by
  unfold linkFailure
  cases previous with
  | none => split_ifs <;> simp_all
  | some previous => split_ifs <;> simp_all

theorem counted_nil : Counted i [] := by
  intro j link h
  simp at h

theorem counted_cons : Counted i (link :: chain) ↔ link.rotationSequence = i ∧ Counted (i + 1) chain := by
  constructor
  · intro h
    refine ⟨h 0 link rfl, fun j next hnext => ?_⟩
    have hcount := h (j + 1) next hnext
    omega
  · rintro ⟨hfirst, hrest⟩ j next hnext
    cases j with
    | zero =>
      obtain rfl : link = next := by simpa using hnext
      exact hfirst
    | succ j =>
      have hcount := hrest j next (by simpa using hnext)
      omega

theorem chainFailure_cons {previous : Option ProfileTrustView} :
    chainFailure i previous (link :: chain) = none ↔
      linkFailure i previous link = none ∧ chainFailure (i + 1) (some link) chain = none := by
  rw [chainFailure, Option.or_eq_none_iff]

/-- Behind a link, the others count on and name each the one before it. -/
theorem chainFailure_some :
    chainFailure i (some previous) chain = none ↔
      Counted i chain ∧ List.IsChain Names (previous :: chain) := by
  induction chain generalizing i previous with
  | nil => simp [chainFailure, counted_nil]
  | cons link chain ih =>
    rw [chainFailure_cons, linkFailure_eq_none, ih, counted_cons, List.isChain_cons_cons]
    constructor
    · rintro ⟨⟨hcount, hnames⟩, hrest, hlinked⟩
      exact ⟨⟨hcount, hrest⟩, hnames, hlinked⟩
    · rintro ⟨⟨hcount, hrest⟩, hnames, hlinked⟩
      exact ⟨⟨hcount, hnames⟩, hrest, hlinked⟩

/-- A chain is valid when its root names no profile, its links count up from zero, and each names
    the one before it. -/
theorem validateRotationChain_valid :
    (validateRotationChain chain).valid = true ↔
      ∃ root links, chain = root :: links ∧ root.previousProfileId = none ∧ Counted 0 chain ∧
        List.IsChain Names chain := by
  cases chain with
  | nil => simp [validateRotationChain]
  | cons root links =>
    have hvalid : (validateRotationChain (root :: links)).valid = true ↔
        chainFailure 0 none (root :: links) = none := by
      unfold validateRotationChain
      cases chainFailure 0 none (root :: links) <;> simp
    rw [hvalid, chainFailure_cons, linkFailure_eq_none, chainFailure_some, counted_cons]
    constructor
    · rintro ⟨⟨hcount, hroot⟩, hrest, hlinked⟩
      exact ⟨root, links, rfl, hroot, ⟨hcount, hrest⟩, hlinked⟩
    · rintro ⟨root', links', heq, hroot, ⟨hcount, hrest⟩, hlinked⟩
      obtain ⟨rfl, rfl⟩ := List.cons.inj heq
      exact ⟨⟨hcount, hroot⟩, hrest, hlinked⟩

/-- A root is a valid chain, whatever its keys. -/
theorem validateRotationChain_root (profile : SavedContactProfile) :
    (validateRotationChain [⟨profile, 0, none⟩]).valid = true :=
  validateRotationChain_valid.2 ⟨_, [], rfl, rfl, counted_cons.2 ⟨rfl, counted_nil⟩, .singleton _⟩

end Chain

section Verdict

variable {saved : SavedContactProfile} {fetched : ProfileTrustView} {chain : List ProfileTrustView}

theorem chainLinksSavedToFetched_iff :
    chainLinksSavedToFetched saved fetched chain = true ↔
      chain.head?.map (·.profileId) = some saved.profileId ∧
        chain.getLast?.map (·.profileId) = some fetched.profileId := by
  cases chain with
  | nil => simp [chainLinksSavedToFetched]
  | cons root links => simp [chainLinksSavedToFetched, List.getLast?_cons]

/-- A changed profile is never trusted at once. -/
theorem evaluateContactProfile_changed (hchanged : fetched.toSavedContactProfile ≠ saved) :
    (evaluateContactProfile (some saved) fetched chain).verdict =
      if (validateRotationChain chain).valid ∧ chainLinksSavedToFetched saved fetched chain then
        .rotation_verified
      else .key_changed_blocking := by
  have hkeys : ¬(saved.mlDsaPublicKey = fetched.mlDsaPublicKey ∧
      saved.mlKemPublicKey = fetched.mlKemPublicKey ∧ saved.profileId = fetched.profileId) := by
    rintro ⟨hdsa, hkem, hid⟩
    refine hchanged ?_
    obtain ⟨id, dsa, kem⟩ := saved
    exact (SavedContactProfile.mk.injEq ..).mpr ⟨hid.symm, hdsa.symm, hkem.symm⟩
  unfold evaluateContactProfile
  simp only [if_neg hkeys]
  split_ifs <;> rfl

/-- A key substitution under the saved id is cleared by a chain of one link, which anyone can
    write down: its root is its tip. -/
theorem substitution_verified (hchanged : fetched.toSavedContactProfile ≠ saved)
    (hid : fetched.profileId = saved.profileId) (claimed : SavedContactProfile)
    (hclaimed : claimed.profileId = saved.profileId) :
    (evaluateContactProfile (some saved) fetched [⟨claimed, 0, none⟩]).verdict =
      .rotation_verified := by
  rw [evaluateContactProfile_changed hchanged, if_pos]
  exact ⟨validateRotationChain_root claimed, chainLinksSavedToFetched_iff.2
    ⟨congrArg some hclaimed, congrArg some (hclaimed.trans hid.symm)⟩⟩

/-- The tip of a chain that leads to a profile has its id. -/
theorem LeadsFromTo.tip (h : LeadsFromTo saved fetched chain) :
    chain.getLast?.map (·.profileId) = some fetched.profileId := by
  obtain ⟨tip, htip, hfetched⟩ := Option.map_eq_some_iff.1 h.2
  rw [htip]
  exact congrArg (fun profile => some profile.profileId) hfetched

/-- The verdict on a changed profile is the one it deserves exactly when the chain is invalid, or
    the ids at its ends tell the truth about the keys. -/
theorem evaluateContactProfile_deserved_iff (hchanged : fetched.toSavedContactProfile ≠ saved) :
    (evaluateContactProfile (some saved) fetched chain).verdict =
        deservedVerdict saved fetched chain ↔
      ((validateRotationChain chain).valid = true → EndsFaithfully saved fetched chain) := by
  rw [evaluateContactProfile_changed hchanged, deservedVerdict]
  by_cases hvalid : (validateRotationChain chain).valid = true
  · have hends := @chainLinksSavedToFetched_iff saved fetched chain
    simp only [hvalid, true_and, true_implies]
    constructor
    · intro hsame
      refine ⟨fun hroot htip => ?_, fun hleads => ?_⟩
      · rw [if_pos (hends.2 ⟨hroot, htip⟩)] at hsame
        by_contra hnot
        rw [if_neg hnot] at hsame
        cases hsame
      · rw [if_pos hleads] at hsame
        by_contra hnot
        rw [if_neg fun h => hnot (hends.1 h).1] at hsame
        cases hsame
    · rintro ⟨hkeyed, hrooted⟩
      by_cases hleads : LeadsFromTo saved fetched chain
      · rw [if_pos hleads, if_pos (hends.2 ⟨hrooted hleads, hleads.tip⟩)]
      · rw [if_neg hleads, if_neg fun h => hleads (hkeyed (hends.1 h).1 (hends.1 h).2)]
  · simp [hvalid]

/-- A saved profile, and one that was fetched under the same id with another signing key. -/
def sampleSaved : SavedContactProfile := ⟨[0x11], [0x22], [0x33]⟩

def sampleSubstituted : ProfileTrustView := ⟨⟨[0x11], [0x66], [0x33]⟩, 0, none⟩

/-- A rotation, with the chain that proves it. -/
def sampleRotated : ProfileTrustView := ⟨⟨[0x44], [0x55], [0x66]⟩, 1, some [0x11]⟩

theorem rotated_deserved :
    sampleRotated.toSavedContactProfile ≠ sampleSaved ∧
      (evaluateContactProfile (some sampleSaved) sampleRotated
          [⟨sampleSaved, 0, none⟩, sampleRotated]).verdict =
        deservedVerdict sampleSaved sampleRotated [⟨sampleSaved, 0, none⟩, sampleRotated] := by
  have hchanged : sampleRotated.toSavedContactProfile ≠ sampleSaved := by decide
  have hleads : LeadsFromTo sampleSaved sampleRotated [⟨sampleSaved, 0, none⟩, sampleRotated] := by
    decide
  exact ⟨hchanged, (evaluateContactProfile_deserved_iff hchanged).2
    fun _ => ⟨fun _ _ => hleads, fun _ => rfl⟩⟩

/-- The substituted key is cleared by the fetched profile alone, as the only link. -/
theorem substituted_undeserved :
    sampleSubstituted.toSavedContactProfile ≠ sampleSaved ∧
      (evaluateContactProfile (some sampleSaved) sampleSubstituted [sampleSubstituted]).verdict =
        .rotation_verified ∧
      deservedVerdict sampleSaved sampleSubstituted [sampleSubstituted] = .key_changed_blocking := by
  have hchanged : sampleSubstituted.toSavedContactProfile ≠ sampleSaved := by decide
  exact ⟨hchanged, substitution_verified hchanged rfl _ rfl, by decide⟩

end Verdict

end cemp.core
