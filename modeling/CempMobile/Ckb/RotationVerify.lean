import CempMobile.Ckb.Types

open cemp.core

namespace cemp.ckb

/-- `getTransactionBody`: the transaction with a hash, if the node knows it, or a failed call. -/
abbrev BodyClient : Type := Hash → Except Error (Option RawTransaction)

/-- The retired profile cell, and the profile id that is claimed for it. -/
structure RotationPredecessorRef where
  outPoint : OutPoint
  profileId : ProfileId
  deriving DecidableEq, Repr

structure ResolvedProfile where
  cell : Cell
  profile : CempProfileV1
  deriving DecidableEq, Repr

/-- A claimed link: a profile cell that succeeds another one. -/
structure RotationLink where
  predecessor : RotationPredecessorRef
  successor : ResolvedProfile
  deriving DecidableEq, Repr

/-- The profile id of a resolved cell: the args of its type script. -/
def ResolvedProfile.typeArgs (resolved : ResolvedProfile) : Option ProfileId :=
  resolved.cell.output.type.map (·.args)

/-- Verifies one link. The args of the successor's type script only have to be there. -/
def verifyRotationLinkOnChain (client : BodyClient) (predecessor : RotationPredecessorRef)
    (successor : ResolvedProfile) : Except Error Unit := do
  match successor.typeArgs with
  | none => throw (.ckb "rotation-verify" "successor cell has no type script")
  | some _ =>
    let creatingTxHash := successor.cell.outPoint.txHash
    let body ← client creatingTxHash
    match body with
    | none =>
      throw (.ckb "rotation-verify"
        ("node does not know the creating tx " ++ toString creatingTxHash))
    | some body =>
      if predecessor.outPoint ∉ body.inputs then
        throw (.ckb "rotation-verify"
          "the successor's creating transaction did not consume the claimed predecessor cell")
      else
        match successor.profile.previous_profile_id with
        | none => throw (.ckb "rotation-verify" "successor profile has no previous_profile_id")
        | some backRef =>
          if backRef ≠ predecessor.profileId then
            throw (.ckb "rotation-verify"
              "previous_profile_id does not name the consumed predecessor's profile id")
          else return ()

/-- The links from a position on, one after the other. -/
def verifyLinks (client : BodyClient) : Nat → List RotationLink → Except Error Unit
  | _, [] => return ()
  | index, link :: links =>
    match verifyRotationLinkOnChain client link.predecessor link.successor with
    | .error e =>
      throw (.ckb "rotation-verify" ("link " ++ toString index ++ " failed: " ++ e.message))
    | .ok () => verifyLinks client (index + 1) links

/-- Verifies a claimed rotation chain, newest link last. No link is compared with the next one. -/
def verifyRotationChainOnChain (client : BodyClient) (links : List RotationLink) :
    Except Error Unit :=
  if links.isEmpty then throw (.ckb "rotation-verify" "empty rotation chain")
  else verifyLinks client 0 links

/-- The transactions that are on chain. -/
def chainBody (client : BodyClient) (txHash : Hash) : Option RawTransaction :=
  (client txHash).toOption.join

/-- The cell that was created at an outpoint, whether or not it is still live. -/
def cellAt (client : BodyClient) (outPoint : OutPoint) : Option CellOutput :=
  (chainBody client outPoint.txHash).bind fun body => body.outputs[outPoint.index]?

/-- The successor's creating transaction spends the cell at the predecessor's outpoint. -/
def Spends (client : BodyClient) (link : RotationLink) : Prop :=
  ∃ body, chainBody client link.successor.cell.outPoint.txHash = some body ∧
    link.predecessor.outPoint ∈ body.inputs

/-- The successor's data names the profile id that is claimed for the predecessor. -/
def NamesPredecessor (link : RotationLink) : Prop :=
  link.successor.profile.previous_profile_id = some link.predecessor.profileId

/-- The cell at the predecessor's outpoint has the profile id that is claimed for it. -/
def CarriesClaim (client : BodyClient) (link : RotationLink) : Prop :=
  ((cellAt client link.predecessor.outPoint).bind (·.type)).map (·.args) =
    some link.predecessor.profileId

/-- A link starts where the one before it ends: at the same cell, with the same profile id. -/
def Continues (link next : RotationLink) : Prop :=
  link.successor.cell.outPoint = next.predecessor.outPoint ∧
    link.successor.typeArgs = some next.predecessor.profileId

/-- The links are one path of profile cells, each of which was spent for the next. -/
structure RotationPath (client : BodyClient) (links : List RotationLink) : Prop where
  connected : List.IsChain Continues links
  spent : ∀ link ∈ links, Spends client link
  carried : ∀ link ∈ links, CarriesClaim client link
  named : ∀ link ∈ links, NamesPredecessor link

/-- What is checked of a link. -/
structure LinkChecked (client : BodyClient) (link : RotationLink) : Prop where
  typed : link.successor.typeArgs.isSome
  spent : Spends client link
  named : NamesPredecessor link

section Verify

variable {client : BodyClient} {link : RotationLink} {links : List RotationLink}

theorem chainBody_of_ok {txHash : Hash} {body : Option RawTransaction}
    (h : client txHash = .ok body) : chainBody client txHash = body := by
  unfold chainBody
  rw [h]
  cases body <;> rfl

theorem chainBody_of_error {txHash : Hash} {e : Error} (h : client txHash = .error e) :
    chainBody client txHash = none := by
  unfold chainBody
  rw [h]
  rfl

/-- A link is accepted exactly when it passes the three checks. -/
theorem verifyRotationLinkOnChain_ok :
    verifyRotationLinkOnChain client link.predecessor link.successor = .ok () ↔
      LinkChecked client link := by
  unfold verifyRotationLinkOnChain
  cases htyped : link.successor.typeArgs with
  | none =>
    refine ⟨nofun, fun h => ?_⟩
    have hsome := h.typed
    rw [htyped] at hsome
    cases hsome
  | some args =>
    cases hbody : client link.successor.cell.outPoint.txHash with
    | error e =>
      have hchain := chainBody_of_error hbody
      simp only [hbody, bind, Except.bind]
      refine ⟨nofun, fun h => ?_⟩
      obtain ⟨body, hknown, -⟩ := h.spent
      rw [hchain] at hknown
      cases hknown
    | ok body =>
      have hchain := chainBody_of_ok hbody
      simp only [hbody, bind, Except.bind]
      cases body with
      | none =>
        refine ⟨nofun, fun h => ?_⟩
        obtain ⟨body, hknown, -⟩ := h.spent
        rw [hchain] at hknown
        cases hknown
      | some body =>
        simp only
        have hspends : Spends client link ↔ link.predecessor.outPoint ∈ body.inputs := by
          constructor
          · rintro ⟨body', hknown, hmem⟩
            obtain rfl := Option.some.inj (hchain.symm.trans hknown)
            exact hmem
          · exact fun hmem => ⟨body, hchain, hmem⟩
        by_cases hinput : link.predecessor.outPoint ∈ body.inputs
        · have hspent := hspends.2 hinput
          rw [if_neg (not_not.2 hinput)]
          cases hback : link.successor.profile.previous_profile_id with
          | none =>
            refine ⟨nofun, fun h => ?_⟩
            have hnamed : link.successor.profile.previous_profile_id =
              some link.predecessor.profileId := h.named
            rw [hback] at hnamed
            cases hnamed
          | some backRef =>
            by_cases hsame : backRef = link.predecessor.profileId
            · subst hsame
              exact ⟨fun _ => ⟨by rw [htyped]; rfl, hspent, hback⟩, fun _ => if_neg (not_not.2 rfl)⟩
            · simp only [ne_eq, hsame, not_false_eq_true, if_true]
              refine ⟨nofun, fun h => ?_⟩
              have hnamed : link.successor.profile.previous_profile_id =
                some link.predecessor.profileId := h.named
              rw [hback] at hnamed
              exact absurd (Option.some.inj hnamed) hsame
        · rw [if_pos hinput]
          exact ⟨nofun, fun h => absurd (hspends.1 h.spent) hinput⟩

theorem verifyLinks_ok {index : Nat} :
    verifyLinks client index links = .ok () ↔ ∀ link ∈ links, LinkChecked client link := by
  induction links generalizing index with
  | nil => exact iff_of_true rfl (List.forall_mem_nil _)
  | cons link links ih =>
    rw [List.forall_mem_cons, ← verifyRotationLinkOnChain_ok, ← @ih (index + 1), verifyLinks]
    cases verifyRotationLinkOnChain client link.predecessor link.successor with
    | error e => exact ⟨nofun, fun h => nomatch h.1⟩
    | ok _ => exact ⟨fun h => ⟨rfl, h⟩, fun h => h.2⟩

/-- A chain is accepted exactly when it is not empty and each of its links passes the checks. -/
theorem verifyRotationChainOnChain_ok :
    verifyRotationChainOnChain client links = .ok () ↔
      links ≠ [] ∧ ∀ link ∈ links, LinkChecked client link := by
  unfold verifyRotationChainOnChain
  cases links with
  | nil => exact ⟨nofun, fun h => absurd rfl h.1⟩
  | cons link links => exact verifyLinks_ok.trans ⟨fun h => ⟨by simp, h⟩, fun h => h.2⟩

/-- Acceptance means a path exactly when links that pass the checks are connected and claim the
    ids that the retired cells have. -/
theorem verifyRotationChainOnChain_path_iff (client : BodyClient) (links : List RotationLink) :
    (verifyRotationChainOnChain client links = .ok () → RotationPath client links) ↔
      ((∀ link ∈ links, LinkChecked client link) →
        List.IsChain Continues links ∧ ∀ link ∈ links, CarriesClaim client link) := by
  rw [verifyRotationChainOnChain_ok]
  constructor
  · intro hpath hchecked
    by_cases hempty : links = []
    · subst hempty
      exact ⟨.nil, fun _ h => by cases h⟩
    · obtain ⟨hconnected, -, hcarried, -⟩ := hpath ⟨hempty, hchecked⟩
      exact ⟨hconnected, hcarried⟩
  · rintro hclaims ⟨-, hchecked⟩
    obtain ⟨hconnected, hcarried⟩ := hclaims hchecked
    exact ⟨hconnected, fun link hlink => (hchecked link hlink).spent, hcarried,
      fun link hlink => (hchecked link hlink).named⟩

/-- A profile cell of a chain, and the profile it carries. -/
def sampleProfileOutput (profileId : ProfileId) : CellOutput :=
  ⟨3409, ⟨0x77, .type, []⟩, some ⟨0x545950455f4944, .type, profileId⟩, .bytes []⟩

def sampleSuccessor (txHash : Hash) (profileId previous : ProfileId) : ResolvedProfile :=
  ⟨⟨⟨txHash, 0⟩, sampleProfileOutput profileId⟩,
    { protocol_version := 1, sig_algorithm := ⟨0x01, 61⟩, kem_algorithm := ⟨0x02, 3⟩,
      ml_dsa_public_key := [], ml_kem_public_key := [], lock_script_hash := [],
      supported_protocol_versions := [1], supported_attachments := 0, handle := none,
      icon_hash := none, key_created_at := 0, rotation_sequence := 1,
      previous_profile_id := some previous, revoked := 0 }⟩

/-- Two rotations of two wallets: the profile `0xa1` became `0xa2`, and `0xb1` became `0xb2`. -/
def sampleRotations : BodyClient := fun txHash =>
  .ok (match txHash with
    | 1 => some ⟨[], [sampleProfileOutput [0xa1]]⟩
    | 2 => some ⟨[⟨1, 0⟩], [sampleProfileOutput [0xa2]]⟩
    | 3 => some ⟨[], [sampleProfileOutput [0xb1]]⟩
    | 4 => some ⟨[⟨3, 0⟩], [sampleProfileOutput [0xb2]]⟩
    | _ => none)

def sampleLinks : List RotationLink :=
  [⟨⟨⟨1, 0⟩, [0xa1]⟩, sampleSuccessor 2 [0xa2] [0xa1]⟩,
    ⟨⟨⟨3, 0⟩, [0xb1]⟩, sampleSuccessor 4 [0xb2] [0xb1]⟩]

/-- A chain that ends in another wallet's profile is accepted. -/
theorem unrelated_links_accepted :
    verifyRotationChainOnChain sampleRotations sampleLinks = .ok () ∧
      ¬RotationPath sampleRotations sampleLinks := by
  refine ⟨rfl, fun h => ?_⟩
  obtain ⟨hcell, -⟩ := (List.isChain_cons_cons.1 h.connected).1
  exact absurd hcell (by decide)

end Verify

end cemp.ckb
