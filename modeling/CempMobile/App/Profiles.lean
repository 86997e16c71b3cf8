import CempMobile.Ckb.Publisher

open cemp.core cemp.database cemp.ckb

namespace cemp.app

def TYPE_ID_CODE_HASH : Hash := 0x545950455f4944

/-- What a `MessagingService` is built with, as far as publishing a profile reads it. -/
structure ProfileDeps where
  pipeline : PipelineDeps
  accountId : Nat
  mlDsaPublicKey : Bytes
  mlKemPublicKey : Bytes
  /-- The hash of the signer's lock script. -/
  lockScriptHash : Bytes
  encodeCempProfileV1 : CempProfileV1 → Bytes
  /-- `hashTypeId` of the first input and the index of the output. -/
  hashTypeId : OutPoint → Nat → Bytes

/-- The profile a device publishes first. -/
def ProfileDeps.profile (deps : ProfileDeps) (handle : String) (nowMs : Nat) : CempProfileV1 where
  protocol_version := 1
  sig_algorithm := ⟨0x01, 61⟩
  kem_algorithm := ⟨0x02, 3⟩
  ml_dsa_public_key := deps.mlDsaPublicKey
  ml_kem_public_key := deps.mlKemPublicKey
  lock_script_hash := deps.lockScriptHash
  supported_protocol_versions := [1]
  supported_attachments := 0
  handle := some handle.toUTF8.toList
  icon_hash := none
  key_created_at := nowMs / 1000
  rotation_sequence := 0
  previous_profile_id := none
  revoked := 0

/-- One profile cell, typed by a Type ID over the first input. The args of the type script are put
    in after coin selection; they have the size of the placeholder. -/
def buildCreateProfileTx (deps : ProfileDeps) (profile : CempProfileV1) : Prog BuiltTransaction :=
  match validateProfile deps.encodeCempProfileV1 profile with
  | .fail reason => throw (.ckb "buildCreateProfileTx" ("profile rejected: " ++ reason))
  | .ok => do
    let shape : CellOutput := ⟨0, deps.pipeline.lock,
      some ⟨TYPE_ID_CODE_HASH, .type, List.replicate 32 0⟩, .bytes (deps.encodeCempProfileV1 profile)⟩
    let profileOutput :=
      { shape with capacity := deps.pipeline.occupiedCapacity shape + CAPACITY_MARGIN }
    let completion ← call (.completeTransaction ⟨[], [profileOutput]⟩)
    match completion.inputs with
    | [] => throw (.ckb "buildCreateProfileTx" "coin selection added no inputs")
    | firstInput :: _ =>
      if completion.estimatedFee = 0 then
        throw (.ckb "builders" "fee completion left a non-positive fee (0)")
      else
        let typeArgs := deps.hashTypeId firstInput 0
        return ⟨⟨completion.inputs,
          { profileOutput with type := some ⟨TYPE_ID_CODE_HASH, .type, typeArgs⟩ } ::
            (completion.change.map (changeOutput deps.pipeline)).toList⟩, completion.estimatedFee⟩

/-- The args of the type script of the first output: the id of a new profile. -/
def profileIdOf (tx : RawTransaction) : ProfileId :=
  ((tx.outputs.head?.bind (·.type)).map (·.args)).getD []

/-- The id of the profile, and the transaction unless it was published already. -/
structure PublishMyProfileResult where
  profileId : ProfileId
  txHash : Option Hash
  deriving DecidableEq, Repr

/-- Publishes a profile cell and stores the active profile when the cell is committed. -/
def publishNewProfile (deps : ProfileDeps) (handle : String) : Prog PublishMyProfileResult := do
  let nowMs ← call .now
  let built ← buildCreateProfileTx deps (deps.profile handle nowMs)
  let typeArgs := profileIdOf built.tx
  let signed ← call (.signTransaction built.tx)
  store (.recordOutgoingTx
    { txHash := signed.hash
      purpose := .profileCreate
      state := .submitted
      feeShannon := some built.estimatedFee
      capacityShannon := none
      txHex := some signed })
  let accepted ← call (.sendTransaction signed)
  if accepted ≠ signed.hash then
    throw (.other "publishMyProfile: node returned a different tx hash")
  else
    trackBroadcastSpend signed
    waitForTransactionCommit signed.hash none
    store (.markOutgoingTxState signed.hash .committed)
    store (.createProfile
      { accountId := deps.accountId
        profileIdHex := typeArgs
        typeIdHex := some typeArgs
        outpointTxHash := some signed.hash
        outpointIndex := some 0
        state := .active
        previousProfileIdHex := none })
    return ⟨typeArgs, some signed.hash⟩

/-- `MessagingService.publishMyProfile`: a second profile is not published once one is stored. -/
def publishMyProfile (deps : ProfileDeps) (handle : String) : Prog PublishMyProfileResult := do
  let existing ← store (.getActiveProfileByAccount deps.accountId)
  match existing with
  | some active => return ⟨active.profileIdHex, none⟩
  | none => publishNewProfile deps handle

end cemp.app
