import CempMobile.Images.Reclaim
import CempMobile.Sync.Workers

open cemp.core cemp.database cemp.ckb cemp.images

namespace cemp.sync

/-- The cell that a chain reference names, when it is complete. -/
def cellOf : Option MessageChainRef → Option OutPoint
  | some ⟨_, some txHash, some outpointIndex, _, _⟩ => some ⟨txHash, outpointIndex⟩
  | _ => none

/-- The first attachment of a message that has a manifest. -/
def withManifest (attachments : List (Nat × Attachment)) :
    Option (Attachment × AttachmentManifestV1) :=
  attachments.findSome? fun a => a.2.manifest.map fun manifest => (a.2, manifest)

/-- Reclaims the group of one message, if its recipient confirmed the download and no reclaim of
    the group is committed yet. The message cell comes first, then the chunk cells in order. -/
def reclaimMessageGroup (deps : PipelineDeps) (message : Nat × Message) : Prog Unit := do
  let attachments ← store (.listAttachments message.1)
  match withManifest attachments with
  | none => return ()
  | some (attachment, manifest) =>
    if attachment.remoteDownloaded = false then return ()
    else
      let journaled ← store (.findLatestOutgoingTxByPurposePrefix
        (.exactly (.reclaimAttachment manifest.reclaim_group_id)))
      if journaled.map (·.state) = some .committed then return ()
      else
        let ref ← store (.getChainRef message.1)
        let outpoints := (cellOf ref).toList ++ manifest.chunk_outpoints
        call (.reclaiming message.1 outpoints)
        let _ ← reclaimAttachmentGroup deps manifest.reclaim_group_id outpoints none
        return ()

/-- The reclaim of the attachment groups. A failing group does not stop those behind it. -/
def reclaimAttachmentGroups (deps : PipelineDeps) : Prog Unit := do
  let rows ← store (.listMessagesByState [.reclaimed])
  Program.forEach (fun message => (reclaimMessageGroup deps message).catchError fun _ => return ())
    (rows.filter fun row => row.2.direction == .outgoing)

/-- The reclaim worker: a batch, then the attachment groups. -/
def runReclaimBatch (deps : PipelineDeps) : Prog Unit := do
  let _ ← executeReclaimBatch deps none
  reclaimAttachmentGroups deps

section Steps

variable (deps : PipelineDeps)

theorem reclaimMessageGroup_uses (message : Nat × Message) :
    Program.Uses PlainWork (reclaimMessageGroup deps message) := by
  refine (plain_access rfl rfl rfl rfl).bind fun attachments => ?_
  split
  · trivial
  next attachment manifest _ =>
    split
    · trivial
    refine (plain_access rfl rfl rfl rfl).bind fun journaled => ?_
    split
    · trivial
    refine (plain_access rfl rfl rfl rfl).bind fun ref => ?_
    refine Program.Uses.bind (plain_call ⟨trivial, rfl⟩) fun _ => ?_
    refine Program.Uses.bind ((reclaimAttachmentGroup_steps _ _).mono ?_) fun _ => trivial
    exact fun _ _ h => ReclaimStep.plain h

theorem runReclaimBatch_uses : Program.Uses PlainWork (runReclaimBatch deps) := by
  refine (executeReclaimBatch_uses deps none).bind fun _ => ?_
  refine (plain_access rfl rfl rfl rfl).bind fun rows => ?_
  exact Program.Uses.forEach fun message _ =>
    Program.Uses.catchError (reclaimMessageGroup_uses deps message) fun _ => trivial

end Steps

end cemp.sync
