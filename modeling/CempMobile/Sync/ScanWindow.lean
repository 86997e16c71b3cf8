import CempMobile.Sync.Downloads
import CempMobile.Sync.ResponseFailures

open cemp.core cemp.database cemp.database.MessageRepository cemp.database.AttachmentRepository
open cemp.ckb cemp.images

namespace cemp.sync

/-- A wallet during a pass over the attachment groups. -/
structure GroupScan where
  db : Db
  /-- The row whose attachments were listed last. -/
  current : Option Nat
  /-- The rows whose group reclaim was called. -/
  attempted : List Nat
  /-- The rows whose group the pass found committed in the journal. -/
  settled : List Nat

def GroupScan.start (db : Db) : GroupScan := ⟨db, none, [], []⟩

/-- What is learnt from an operation and its answer. -/
def GroupScan.observe : {β : Type} → Op β → Except Error β → GroupScan → GroupScan
  | _, .store (.listAttachments rowId), _, w => { w with current := some rowId }
  | _, .store (.findLatestOutgoingTxByPurposePrefix _), .ok journaled, w =>
    if journaled.map (·.state) = some .committed then
      { w with settled := w.current.toList ++ w.settled }
    else w
  | _, .reclaiming rowId _, _, w => { w with attempted := rowId :: w.attempted }
  | _, _, _, w => w

/-- The steps of the pass. Whatever is answered from outside the database is allowed. -/
def groupScanEffect : Program.Effect Op Error GroupScan := fun _ op w answer w' =>
  match op with
  | .store access =>
    answer = (access.exec w.db).1 ∧
      w' = { w with db := (access.exec w.db).2 }.observe (.store access) answer
  | op => w' = w.observe op answer

/-- The attachment that a row's recipient has confirmed to have downloaded, and its group. -/
def confirmedGroup (db : Db) (rowId : Nat) : Option AttachmentManifestV1 :=
  (withManifest (ofMessage db rowId)).bind fun found =>
    if found.1.remoteDownloaded then some found.2 else none

/-- An outgoing reclaimed message whose attachment is confirmed downloaded, with no committed
    reclaim of the group in the journal. -/
structure OwesGroup (db : Db) (row : Nat × Message) : Prop where
  stored : row ∈ db.messages.rows
  reclaimed : row.2.state = .reclaimed
  outgoing : row.2.direction = .outgoing
  group : ∃ manifest, confirmedGroup db row.1 = some manifest ∧
    (OutgoingTransactionRepository.latestByPurposePrefix db
      (.exactly (.reclaimAttachment manifest.reclaim_group_id))).map (·.state) ≠ some .committed

/-- The pass called the group reclaim of every such message, unless it found the group committed by
    the time that it came to the message. -/
def AttemptsGroups (db : Db) (w : GroupScan) : Prop :=
  ∀ row, OwesGroup db row → row.1 ∈ w.attempted ∨ row.1 ∈ w.settled

/-- The rows are among those that a worker reads of a state. -/
def InWindow (db : Db) (state : MessageState) (owed : Nat × Message → Prop) : Prop :=
  ∀ row, owed row → row ∈ selectByState db [state] 500

section Groups

variable {db : Db} {w w' : GroupScan} {deps : PipelineDeps} {rows : List Nat} {rowId : Nat}

/-- What is known all through a pass that has come to some rows. -/
structure GroupScan.Within (db : Db) (rows : List Nat) (w : GroupScan) : Prop where
  attachments : w.db.attachments = db.attachments
  current : ∀ rowId ∈ w.current, rowId ∈ rows
  attempted : ∀ rowId ∈ w.attempted, rowId ∈ rows
  settled : ∀ rowId ∈ w.settled, rowId ∈ rows

def GroupScan.Reached (rowId : Nat) (w : GroupScan) : Prop :=
  rowId ∈ w.attempted ∨ rowId ∈ w.settled

theorem GroupScan.Within.start : GroupScan.Within db rows (.start db) :=
  ⟨rfl, nofun, nofun, nofun⟩

theorem GroupScan.Within.mono {others : List Nat} (within : w.Within db rows)
    (hsub : rows ⊆ others) : w.Within db others :=
  ⟨within.attachments, fun id h => hsub (within.current id h),
    fun id h => hsub (within.attempted id h), fun id h => hsub (within.settled id h)⟩

/-- Finding a group committed counts for the row that the pass has come to. -/
theorem GroupScan.Within.observe_journal (within : w.Within db rows) (start : PurposePrefix)
    (answer : Except Error (Option OutgoingTransaction)) :
    (w.observe (.store (.findLatestOutgoingTxByPurposePrefix start)) answer).Within db rows := by
  cases answer with
  | error e => exact within
  | ok journaled =>
    simp only [GroupScan.observe]
    split
    · refine ⟨within.attachments, within.current, within.attempted, fun id hid => ?_⟩
      rcases List.mem_append.1 hid with hnow | hbefore
      · exact within.current id (by simpa using hnow)
      · exact within.settled id hbefore
    · exact within

/-- A step of a group reclaim keeps what is known. -/
theorem GroupScan.Within.step {covers : TxPurpose → Prop} {β : Type} {op : Op β}
    {answer : Except Error β} (hop : ReclaimStep covers β op) (within : w.Within db rows)
    (heffect : groupScanEffect β op w answer w') : w'.Within db rows := by
  cases op with
  | store access =>
    obtain ⟨-, rfl⟩ := heffect
    have hkept : { w with db := (access.exec w.db).2 }.Within db rows := by
      obtain ⟨hflags, hattaches⟩ := ReclaimStep.unflagging hop
      have hnone : access.attaches = none := by
        cases access with
        | createAttachment input => exact hop.elim
        | _ => rfl
      exact ⟨(attachments_exec hnone hflags w.db).trans within.attachments, within.current,
        within.attempted, within.settled⟩
    cases access with
    | findLatestOutgoingTxByPurposePrefix start => exact hkept.observe_journal start _
    | listAttachments rowId => exact hop.elim
    | _ => exact hkept
  | reclaiming rowId outpoints => exact hop.elim
  | _ =>
    obtain rfl : w' = w := heffect
    exact within

/-- What was reached stays reached. -/
theorem GroupScan.Reached.step {β : Type} {op : Op β} {answer : Except Error β}
    (reached : w.Reached rowId) (heffect : groupScanEffect β op w answer w') : w'.Reached rowId := by
  cases op with
  | store access =>
    obtain ⟨-, rfl⟩ := heffect
    cases access with
    | findLatestOutgoingTxByPurposePrefix start =>
      cases answer with
      | error e => exact reached
      | ok journaled =>
        simp only [GroupScan.observe]
        split
        · exact reached.imp (fun h => h) (List.mem_append_right _)
        · exact reached
    | _ => exact reached
  | reclaiming other outpoints =>
    obtain rfl := heffect
    exact reached.imp (List.mem_cons_of_mem _) fun h => h
  | _ =>
    obtain rfl : w' = w := heffect
    exact reached

theorem always_reached {α : Type} (p : Prog α) (reached : w.Reached rowId) :
    Program.Always groupScanEffect Program.Anywhere p w fun _ w' => w'.Reached rowId :=
  Program.always_invariant (fun _ _ _ _ _ heffect h => h.step heffect) p reached

theorem always_reclaimAttachmentGroup_reached (reclaimGroupId : Bytes) (outpoints : List OutPoint)
    (within : w.Within db rows) (reached : w.Reached rowId) :
    Program.Always groupScanEffect Program.Anywhere
      (reclaimAttachmentGroup deps reclaimGroupId outpoints none) w
      fun _ w' => w'.Within db rows ∧ w'.Reached rowId := by
  have kept : Program.Always groupScanEffect Program.Anywhere
      (reclaimAttachmentGroup deps reclaimGroupId outpoints none) w
      fun _ w' => w'.Within db rows :=
    (reclaimAttachmentGroup_steps _ _).always
      (fun β op w hop hw => ⟨trivial, fun r w' heffect => hw.step hop heffect⟩) within
  exact (kept.and (always_reached _ reached)).weaken fun _ _ _ _ => trivial

/-- Coming to one row reaches it, where its group is owed, and no other row. -/
theorem always_reclaimMessageGroup_reaches (message : Nat × Message) (hrow : message.1 ∈ rows)
    (within : w.Within db rows) :
    Program.Always groupScanEffect Program.Anywhere (reclaimMessageGroup deps message) w fun _ w' =>
      w'.Within db rows ∧ ((confirmedGroup db message.1).isSome → w'.Reached message.1) := by
  unfold reclaimMessageGroup
  simp only [Program.bind_eq_bind, Program.pure_eq_ret]
  refine Program.Always.step trivial ?_ ?_
  · rintro e w' ⟨hanswer, -⟩
    cases hanswer
  rintro attachments w' ⟨hanswer, rfl⟩
  have hlisted : attachments = ofMessage db message.1 := by
    have : attachments = ofMessage w.db message.1 := Except.ok.inj hanswer
    rw [this, ofMessage, ofMessage, within.attachments]
  have hcurrent : GroupScan.Within db rows { w with current := some message.1 } :=
    ⟨within.attachments, fun id hid => Option.mem_some_iff.1 hid ▸ hrow, within.attempted,
      within.settled⟩
  subst hlisted
  split
  next hnone =>
    refine ⟨hcurrent, fun hconfirmed => ?_⟩
    simp [confirmedGroup, hnone] at hconfirmed
  next attachment manifest hmanifest =>
    split
    next hflag =>
      refine ⟨hcurrent, fun hconfirmed => ?_⟩
      simp [confirmedGroup, hmanifest, hflag] at hconfirmed
    next hflag =>
      refine Program.Always.step trivial ?_ ?_
      · rintro e w' ⟨hanswer, -⟩
        cases hanswer
      rintro journaled w' ⟨-, rfl⟩
      have hlooked := hcurrent.observe_journal
        (.exactly (.reclaimAttachment manifest.reclaim_group_id)) (.ok journaled)
      split
      next hcommitted =>
        refine ⟨hlooked, fun _ => .inr ?_⟩
        simp [GroupScan.observe, hcommitted]
      next hcommitted =>
        have hopen : GroupScan.observe (.store (.findLatestOutgoingTxByPurposePrefix
            (.exactly (.reclaimAttachment manifest.reclaim_group_id)))) (.ok journaled)
            { w with current := some message.1 } = { w with current := some message.1 } := by
          simp only [GroupScan.observe, if_neg hcommitted]
        change Program.Always groupScanEffect Program.Anywhere _ (GroupScan.observe
          (.store (.findLatestOutgoingTxByPurposePrefix _)) (.ok journaled)
            { w with current := some message.1 }) _
        rw [hopen]
        refine Program.Always.step trivial ?_ ?_
        · rintro e w' ⟨hanswer, -⟩
          cases hanswer
        rintro ref w' ⟨-, rfl⟩
        have hcalled : GroupScan.Within db rows { w with
            current := some message.1
            attempted := message.1 :: w.attempted } := by
          refine ⟨hcurrent.attachments, hcurrent.current, fun id hid => ?_, hcurrent.settled⟩
          rcases List.mem_cons.1 hid with rfl | hbefore
          · exact hrow
          · exact within.attempted id hbefore
        refine Program.Always.step trivial ?_ ?_
        · rintro e w' rfl
          exact ⟨hcalled, fun _ => .inl List.mem_cons_self⟩
        rintro - w' rfl
        exact (always_reclaimAttachmentGroup_reached _ _ hcalled (.inl List.mem_cons_self)).bind
          (fun _ _ h => ⟨h.1, fun _ => h.2⟩) fun _ _ h => ⟨h.1, fun _ => h.2⟩

/-- The outgoing rows that a pass comes to. -/
def scannedRows (db : Db) : List (Nat × Message) :=
  (selectByState db [.reclaimed] 500).filter fun row => row.2.direction == .outgoing

/-- A failing group does not stop the pass. -/
theorem always_guarded {message : Nat × Message} {known : GroupScan → Prop}
    (h : Program.Always groupScanEffect Program.Anywhere (reclaimMessageGroup deps message) w
      fun _ w' => known w') :
    Program.Always groupScanEffect Program.Anywhere
      ((reclaimMessageGroup deps message).catchError fun _ => Program.ret ()) w
      (Program.OkOr known fun _ _ => False) :=
  h.swallow

/-- What a pass has reached: every row among those it reads whose attachment is confirmed, and no
    other row. -/
theorem groups_reached {out : Except Error Unit}
    (hrun : Program.Runs groupScanEffect (reclaimAttachmentGroups deps) (.start db) out w') :
    w'.Within db ((scannedRows db).map (·.1)) ∧
      ∀ row ∈ scannedRows db, (confirmedGroup db row.1).isSome → w'.Reached row.1 := by
  have hloop : Program.Runs groupScanEffect (Program.forEach (fun message =>
      (reclaimMessageGroup deps message).catchError fun _ => Program.ret ()) (scannedRows db))
      (.start db) out w' := by
    rcases Program.runs_bind.1 hrun with ⟨listed, mid, hlist, hrest⟩ | ⟨e, hlist, -⟩
    · obtain ⟨hanswer, rfl⟩ := Program.runs_perform.1 hlist
      obtain rfl := Except.ok.inj hanswer
      exact hrest
    · obtain ⟨hanswer, -⟩ := Program.runs_perform.1 hlist
      cases hanswer
  have body : ∀ row ∈ scannedRows db, ∀ w : GroupScan,
      w.Within db ((scannedRows db).map (·.1)) →
      Program.Always groupScanEffect Program.Anywhere
        ((reclaimMessageGroup deps row).catchError fun _ => Program.ret ()) w
        (Program.OkOr (fun w' => w'.Within db ((scannedRows db).map (·.1)) ∧
          ((confirmedGroup db row.1).isSome → w'.Reached row.1)) fun _ _ => False) := by
    intro row hrow w hw
    exact always_guarded (always_reclaimMessageGroup_reaches row (List.mem_map_of_mem hrow) hw)
  constructor
  · have kept := Program.Always.forEach (GroupScan.Within db ((scannedRows db).map (·.1)))
      (fun _ _ => False) (fun row hrow w hw => (body row hrow w hw).mono fun r w' h => by
        cases r with
        | ok _ => exact h.1
        | error e => exact h) .start
    have hend := kept.runs hloop
    cases out with
    | ok _ => exact hend
    | error e => exact hend.elim
  · intro row hrow hconfirmed
    have reached := Program.Always.forEach_mem (GroupScan.Within db ((scannedRows db).map (·.1)))
      (GroupScan.Reached row.1) (fun _ _ => False) hrow
      (fun other hother w hw => (body other hother w hw).mono fun r w' h => by
        cases r with
        | ok _ => exact h.1
        | error e => exact h)
      (fun w hw => (body row hrow w hw).mono fun r w' h => by
        cases r with
        | ok _ => exact h.2 hconfirmed
        | error e => exact h)
      (fun other hother w hw => always_guarded (always_reached _ hw)) .start
    have hend := reached.runs hloop
    cases out with
    | ok _ => exact hend
    | error e => exact hend.elim

/-- A pass attempts every group that is owed exactly where all of them are in the window. -/
theorem attemptsGroups_iff {out : Except Error Unit}
    (hrun : Program.Runs groupScanEffect (reclaimAttachmentGroups deps) (.start db) out w') :
    AttemptsGroups db w' ↔ InWindow db .reclaimed (OwesGroup db) := by
  obtain ⟨within, reaches⟩ := groups_reached hrun
  constructor
  · intro attempts row owed
    have hmem : row.1 ∈ (scannedRows db).map (·.1) := by
      rcases attempts row owed with h | h
      · exact within.attempted _ h
      · exact within.settled _ h
    obtain ⟨other, hother, hid⟩ := List.mem_map.1 hmem
    have hlisted := List.mem_of_mem_filter hother
    have hget := (rowAt_of_selectByState hlisted).1
    have hget' := Table.get?_eq_some.2 owed.stored
    rw [hid, hget'] at hget
    have : other = row := Prod.ext hid (Option.some.inj hget).symm
    exact this ▸ hlisted
  · intro window row owed
    obtain ⟨manifest, hconfirmed, -⟩ := owed.group
    apply reaches row
    · exact List.mem_filter.2 ⟨window row owed, by simpa using owed.outgoing⟩
    · rw [hconfirmed]
      rfl

end Groups

/-- A response for which everything that its publish needs is there: the cell and the message that
    it answers, and the profile of its recipient. -/
def Prepared (db : Db) (row : Nat × Message) : Prop :=
  ∃ originalCell kind originalId original recipient,
    repliedCell (chainRef? db row.1) = some originalCell ∧
    receiptKindOf row.2.logicalMessageId = some kind ∧
    byLogicalId db kind.original = some (originalId, original) ∧
    original.envelopeMessageIdHex.isSome ∧
    conversationProfile db row.2.conversationId = some recipient

/-- A fully prepared queued response. -/
structure OwesResponse (db : Db) (row : Nat × Message) : Prop where
  stored : row ∈ db.messages.rows
  queued : row.2.state = .queued
  outgoing : row.2.direction = .outgoing
  prepared : Prepared db row

/-- The pass began the publish of every such response. -/
def AttemptsResponses (db : Db) (s : Sending) : Prop :=
  ∀ row, OwesResponse db row → row.2.logicalMessageId ∈ s.begun

/-- No response that the pass had to leave behind a throwing one was prepared: the pass ends at the
    first send that throws. -/
def NoneBehind (deps : PipelineDeps) (db : Db) (s' : Sending) : Prop :=
  ∀ front row behind mid e, sendQueue db = front ++ row :: behind →
    Program.Runs sendingEffect (Program.forEach (sendResponse deps) front) ⟨db, [], 0⟩ (.ok ()) mid →
    Program.Runs sendingEffect (sendResponse deps row) mid (.error e) s' →
    ∀ other ∈ behind, ¬ OwesResponse db other

/-- The steps of the send of one response. -/
def RespondStep (row : Nat × Message) : (β : Type) → Op β → Prop
  | _, .store (.setMessageChainRef rowId _) => rowId = row.1
  | _, .store (.findOutgoingTxByPurpose purpose) => purpose = .message row.2.logicalMessageId
  | _, .store (.transitionMessage ..) => True
  | _, .store (.setEnvelopeMessageId ..) => True
  | _, .store (.recordOutgoingTx ..) => True
  | _, .store (.markOutgoingTxState ..) => True
  | _, .store (.getMessageState _) => True
  | _, .store (.reserveCapacity ..) => True
  | _, .store (.getMessage _) => True
  | _, .store (.getMessageByLogicalId _) => True
  | _, .store (.getChainRef _) => True
  | _, .store (.getConversation _) => True
  | _, .store (.getContact _) => True
  | _, .store (.registerWatch ..) => True
  | _, .store _ => False
  | _, _ => True

section Responses

variable {deps : PipelineDeps} {db : Db} {s s' : Sending} {row other : Nat × Message} {β : Type}

theorem PublishStep.respond {input : PublishTextInput} {op : Op β} (h : PublishStep input β op)
    (hrow : input.messageRowId = row.1)
    (hid : input.logicalMessageId = row.2.logicalMessageId) : RespondStep row β op := by
  cases op with
  | store access =>
    cases access with
    | setMessageChainRef rowId ref => exact (h : rowId = input.messageRowId).trans hrow
    | findOutgoingTxByPurpose purpose =>
      have hpurpose : purpose = .message input.logicalMessageId := h
      exact hpurpose.trans (congrArg _ hid)
    | _ => first | exact h.elim | trivial
  | _ => trivial

theorem sendResponse_steps (row : Nat × Message) :
    Program.Uses (RespondStep row) (sendResponse deps row) := by
  unfold sendResponse
  refine Program.Uses.bind (Program.uses_perform.2 trivial) fun chainRef => ?_
  split
  next originalCell kind _ _ =>
    refine Program.Uses.bind (Program.uses_perform.2 trivial) fun original => ?_
    split
    next originalId _ _ _ _ _ originalMessageId _ =>
      refine Program.Uses.bind ?_ fun recipient => ?_
      · refine Program.Uses.bind (Program.uses_perform.2 trivial) fun conversation => ?_
        cases conversation with
        | none => trivial
        | some conversation => exact Program.Uses.bind (Program.uses_perform.2 trivial) fun _ => trivial
      cases recipient with
      | none => trivial
      | some recipient =>
        refine Program.Uses.bind (publishText_uses.mono fun β op h => PublishStep.respond h rfl rfl) fun _ => ?_
        split
        · trivial
        refine Program.Uses.bind (Program.Uses.forEach fun state _ => ?_) fun _ => ?_
        · refine Program.Uses.bind (Program.uses_perform.2 trivial) fun current => ?_
          split
          · trivial
          · split
            · trivial
            · split
              · exact Program.uses_perform.2 trivial
              · trivial
        · exact Program.Uses.bind (Program.uses_perform.2 trivial) fun _ =>
            Program.uses_perform.2 trivial
    · trivial
  · trivial

theorem conversationProfile_step {access : StoreOp β} (hop : RespondStep row β (.store access))
    (db : Db) (conversationId : Nat) :
    conversationProfile (access.exec db).2 conversationId = conversationProfile db conversationId := by
  have hsame : ∀ db' : Db, db'.contacts = db.contacts → db'.conversations = db.conversations →
      conversationProfile db' conversationId = conversationProfile db conversationId := by
    intro db' hcontacts hconversations
    rw [conversationProfile, conversationProfile, hcontacts, hconversations]
  cases access with
  | transitionMessage rowId target =>
    obtain hkept | hmoved := transitionState_frame rowId target db
    · exact hsame _ (congrArg Db.contacts hkept) (congrArg Db.conversations hkept)
    · exact hsame _ ((congrArg Db.contacts hmoved).trans rfl)
        ((congrArg Db.conversations hmoved).trans rfl)
  | reserveCapacity amount cell =>
    obtain ⟨balance, hmove⟩ := BalanceRepository.move_frame .available_shannon .reserved_shannon amount db
    exact hsame _ ((congrArg Db.contacts hmove).trans rfl)
      ((congrArg Db.conversations hmove).trans rfl)
  | setEnvelopeMessageId rowId id =>
    apply hsame <;> simp only [StoreOp.exec, MessageRepository.setEnvelopeMessageId] <;> split <;> rfl
  | recordOutgoingTx tx =>
    apply hsame <;> simp only [StoreOp.exec, OutgoingTransactionRepository.record] <;> split <;> rfl
  | markOutgoingTxState txHash state =>
    apply hsame <;> simp only [StoreOp.exec, OutgoingTransactionRepository.markState] <;> split <;> rfl
  | registerWatch outPoint purpose =>
    apply hsame <;> simp only [StoreOp.exec, WatchedOutpointRepository.register] <;> split <;> rfl
  | _ => first | exact hop.elim | rfl

/-- The send of one response leaves another one prepared. -/
theorem Prepared.step {op : Op β} {answer : Except Error β} (prepared : Prepared s.db other)
    (hne : other.1 ≠ row.1) (hop : RespondStep row β op)
    (heffect : sendingEffect β op s answer s') : Prepared s'.db other := by
  cases op with
  | store access =>
    obtain ⟨-, rfl⟩ := heffect
    obtain ⟨originalCell, kind, originalId, original, recipient, hcell, hkind, hstored, hnamed,
      hrecipient⟩ := prepared
    obtain ⟨hget, hlogical⟩ := byLogicalId_eq_some.1 hstored
    obtain ⟨later, hlater, hfollows⟩ := get?_exec access hget
    have hrefers : access.refers ≠ some other.1 := by
      intro hwrites
      cases access with
      | setMessageChainRef rowId ref =>
        have hown : rowId = row.1 := hop
        exact hne ((Option.some.inj hwrites).symm.trans hown)
      | setChainRef ref => exact hop
      | _ => cases hwrites
    refine ⟨originalCell, kind, originalId, later, recipient, ?_, hkind, ?_, ?_, ?_⟩
    · rw [chainRef?_exec access s.db hrefers]
      exact hcell
    · exact byLogicalId_eq_some.2 ⟨hlater, hfollows.logicalMessageId.trans hlogical⟩
    · obtain hsame | ⟨id, -, hnew⟩ := hfollows.envelopeMessageIdHex
      · rw [hsame]
        exact hnamed
      · rw [hnew]
        rfl
    · rw [conversationProfile_step hop]
      exact hrecipient
  | _ =>
    obtain rfl := heffect
    exact prepared

/-- Only the publish of the response itself begins. -/
theorem begun_step {op : Op β} {answer : Except Error β} {ids : List LogicalMessageId}
    (hbegun : ∀ id ∈ s.begun, id ∈ ids) (hrow : row.2.logicalMessageId ∈ ids)
    (hop : RespondStep row β op) (heffect : sendingEffect β op s answer s') :
    ∀ id ∈ s'.begun, id ∈ ids := by
  cases op with
  | store access =>
    obtain ⟨-, rfl⟩ := heffect
    intro id hid
    rcases List.mem_append.1 hid with hbefore | hnow
    · exact hbegun id hbefore
    · cases access with
      | findOutgoingTxByPurpose purpose =>
        have hpurpose : purpose = .message row.2.logicalMessageId := hop
        subst hpurpose
        exact List.mem_singleton.1 hnow ▸ hrow
      | _ => cases hnow
  | _ =>
    obtain rfl := heffect
    exact hbegun

theorem begun_grows {α : Type} (p : Prog α) {id : LogicalMessageId} (hbegun : id ∈ s.begun) :
    Program.Always sendingEffect Program.Anywhere p s fun _ s' => id ∈ s'.begun := by
  refine Program.always_invariant (fun β op s r s' heffect hs => ?_) p hbegun
  cases op with
  | store access =>
    obtain ⟨-, rfl⟩ := heffect
    exact List.mem_append_left _ hs
  | _ =>
    obtain rfl := heffect
    exact hs

theorem recipientOf_found {α : Type} {conversationId : Nat} {recipient : ProfileId}
    {f : Option ProfileId → Prog α} {post : Except Error α → Sending → Prop}
    (hrecipient : conversationProfile s.db conversationId = some recipient)
    (hok : ∀ begun, Program.Always sendingEffect Program.Anywhere (f (some recipient))
      { s with begun := begun } post) :
    Program.Always sendingEffect Program.Anywhere ((recipientOf conversationId).bind f) s post := by
  obtain ⟨conversation, hconversation, hcontact⟩ := Option.bind_eq_some_iff.1 hrecipient
  obtain ⟨contact, hget, hprofile⟩ := Option.bind_eq_some_iff.1 hcontact
  unfold recipientOf
  rw [Program.bind_eq_bind, Program.bind_assoc]
  refine always_read (fun db => ⟨_, rfl⟩) fun talk begun hread => ?_
  obtain rfl : s.db.conversations.get? conversationId = talk :=
    Except.ok.inj (Prod.mk.inj hread).1
  simp only [hconversation, Program.bind_eq_bind, Program.bind_assoc]
  refine always_read (fun db => ⟨_, rfl⟩) fun person begun hread => ?_
  obtain rfl : s.db.contacts.get? conversation.contactId = person :=
    Except.ok.inj (Prod.mk.inj hread).1
  simp only [hget, Option.bind_some, hprofile]
  exact hok begun

/-- A publish begins with the look into the journal. -/
theorem publishText_begins (input : PublishTextInput) :
    Program.Always sendingEffect Program.Anywhere (publishText deps input) s
      fun _ s' => input.logicalMessageId ∈ s'.begun := by
  have first : Program.Always sendingEffect Program.Anywhere (publishUntilBroadcast deps input) s
      fun _ s' => input.logicalMessageId ∈ s'.begun := by
    refine Program.Always.step trivial ?_ ?_
    · rintro e s' ⟨-, rfl⟩
      exact List.mem_append_right _ List.mem_cons_self
    · rintro existing s' ⟨-, rfl⟩
      exact begun_grows _ (List.mem_append_right _ List.mem_cons_self)
  refine Program.Always.bind (Program.Always.catchError first (fun _ _ hbegun => hbegun)
    fun e s' hbegun => begun_grows _ hbegun) (fun _ _ hbegun => begun_grows _ hbegun)
    fun _ _ hbegun => hbegun

/-- The send of a prepared response begins its publish, whatever comes of it. -/
theorem sendResponse_begins (prepared : Prepared s.db row) :
    Program.Always sendingEffect Program.Anywhere (sendResponse deps row) s
      fun _ s' => row.2.logicalMessageId ∈ s'.begun := by
  obtain ⟨originalCell, kind, originalId, original, recipient, hcell, hkind, hstored, hnamed,
    hrecipient⟩ := prepared
  obtain ⟨messageId, hmessageId⟩ := Option.isSome_iff_exists.1 hnamed
  unfold sendResponse
  refine always_read (fun db => ⟨_, rfl⟩) fun chainRef begun hread => ?_
  obtain rfl : chainRef? s.db row.1 = chainRef := Except.ok.inj (Prod.mk.inj hread).1
  simp only [hcell, hkind]
  refine always_read (fun db => ⟨_, rfl⟩) fun found begun hread => ?_
  obtain rfl : byLogicalId s.db kind.original = found := Except.ok.inj (Prod.mk.inj hread).1
  obtain ⟨_, _, _, _, _, envelopeId, _⟩ := original
  subst hmessageId
  simp only [hstored]
  refine recipientOf_found hrecipient fun begun => ?_
  exact (publishText_begins _).bind (fun _ _ hbegun => begun_grows _ hbegun) fun _ _ hbegun => hbegun

/-- Rows that are stored under one logical id are one row. -/
theorem eq_of_logicalMessageId (hrow : row ∈ db.messages.rows) (hother : other ∈ db.messages.rows)
    (hid : row.2.logicalMessageId = other.2.logicalMessageId) : row = other := by
  have hfound := byLogicalId_eq_some.2 ⟨Table.get?_eq_some.2 hrow, hid⟩
  have hfound' := byLogicalId_eq_some.2 ⟨Table.get?_eq_some.2 hother, rfl⟩
  exact Option.some.inj (hfound.symm.trans hfound')

theorem stored_of_sendQueue (h : row ∈ sendQueue db) : row ∈ db.messages.rows :=
  Table.get?_eq_some.1 (rowAt_of_selectByState (List.mem_of_mem_filter h)).1

theorem OwesResponse.mem_sendQueue (owed : OwesResponse db row)
    (hlisted : row ∈ selectByState db [.queued] 500) : row ∈ sendQueue db := by
  obtain ⟨_, _, _, _, _, -, hkind, -⟩ := owed.prepared
  apply List.mem_filter.2
  refine ⟨hlisted, ?_⟩
  simp [owed.outgoing, hkind]

theorem sendResponses_steps (rows : List (Nat × Message)) :
    Program.Uses (fun β op => ∃ row ∈ rows, RespondStep row β op)
      (Program.forEach (sendResponse deps) rows) :=
  Program.Uses.forEach fun row hrow =>
    (sendResponse_steps row).mono fun _ _ hstep => ⟨row, hrow, hstep⟩

/-- The sends of some rows begin their publishes and no others. -/
theorem sendResponses_begun {rows : List (Nat × Message)} {ids : List LogicalMessageId}
    (hbegun : ∀ id ∈ s.begun, id ∈ ids) (hrows : ∀ row ∈ rows, row.2.logicalMessageId ∈ ids) :
    Program.Always sendingEffect Program.Anywhere (Program.forEach (sendResponse deps) rows) s
      fun _ s' => ∀ id ∈ s'.begun, id ∈ ids := by
  refine (sendResponses_steps rows).always
    (fun β op s hop hs => ⟨trivial, fun r s' heffect => ?_⟩) hbegun
  obtain ⟨row, hrow, hstep⟩ := hop
  exact begun_step hs (hrows row hrow) hstep heffect

/-- What a loop over some rows has begun are publishes of these rows. -/
theorem begun_of_rows {rows : List (Nat × Message)} {out : Except Error Unit}
    (hstart : s.begun = [])
    (hrun : Program.Runs sendingEffect (Program.forEach (sendResponse deps) rows) s out s') :
    ∀ id ∈ s'.begun, ∃ row ∈ rows, row.2.logicalMessageId = id := by
  have hnone : ∀ id ∈ s.begun, id ∈ rows.map fun row => row.2.logicalMessageId := by
    rw [hstart]
    nofun
  have hids := (sendResponses_begun hnone fun row hrow => List.mem_map_of_mem hrow).runs hrun
  exact fun id hid => List.mem_map.1 (hids id hid)

/-- The sends of other rows leave a response prepared. -/
theorem sendResponses_prepared {rows : List (Nat × Message)} (prepared : Prepared s.db other)
    (hne : ∀ row ∈ rows, other.1 ≠ row.1) :
    Program.Always sendingEffect Program.Anywhere (Program.forEach (sendResponse deps) rows) s
      fun _ s' => Prepared s'.db other := by
  refine (sendResponses_steps rows).always
    (fun β op s hop hs => ⟨trivial, fun r s' heffect => ?_⟩) prepared
  obtain ⟨row, hrow, hstep⟩ := hop
  exact Prepared.step hs (hne row hrow) hstep heffect

/-- A loop that came past a prepared response has begun its publish. -/
theorem sendResponses_begin {rows : List (Nat × Message)} (hmem : other ∈ rows)
    (hsorted : rows.Pairwise fun r r' => r.1 < r'.1) (prepared : Prepared s.db other)
    (hrun : Program.Runs sendingEffect (Program.forEach (sendResponse deps) rows) s (.ok ()) s') :
    other.2.logicalMessageId ∈ s'.begun := by
  obtain ⟨front, behind, rfl⟩ := List.append_of_mem hmem
  rw [List.pairwise_append] at hsorted
  have hfront : ∀ row ∈ front, other.1 ≠ row.1 := by
    intro row hrow
    have := hsorted.2.2 row hrow other List.mem_cons_self
    omega
  rw [Program.forEach_append, Program.runs_bind_ok] at hrun
  obtain ⟨_, mid, hfirst, hrest⟩ := hrun
  have hmid : Prepared mid.db other := (sendResponses_prepared prepared hfront).runs hfirst
  rw [Program.forEach_cons, Program.runs_bind_ok] at hrest
  obtain ⟨_, later, hsend, hlast⟩ := hrest
  have hlater : other.2.logicalMessageId ∈ later.begun := (sendResponse_begins hmid).runs hsend
  exact (begun_grows _ hlater).runs hlast

/-- A pass begins every publish that is owed exactly where all of them are in the window and no
    send in front of them throws. -/
theorem attemptsResponses_iff {out : Except Error Unit}
    (hrun : Program.Runs sendingEffect (runResponseSender deps) ⟨db, [], 0⟩ out s') :
    AttemptsResponses db s' ↔ InWindow db .queued (OwesResponse db) ∧ NoneBehind deps db s' := by
  have hloop : Program.Runs sendingEffect (Program.forEach (sendResponse deps) (sendQueue db))
      ⟨db, [], 0⟩ out s' := by
    rcases Program.runs_bind.1 hrun with ⟨listed, mid, hlist, hrest⟩ | ⟨e, hlist, -⟩
    · obtain ⟨hanswer, rfl⟩ := Program.runs_perform.1 hlist
      obtain rfl := Except.ok.inj hanswer
      exact hrest
    · obtain ⟨hanswer, -⟩ := Program.runs_perform.1 hlist
      cases hanswer
  constructor
  · intro attempts
    constructor
    · intro row owed
      obtain ⟨other, hother, hid⟩ := begun_of_rows rfl hloop _ (attempts row owed)
      have hsame := eq_of_logicalMessageId (stored_of_sendQueue hother) owed.stored hid
      exact hsame ▸ List.mem_of_mem_filter hother
    · intro front row behind mid e hqueue hfront hthrown other hother owed
      have hrows : ∀ id ∈ s'.begun, ∃ r ∈ front ++ [row], r.2.logicalMessageId = id := by
        have hrun' : Program.Runs sendingEffect (Program.forEach (sendResponse deps)
            (front ++ row :: [])) ⟨db, [], 0⟩ (.error e) s' :=
          Program.runs_forEach_error hfront hthrown
        exact begun_of_rows rfl hrun'
      obtain ⟨begun, hbegun, hid⟩ := hrows _ (attempts other owed)
      have hsorted := sendQueue_sorted db
      rw [show front ++ row :: behind = (front ++ [row]) ++ behind by simp] at hqueue
      rw [hqueue, List.pairwise_append] at hsorted
      have hstored : begun ∈ sendQueue db := hqueue ▸ List.mem_append_left _ hbegun
      have hsame := eq_of_logicalMessageId (stored_of_sendQueue hstored) owed.stored hid
      have := hsorted.2.2 begun hbegun other hother
      rw [hsame] at this
      omega
  · rintro ⟨window, noneBehind⟩ row owed
    have hmem := owed.mem_sendQueue (window row owed)
    cases out with
    | ok _ => exact sendResponses_begin hmem (sendQueue_sorted db) owed.prepared hloop
    | error e =>
      obtain ⟨front, thrower, behind, mid, hqueue, hfront, hthrown⟩ :=
        Program.runs_forEach_split hloop
      have hsorted := sendQueue_sorted db
      rw [hqueue, List.pairwise_append] at hsorted
      rw [hqueue] at hmem
      rcases List.mem_append.1 hmem with hin | hin
      · have hbegun := sendResponses_begin hin hsorted.1 owed.prepared hfront
        exact (begun_grows _ hbegun).runs hthrown
      · rcases List.mem_cons.1 hin with rfl | hbehind
        · have hne : ∀ other ∈ front, row.1 ≠ other.1 := by
            intro other hother
            have := hsorted.2.2 other hother row List.mem_cons_self
            omega
          have hmid : Prepared mid.db row :=
            (sendResponses_prepared owed.prepared hne).runs hfront
          exact (sendResponse_begins hmid).runs hthrown
        · exact absurd owed (noneBehind front thrower behind mid e hqueue hfront hthrown row hbehind)

end Responses

/-- A pass over the attachment groups attempts every group reclaim that is owed, and a pass of the
    response sender every fully prepared response, if and only if the rows of these are among the
    first 500 in their state and, for the responses, no send in front of them throws. -/
theorem scans_attempt_all_iff (deps : PipelineDeps) (db : Db) :
    (∀ out w, Program.Runs groupScanEffect (reclaimAttachmentGroups deps) (.start db) out w →
      (AttemptsGroups db w ↔ InWindow db .reclaimed (OwesGroup db))) ∧
    ∀ out s, Program.Runs sendingEffect (runResponseSender deps) ⟨db, [], 0⟩ out s →
      (AttemptsResponses db s ↔ InWindow db .queued (OwesResponse db) ∧ NoneBehind deps db s) :=
  ⟨fun _ _ hrun => attemptsGroups_iff hrun, fun _ _ hrun => attemptsResponses_iff hrun⟩

/-- Executes a pass over the groups without a node. -/
def offlineScan : Program.Handler Op Error GroupScan := fun _ op w =>
  match op with
  | .store access =>
    ((access.exec w.db).1, { w with db := (access.exec w.db).2 }.observe (.store access)
      (access.exec w.db).1)
  | op => (.error (.other "offline"), w.observe op (.error (.other "offline")))

theorem runs_offlineScan (p : Prog Unit) (w : GroupScan) :
    Program.Runs groupScanEffect p w (Program.run offlineScan p w).1 (Program.run offlineScan p w).2 := by
  refine Program.runs_of_run offlineScan id ?_ p w
  intro β op w
  cases op <;> first | rfl | exact ⟨rfl, rfl⟩

/-- The passes of a wallet without a node, with two responses to send: the second one waits behind
    the first, whose send throws. -/
theorem respondingDb_attempts_iff :
    (AttemptsGroups respondingDb (Program.run offlineScan (reclaimAttachmentGroups samplePipeline)
        (.start respondingDb)).2 ↔ InWindow respondingDb .reclaimed (OwesGroup respondingDb)) ∧
      (AttemptsResponses respondingDb failedPass ↔
        InWindow respondingDb .queued (OwesResponse respondingDb) ∧
          NoneBehind samplePipeline respondingDb failedPass) :=
  ⟨(scans_attempt_all_iff samplePipeline respondingDb).1 _ _ (runs_offlineScan _ _),
    (scans_attempt_all_iff samplePipeline respondingDb).2 _ _ (runs_offlineHandler _ _)⟩

/-- No access moves a reclaimed row on: what fills the window of the groups stays in it. -/
theorem rowAt_reclaimed_exec {β : Type} {db : Db} {rowId : Nat} (access : StoreOp β)
    (h : db.RowAt rowId [.reclaimed]) : (access.exec db).2.RowAt rowId [.reclaimed] := by
  obtain ⟨m, hget, hstate⟩ := h
  obtain ⟨m', hget', hfollows⟩ := get?_exec access hget
  refine ⟨m', hget', ?_⟩
  obtain hsame | ⟨-, hcan⟩ := hfollows.state
  · rw [hsame]
    exact hstate
  · have hfinal : ∀ direction target,
        canTransitionMessage direction .reclaimed target = false := by
      intro direction target
      cases direction <;> cases target <;> rfl
    rw [List.mem_singleton.1 hstate, hfinal] at hcan
    cases hcan

theorem fits_finishedMessage : MessageState.reclaimed.Fits .outgoing := by decide

/-- A message that is done with, all but the group of its attachment. -/
def finishedMessage (number : Nat) : Message :=
  ⟨1, .outgoing, .reclaimed, some "hi", .composed number, none, fits_finishedMessage⟩

@[irreducible] def finishedRows : List (Nat × Message) :=
  (List.range 501).map fun number => (number + 1, finishedMessage number)

theorem finishedRows_sorted : finishedRows.Pairwise fun r r' => r.1 < r'.1 := by
  unfold finishedRows
  refine List.pairwise_map.2 (List.pairwise_lt_range.imp ?_)
  intro number other hlt
  exact Nat.succ_lt_succ hlt

theorem finishedRows_unique :
    finishedRows.Pairwise fun r r' => r.2.key = r'.2.key → r.2.key = none := by
  unfold finishedRows
  refine List.pairwise_map.2 (List.pairwise_lt_range.imp ?_)
  intro number other hlt hkey
  have hsame : number = other := LogicalMessageId.composed.inj (Option.some.inj hkey)
  omega

/-- 501 reclaimed messages, of which the last has an attachment that its recipient downloaded. -/
def crowdedDb : Db :=
  { Db.empty with
    contacts := .singleton ⟨"alice", some (sampleProfile 1), false⟩
    conversations := .singleton ⟨1⟩
    messages := ⟨finishedRows, finishedRows_sorted, finishedRows_unique⟩
    attachments := .singleton ⟨501, "image", 4, "available", some sampleManifest, none, true⟩ }

theorem mem_finishedRows {row : Nat × Message} :
    row ∈ finishedRows ↔ ∃ number < 501, (number + 1, finishedMessage number) = row := by
  simp only [finishedRows, List.mem_map, List.mem_range]

theorem crowdedDb_owes : OwesGroup crowdedDb (501, finishedMessage 500) := by
  refine ⟨mem_finishedRows.2 ⟨500, by omega, rfl⟩, rfl, rfl, sampleManifest, rfl, ?_⟩
  simp [OutgoingTransactionRepository.latestByPurposePrefix, crowdedDb, Db.empty, Table.empty,
    Table.last?]

theorem crowdedDb_window : ¬ InWindow crowdedDb .reclaimed (OwesGroup crowdedDb) := by
  intro window
  have hlisted := window _ crowdedDb_owes
  have hall : finishedRows.filter (fun row => [MessageState.reclaimed].contains row.2.state) =
      finishedRows := by
    rw [List.filter_eq_self]
    intro row hrow
    obtain ⟨number, -, rfl⟩ := mem_finishedRows.1 hrow
    rfl
  have hwindow : selectByState crowdedDb [.reclaimed] 500 = finishedRows.take 500 :=
    congrArg (List.take 500) hall
  rw [hwindow, finishedRows, ← List.map_take, List.take_range] at hlisted
  simp only [List.mem_map, List.mem_range, Prod.mk.injEq] at hlisted
  obtain ⟨number, hlt, hid, -⟩ := hlisted
  omega

/-- The group of the 501st message is never attempted: the 500 in front of it fill the window. -/
theorem crowdedDb_starves :
    ∃ out w, Program.Runs groupScanEffect (reclaimAttachmentGroups samplePipeline) (.start crowdedDb) out w ∧
      ¬ AttemptsGroups crowdedDb w := by
  refine ⟨_, _, runs_offlineScan _ _, fun attempts => ?_⟩
  exact crowdedDb_window ((attemptsGroups_iff (runs_offlineScan _ _)).1 attempts)

end cemp.sync
