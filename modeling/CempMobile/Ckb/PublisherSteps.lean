import CempMobile.Ckb.Publisher
import CempMobile.Database.Journal
import CempMobile.Lib.Crash

open cemp.core cemp.database

namespace cemp.ckb

/-- The row an operation would move, and where to. -/
def Op.moves : {β : Type} → Op β → Option (Nat × MessageState)
  | _, .store access => access.moves
  | _, _ => none

/-- The states a message has before its transaction is handed to a node. -/
def UNSENT_STATES : List MessageState :=
  [.queued, .encrypting, .building_transaction, .awaiting_signature, .submitting]

/-- The steps of a publish up to the broadcast. -/
def SendingStep (input : PublishTextInput) : (β : Type) → Op β → Prop
  | _, .store (.transitionMessage rowId target) => rowId = input.messageRowId ∧ target ∈ UNSENT_STATES
  | _, .store (.setMessageChainRef rowId _) => rowId = input.messageRowId
  | _, .store (.setEnvelopeMessageId rowId _) => rowId = input.messageRowId
  | _, .store (.recordOutgoingTx tx) => tx.purpose = input.purpose ∧ tx.state = .submitted
  | _, .store (.markOutgoingTxState _ state) => state = .abandoned
  | _, .store (.findOutgoingTxByPurpose purpose) => purpose = input.purpose
  | _, .store _ => False
  | _, .getLiveCell _ => False
  | _, .notify _ => False
  | _, .findCells .. => False
  | _, .acquireLease _ => False
  | _, .releaseLease _ => False
  | _, .ownProfileId => False
  | _, .processing _ => False
  | _, .reclaiming .. => False
  | _, _ => True

/-- The steps of a whole publish. -/
def PublishStep (input : PublishTextInput) : (β : Type) → Op β → Prop
  | _, .store (.transitionMessage rowId _) => rowId = input.messageRowId
  | _, .store (.getMessageState rowId) => rowId = input.messageRowId
  | _, .store (.markOutgoingTxState ..) => True
  | _, .store (.reserveCapacity ..) => True
  | β, op => SendingStep input β op

section Uses

variable {ok : ∀ β : Type, Op β → Prop}

theorem pollForCommit_uses {txHash : Hash} (hstatus : ok _ (.getTransaction txHash))
    (hlate : ok _ .deadlinePassed) (timeoutMs sleeps : Nat) :
    Program.Uses ok (pollForCommit txHash timeoutMs sleeps) := by
  have settled : ∀ outcome : Except Error Unit, Program.Uses ok (Program.ofExcept outcome : Prog Unit) := by
    intro outcome
    cases outcome <;> trivial
  induction sleeps with
  | zero =>
    refine Program.Uses.bind (Program.uses_perform.2 hstatus) fun status => ?_
    cases commitOutcome status with
    | none => trivial
    | some outcome => exact settled outcome
  | succ sleeps ih =>
    refine Program.Uses.bind (Program.uses_perform.2 hstatus) fun status => ?_
    cases commitOutcome status with
    | none =>
      refine Program.Uses.bind (Program.uses_perform.2 hlate) fun late => ?_
      cases late with
      | true => trivial
      | false => exact ih
    | some outcome => exact settled outcome

theorem waitForTransactionCommit_uses {txHash : Hash} (hstatus : ok _ (.getTransaction txHash))
    (hlate : ok _ .deadlinePassed) (timeoutMs : Option Nat) :
    Program.Uses ok (waitForTransactionCommit txHash timeoutMs) :=
  pollForCommit_uses hstatus hlate _ _

theorem resumeJournaledBroadcast_uses {record : JournaledTx}
    (hstatus : ok _ (.getTransaction record.txHash)) (hlate : ok _ .deadlinePassed)
    (hsend : ∀ tx, record.txHex = some tx → ok _ (.sendTransaction tx)) (timeoutMs : Option Nat) :
    Program.Uses ok (resumeJournaledBroadcast record timeoutMs) := by
  have wait := waitForTransactionCommit_uses hstatus hlate timeoutMs
  have again : Program.Uses ok (resubmit record timeoutMs) := by
    unfold resubmit
    cases hbytes : record.txHex with
    | none => trivial
    | some wire =>
      refine Program.Uses.bind (Program.Uses.catchError ((Program.uses_perform.2 (hsend wire hbytes)).bind
        fun _ => trivial) fun _ => trivial) fun answer => ?_
      cases answer with
      | error e =>
        simp only
        split <;> trivial
      | ok hash =>
        simp only
        split
        · trivial
        · exact wait.bind fun _ => trivial
  refine Program.Uses.bind (Program.uses_perform.2 hstatus) fun status => ?_
  cases status with
  | committed => trivial
  | rejected reason => trivial
  | pending => exact wait.bind fun _ => trivial
  | proposed => exact wait.bind fun _ => trivial
  | sent => exact again
  | unknown => exact again

end Uses

section Publish

variable {deps : PipelineDeps} {input : PublishTextInput}

theorem assembleTextMessage_uses {ok : ∀ β : Type, Op β → Prop} (hnow : ok _ .now)
    (hrandom : ∀ length, ok _ (.randomBytes length)) (hpadding : ok _ .randomPadding)
    (hencrypt : ∀ envelope key fixed, ok _ (.encryptEnvelope envelope key fixed))
    (params : AssembleTextMessageParams) : Program.Uses ok (assembleTextMessage deps params) := by
  unfold assembleTextMessage
  extract_lets conversationId assemble
  have rest : ∀ messageId, Program.Uses ok (assemble messageId) := by
    intro messageId
    refine Program.Uses.bind (Program.uses_perform.2 hnow) fun nowMs =>
      Program.Uses.bind (Program.uses_perform.2 (hrandom _)) fun messageNonce =>
        Program.Uses.bind (Program.uses_perform.2 hpadding) fun padding => ?_
    simp only
    split
    · trivial
    · exact Program.Uses.bind (Program.uses_perform.2 (hencrypt ..)) fun _ => trivial
  cases params.messageId with
  | some id => exact rest id
  | none => exact Program.Uses.bind (Program.uses_perform.2 (hrandom _)) rest

theorem completeAndFinalize_uses {ok : ∀ β : Type, Op β → Prop}
    (hcomplete : ∀ tx, ok _ (.completeTransaction tx)) (context : String) (tx : RawTransaction) :
    Program.Uses ok (completeAndFinalize deps context tx) := by
  refine Program.Uses.bind (Program.uses_perform.2 (hcomplete tx)) fun completion => ?_
  split <;> trivial

theorem resumeOrAbandon_uses (record : OutgoingTransaction) (timeoutMs : Option Nat) :
    Program.Uses (SendingStep input) (resumeOrAbandon record timeoutMs) := by
  refine Program.Uses.catchError ?_ fun e => ?_
  · refine Program.Uses.bind (resumeJournaledBroadcast_uses trivial trivial (fun _ _ => trivial) _)
      fun outcome => ?_
    split
    · exact Program.Uses.bind (Program.uses_perform.2 trivial) fun _ => trivial
    · trivial
  · cases e with
    | journaledAbandoned message spent =>
      exact Program.Uses.bind (Program.uses_perform.2 rfl) fun _ => trivial
    | _ => trivial

/-- The steps that build, journal and hand out a new transaction are of some kind. What is journaled
    comes with its signed bytes. -/
structure BuildOps (ok : ∀ β : Type, Op β → Prop) (input : PublishTextInput) : Prop where
  move : ∀ target ∈ UNSENT_STATES, ok _ (.store (.transitionMessage input.messageRowId target))
  sender : ok _ .senderProfileId
  resolve : ∀ profileId, ok _ (.resolveLiveProfile profileId)
  now : ok _ .now
  random : ∀ length, ok _ (.randomBytes length)
  padding : ok _ .randomPadding
  encrypt : ∀ envelope key fixed, ok _ (.encryptEnvelope envelope key fixed)
  complete : ∀ tx, ok _ (.completeTransaction tx)
  sign : ∀ tx, ok _ (.signTransaction tx)
  record : ∀ tx signed, tx.purpose = input.purpose → tx.state = .submitted →
    tx.txHex = some signed → signed.hash = tx.txHash → ok _ (.store (.recordOutgoingTx tx))
  chainRef : ∀ ref, ok _ (.store (.setMessageChainRef input.messageRowId ref))
  name : ∀ envelopeId, ok _ (.store (.setEnvelopeMessageId input.messageRowId envelopeId))
  send : ∀ tx, ok _ (.sendTransaction tx)

theorem BuildOps.uses {ok : ∀ β : Type, Op β → Prop} (h : BuildOps ok input) :
    Program.Uses ok (buildAndBroadcast deps input) := by
  have move : ∀ target ∈ UNSENT_STATES,
      Program.Uses ok (store (.transitionMessage input.messageRowId target)) :=
    fun target htarget => Program.uses_perform.2 (h.move target htarget)
  refine Program.Uses.bind (move _ (by decide)) fun _ =>
    Program.Uses.bind (Program.uses_perform.2 h.sender) fun senderProfileId =>
    Program.Uses.bind (Program.uses_perform.2 (h.resolve _)) fun recipientKemPublicKey =>
    Program.Uses.bind (assembleTextMessage_uses h.now h.random h.padding h.encrypt _) fun assembled =>
    Program.Uses.bind (move _ (by decide)) fun _ =>
    Program.Uses.bind (completeAndFinalize_uses h.complete _ _) fun built =>
    Program.Uses.bind (move _ (by decide)) fun _ =>
    Program.Uses.bind (Program.uses_perform.2 (h.sign _)) fun signed =>
    Program.Uses.bind (move _ (by decide)) fun _ =>
    Program.Uses.bind (Program.uses_perform.2 (h.record _ signed rfl rfl rfl rfl)) fun _ =>
    Program.Uses.bind (Program.uses_perform.2 (h.chainRef _)) fun _ =>
    Program.Uses.bind (Program.uses_perform.2 (h.name _)) fun _ =>
    Program.Uses.bind (Program.uses_perform.2 (h.send _)) fun accepted => ?_
  split <;> trivial

theorem buildAndBroadcast_uses :
    Program.Uses (SendingStep input) (buildAndBroadcast deps input) :=
  BuildOps.uses
    { move := fun _ htarget => ⟨rfl, htarget⟩
      sender := trivial
      resolve := fun _ => trivial
      now := trivial
      random := fun _ => trivial
      padding := trivial
      encrypt := fun _ _ _ => trivial
      complete := fun _ => trivial
      sign := fun _ => trivial
      record := fun _ _ hpurpose hstate _ _ => ⟨hpurpose, hstate⟩
      chainRef := fun _ => rfl
      name := fun _ => rfl
      send := fun _ => trivial }

theorem publishUntilBroadcast_uses :
    Program.Uses (SendingStep input) (publishUntilBroadcast deps input) := by
  refine Program.Uses.bind (Program.uses_perform.2 rfl) fun existing => ?_
  cases existing with
  | none => exact buildAndBroadcast_uses
  | some record =>
    refine Program.Uses.bind (resumeOrAbandon_uses record _) fun resumable => ?_
    cases resumable with
    | some record => trivial
    | none => exact buildAndBroadcast_uses

theorem SendingStep.publish {β : Type} {op : Op β} (h : SendingStep input β op) :
    PublishStep input β op := by
  cases op with
  | store access =>
    cases access with
    | transitionMessage rowId target => exact h.1
    | getMessageState rowId => exact h.elim
    | markOutgoingTxState txHash state => trivial
    | reserveCapacity amount cell => trivial
    | _ => exact h
  | _ => exact h

theorem SendingStep.moves {β : Type} {op : Op β} (h : SendingStep input β op) {rowId : Nat}
    {target : MessageState} (hmove : op.moves = some (rowId, target)) :
    rowId = input.messageRowId ∧ target ∈ UNSENT_STATES := by
  cases op with
  | store access =>
    cases access with
    | transitionMessage id state =>
      obtain ⟨rfl, rfl⟩ := Prod.mk.inj (Option.some.inj hmove)
      exact h
    | _ => cases hmove
  | _ => cases hmove

theorem PublishStep.moves {β : Type} {op : Op β} (h : PublishStep input β op) {rowId : Nat}
    {target : MessageState} (hmove : op.moves = some (rowId, target)) :
    rowId = input.messageRowId := by
  cases op with
  | store access =>
    cases access with
    | transitionMessage id state =>
      obtain ⟨rfl, rfl⟩ := Prod.mk.inj (Option.some.inj hmove)
      exact h
    | _ => cases hmove
  | _ => cases hmove

/-- What a publish journals is journaled for its message. -/
theorem PublishStep.records {β : Type} {op : Op β} (h : PublishStep input β op) :
    ∀ access, op = .store access → ∀ tx, access.records = some tx → tx.purpose = input.purpose := by
  rintro access rfl tx hrecord
  cases access with
  | recordOutgoingTx recorded =>
    obtain rfl := Option.some.inj hrecord
    exact h.1
  | _ => cases hrecord

theorem walkToState_uses (target : MessageState) :
    Program.Uses (PublishStep input) (walkToState input.messageRowId target) :=
  Program.Uses.bind (Program.uses_perform.2 rfl) fun _ =>
    Program.Uses.forEach fun _ _ => Program.uses_perform.2 rfl

theorem publishAfterBroadcast_uses (tx : BroadcastTx) :
    Program.Uses (PublishStep input) (publishAfterBroadcast input tx) := by
  have monitored : Program.Uses (PublishStep input)
      (monitor input.messageRowId tx.txHash tx.resumed input.timeoutMs tx.capacityShannon) := by
    refine Program.Uses.bind (waitForTransactionCommit_uses trivial trivial _) fun _ =>
      Program.Uses.bind (Program.uses_perform.2 trivial) fun _ =>
      Program.Uses.bind (Program.uses_perform.2 rfl) fun _ =>
      Program.Uses.bind (walkToState_uses _) fun _ => ?_
    split
    · split
      · exact Program.Uses.bind (Program.uses_perform.2 trivial) fun _ => trivial
      · trivial
    · trivial
  unfold publishAfterBroadcast
  cases tx.fresh with
  | none => exact (walkToState_uses _).bind fun _ => monitored
  | some signed =>
    exact Program.Uses.bind (Program.uses_perform.2 trivial) fun _ =>
      Program.Uses.bind (Program.uses_perform.2 rfl) fun _ => monitored

theorem publishText_uses : Program.Uses (PublishStep input) (publishText deps input) := by
  refine Program.Uses.bind (Program.Uses.catchError
    (publishUntilBroadcast_uses.mono fun _ _ h => h.publish) fun e => ?_) fun tx =>
    (publishAfterBroadcast_uses tx).catchError fun _ => trivial
  refine Program.Uses.bind (Program.Uses.catchError ?_ fun _ => trivial) fun _ => trivial
  exact Program.Uses.bind (Program.uses_perform.2 rfl) fun _ => trivial

end Publish

end cemp.ckb
