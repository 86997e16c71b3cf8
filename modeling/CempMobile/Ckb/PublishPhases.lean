import CempMobile.Ckb.PublisherSteps
import CempMobile.Ckb.Resume

open cemp.core cemp.database

namespace cemp.ckb

/-- The steps that build and hand out a new transaction, other than its journal record. -/
def BuildStep (input : PublishTextInput) : (β : Type) → Op β → Prop
  | _, .store (.transitionMessage rowId target) => rowId = input.messageRowId ∧ target ∈ UNSENT_STATES
  | _, .store (.setMessageChainRef rowId _) => rowId = input.messageRowId
  | _, .store (.setEnvelopeMessageId rowId _) => rowId = input.messageRowId
  | _, .senderProfileId => True
  | _, .resolveLiveProfile _ => True
  | _, .now => True
  | _, .randomBytes _ => True
  | _, .randomPadding => True
  | _, .encryptEnvelope .. => True
  | _, .completeTransaction _ => True
  | _, .signTransaction _ => True
  | _, .sendTransaction _ => True
  | _, _ => False

/-- The steps of a publish once a transaction is out. -/
def MonitorStep (input : PublishTextInput) (txHash : Hash) : (β : Type) → Op β → Prop
  | _, .store (.transitionMessage rowId _) => rowId = input.messageRowId
  | _, .store (.getMessageState rowId) => rowId = input.messageRowId
  | _, .store (.setMessageChainRef rowId _) => rowId = input.messageRowId
  | _, .store (.markOutgoingTxState marked state) => marked = txHash ∧ state = .committed
  | _, .store (.reserveCapacity ..) => True
  | _, .markTransactions _ => True
  | _, .getTransaction polled => polled = txHash
  | _, .deadlinePassed => True
  | _, _ => False

section Accesses

variable {β : Type} {op : Op β} {input : PublishTextInput} {txHash : Hash}

/-- A build step neither journals nor gives up anything. -/
theorem accesses_of_build (hop : BuildStep input β op) :
    ∀ access, op = .store access → access.records = none ∧ access.abandons = none := by
  rintro access rfl
  cases access with
  | markOutgoingTxState marked state => exact hop.elim
  | recordOutgoingTx tx => exact hop.elim
  | _ => exact ⟨rfl, rfl⟩

/-- The second stage neither journals nor gives up anything. -/
theorem accesses_of_monitor (hop : MonitorStep input txHash β op) :
    ∀ access, op = .store access → access.records = none ∧ access.abandons = none := by
  rintro access rfl
  cases access with
  | markOutgoingTxState marked state =>
    obtain ⟨-, rfl⟩ := hop
    exact ⟨rfl, rfl⟩
  | recordOutgoingTx tx => exact hop.elim
  | _ => exact ⟨rfl, rfl⟩

end Accesses

/-- A transaction whose envelope is what a publish was asked for. -/
def Carries (input : PublishTextInput) (tx : RawTransaction) : Prop :=
  ∃ envelope, tx.envelope? = some envelope ∧
    envelope.header.content_type = input.contentType.getD CONTENT_TYPE.text ∧
    envelope.payload.attachment_manifests = input.attachmentManifests

/-- The phases of a publish: nothing done yet, a journaled transaction found, that one given up or
    none found, and a transaction out. `commits` is what a transaction hash commits to. -/
structure PublishPhases {σ : Type} (effect : Program.Effect Op Error σ)
    (commits : Hash → RawTransaction) (input : PublishTextInput) (anywhere : σ → Prop) where
  start : σ → Prop
  found : OutgoingTransaction → σ → Prop
  gone : σ → Prop
  out : Hash → σ → Prop
  start_anywhere : ∀ s, start s → anywhere s
  found_anywhere : ∀ r s, found r s → anywhere s
  gone_anywhere : ∀ s, gone s → anywhere s
  out_anywhere : ∀ txHash s, out txHash s → anywhere s
  find : ∀ s existing s', start s →
    effect _ (.store (.findOutgoingTxByPurpose input.purpose)) s (.ok existing) s' →
    existing.elim (gone s') fun r => found r s'
  find_error : ∀ s e s', start s →
    effect _ (.store (.findOutgoingTxByPurpose input.purpose)) s (.error e) s' → anywhere s'
  polls : ∀ r, Polls effect r.txHash (found r) (out r.txHash)
  abandon : ∀ r s answer s', found r s →
    effect _ (.store (.markOutgoingTxState r.txHash .abandoned)) s answer s' → gone s'
  build : ∀ (β : Type) (op : Op β) s answer s', BuildStep input β op → gone s →
    effect β op s answer s' → gone s'
  sign : ∀ tx s signed s', gone s → effect _ (.signTransaction tx) s (.ok signed) s' →
    commits signed.hash = tx
  record : ∀ tx s answer s', gone s → tx.purpose = input.purpose → tx.state = .submitted →
    Carries input (commits tx.txHash) → effect _ (.store (.recordOutgoingTx tx)) s answer s' →
    out tx.txHash s'
  built : ∀ txHash (β : Type) (op : Op β) s answer s', BuildStep input β op → out txHash s →
    effect β op s answer s' → out txHash s'
  monitor : ∀ txHash (β : Type) (op : Op β) s answer s', MonitorStep input txHash β op →
    out txHash s → effect β op s answer s' → out txHash s'
  track : ∀ tx s e s', ¬effect _ (.markTransactions tx) s (.error e) s'
  fail : ∀ s answer s', anywhere s →
    effect _ (.store (.transitionMessage input.messageRowId .failed)) s answer s' → anywhere s'

namespace PublishPhases

variable {σ : Type} {effect : Program.Effect Op Error σ} {commits : Hash → RawTransaction}
  {input : PublishTextInput} {anywhere : σ → Prop} {deps : PipelineDeps} {s : σ} {α : Type}

/-- Where a part of a publish may stop. -/
def Stops (anywhere : σ → Prop) (returned : α → σ → Prop) : Except Error α → σ → Prop
  | .ok a, s => returned a s
  | .error _, s => anywhere s

/-- A part all of whose steps keep a phase, and whose value is of some kind. -/
theorem part {β : Type} {phase : σ → Prop} {ok : ∀ β : Type, Op β → Prop} {kind : β → Prop}
    {first : Prog β} {rest : β → Prog α} {returned : α → σ → Prop}
    (hkeeps : ∀ (β : Type) (op : Op β) s answer s', ok β op → phase s → effect β op s answer s' →
      phase s')
    (hanywhere : ∀ s, phase s → anywhere s) (huses : Program.Uses ok first)
    (hkind : Program.Always effect Program.Anywhere first s fun r _ => ∀ b, r = .ok b → kind b)
    (hs : phase s)
    (hrest : ∀ b s, kind b → phase s →
      Program.Always effect (fun _ _ => anywhere) (rest b) s (Stops anywhere returned)) :
    Program.Always effect (fun _ _ => anywhere) (first.bind rest) s (Stops anywhere returned) := by
  have hfirst : Program.Always effect (fun _ _ => anywhere) first s fun _ => phase := by
    refine huses.always (fun β op s hop h => ⟨hanywhere s h, fun r s' hanswer => ?_⟩) hs
    exact hkeeps β op s r s' hop h hanswer
  have hboth := (hfirst.and hkind).weaken fun _ _ _ h => h.1
  exact hboth.bind (fun b s' h => hrest b s' (h.2 b rfl) h.1) fun e s' h => hanywhere s' h.1

/-- An assembled message carries the header and the payload built for it, under the message id that
    was asked for. -/
structure Assembles (params : AssembleTextMessageParams) (assembled : AssembledMessage) : Prop where
  envelope : ∃ conversationId timestamp padding,
    assembled.envelope = ⟨envelopeHeader params assembled.messageId conversationId timestamp,
      textPayload params assembled.messageId timestamp padding⟩
  messageId : ∀ id, params.messageId = some id → assembled.messageId = id

theorem always_assembles (params : AssembleTextMessageParams) (s : σ) :
    Program.Always effect Program.Anywhere (assembleTextMessage deps params) s
      fun r _ => ∀ assembled, r = .ok assembled → Assembles params assembled := by
  have failed : ∀ (e : Error) (assembled : AssembledMessage),
      Except.error e = Except.ok assembled → Assembles params assembled :=
    fun e assembled h => by cases h
  unfold assembleTextMessage
  extract_lets conversationId assemble
  have rest : ∀ messageId s, (∀ id, params.messageId = some id → messageId = id) →
      Program.Always effect Program.Anywhere (assemble messageId) s
        fun r _ => ∀ assembled, r = .ok assembled → Assembles params assembled := by
    intro messageId s hid
    refine Program.Always.step trivial (fun e _ _ => failed e) fun nowMs s _ => ?_
    refine Program.Always.step trivial (fun e _ _ => failed e) fun messageNonce s _ => ?_
    refine Program.Always.step trivial (fun e _ _ => failed e) fun padding s _ => ?_
    simp only
    split
    · exact failed _
    · refine Program.Always.step trivial (fun e _ _ => failed e) fun _ s _ => ?_
      intro assembled hassembled
      obtain rfl := Except.ok.inj hassembled
      exact ⟨⟨_, _, _, rfl⟩, hid⟩
  cases hid : params.messageId with
  | some id =>
    refine rest id s fun id' h => ?_
    exact Option.some.inj (hid.symm.trans h)
  | none =>
    refine Program.Always.step trivial (fun e _ _ => failed e) fun drawn s _ => ?_
    refine rest drawn s fun id h => ?_
    rw [hid] at h
    cases h

/-- An assembled message has the content type and the manifests it was assembled for. -/
def AssembledFor (params : AssembleTextMessageParams) (assembled : AssembledMessage) : Prop :=
  assembled.envelope.header.content_type = params.contentType.getD CONTENT_TYPE.text ∧
    assembled.envelope.payload.attachment_manifests = params.attachmentManifests

theorem always_assembled (params : AssembleTextMessageParams) (s : σ) :
    Program.Always effect Program.Anywhere (assembleTextMessage deps params) s
      fun r _ => ∀ assembled, r = .ok assembled → AssembledFor params assembled := by
  refine (always_assembles params s).mono fun r _ h assembled hassembled => ?_
  obtain ⟨conversationId, timestamp, padding, henvelope⟩ := (h assembled hassembled).envelope
  unfold AssembledFor
  rw [henvelope]
  exact ⟨rfl, rfl⟩

/-- The message transaction of an assembled message: its envelope is the assembled one. -/
theorem always_built {context : String} {tx : RawTransaction} (s : σ) :
    Program.Always effect Program.Anywhere (completeAndFinalize deps context tx) s
      fun r _ => ∀ built, r = .ok built → ∃ change, built.tx.outputs = tx.outputs ++ change := by
  refine Program.Always.step trivial (fun e _ _ built h => by cases h) fun completion s _ => ?_
  split
  · exact fun built h => by cases h
  · intro built hbuilt
    obtain rfl := Except.ok.inj hbuilt
    exact ⟨_, rfl⟩

section Stages

variable (p : PublishPhases effect commits input anywhere)

variable {β : Type} {op : Op β} {rest : β → Prog α} {returned : α → σ → Prop} {txHash : Hash}

/-- One step before a new transaction is journaled. -/
theorem buildStep (hs : p.gone s) (hop : BuildStep input β op)
    (hrest : ∀ b s', effect β op s (.ok b) s' → p.gone s' →
      Program.Always effect (fun _ _ => anywhere) (rest b) s' (Stops anywhere returned)) :
    Program.Always effect (fun _ _ => anywhere) ((Program.perform op).bind rest) s
      (Stops anywhere returned) := by
  have keeps := fun answer s' => p.build β op s answer s' hop hs
  refine Program.Always.step (p.gone_anywhere s hs) (fun e s' hanswer => ?_) fun b s' hanswer => ?_
  · exact p.gone_anywhere s' (keeps _ s' hanswer)
  · exact hrest b s' hanswer (keeps _ s' hanswer)

/-- One step with a transaction out. -/
theorem outStep (hs : p.out txHash s)
    (hkeeps : ∀ answer s', effect β op s answer s' → p.out txHash s')
    (hrest : ∀ b s', p.out txHash s' →
      Program.Always effect (fun _ _ => anywhere) (rest b) s' (Stops anywhere returned)) :
    Program.Always effect (fun _ _ => anywhere) ((Program.perform op).bind rest) s
      (Stops anywhere returned) := by
  refine Program.Always.step (p.out_anywhere txHash s hs) (fun e s' hanswer => ?_)
    fun b s' hanswer => ?_
  · exact p.out_anywhere txHash s' (hkeeps _ s' hanswer)
  · exact hrest b s' (hkeeps _ s' hanswer)

/-- A new transaction carries what was asked for, and is out when it is journaled. -/
theorem buildAndBroadcast (hs : p.gone s) :
    Program.Always effect (fun _ _ => anywhere) (buildAndBroadcast deps input) s
      (Stops anywhere fun tx s' => p.out tx.txHash s') := by
  refine p.buildStep hs (by exact ⟨rfl, by decide⟩) fun _ s _ hs => ?_
  refine p.buildStep hs (by trivial) fun senderProfileId s _ hs => ?_
  refine p.buildStep hs (by trivial) fun recipientKemPublicKey s _ hs => ?_
  refine part p.build p.gone_anywhere (assembleTextMessage_uses trivial (fun _ => trivial) trivial
    (fun _ _ _ => trivial) _) (always_assembled _ s) hs fun assembled s hassembled hs => ?_
  refine p.buildStep hs (by exact ⟨rfl, by decide⟩) fun _ s _ hs => ?_
  refine part p.build p.gone_anywhere (completeAndFinalize_uses (fun _ => trivial) _ _)
    (always_built s) hs fun built s hbuilt hs => ?_
  refine p.buildStep hs (by exact ⟨rfl, by decide⟩) fun _ s _ hs => ?_
  refine p.buildStep hs (by trivial) fun signed s' hsigned hs' => ?_
  have hcommits := p.sign _ s signed s' hs hsigned
  have hcarries : Carries input (commits signed.hash) := by
    obtain ⟨change, houtputs⟩ := hbuilt
    refine ⟨assembled.envelope, ?_, hassembled.1, hassembled.2⟩
    rw [hcommits, RawTransaction.envelope?, houtputs]
    rfl
  refine p.buildStep hs' (by exact ⟨rfl, by decide⟩) fun _ s _ hs => ?_
  refine Program.Always.step (p.gone_anywhere s hs) (fun e s' hanswer => ?_) fun _ s' hanswer => ?_
  · exact p.out_anywhere _ s' (p.record _ s _ s' hs rfl rfl hcarries hanswer)
  have hs' := p.record _ s _ s' hs rfl rfl hcarries hanswer
  refine p.outStep hs' (fun answer s'' => p.built _ _ _ s' answer s'' (by exact rfl) hs')
    fun _ s hs => ?_
  refine p.outStep hs (fun answer s' => p.built _ _ _ s answer s' (by exact rfl) hs)
    fun _ s hs => ?_
  refine p.outStep hs (fun answer s' => p.built _ _ _ s answer s' (by trivial) hs)
    fun accepted s hs => ?_
  split
  · exact p.out_anywhere _ s hs
  · exact hs

/-- How the guarded part of a resume may stop. -/
def Resumes (p : PublishPhases effect commits input anywhere) (r : OutgoingTransaction) :
    Except Error (Option OutgoingTransaction) → σ → Prop
  | .ok resumable, s => resumable = some r ∧ p.out r.txHash s
  | .error _, s => p.found r s

/-- A resume hands back the journaled transaction, which is out, or gives it up. -/
theorem resumeOrAbandon {r : OutgoingTransaction} (timeoutMs : Option Nat) (hs : p.found r s) :
    Program.Always effect (fun _ _ => anywhere) (resumeOrAbandon r timeoutMs) s
      (Stops anywhere fun resumable s' =>
        resumable.elim (p.gone s') fun tx => tx = r ∧ p.out r.txHash s') := by
  refine Program.Always.catchError (?_ : Program.Always _ _ _ s (p.Resumes r)) ?_ ?_
  · refine (((p.polls r).resume hs).weaken fun _ _ s h => p.found_anywhere r s h).bind ?_
      fun e s' h => h
    intro outcome s' hout
    cases outcome with
    | committed => exact ⟨rfl, hout⟩
    | rebroadcast =>
      cases r.txHex with
      | none => exact ⟨rfl, hout⟩
      | some tx =>
        refine Program.Always.step (p.out_anywhere _ s' hout)
          (fun e s'' hanswer => absurd hanswer (p.track tx s' e s'')) fun _ s'' hanswer => ?_
        exact ⟨rfl, p.monitor _ _ _ s' _ s'' (by trivial) hout hanswer⟩
  · rintro resumable s' ⟨rfl, hout⟩
    exact ⟨rfl, hout⟩
  · intro e s' hfound
    have stop : ∀ e : Error, Stops anywhere (fun (resumable : Option OutgoingTransaction) s' =>
        resumable.elim (p.gone s') fun tx => tx = r ∧ p.out r.txHash s') (.error e) s' :=
      fun _ => p.found_anywhere r s' hfound
    cases e with
    | journaledAbandoned message spent =>
      refine Program.Always.step (p.found_anywhere r s' hfound) (fun e s'' hanswer => ?_)
        fun _ s'' hanswer => ?_
      · exact p.gone_anywhere s'' (p.abandon r s' _ s'' hfound hanswer)
      · exact p.abandon r s' _ s'' hfound hanswer
    | _ => exact stop _

theorem publishUntilBroadcast (hs : p.start s) :
    Program.Always effect (fun _ _ => anywhere) (publishUntilBroadcast deps input) s
      (Stops anywhere fun tx s' => p.out tx.txHash s') := by
  refine Program.Always.step (p.start_anywhere s hs) (fun e s' hanswer => ?_)
    fun existing s' hanswer => ?_
  · exact p.find_error s e s' hs hanswer
  have hexisting := p.find s existing s' hs hanswer
  cases existing with
  | none => exact p.buildAndBroadcast hexisting
  | some r =>
    refine (p.resumeOrAbandon _ hexisting).bind (fun resumable s'' h => ?_) fun e s'' h => h
    cases resumable with
    | none => exact p.buildAndBroadcast h
    | some tx =>
      obtain ⟨rfl, hout⟩ := h
      exact hout

theorem walkToState (target : MessageState) (hs : p.out txHash s) :
    Program.Always effect (fun _ _ => anywhere) (walkToState input.messageRowId target) s
      fun _ => p.out txHash := by
  have huses : Program.Uses (MonitorStep input txHash) (ckb.walkToState input.messageRowId target) :=
    Program.Uses.bind (Program.uses_perform.2 rfl) fun _ =>
      Program.Uses.forEach fun _ _ => Program.uses_perform.2 rfl
  refine huses.always (fun β op s hop hs => ⟨p.out_anywhere _ s hs, fun answer s' hanswer => ?_⟩) hs
  exact p.monitor _ _ _ s _ s' hop hs hanswer

/-- How the second stage may stop: its transaction is out, and is the one a result names. -/
def Published (p : PublishPhases effect commits input anywhere) (txHash : Hash)
    (result : Except Error PublishResult) (s : σ) : Prop :=
  p.out txHash s ∧ ∀ published, result = .ok published → published.txHash = txHash

theorem published_error (e : Error) (hs : p.out txHash s) : p.Published txHash (.error e) s :=
  ⟨hs, fun published h => by cases h⟩

/-- One step of the second stage. -/
theorem afterStep {β : Type} {op : Op β} {rest : β → Prog PublishResult} (hs : p.out txHash s)
    (hop : MonitorStep input txHash β op)
    (hrest : ∀ b s', p.out txHash s' →
      Program.Always effect (fun _ _ => anywhere) (rest b) s' (p.Published txHash)) :
    Program.Always effect (fun _ _ => anywhere) ((Program.perform op).bind rest) s
      (p.Published txHash) := by
  have keeps := fun answer s' => p.monitor txHash β op s answer s' hop hs
  refine Program.Always.step (p.out_anywhere _ s hs) (fun e s' hanswer => ?_) fun b s' hanswer => ?_
  · exact p.published_error e (keeps _ s' hanswer)
  · exact hrest b s' (keeps _ s' hanswer)

theorem polls_out : Polls effect txHash (p.out txHash) (p.out txHash) where
  committed := fun s s' hs hanswer => p.monitor _ _ _ s _ s' (by exact rfl) hs hanswer
  status := fun s r s' hs hanswer _ => p.monitor _ _ _ s _ s' (by exact rfl) hs hanswer
  late := fun s r s' hs hanswer => p.monitor _ _ _ s _ s' (by trivial) hs hanswer
  send := fun tx s r s' hs hanswer => p.built _ _ _ s _ s' (by trivial) hs hanswer

theorem monitored (resumed : Bool) (timeoutMs reserved : Option Nat) (hs : p.out txHash s) :
    Program.Always effect (fun _ _ => anywhere)
      (ckb.monitor input.messageRowId txHash resumed timeoutMs reserved) s
      (p.Published txHash) := by
  have finish : ∀ s, p.out txHash s → Program.Always effect (fun _ _ => anywhere)
      (Program.ret ⟨txHash, ⟨txHash, 0⟩, true, resumed⟩ : Prog PublishResult) s
      (p.Published txHash) := by
    intro s hs
    refine ⟨hs, fun published hpublished => ?_⟩
    obtain rfl := Except.ok.inj hpublished
    rfl
  refine ((p.polls_out.wait hs).weaken fun _ _ s h => p.out_anywhere _ s h).bind (fun _ s hs => ?_)
    fun e s hs => p.published_error e hs
  refine p.afterStep hs (by exact ⟨rfl, rfl⟩) fun _ s hs => ?_
  refine p.afterStep hs (by exact rfl) fun _ s hs => ?_
  refine (p.walkToState _ hs).bind (fun _ s hs => ?_) fun e s hs => p.published_error e hs
  split
  · split
    · exact p.afterStep hs (by trivial) fun _ s hs => finish s hs
    · exact finish s hs
  · exact finish s hs

/-- All that happens with a transaction out keeps it out. -/
theorem publishAfterBroadcast (tx : BroadcastTx) (hs : p.out tx.txHash s) :
    Program.Always effect (fun _ _ => anywhere) (publishAfterBroadcast input tx) s
      (p.Published tx.txHash) := by
  unfold ckb.publishAfterBroadcast
  cases tx.fresh with
  | none =>
    exact (p.walkToState _ hs).bind (fun _ s hs => p.monitored _ _ _ hs)
      fun e s hs => p.published_error e hs
  | some signed =>
    refine p.afterStep hs (by trivial) fun _ s hs => ?_
    exact p.afterStep hs (by exact rfl) fun _ s hs => p.monitored _ _ _ hs

/-- A publish that returns has the transaction out that it names. -/
theorem publishText (hs : p.start s) :
    Program.Always effect (fun _ _ => anywhere) (publishText deps input) s
      (Stops anywhere fun result s' => p.out result.txHash s') := by
  have guarded : Program.Always effect (fun _ _ => anywhere)
      ((ckb.publishUntilBroadcast deps input).catchError fun error =>
        (Program.attempt (store (.transitionMessage input.messageRowId .failed))).bind
          fun _ => Program.throw (classifyPublishError error false)) s
      (Stops anywhere fun tx s' => p.out tx.txHash s') := by
    refine (p.publishUntilBroadcast hs).catchError (fun _ _ h => h) fun e s' hs' => ?_
    have hfail : Program.Always effect (fun _ _ => anywhere)
        (Program.attempt (store (.transitionMessage input.messageRowId .failed))) s'
        fun _ => anywhere := by
      refine Program.Always.attempt (Program.always_perform.2 ⟨hs', fun answer s'' hanswer => ?_⟩)
      exact p.fail s' answer s'' hs' hanswer
    exact hfail.bind (fun _ s'' h => h) fun _ s'' h => h
  refine guarded.bind (fun tx s' hs' => ?_) fun e s' h => h
  refine (p.publishAfterBroadcast tx hs').catchError ?_ fun e s'' h => p.out_anywhere _ s'' h.1
  rintro result s'' ⟨hout, htx⟩
  rw [← htx result rfl] at hout
  exact hout

end Stages

end PublishPhases

end cemp.ckb
