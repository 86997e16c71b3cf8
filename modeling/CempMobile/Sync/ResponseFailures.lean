import CempMobile.Ckb.Incoming
import CempMobile.Ckb.PublisherSteps
import CempMobile.Database.Rows
import CempMobile.Sync.Responses

open cemp.core cemp.database cemp.ckb

namespace cemp.sync

/-- The wallet during a pass of the response sender: the publishes begun so far, and how often
    a node answered that it has a transaction. -/
structure Sending where
  db : Db
  begun : List LogicalMessageId
  accepted : Nat

/-- A publish begins with a look into the journal. -/
def beginsPublish : {β : Type} → StoreOp β → List LogicalMessageId
  | _, .findOutgoingTxByPurpose (.message id) => [id]
  | _, _ => []

/-- Whether an answer says that a node has a transaction. -/
def acceptances : {β : Type} → Op β → Except Error β → Nat
  | _, .getTransaction _, .ok status =>
    if status ∈ [.sent, .pending, .proposed, .committed] then 1 else 0
  | _, .sendTransaction _, .ok _ => 1
  | _, _, _ => 0

/-- What a pass does to the wallet. Every call outside the database may answer anything. -/
def sendingEffect : Program.Effect Op Error Sending := fun _ op s answer s' =>
  match op with
  | .store access =>
    answer = (access.exec s.db).1 ∧
      s' = { s with db := (access.exec s.db).2, begun := s.begun ++ beginsPublish access }
  | op => s' = { s with accepted := s.accepted + acceptances op answer }

/-- The responses a pass of the sender takes up. -/
def sendQueue (db : Db) : List (Nat × Message) :=
  queuedResponses (MessageRepository.selectByState db [.queued] 500)

/-- What the failure of one response's publish must leave: a row that a later pass takes up,
    with the cell it answers, and the rows behind it begun in this pass. -/
structure SurvivesFailure (row : Nat × Message) (behind : List (Nat × Message)) (s s' : Sending) :
    Prop where
  queued : ∃ m, (row.1, m) ∈ sendQueue s'.db
  repliedCell : repliedCell (MessageRepository.chainRef? s'.db row.1) =
    repliedCell (MessageRepository.chainRef? s.db row.1)
  behind : ∃ begun, s'.begun = s.begun ++ begun ∧
    ∀ other ∈ behind, other.2.logicalMessageId ∈ begun

section Effect

variable {β : Type} {op : Op β} {s s' : Sending} {answer : Except Error β} {rowId : Nat}
  {states : List MessageState}

theorem sendingEffect_rowAt (heffect : sendingEffect β op s answer s')
    (h : s.db.RowAt rowId states)
    (hmoves : ∀ target, op.moves = some (rowId, target) → target ∈ states) :
    s'.db.RowAt rowId states := by
  cases op with
  | store access =>
    obtain ⟨-, rfl⟩ := heffect
    exact h.exec access hmoves
  | _ =>
    obtain rfl := heffect
    exact h

theorem sendingEffect_accepted (heffect : sendingEffect β op s answer s') :
    s.accepted ≤ s'.accepted := by
  cases op with
  | store access =>
    obtain ⟨-, rfl⟩ := heffect
    exact Nat.le_refl _
  | _ =>
    obtain rfl := heffect
    exact Nat.le_add_right _ _

end Effect

/-- A program that returned a value handed a transaction to a node since `n` were accepted. -/
def Handed {α : Type} (n : Nat) (r : Except Error α) (s' : Sending) : Prop :=
  ∀ a, r = .ok a → n < s'.accepted

section Handed

variable {α : Type} {n : Nat} {s : Sending}

theorem accepted_grows (p : Prog α) (h : n ≤ s.accepted) :
    Program.Always sendingEffect Program.Anywhere p s fun _ s' => n ≤ s'.accepted :=
  Program.always_invariant (fun _ _ _ _ _ heffect hs => hs.trans (sendingEffect_accepted heffect)) p h

theorem handed_of_lt (p : Prog α) (h : n < s.accepted) :
    Program.Always sendingEffect Program.Anywhere p s fun r s' => Handed n r s' :=
  (accepted_grows p h).mono fun _ _ hs _ _ => hs

theorem handed_throw (e : Error) :
    Program.Always sendingEffect Program.Anywhere (.throw e : Prog α) s fun r s' => Handed n r s' := by
  intro a h
  cases h

/-- A first part that hands a transaction over is enough. -/
theorem Handed.bind {β : Type} {p : Prog α} {f : α → Prog β}
    (h : Program.Always sendingEffect Program.Anywhere p s fun r s' => Handed n r s') :
    Program.Always sendingEffect Program.Anywhere (p.bind f) s fun r s' => Handed n r s' := by
  refine h.bind (fun a s' hs => handed_of_lt _ (hs a rfl)) fun e s' _ b hb => ?_
  cases hb

/-- So is a last part. -/
theorem Handed.step {β : Type} {op : Op β} {f : β → Prog α} (hn : n ≤ s.accepted)
    (hf : ∀ b s', n ≤ s'.accepted →
      Program.Always sendingEffect Program.Anywhere (f b) s' fun r s' => Handed n r s') :
    Program.Always sendingEffect Program.Anywhere ((Program.perform op).bind f) s
      fun r s' => Handed n r s' := by
  refine Program.Always.step trivial (fun e s' _ a h => ?_) fun b s' heffect => ?_
  · cases h
  · exact hf b s' (hn.trans (sendingEffect_accepted heffect))

theorem Handed.andThen {β : Type} {p : Prog β} {f : β → Prog α} (hn : n ≤ s.accepted)
    (hf : ∀ b s', n ≤ s'.accepted →
      Program.Always sendingEffect Program.Anywhere (f b) s' fun r s' => Handed n r s') :
    Program.Always sendingEffect Program.Anywhere (p.bind f) s fun r s' => Handed n r s' := by
  refine (accepted_grows p hn).bind (fun b s' hs => hf b s' hs) fun e s' _ a h => ?_
  cases h

theorem sendTransaction_handed (tx : Transaction) (hn : n ≤ s.accepted) :
    Program.Always sendingEffect Program.Anywhere (call (.sendTransaction tx)) s
      fun r s' => Handed n r s' := by
  refine Program.always_perform.2 ⟨trivial, ?_⟩
  rintro r s' rfl a rfl
  simp only [acceptances]
  omega

theorem rebroadcast_handed (record : JournaledTx) (wire : Transaction) (timeoutMs : Option Nat)
    (hn : n ≤ s.accepted) :
    Program.Always sendingEffect Program.Anywhere (rebroadcast record wire timeoutMs) s
      fun r s' => Handed n r s' := by
  have hsend : Program.Always sendingEffect Program.Anywhere
      (Program.attempt (call (.sendTransaction wire))) s
      fun r s' => ∀ a, r = .ok (.ok a) → n < s'.accepted :=
    Program.Always.attempt ((sendTransaction_handed wire hn).mono fun r s' h a ha =>
      h a (Except.ok.inj ha))
  refine hsend.bind (fun answer s' hs => ?_) fun e s' _ a h => by cases h
  cases answer with
  | error e =>
    simp only
    split
    · exact handed_throw _
    · exact handed_throw _
  | ok hash => exact handed_of_lt _ (hs hash rfl)

/-- A resume that succeeds found a node that has the transaction, or handed it to one. -/
theorem resumeJournaledBroadcast_handed (record : JournaledTx) (timeoutMs : Option Nat)
    (hn : n ≤ s.accepted) :
    Program.Always sendingEffect Program.Anywhere (resumeJournaledBroadcast record timeoutMs) s
      fun r s' => Handed n r s' := by
  have again : ∀ s', n ≤ s'.accepted → Program.Always sendingEffect Program.Anywhere
      (resubmit record timeoutMs) s' fun r s' => Handed n r s' := by
    intro s' hs
    unfold resubmit
    cases record.txHex with
    | none => exact handed_throw _
    | some wire => exact rebroadcast_handed record wire timeoutMs hs
  refine Program.Always.step trivial (fun e s' _ a h => by cases h) ?_
  rintro status s' rfl
  cases status with
  | committed => exact handed_of_lt _ (by simp only [acceptances]; simp; omega)
  | rejected reason => exact handed_throw _
  | pending => exact handed_of_lt _ (by simp only [acceptances]; simp; omega)
  | proposed => exact handed_of_lt _ (by simp only [acceptances]; simp; omega)
  | sent => exact again _ (by simp only [acceptances]; simp; omega)
  | unknown => exact again _ (by simp only [acceptances]; simp; omega)

theorem buildAndBroadcast_handed (deps : PipelineDeps) (input : PublishTextInput)
    (hn : n ≤ s.accepted) :
    Program.Always sendingEffect Program.Anywhere (buildAndBroadcast deps input) s
      fun r s' => Handed n r s' :=
  Handed.step hn fun _ _ hn => Handed.step hn fun _ _ hn => Handed.step hn fun _ _ hn =>
    Handed.andThen hn fun _ _ hn => Handed.step hn fun _ _ hn => Handed.andThen hn fun _ _ hn =>
    Handed.step hn fun _ _ hn => Handed.step hn fun _ _ hn => Handed.step hn fun _ _ hn =>
    Handed.step hn fun _ _ hn => Handed.step hn fun _ _ hn => Handed.step hn fun _ _ hn =>
    Handed.bind (sendTransaction_handed _ hn)

theorem resumeOrAbandon_handed (record : OutgoingTransaction) (timeoutMs : Option Nat)
    (hn : n ≤ s.accepted) :
    Program.Always sendingEffect Program.Anywhere (resumeOrAbandon record timeoutMs) s
      fun r s' => n ≤ s'.accepted ∧ ∀ resumed, r = .ok (some resumed) → n < s'.accepted := by
  have hresume := (resumeJournaledBroadcast_handed (.ofRecord record) timeoutMs hn).and
    (accepted_grows (resumeJournaledBroadcast (.ofRecord record) timeoutMs) hn)
  refine Program.Always.catchError (?_ : Program.Always sendingEffect Program.Anywhere _ s
    fun r s' => n ≤ s'.accepted ∧ ∀ resumed : OutgoingTransaction, r = .ok (some resumed) →
      n < s'.accepted) (fun a s' hs => hs) ?_
  · refine (hresume.weaken fun _ _ _ _ => trivial).bind ?_ ?_
    · rintro outcome s' ⟨hhanded, -⟩
      have hlt : n < s'.accepted := hhanded outcome rfl
      exact (accepted_grows _ hlt).mono fun _ _ hs => ⟨Nat.le_of_lt hs, fun _ _ => hs⟩
    · rintro e s' ⟨-, hle⟩
      exact ⟨hle, fun _ h => by cases h⟩
  rintro e s' ⟨hle, -⟩
  have hnone : ∀ p : Prog (Option OutgoingTransaction),
      Program.Always sendingEffect Program.Anywhere p s'
        (fun r _ => ∀ resumed, r ≠ .ok (some resumed)) →
      Program.Always sendingEffect Program.Anywhere p s'
        fun r s'' => n ≤ s''.accepted ∧ ∀ resumed, r = .ok (some resumed) → n < s''.accepted := by
    intro p hp
    exact ((hp.and (accepted_grows p hle)).weaken fun _ _ _ _ => trivial).mono
      fun r s'' hs => ⟨hs.2, fun resumed h => absurd h (hs.1 resumed)⟩
  cases e with
  | journaledAbandoned message spent =>
    refine hnone _ (Program.Always.step trivial (fun e s'' _ resumed h => by cases h) ?_)
    intro _ s'' _ resumed h
    cases h
  | _ => exact hnone _ fun resumed h => by cases h

/-- The first stage of a publish succeeds only with a transaction that a node has. -/
theorem publishUntilBroadcast_handed (deps : PipelineDeps) (input : PublishTextInput)
    (hn : n ≤ s.accepted) :
    Program.Always sendingEffect Program.Anywhere (publishUntilBroadcast deps input) s
      fun r s' => Handed n r s' := by
  refine Handed.step hn fun existing s' hn => ?_
  cases existing with
  | none => exact buildAndBroadcast_handed deps input hn
  | some record =>
    refine (resumeOrAbandon_handed record input.timeoutMs hn).bind ?_ fun e s' _ a h => by cases h
    rintro resumable s' ⟨hle, hlt⟩
    cases resumable with
    | none => exact buildAndBroadcast_handed deps input hle
    | some record => exact handed_of_lt _ (hlt record rfl)

end Handed

section Publish

variable {deps : PipelineDeps} {s s' : Sending}

/-- The row of a publish stays unsent up to the broadcast, wherever that fails. -/
theorem publishUntilBroadcast_unsent {input : PublishTextInput}
    (hrow : s.db.RowAt input.messageRowId UNSENT_STATES) :
    Program.Always sendingEffect Program.Anywhere (publishUntilBroadcast deps input) s
      fun _ s' => s'.db.RowAt input.messageRowId UNSENT_STATES := by
  refine publishUntilBroadcast_uses.always (fun β op s hop hs => ⟨trivial, fun r s' heffect => ?_⟩) hrow
  exact sendingEffect_rowAt heffect hs fun target hmove => (hop.moves hmove).2

/-- A publish hands its transaction to a node, or throws and leaves its row at `failed`. -/
theorem publishText_failed (deps : PipelineDeps) (s : Sending) (input : PublishTextInput)
    (hrow : s.db.RowAt input.messageRowId UNSENT_STATES) :
    Program.Always sendingEffect Program.Anywhere (publishText deps input) s
      fun r s' => s.accepted < s'.accepted ∨
        ((∃ e, r = .error e) ∧ s'.db.RowAt input.messageRowId [.failed]) := by
  have hfirst := (publishUntilBroadcast_handed deps input (Nat.le_refl s.accepted)).and
    (publishUntilBroadcast_unsent hrow)
  have hguarded : Program.Always sendingEffect Program.Anywhere
      ((publishUntilBroadcast deps input).catchError fun error =>
        (Program.attempt (store (.transitionMessage input.messageRowId .failed))).bind
          fun _ => Program.throw (classifyPublishError error false)) s
      fun r s' => s.accepted < s'.accepted ∨
        ((∃ e, r = .error e) ∧ s'.db.RowAt input.messageRowId [.failed]) := by
    refine (hfirst.weaken fun _ _ _ _ => trivial).catchError ?_ ?_
    · rintro tx s' ⟨hhanded, -⟩
      exact .inl (hhanded tx rfl)
    · rintro e s' ⟨-, hunsent⟩
      have hmoved := hunsent.move .failed (by decide)
      have hattempt : Program.Always sendingEffect Program.Anywhere
          (Program.attempt (store (.transitionMessage input.messageRowId .failed))) s'
          fun _ s'' => s''.db.RowAt input.messageRowId [.failed] := by
        refine Program.Always.attempt (Program.always_perform.2 ⟨trivial, ?_⟩)
        rintro r s'' ⟨-, rfl⟩
        exact hmoved.2
      exact hattempt.bind (fun _ s'' hs => .inr ⟨⟨_, rfl⟩, hs⟩) fun e s'' hs => .inr ⟨⟨_, rfl⟩, hs⟩
  refine hguarded.bind ?_ ?_
  · rintro tx s' (hlt | ⟨⟨e, h⟩, -⟩)
    · exact (accepted_grows _ hlt).mono fun _ _ hs => .inl hs
    · cases h
  · rintro e s' (hlt | ⟨-, hfailed⟩)
    · exact .inl hlt
    · exact .inr ⟨⟨e, rfl⟩, hfailed⟩

/-- A read does not fail and does not touch the database. -/
theorem always_read {α β : Type} {access : StoreOp β} {f : β → Prog α}
    {post : Except Error α → Sending → Prop} (hread : ∀ db, ∃ b, access.exec db = (.ok b, db))
    (hok : ∀ b begun, access.exec s.db = (.ok b, s.db) →
      Program.Always sendingEffect Program.Anywhere (f b) { s with begun := begun } post) :
    Program.Always sendingEffect Program.Anywhere ((store access).bind f) s post := by
  obtain ⟨b, hb⟩ := hread s.db
  refine Program.Always.step trivial ?_ ?_
  · rintro e s' ⟨hanswer, -⟩
    rw [hb] at hanswer
    cases hanswer
  · rintro b' s' ⟨hanswer, rfl⟩
    rw [hb] at hanswer
    obtain rfl := Except.ok.inj hanswer
    rw [hb]
    exact hok b' _ hb

theorem recipientOf_reads {α : Type} {conversationId : Nat} {f : Option ProfileId → Prog α}
    {post : Except Error α → Sending → Prop}
    (hok : ∀ b begun, Program.Always sendingEffect Program.Anywhere (f b) { s with begun := begun } post) :
    Program.Always sendingEffect Program.Anywhere ((recipientOf conversationId).bind f) s post := by
  unfold recipientOf
  rw [Program.bind_eq_bind, Program.bind_assoc]
  refine always_read (fun db => ⟨_, rfl⟩) fun conversation begun _ => ?_
  cases conversation with
  | none => exact hok _ begun
  | some conversation =>
    simp only [Program.bind_eq_bind, Program.bind_assoc]
    exact always_read (fun db => ⟨_, rfl⟩) fun contact begun _ => hok _ begun

/-- Sending a response fails before a node has its transaction only by failing its row. -/
theorem sendResponse_failed {row : Nat × Message} (hrow : s.db.RowAt row.1 UNSENT_STATES) :
    Program.Always sendingEffect Program.Anywhere (sendResponse deps row) s
      fun r s' => ∀ e, r = .error e → s.accepted < s'.accepted ∨ s'.db.RowAt row.1 [.failed] := by
  have skipped : ∀ s' : Sending, Program.Always sendingEffect Program.Anywhere
      (Program.ret () : Prog Unit) s'
      fun r s' => ∀ e, r = .error e → s.accepted < s'.accepted ∨ s'.db.RowAt row.1 [.failed] := by
    intro s' e h
    cases h
  unfold sendResponse
  refine always_read (fun db => ⟨_, rfl⟩) fun chainRef begun _ => ?_
  split
  next originalCell kind hcell hkind =>
    refine always_read (fun db => ⟨_, rfl⟩) fun original begun _ => ?_
    split
    next originalId _ _ _ _ _ originalMessageId _ _ =>
      refine recipientOf_reads fun recipient begun => ?_
      cases recipient with
      | none => exact skipped _
      | some recipient =>
        have hpublish := publishText_failed deps { s with begun := begun }
          (responseInput row recipient originalMessageId originalCell kind.status) hrow
        refine hpublish.bind ?_ ?_
        · rintro result s' (hlt | ⟨⟨e, h⟩, -⟩)
          · exact (accepted_grows _ hlt).mono fun _ _ hs e _ => .inl hs
          · cases h
        · rintro e s' (hlt | ⟨-, hfailed⟩) e' -
          · exact .inl hlt
          · exact .inr hfailed
    · exact skipped _
  · exact skipped _

/-- A publish of another row leaves a queued row queued. -/
theorem publishText_spares {rowId : Nat} {input : PublishTextInput} (hne : input.messageRowId ≠ rowId)
    (hrow : s.db.RowAt rowId [.queued]) :
    Program.Always sendingEffect Program.Anywhere (publishText deps input) s
      fun _ s' => s'.db.RowAt rowId [.queued] := by
  refine publishText_uses.always (fun β op s hop hs => ⟨trivial, fun r s' heffect => ?_⟩) hrow
  exact sendingEffect_rowAt heffect hs fun target hmove => absurd (hop.moves hmove).symm hne

/-- An access that moves another row, if any. -/
theorem always_spares {α β : Type} {access : StoreOp β} {rowId : Nat}
    {post : Except Error α → Sending → Prop} {f : β → Prog α} (hrow : s.db.RowAt rowId [.queued])
    (hmoves : ∀ target, access.moves ≠ some (rowId, target)) (herror : ∀ e s', post (.error e) s')
    (hok : ∀ b s', s'.db.RowAt rowId [.queued] →
      Program.Always sendingEffect Program.Anywhere (f b) s' post) :
    Program.Always sendingEffect Program.Anywhere ((store access).bind f) s post := by
  refine Program.Always.step trivial (fun e s' _ => herror e s') fun b s' heffect => hok b s' ?_
  exact sendingEffect_rowAt heffect hrow fun target hmove => absurd hmove (hmoves target)

/-- The walk of an answered message leaves a queued row queued, unless it fails: a queued row
    is outgoing, and none of the walk's moves is legal for it. -/
theorem finalizeOriginal_spares {rowId originalId : Nat} {originalCell : OutPoint}
    (hrow : s.db.RowAt rowId [.queued]) :
    Program.Always sendingEffect Program.Anywhere (finalizeOriginal originalId originalCell) s
      fun r s' => r = .ok () → s'.db.RowAt rowId [.queued] := by
  have hillegal : ∀ target ∈ [MessageState.displayed, .response_queued, .response_sent],
      ∀ state ∈ [MessageState.queued], ∀ direction ∈ MESSAGE_DIRECTIONS, state.Fits direction →
        state ≠ target ∧ canTransitionMessage direction state target = false := by decide
  have advance : ∀ state ∈ [MessageState.displayed, .response_queued, .response_sent], ∀ s : Sending,
      s.db.RowAt rowId [.queued] → Program.Always sendingEffect Program.Anywhere
        (advanceOriginal originalId state) s
        (Program.OkOr (fun t : Sending => t.db.RowAt rowId [.queued]) fun _ _ => True) := by
    intro state hstate s hrow
    refine always_read (fun db => ⟨_, rfl⟩) fun current begun hread => ?_
    cases current with
    | none => exact hrow
    | some m =>
      simp only
      split
      · exact hrow
      · split
        · refine Program.always_perform.2 ⟨trivial, fun r s' heffect => ?_⟩
          by_cases hid : originalId = rowId
          · subst hid
            obtain ⟨e, hrefused⟩ := hrow.refused state (hillegal state hstate)
            obtain ⟨hanswer, -⟩ := heffect
            simp only [StoreOp.exec, hrefused] at hanswer
            rw [hanswer]
            trivial
          · have hs := sendingEffect_rowAt heffect hrow fun target hmove => by
              cases hmove
              exact absurd rfl hid
            cases r with
            | ok _ => exact hs
            | error _ => trivial
        · exact hrow
  refine (Program.Always.forEach (fun t : Sending => t.db.RowAt rowId [.queued]) (fun _ _ => True) advance
    hrow).bind (fun _ s' hs => ?_) fun e s' _ h => by cases h
  by_cases hid : originalId = rowId
  · subst hid
    refine Program.Always.step trivial (fun e s' _ h => by cases h) ?_
    rintro b s'' ⟨hanswer, -⟩
    obtain ⟨e, hrefused⟩ := Db.RowAt.refused hs .awaiting_remote_reclaim (by decide)
    simp only [StoreOp.exec, hrefused] at hanswer
    cases hanswer
  · refine always_spares hs ?_ (fun e s' h => by cases h) fun _ s'' hs => ?_
    · intro target h
      cases h
      exact hid rfl
    · refine Program.always_perform.2 ⟨trivial, fun r s' heffect _ => ?_⟩
      exact sendingEffect_rowAt heffect hs fun target hmove => by cases hmove

/-- Sending another response leaves a queued row queued, unless it fails. -/
theorem sendResponse_spares {row : Nat × Message} {rowId : Nat} (hne : row.1 ≠ rowId)
    (hrow : s.db.RowAt rowId [.queued]) :
    Program.Always sendingEffect Program.Anywhere (sendResponse deps row) s
      fun r s' => r = .ok () → s'.db.RowAt rowId [.queued] := by
  unfold sendResponse
  refine always_read (fun db => ⟨_, rfl⟩) fun chainRef begun _ => ?_
  split
  next originalCell kind hcell hkind =>
    refine always_read (fun db => ⟨_, rfl⟩) fun original begun _ => ?_
    split
    next =>
      refine recipientOf_reads fun recipient begun => ?_
      cases recipient with
      | none => exact fun _ => hrow
      | some recipient =>
        refine Program.Always.bind (publishText_spares hne hrow) ?_ fun e s' _ h => by cases h
        intro result s' hs
        split
        · exact fun _ => hs
        · exact finalizeOriginal_spares hs
    · exact fun _ => hrow
  · exact fun _ => hrow

end Publish

/-- The responses in front of a queued one leave it queued. -/
theorem sendResponses_spare {deps : PipelineDeps} {s s' : Sending} {front : List (Nat × Message)}
    {rowId : Nat} (hfront : ∀ other ∈ front, other.1 ≠ rowId) (hrow : s.db.RowAt rowId [.queued])
    (hrun : Program.Runs sendingEffect (Program.forEach (sendResponse deps) front) s (.ok ()) s') :
    s'.db.RowAt rowId [.queued] := by
  have hloop : Program.Always sendingEffect Program.Anywhere
      (Program.forEach (sendResponse deps) front) s
      (Program.OkOr (fun t : Sending => t.db.RowAt rowId [.queued]) fun _ _ => True) := by
    refine Program.Always.forEach (fun t : Sending => t.db.RowAt rowId [.queued]) (fun _ _ => True) (fun other hother s hs => ?_) hrow
    refine (sendResponse_spares (hfront other hother) hs).mono fun r s' h => ?_
    cases r with
    | ok _ => exact h rfl
    | error _ => trivial
  exact hloop.runs hrun

theorem rowAt_of_sendQueue {db : Db} {row : Nat × Message} (h : row ∈ sendQueue db) :
    db.RowAt row.1 [.queued] := by
  obtain ⟨hget, hstate⟩ := MessageRepository.rowAt_of_selectByState (List.mem_of_mem_filter h)
  exact ⟨row.2, hget, hstate⟩

theorem sendQueue_sorted (db : Db) : (sendQueue db).Pairwise fun r r' => r.1 < r'.1 :=
  (MessageRepository.selectByState_sorted db _ _).filter _

/-- When the publish of one queued response fails before a node has its transaction, wherever
    it fails and wherever the row stands in the queue, the pass ends there and the row is left
    at `failed`, where no later pass takes it up. -/
theorem runResponseSender_failure (deps : PipelineDeps) (s mid s' : Sending)
    (front behind : List (Nat × Message)) (row : Nat × Message) (e : Error)
    (hqueue : sendQueue s.db = front ++ row :: behind)
    (hfront : Program.Runs sendingEffect (Program.forEach (sendResponse deps) front) s (.ok ()) mid)
    (hfailed : Program.Runs sendingEffect (sendResponse deps row) mid (.error e) s')
    (hunaccepted : s'.accepted = mid.accepted) :
    Program.Runs sendingEffect (runResponseSender deps) s (.error e) s' ∧
      ¬SurvivesFailure row behind s s' := by
  have hbefore : ∀ other ∈ front, other.1 ≠ row.1 := by
    intro other hother
    have hsorted := sendQueue_sorted s.db
    rw [hqueue, List.pairwise_append] at hsorted
    exact Nat.ne_of_lt (hsorted.2.2 other hother row List.mem_cons_self)
  have hqueued : s.db.RowAt row.1 [.queued] :=
    rowAt_of_sendQueue (hqueue ▸ List.mem_append_right _ List.mem_cons_self)
  have hmid := sendResponses_spare hbefore hqueued hfront
  have hrow : s'.db.RowAt row.1 [.failed] := by
    have hunsent : mid.db.RowAt row.1 UNSENT_STATES := hmid.mono (by decide)
    obtain hlt | hrow := (sendResponse_failed hunsent).runs hfailed e rfl
    · omega
    · exact hrow
  constructor
  · refine Program.runs_bind.2 (.inl ⟨MessageRepository.selectByState s.db [.queued] 500, s, ?_, ?_⟩)
    · refine Program.runs_perform.2 ⟨rfl, ?_⟩
      simp [beginsPublish, StoreOp.exec, MessageRepository.listByState, Method.read]
    · rw [show queuedResponses (MessageRepository.selectByState s.db [.queued] 500) =
        front ++ row :: behind from hqueue]
      exact Program.runs_forEach_error hfront hfailed
  · rintro ⟨⟨m, hlisted⟩, -, -⟩
    have hagain : s'.db.RowAt (row.1, m).1 [.queued] := rowAt_of_sendQueue hlisted
    obtain ⟨state, hstate, hstate'⟩ := hrow.disjoint hagain
    simp only [List.mem_singleton] at hstate hstate'
    rw [hstate] at hstate'
    cases hstate'

/-- Executes a pass of a wallet without a published profile and without a node. -/
def offlineHandler : Program.Handler Op Error Sending := fun _ op s =>
  match op with
  | .store access => ((access.exec s.db).1,
      { s with db := (access.exec s.db).2, begun := s.begun ++ beginsPublish access })
  | _ => (.error (.other "offline"), s)

theorem runs_offlineHandler {α : Type} (p : Prog α) (s : Sending) :
    Program.Runs sendingEffect p s (Program.run offlineHandler p s).1
      (Program.run offlineHandler p s).2 := by
  refine Program.runs_of_run offlineHandler id ?_ p s
  intro β op s
  cases op <;> first | rfl | exact ⟨rfl, rfl⟩

/-- A received message of a contact, and the two responses it has queued. -/
def receivedMessage : Message :=
  ⟨1, .incoming, .received, some "hi", .incoming (sampleMessageId 8), some (sampleMessageId 8),
    by decide⟩

theorem fits_queuedResponse : MessageState.queued.Fits .outgoing := by decide

def queuedResponse (id : LogicalMessageId) : Message :=
  ⟨1, .outgoing, .queued, some "", id, none, fits_queuedResponse⟩

def envelopeResponse : Message := queuedResponse (.response (.incoming (sampleMessageId 8)))
def attachmentResponse : Message := queuedResponse (.ackAttachment (.incoming (sampleMessageId 8)))

theorem fresh_envelopeResponse :
    (Table.singleton receivedMessage : Table Message.key).Fresh envelopeResponse := by
  decide

def respondingDb : Db :=
  { Db.empty with
    contacts := .singleton ⟨"alice", some (sampleProfile 1), false⟩
    conversations := .singleton ⟨1⟩
    messages := ((Table.singleton receivedMessage).insert envelopeResponse
      fresh_envelopeResponse).insert
      attachmentResponse (by decide)
    chainRefs := (Table.singleton ⟨2, none, none, some 5, some 0⟩).insert
      ⟨3, none, none, some 5, some 0⟩ (by decide) }

/-- The wallet before the pass, and after it. -/
def responding : Sending := ⟨respondingDb, [], 0⟩

def failedPass : Sending := (Program.run offlineHandler (runResponseSender samplePipeline) responding).2

theorem sendQueue_respondingDb :
    sendQueue responding.db = [] ++ (2, envelopeResponse) :: [(3, attachmentResponse)] := rfl

/-- The failed publish of the first response loses it. -/
theorem first_response_lost :
    ¬SurvivesFailure (2, envelopeResponse) [(3, attachmentResponse)] responding
      (Program.run offlineHandler (sendResponse samplePipeline (2, envelopeResponse)) responding).2 := by
  have hsend : Program.Runs sendingEffect (sendResponse samplePipeline (2, envelopeResponse)) responding
      (.error (classifyPublishError (.other "offline") false))
      (Program.run offlineHandler (sendResponse samplePipeline (2, envelopeResponse)) responding).2 :=
    runs_offlineHandler _ _
  exact (runResponseSender_failure samplePipeline responding responding _ [] _ _ _
    sendQueue_respondingDb ⟨rfl, rfl⟩ hsend rfl).2

/-- The first response is left at `failed`, and the second one is not begun. -/
theorem second_response_not_begun :
    Program.Runs sendingEffect (runResponseSender samplePipeline) responding
        (.error (classifyPublishError (.other "offline") false)) failedPass ∧
      (2, envelopeResponse) ∉ sendQueue failedPass.db ∧
      attachmentResponse.logicalMessageId ∉ failedPass.begun ∧
      ¬SurvivesFailure (2, envelopeResponse) [(3, attachmentResponse)] responding failedPass := by
  have hbegun : failedPass.begun = [.response (.incoming (sampleMessageId 8))] := rfl
  have hqueue : (sendQueue failedPass.db).map (·.1) = [3] := rfl
  refine ⟨runs_offlineHandler _ _, fun h => ?_, by decide, fun h => ?_⟩
  · have hmem : 2 ∈ (sendQueue failedPass.db).map (·.1) := List.mem_map.2 ⟨_, h, rfl⟩
    rw [hqueue] at hmem
    exact absurd hmem (by decide)
  · obtain ⟨m, hlisted⟩ := h.queued
    have hmem : 2 ∈ (sendQueue failedPass.db).map (·.1) := List.mem_map.2 ⟨_, hlisted, rfl⟩
    rw [hqueue] at hmem
    exact absurd hmem (by decide)

end cemp.sync
