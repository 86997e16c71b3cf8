import CempMobile.Ckb.Local
import CempMobile.Ckb.PublishRuns

open cemp.core cemp.database

namespace cemp.ckb

/-- An abandonment: the class of errors that `resumeJournaledBroadcast` alone throws. -/
def IsAbandonment : Error → Prop
  | .journaledAbandoned .. => True
  | _ => False

/-- A refusal because another transaction has consumed the inputs. -/
def ConsumedElsewhere : Error → Prop
  | .rpc .inputsConsumed _ => True
  | _ => False

instance (e : Error) : Decidable (ConsumedElsewhere e) :=
  match e with
  | .rpc .inputsConsumed _ => isTrue trivial
  | .rpc .alreadyKnown _ | .rpc .refused _ | .rpc .transport _ | .ckb .. | .database .. |
    .journaledAbandoned .. | .publication .. | .lora .. | .imageTooLarge .. |
    .attachmentUnavailable _ | .other _ => isFalse fun h => h

/-- Calls outside the database throw no abandonment. -/
def Foreign {σ : Type} (effect : Program.Effect Op Error σ) : Prop :=
  ∀ (β : Type) (op : Op β) s e s', ¬IsAccess β op → effect β op s (.error e) s' → ¬IsAbandonment e

/-- What the node has answered during a resume: the polls, and the rebroadcast. -/
structure NodeLog where
  statuses : List (Except Error TransactionStatus)
  sends : List (Except Error Hash)

/-- A resume against a node that may answer anything. The client throws no abandonment. -/
def logEffect : Program.Effect Op Error NodeLog := fun _ op log answer log' =>
  (∀ e, answer = .error e → ¬IsAbandonment e) ∧
    match op with
    | .getTransaction _ => log' = { log with statuses := log.statuses ++ [answer] }
    | .sendTransaction _ => log' = { log with sends := log.sends ++ [answer] }
    | _ => log' = log

/-- The grounds a journaled transaction may be abandoned on: the node reports it rejected, it is
    unknown to the node and its bytes were not journaled, or its inputs were consumed by another
    transaction. -/
def Grounds (record : JournaledTx) (log : NodeLog) : Prop :=
  (∃ reason, .ok (.rejected reason) ∈ log.statuses) ∨
    (record.txHex = none ∧ .ok .unknown ∈ log.statuses) ∨
    ∃ e, .error e ∈ log.sends ∧ ConsumedElsewhere e

/-- The answers that the resume misreads: a refusal for another reason whose text the pattern
    matches, and a transaction without journaled bytes that was sent. -/
def Misread (record : JournaledTx) (log : NodeLog) : Prop :=
  (∃ e, .error e ∈ log.sends ∧ spentElsewherePattern e.message ∧ ¬ConsumedElsewhere e) ∨
    record.txHex = none ∧ log.statuses.head? = some (.ok .sent)

section Resume

variable {record : JournaledTx} {timeoutMs : Option Nat} {log log' : NodeLog}

/-- How a resume ends, by what the node answered. -/
inductive ResumeEnds (record : JournaledTx) : Except Error ResumeBroadcastOutcome → NodeLog → Prop where
  | rejected {reason : Option String} {e : Error} (hwhy : IsAbandonment e) :
    ResumeEnds record (.error e) ⟨[.ok (.rejected reason)], []⟩
  | lost {status : TransactionStatus} {e : Error} (hstatus : status = .sent ∨ status = .unknown)
    (hbytes : record.txHex = none) (hwhy : IsAbandonment e) :
    ResumeEnds record (.error e) ⟨[.ok status], []⟩
  | spent {status : TransactionStatus} {e refusal : Error} (hstatus : status = .sent ∨ status = .unknown)
    (hpattern : spentElsewherePattern refusal.message) (hbytes : record.txHex ≠ none)
    (hwhy : IsAbandonment e) : ResumeEnds record (.error e) ⟨[.ok status], [.error refusal]⟩
  | refused {status : TransactionStatus} {refusal : Error} (hbytes : record.txHex ≠ none)
    (hpattern : ¬spentElsewherePattern refusal.message) (hwhy : ¬IsAbandonment refusal) :
    ResumeEnds record (.error refusal) ⟨[.ok status], [.error refusal]⟩
  | waited {log : NodeLog} {out : Except Error ResumeBroadcastOutcome}
    (hout : ∀ e, out = .error e → ¬IsAbandonment e)
    (hsends : ∀ e, .error e ∉ log.sends)
    (hbytes : record.txHex = none → log.statuses.head? ≠ some (.ok .sent)) : ResumeEnds record out log

/-- A wait throws no abandonment, whatever it is told. -/
theorem pollForCommit_never_abandons {σ : Type} {effect : Program.Effect Op Error σ} (hforeign : Foreign effect)
    (txHash : Hash) (timeoutMs sleeps : Nat) (s : σ) :
    Program.Always effect Program.Anywhere (pollForCommit txHash timeoutMs sleeps) s
      fun out _ => ∀ e, out = .error e → ¬IsAbandonment e := by
  have failed : ∀ (β : Type) (op : Op β) s e s', ¬IsAccess β op → effect β op s (.error e) s' →
      ∀ e', (.error e : Except Error Unit) = .error e' → ¬IsAbandonment e' := by
    rintro β op s e s' hop heffect _ ⟨⟩
    exact hforeign β op s e s' hop heffect
  have settled : ∀ (status : TransactionStatus) out, commitOutcome status = some out →
      ∀ e, out = .error e → ¬IsAbandonment e := by
    rintro status out hsettles e rfl
    cases status with
    | rejected reason =>
      obtain rfl := Except.error.inj (Option.some.inj hsettles)
      exact fun h => h
    | _ => cases hsettles
  have late : ∀ (status : TransactionStatus) e,
      (.error (timedOut timeoutMs status) : Except Error Unit) = .error e → ¬IsAbandonment e := by
    rintro status _ ⟨⟩
    exact fun h => h
  induction sleeps generalizing s with
  | zero =>
    refine Program.Always.step trivial (fun e s' => failed _ _ s e s' fun h => h) fun status s' _ => ?_
    cases hsettles : commitOutcome status with
    | some outcome => exact Program.always_ofExcept.2 (settled status outcome hsettles)
    | none => exact late status
  | succ sleeps ih =>
    refine Program.Always.step trivial (fun e s' => failed _ _ s e s' fun h => h) fun status s' _ => ?_
    cases hsettles : commitOutcome status with
    | some outcome => exact Program.always_ofExcept.2 (settled status outcome hsettles)
    | none =>
      refine Program.Always.step trivial (fun e s'' => failed _ _ s' e s'' fun h => h) fun passed s'' _ => ?_
      cases passed with
      | true => exact late status
      | false => exact ih s''

/-- The steps of a wait. -/
def WaitStep : (β : Type) → Op β → Prop
  | _, .getTransaction _ => True
  | _, .deadlinePassed => True
  | _, _ => False

/-- What a wait leaves of the log: it throws no abandonment, and only adds answers to polls. -/
structure Waited (log : NodeLog) (out : Except Error Unit) (log' : NodeLog) : Prop where
  noAbandonment : ∀ e, out = .error e → ¬IsAbandonment e
  sends : log'.sends = log.sends
  statuses : ∃ polled, log'.statuses = log.statuses ++ polled

theorem foreign_logEffect : Foreign logEffect := fun _ _ _ e _ _ heffect => heffect.1 e rfl

theorem always_waitForTransactionCommit (txHash : Hash) (timeoutMs : Option Nat) (log : NodeLog) :
    Program.Always logEffect Program.Anywhere (waitForTransactionCommit txHash timeoutMs) log
      (Waited log) := by
  have huses : Program.Uses WaitStep (waitForTransactionCommit txHash timeoutMs) :=
    waitForTransactionCommit_uses trivial trivial _
  have hkept : Program.Always logEffect Program.Anywhere (waitForTransactionCommit txHash timeoutMs) log
      fun _ log' => log'.sends = log.sends ∧ ∃ polled, log'.statuses = log.statuses ++ polled := by
    refine huses.always ?_ ⟨rfl, [], (List.append_nil _).symm⟩
    rintro β op log' hop ⟨hsends, polled, hpolled⟩
    refine ⟨trivial, fun r log'' heffect => ?_⟩
    cases op with
    | getTransaction polledHash =>
      obtain ⟨-, rfl⟩ := heffect
      refine ⟨hsends, polled ++ [r], ?_⟩
      rw [hpolled, List.append_assoc]
    | deadlinePassed =>
      obtain ⟨-, rfl⟩ := heffect
      exact ⟨hsends, polled, hpolled⟩
    | _ => exact hop.elim
  have hwaits := pollForCommit_never_abandons foreign_logEffect txHash (timeoutMs.getD 180000)
    (timeoutMs.getD 180000 / 4000 + 1) log
  refine ((hkept.and hwaits).weaken fun _ _ _ h => h.1).mono ?_
  rintro out log' ⟨⟨hsends, hstatuses⟩, hout⟩
  exact ⟨hout, hsends, hstatuses⟩

/-- A resume that waits for a transaction the node has. -/
theorem always_waited {status : TransactionStatus} {outcome : ResumeBroadcastOutcome} (txHash : Hash)
    {sends : List (Except Error Hash)} (hsends : ∀ e, .error e ∉ sends)
    (hbytes : record.txHex = none → status ≠ .sent) :
    Program.Always logEffect Program.Anywhere
      ((waitForTransactionCommit txHash timeoutMs).bind fun _ => Program.ret outcome)
      ⟨[.ok status], sends⟩ (ResumeEnds record) := by
  have first : ∀ {out : Except Error Unit} {log' : NodeLog}, Waited ⟨[.ok status], sends⟩ out log' →
      (∀ e, .error e ∉ log'.sends) ∧
        (record.txHex = none → log'.statuses.head? ≠ some (.ok .sent)) := by
    intro out log' hwaited
    obtain ⟨polled, hpolled⟩ := hwaited.statuses
    rw [hwaited.sends, hpolled]
    refine ⟨hsends, fun hnone hhead => hbytes hnone ?_⟩
    simpa using hhead
  refine (always_waitForTransactionCommit ..).bind (fun _ log' hwaited => ?_) fun e log' hwaited => ?_
  · exact .waited (fun e he => by cases he) (first hwaited).1 (first hwaited).2
  · refine .waited (fun e' he => ?_) (first hwaited).1 (first hwaited).2
    obtain rfl := Except.error.inj he
    exact hwaited.noAbandonment e rfl

/-- Handing the journaled bytes to the node again. -/
theorem always_resubmit {status : TransactionStatus} (hstatus : status = .sent ∨ status = .unknown) :
    Program.Always logEffect Program.Anywhere (resubmit record timeoutMs) ⟨[.ok status], []⟩
      (ResumeEnds record) := by
  unfold resubmit
  cases hbytes : record.txHex with
  | none => exact .lost hstatus hbytes trivial
  | some wire =>
    have hsome : record.txHex ≠ none := by rw [hbytes]; exact Option.some_ne_none wire
    refine Program.Always.bind (?_ : Program.Always _ _ _ _ fun answer log =>
      ∃ r, answer = .ok r ∧ (∀ e, r = .error e → ¬IsAbandonment e) ∧ log = ⟨[.ok status], [r]⟩)
      ?_ ?_
    · refine Program.Always.attempt (Program.always_perform.2 ⟨trivial, ?_⟩)
      rintro r log' ⟨hforeign, rfl⟩
      exact ⟨r, rfl, hforeign, rfl⟩
    · rintro answer log' ⟨r, hr, hforeign, rfl⟩
      obtain rfl := Except.ok.inj hr
      cases answer with
      | error refusal =>
        simp only
        split
        next hpattern => exact .spent hstatus hpattern hsome trivial
        next hpattern => exact .refused hsome hpattern (hforeign refusal rfl)
      | ok hash =>
        have hsends : ∀ e, Except.error e ∉ [(.ok hash : Except Error Hash)] := by
          intro e h
          cases List.mem_singleton.1 h
        simp only
        split
        · refine .waited (fun e he => ?_) hsends fun hnone => absurd hnone hsome
          obtain rfl := Except.error.inj he
          exact fun h => h
        · exact always_waited _ hsends fun hnone => absurd hnone hsome
    · rintro e log' ⟨r, hr, -⟩
      cases hr

/-- A resume ends in one of these ways. -/
theorem always_resumeEnds (record : JournaledTx) (timeoutMs : Option Nat) :
    Program.Always logEffect Program.Anywhere (resumeJournaledBroadcast record timeoutMs) ⟨[], []⟩
      (ResumeEnds record) := by
  refine Program.Always.step trivial ?_ ?_
  · rintro e log' ⟨hforeign, rfl⟩
    refine .waited (fun e' he => ?_) (fun e' h => ?_) fun _ h => ?_
    · obtain rfl := Except.error.inj he
      exact hforeign e rfl
    · cases h
    · cases h
  · rintro status log' ⟨-, rfl⟩
    have none_sent : ∀ e, Except.error e ∉ ([] : List (Except Error Hash)) := fun e h => by cases h
    cases status with
    | committed =>
      exact .waited (fun e he => by cases he) none_sent fun _ h => by cases h
    | rejected reason => exact .rejected trivial
    | pending => exact always_waited _ none_sent fun _ h => by cases h
    | proposed => exact always_waited _ none_sent fun _ h => by cases h
    | sent => exact always_resubmit (.inl rfl)
    | unknown => exact always_resubmit (.inr rfl)

/-- A resume abandons only on one of the grounds, exactly when it misreads no answer. -/
theorem ResumeEnds.grounds_iff {out : Except Error ResumeBroadcastOutcome} (h : ResumeEnds record out log) :
    ((∃ e, out = .error e ∧ IsAbandonment e) → Grounds record log) ↔ ¬Misread record log := by
  cases h with
  | rejected hwhy =>
    refine iff_of_true (fun _ => .inl ⟨_, List.mem_cons_self⟩) ?_
    rintro (⟨e, he, -⟩ | ⟨-, hhead⟩)
    · cases he
    · cases hhead
  | lost hstatus hbytes hwhy =>
    obtain rfl | rfl := hstatus
    · refine iff_of_false (fun h => ?_) fun h => h (.inr ⟨hbytes, rfl⟩)
      obtain ⟨reason, hmem⟩ | ⟨-, hmem⟩ | ⟨e, he, -⟩ := h ⟨_, rfl, hwhy⟩
      · cases List.mem_singleton.1 hmem
      · cases List.mem_singleton.1 hmem
      · cases he
    · refine iff_of_true (fun _ => .inr (.inl ⟨hbytes, List.mem_cons_self⟩)) ?_
      rintro (⟨e, he, -⟩ | ⟨-, hhead⟩)
      · cases he
      · cases hhead
  | @spent status e refusal hstatus hpattern hbytes hwhy =>
    by_cases hconsumed : ConsumedElsewhere refusal
    · refine iff_of_true (fun _ => .inr (.inr ⟨refusal, List.mem_cons_self, hconsumed⟩)) ?_
      rintro (⟨e', he', -, hother⟩ | ⟨hnone, -⟩)
      · obtain rfl := Except.error.inj (List.mem_singleton.1 he')
        exact hother hconsumed
      · exact hbytes hnone
    · refine iff_of_false (fun h => ?_) fun h => h (.inl ⟨refusal, List.mem_cons_self, hpattern, hconsumed⟩)
      obtain ⟨reason, hmem⟩ | ⟨hnone, -⟩ | ⟨e', he', hground⟩ := h ⟨e, rfl, hwhy⟩
      · obtain rfl := Except.ok.inj (List.mem_singleton.1 hmem)
        obtain h | h := hstatus <;> cases h
      · exact hbytes hnone
      · obtain rfl := Except.error.inj (List.mem_singleton.1 he')
        exact hconsumed hground
  | refused hbytes hpattern hwhy =>
    refine iff_of_true ?_ ?_
    · rintro ⟨e, he, habandons⟩
      obtain rfl := Except.error.inj he
      exact absurd habandons hwhy
    · rintro (⟨e, he, hmatches, -⟩ | ⟨hnone, -⟩)
      · obtain rfl := Except.error.inj (List.mem_singleton.1 he)
        exact hpattern hmatches
      · exact hbytes hnone
  | waited hout hsends hbytes =>
    refine iff_of_true ?_ ?_
    · rintro ⟨e, he, habandons⟩
      exact absurd habandons (hout e he)
    · rintro (⟨e, he, -⟩ | ⟨hnone, hhead⟩)
      · exact hsends e he
      · exact hbytes hnone hhead

end Resume

/-- Whether the answer to a step is read rightly: a refusal of journaled bytes that the pattern
    matches is one for consumed inputs. A call that has journaled a transaction itself no longer
    resumes one. -/
def ReadsRightly (w : PublishWorld) : {β : Type} → Op β → Except Error β → Prop
  | _, .sendTransaction _, .error e =>
    w.recorded = [] → spentElsewherePattern e.message → ConsumedElsewhere e
  | _, _, _ => True

/-- Publishes in which every answer is read rightly. -/
def rightlyReadEffect (commits : Hash → RawTransaction) : Program.Effect Op Error PublishWorld :=
  fun β op w answer w' => publishEffect commits β op w answer w' ∧
    (∀ e, answer = .error e → ¬IsAccess β op → ¬IsAbandonment e) ∧ ReadsRightly w op answer

/-- Other work on the database that journals nothing for a message. -/
def JournalsElsewhere (id : LogicalMessageId) : Db → Db → Prop :=
  Relation.ReflTransGen fun db db' => ∃ (β : Type) (access : StoreOp β),
    (∀ tx, access.records = some tx → tx.purpose ≠ .message id) ∧ db' = (access.exec db).2

/-- What may happen before a publish of a message: other work, and transactions die. -/
structure BeforeRetry (id : LogicalMessageId) (w : PublishWorld) (input : PublishTextInput)
    (w' : PublishWorld) : Prop where
  logicalMessageId : input.logicalMessageId = id
  other : JournalsElsewhere id w.db w'.db
  recorded : w'.recorded = []
  dead : ∀ txHash ∈ w.dead, txHash ∈ w'.dead

/-- At most one of the transactions journaled for a message can be committed. -/
def AtMostOneLive (id : LogicalMessageId) (w : PublishWorld) : Prop :=
  ∀ record ∈ w.db.journalFor (.message id), ∀ record' ∈ w.db.journalFor (.message id),
    record.txHash ∉ w.dead → record'.txHash ∉ w.dead → record = record'

/-- A journal record with the signed bytes of its transaction. -/
def Signed (tx : OutgoingTransaction) : Prop :=
  ∃ signed, tx.txHex = some signed ∧ signed.hash = tx.txHash

/-- Every transaction journaled for a message but the latest is dead, and none is without bytes. -/
structure LatestLive (id : LogicalMessageId) (w : PublishWorld) : Prop where
  dead : ∀ record ∈ (w.db.journalFor (.message id)).dropLast, record.txHash ∈ w.dead
  signed : ∀ record ∈ w.db.journalFor (.message id), Signed record

/-- Every transaction journaled for a message is dead. -/
structure NoneLive (id : LogicalMessageId) (w : PublishWorld) : Prop where
  dead : ∀ record ∈ w.db.journalFor (.message id), record.txHash ∈ w.dead
  signed : ∀ record ∈ w.db.journalFor (.message id), Signed record

section Runs

variable {commits : Hash → RawTransaction} {deps : PipelineDeps} {input : PublishTextInput}
  {id : LogicalMessageId} {w w' : PublishWorld} {β : Type} {op : Op β} {r : Except Error β}

theorem NoneLive.latestLive (h : NoneLive id w) : LatestLive id w :=
  ⟨fun record hmem => h.dead record (List.dropLast_subset _ hmem), h.signed⟩

theorem LatestLive.atMostOneLive (h : LatestLive id w) : AtMostOneLive id w := by
  have latest : ∀ record ∈ w.db.journalFor (.message id), record.txHash ∉ w.dead →
      (w.db.journalFor (.message id)).getLast? = some record := by
    intro record hmem hlive
    have hne := List.ne_nil_of_mem hmem
    rw [← List.dropLast_append_getLast hne, List.mem_append, List.mem_singleton] at hmem
    obtain hmem | rfl := hmem
    · exact absurd (h.dead record hmem) hlive
    · exact List.getLast?_eq_some_getLast hne
  intro record hmem record' hmem' hlive hlive'
  exact Option.some.inj ((latest record hmem hlive).symm.trans (latest record' hmem' hlive'))

/-- The latest record dies too. -/
theorem LatestLive.noneLive {record : OutgoingTransaction} (h : LatestLive id w)
    (hlast : (w.db.journalFor (.message id)).getLast? = some record) (hdead : record.txHash ∈ w.dead) :
    NoneLive id w := by
  refine ⟨fun record' hmem => ?_, h.signed⟩
  obtain ⟨front, hfront⟩ := List.getLast?_eq_some_iff.1 hlast
  have hdrop : (w.db.journalFor (.message id)).dropLast = front := by
    rw [hfront, List.dropLast_concat]
  rw [hfront, List.mem_append, List.mem_singleton] at hmem
  obtain hmem | rfl := hmem
  · exact h.dead record' (hdrop ▸ hmem)
  · exact hdead

/-- What journals nothing for the message keeps both. -/
theorem NoneLive.keep (h : NoneLive id w)
    (hjournal : w'.db.journalFor (.message id) = w.db.journalFor (.message id))
    (hdead : ∀ txHash ∈ w.dead, txHash ∈ w'.dead) : NoneLive id w' := by
  refine ⟨fun record hmem => ?_, fun record hmem => ?_⟩
  · rw [hjournal] at hmem
    exact hdead _ (h.dead record hmem)
  · rw [hjournal] at hmem
    exact h.signed record hmem

theorem LatestLive.keep (h : LatestLive id w)
    (hjournal : w'.db.journalFor (.message id) = w.db.journalFor (.message id))
    (hdead : ∀ txHash ∈ w.dead, txHash ∈ w'.dead) : LatestLive id w' := by
  refine ⟨fun record hmem => ?_, fun record hmem => ?_⟩
  · rw [hjournal] at hmem
    exact hdead _ (h.dead record hmem)
  · rw [hjournal] at hmem
    exact h.signed record hmem

/-- Steps that journal nothing. -/
def Unrecording (β : Type) (op : Op β) : Prop :=
  ∀ access, op = .store access → access.records = none

theorem unrecording_outside (h : ∀ access : StoreOp β, op ≠ .store access) : Unrecording β op :=
  fun access hop => absurd hop (h access)

theorem Silent.unrecording (h : Silent β op) : Unrecording β op := fun access hop => (h access hop).1

theorem journalFor_unrecording (hop : Unrecording β op) (heffect : publishEffect commits β op w r w') :
    w'.db.journalFor (.message id) = w.db.journalFor (.message id) := by
  refine journalFor_of_publish (fun access haccess tx hrecord => ?_) heffect
  rw [hop access haccess] at hrecord
  cases hrecord

theorem NoneLive.step (h : NoneLive id w) (hop : Unrecording β op)
    (heffect : publishEffect commits β op w r w') : NoneLive id w' :=
  h.keep (journalFor_unrecording hop heffect) fun _ => dead_of_step heffect

theorem LatestLive.step (h : LatestLive id w) (hop : Unrecording β op)
    (heffect : publishEffect commits β op w r w') : LatestLive id w' :=
  h.keep (journalFor_unrecording hop heffect) fun _ => dead_of_step heffect

/-- A new transaction is the only one that may be live. -/
theorem NoneLive.record {tx : OutgoingTransaction} {answer : Except Error Unit} (h : NoneLive id w)
    (hsigned : Signed tx)
    (heffect : publishEffect commits _ (.store (.recordOutgoingTx tx)) w answer w') :
    LatestLive id w' := by
  have hdb : ((StoreOp.recordOutgoingTx tx).exec w.db).2 = w'.db := congrArg Prod.snd heffect.1
  have hcases : w'.db.journalFor (.message id) = w.db.journalFor (.message id) ∨
      w'.db.journalFor (.message id) = w.db.journalFor (.message id) ++ [tx.core] := by
    unfold Db.journalFor
    rw [← hdb]
    obtain hsame | ⟨tx', htx', happend⟩ := journal_exec (.recordOutgoingTx tx) w.db
    · exact .inl (by rw [hsame])
    · obtain rfl := Option.some.inj htx'
      rw [happend, List.filter_append]
      by_cases hpurpose : tx.core.purpose = .message id
      · exact .inr (by simp [hpurpose])
      · exact .inl (by simp [hpurpose])
  obtain hsame | happend := hcases
  · exact h.latestLive.keep hsame fun _ => dead_of_step heffect
  · refine ⟨fun record hmem => ?_, fun record hmem => ?_⟩
    · rw [happend, List.dropLast_concat] at hmem
      exact dead_of_step heffect (h.dead record hmem)
    · rw [happend, List.mem_append, List.mem_singleton] at hmem
      obtain hmem | rfl := hmem
      · exact h.signed record hmem
      · exact hsigned

/-- A build step journals nothing. -/
theorem BuildStep.unrecording (hop : BuildStep input β op) : Unrecording β op :=
  fun access haccess => (accesses_of_build hop access haccess).1

theorem MonitorStep.unrecording {txHash : Hash} (hop : MonitorStep input txHash β op) :
    Unrecording β op :=
  fun access haccess => (accesses_of_monitor hop access haccess).1

/-- Steps that journal transactions with their bytes only. -/
def RecordsSigned (β : Type) (op : Op β) : Prop :=
  ∀ access, op = .store access → ∀ tx, access.records = some tx → Signed tx

theorem Unrecording.signed (h : Unrecording β op) : RecordsSigned β op := by
  intro access hop tx hrecord
  rw [h access hop] at hrecord
  cases hrecord

theorem signed_outside (h : ∀ access : StoreOp β, op ≠ .store access) : RecordsSigned β op :=
  (unrecording_outside h).signed

theorem recordsSigned_buildOps : BuildOps RecordsSigned input := by
  have store : ∀ {β : Type} {access : StoreOp β}, access.records = none →
      RecordsSigned β (.store access) := by
    rintro β access hrecords _ ⟨⟩ tx hrecord
    rw [hrecords] at hrecord
    cases hrecord
  exact
    { move := fun _ _ => store rfl
      sender := signed_outside nofun
      resolve := fun _ => signed_outside nofun
      now := signed_outside nofun
      random := fun _ => signed_outside nofun
      padding := signed_outside nofun
      encrypt := fun _ _ _ => signed_outside nofun
      complete := fun _ => signed_outside nofun
      sign := fun _ => signed_outside nofun
      record := fun tx signed _ _ hbytes hhash => by
        rintro _ ⟨⟩ _ ⟨⟩
        exact ⟨signed, hbytes, hhash⟩
      chainRef := fun _ => store rfl
      name := fun _ => store rfl
      send := fun _ => signed_outside nofun }

/-- The effect, with transactions that are journaled with their bytes. -/
abbrev signedEffect (commits : Hash → RawTransaction) : Program.Effect Op Error PublishWorld :=
  fun β op w answer w' => rightlyReadEffect commits β op w answer w' ∧ RecordsSigned β op

/-- From a message none of whose transactions is live, a publish leaves at most the latest one. -/
def buildPhases (commits : Hash → RawTransaction) (input : PublishTextInput) :
    PublishPhases (signedEffect commits) commits input (LatestLive input.logicalMessageId) where
  start := NoneLive input.logicalMessageId
  found := fun _ => NoneLive input.logicalMessageId
  gone := NoneLive input.logicalMessageId
  out := fun _ => LatestLive input.logicalMessageId
  start_anywhere := fun _ h => h.latestLive
  found_anywhere := fun _ _ h => h.latestLive
  gone_anywhere := fun _ h => h.latestLive
  out_anywhere := fun _ _ h => h
  find := fun w existing w' h heffect => by
    have hnone := h.step (silent_store rfl rfl).unrecording heffect.1.1
    cases existing with
    | none => exact hnone
    | some record => exact hnone
  find_error := fun w e w' h heffect => (h.step (silent_store rfl rfl).unrecording heffect.1.1).latestLive
  polls := fun record =>
    { committed := fun w w' h heffect =>
        (h.step (by exact unrecording_outside nofun) heffect.1.1).latestLive
      status := fun w r w' h heffect _ => h.step (by exact unrecording_outside nofun) heffect.1.1
      late := fun w r w' h heffect => h.step (by exact unrecording_outside nofun) heffect.1.1
      send := fun tx w r w' h heffect => h.step (by exact unrecording_outside nofun) heffect.1.1 }
  abandon := fun record w answer w' h heffect => h.step (silent_store rfl rfl).unrecording heffect.1.1
  build := fun β op w answer w' hop h heffect => h.step hop.unrecording heffect.1.1
  sign := fun tx w signed w' _ heffect => heffect.1.1.2 signed rfl
  record := fun tx w answer w' h _ _ _ heffect => h.record (heffect.2 _ rfl tx rfl) heffect.1.1
  built := fun txHash β op w answer w' hop h heffect => h.step hop.unrecording heffect.1.1
  monitor := fun txHash β op w answer w' hop h heffect => h.step hop.unrecording heffect.1.1
  track := fun tx w e w' heffect => by cases heffect.1.1.2
  fail := fun w answer w' h heffect => h.step (silent_store rfl rfl).unrecording heffect.1.1

/-- A transaction that a resume abandons is dead. -/
theorem always_resume_dead {record : OutgoingTransaction} (timeoutMs : Option Nat)
    (hsigned : Signed record) (hrecorded : w.recorded = []) :
    Program.Always (rightlyReadEffect commits) Program.Anywhere
      (resumeJournaledBroadcast (.ofRecord record) timeoutMs) w
      fun out w' => ∀ e, out = .error e → IsAbandonment e → record.txHash ∈ w'.dead := by
  have hforeign : Foreign (rightlyReadEffect commits) :=
    fun β op w e w' hop heffect => heffect.2.1 e rfl hop
  have waits : ∀ (outcome : ResumeBroadcastOutcome) w, Program.Always (rightlyReadEffect commits)
      Program.Anywhere ((waitForTransactionCommit record.txHash timeoutMs).bind
        fun _ => Program.ret outcome) w
      fun out w' => ∀ e, out = .error e → IsAbandonment e → record.txHash ∈ w'.dead := by
    intro outcome w
    refine (pollForCommit_never_abandons hforeign _ _ _ w).bind (fun _ w' _ e he => by cases he) ?_
    intro e w' hout e' he habandons
    obtain rfl := Except.error.inj he
    exact absurd habandons (hout e rfl)
  obtain ⟨wire, hbytes, hhash⟩ := hsigned
  have again : ∀ w : PublishWorld, w.recorded = [] → Program.Always (rightlyReadEffect commits)
      Program.Anywhere (resubmit (.ofRecord record) timeoutMs) w
      fun out w' => ∀ e, out = .error e → IsAbandonment e → record.txHash ∈ w'.dead := by
    intro w hrecorded
    unfold resubmit
    simp only [JournaledTx.ofRecord, hbytes]
    refine Program.Always.bind (?_ : Program.Always _ _ _ _ fun answer w' => ∃ r, answer = .ok r ∧
      ∀ e, r = .error e → ¬IsAbandonment e ∧
        (spentElsewherePattern e.message → record.txHash ∈ w'.dead)) ?_ ?_
    · refine Program.Always.attempt (Program.always_perform.2 ⟨trivial, ?_⟩)
      rintro r w' ⟨heffect, hforeign, hrightly⟩
      refine ⟨r, rfl, ?_⟩
      rintro e rfl
      refine ⟨hforeign e rfl fun h => h, fun hpattern => ?_⟩
      have hconsumed := hrightly hrecorded hpattern
      cases e with
      | rpc fault message =>
        cases fault with
        | inputsConsumed => exact hhash ▸ heffect.2 message rfl
        | _ => exact hconsumed.elim
      | _ => exact hconsumed.elim
    · rintro answer w' ⟨r, hr, hanswer⟩
      obtain rfl := Except.ok.inj hr
      cases answer with
      | error refusal =>
        obtain ⟨hforeign, hdead⟩ := hanswer refusal rfl
        simp only
        split
        next hpattern => exact fun _ _ _ => hdead hpattern
        next =>
          intro e he habandons
          obtain rfl := Except.error.inj he
          exact absurd habandons hforeign
      | ok hash =>
        simp only
        split
        · intro e he habandons
          obtain rfl := Except.error.inj he
          exact habandons.elim
        · exact waits _ w'
    · rintro e w' ⟨r, hr, -⟩
      cases hr
  refine Program.Always.step trivial (fun e w' heffect e' he habandons => ?_) fun status w' heffect => ?_
  · obtain rfl := Except.error.inj he
    exact absurd habandons (heffect.2.1 e rfl fun h => h)
  have hsame : w'.recorded = [] := heffect.1.1.recorded.trans hrecorded
  cases status with
  | committed => exact fun e he => by cases he
  | rejected reason => exact fun _ _ _ => heffect.1.2 reason rfl
  | pending => exact waits _ w'
  | proposed => exact waits _ w'
  | sent => exact again w' hsame
  | unknown => exact again w' hsame

/-- The latest transaction of a message is the one that is resumed. -/
structure Resuming (id : LogicalMessageId) (record : OutgoingTransaction) (w : PublishWorld) : Prop where
  latest : LatestLive id w
  last : (w.db.journalFor (.message id)).getLast? = some record.core

theorem Resuming.step {record : OutgoingTransaction} (h : Resuming id record w)
    (hop : Unrecording β op) (heffect : publishEffect commits β op w r w') : Resuming id record w' := by
  refine ⟨h.latest.step hop heffect, ?_⟩
  rw [journalFor_unrecording hop heffect]
  exact h.last

/-- A resume that gives its transaction up leaves none that is live. -/
theorem Resuming.resumeOrAbandon {record : OutgoingTransaction} (timeoutMs : Option Nat)
    (h : Resuming id record w) (hsigned : Signed record) (hrecorded : w.recorded = []) :
    Program.Always (rightlyReadEffect commits) (fun _ _ => LatestLive id)
      (resumeOrAbandon record timeoutMs) w
      fun out w' => LatestLive id w' ∧ (out = .ok none → NoneLive id w') := by
  refine Program.Always.catchError (?_ : Program.Always _ _ _ w fun out w' => Resuming id record w' ∧
    (∀ e, out = .error e → IsAbandonment e → record.txHash ∈ w'.dead) ∧ out ≠ .ok none) ?_ ?_
  · have huses : Program.Uses Silent (resumeJournaledBroadcast (.ofRecord record) timeoutMs) :=
      resumeJournaledBroadcast_uses (silent_outside nofun) (silent_outside nofun)
        (fun _ _ => silent_outside nofun) _
    have hkept : Program.Always (rightlyReadEffect commits) (fun _ _ => LatestLive id)
        (resumeJournaledBroadcast (.ofRecord record) timeoutMs) w fun _ => Resuming id record :=
      huses.always (fun β op w hop h =>
        ⟨h.latest, fun r w' heffect => h.step hop.unrecording heffect.1⟩) h
    have hboth := (hkept.and (always_resume_dead timeoutMs hsigned hrecorded)).weaken fun _ _ _ h => h.1
    refine hboth.bind (fun outcome w' hresumed => ?_) fun e w' hresumed => ?_
    · have finish : ∀ w : PublishWorld, Resuming id record w → Program.Always (rightlyReadEffect commits)
          (fun _ _ => LatestLive id) (Program.ret (some record)) w fun out w' => Resuming id record w' ∧
            (∀ e, out = .error e → IsAbandonment e → record.txHash ∈ w'.dead) ∧ out ≠ .ok none := by
        refine fun w h => ⟨h, fun e he => ?_, fun he => ?_⟩
        · cases he
        · cases he
      obtain ⟨hresumed, -⟩ := hresumed
      cases outcome with
      | committed => exact finish w' hresumed
      | rebroadcast =>
        cases record.txHex with
        | none => exact finish w' hresumed
        | some tx =>
          refine Program.Always.step hresumed.latest (fun e w'' heffect => ?_) fun _ w'' heffect => ?_
          · cases heffect.1.2
          · exact finish w'' (hresumed.step (by exact unrecording_outside nofun) heffect.1)
    · refine ⟨hresumed.1, fun e' he habandons => ?_, fun he => by cases he⟩
      obtain rfl := Except.error.inj he
      exact hresumed.2 e rfl habandons
  · rintro resumable w' ⟨hresuming, -, hsome⟩
    exact ⟨hresuming.latest, fun h => absurd h hsome⟩
  · rintro e w' ⟨hresuming, hdead, -⟩
    have hthrow : Program.Always (rightlyReadEffect commits) (fun _ _ => LatestLive id)
        (Program.throw e : Prog (Option OutgoingTransaction)) w'
        fun out w' => LatestLive id w' ∧ (out = .ok none → NoneLive id w') :=
      ⟨hresuming.latest, fun h => by cases h⟩
    cases e with
    | journaledAbandoned message spent =>
      refine Program.Always.step hresuming.latest (fun e w'' heffect => ?_) fun _ w'' heffect => ?_
      · exact ⟨hresuming.latest.step (silent_store rfl rfl).unrecording heffect.1, fun h => by cases h⟩
      · have hafter := hresuming.step (silent_store rfl rfl).unrecording heffect.1
        have hgone := dead_of_step heffect.1 (hdead _ rfl trivial)
        exact ⟨hafter.latest, fun _ => hafter.latest.noneLive hafter.last hgone⟩
    | _ => exact hthrow

/-- A publish that reads every answer rightly leaves at most the latest transaction live. -/
theorem LatestLive.publishText (h : LatestLive input.logicalMessageId w) (hrecorded : w.recorded = []) :
    Program.Always (rightlyReadEffect commits) (fun _ _ => LatestLive input.logicalMessageId)
      (publishText deps input) w fun _ => LatestLive input.logicalMessageId := by
  have build : ∀ w, NoneLive input.logicalMessageId w → Program.Always (rightlyReadEffect commits)
      (fun _ _ => LatestLive input.logicalMessageId) (buildAndBroadcast deps input) w
      fun _ => LatestLive input.logicalMessageId := by
    intro w hnone
    have hbuilt : Program.Always _ _ (buildAndBroadcast deps input) w _ :=
      (buildPhases commits input).buildAndBroadcast hnone
    refine (recordsSigned_buildOps.uses.always_of hbuilt).mono fun out w' hstops => ?_
    cases out with
    | ok tx => exact hstops
    | error e => exact hstops
  have first : Program.Always (rightlyReadEffect commits)
      (fun _ _ => LatestLive input.logicalMessageId) (publishUntilBroadcast deps input) w
      fun _ => LatestLive input.logicalMessageId := by
    refine Program.Always.step h (fun e w' heffect => ?_) fun existing w' heffect => ?_
    · exact h.step (silent_store rfl rfl).unrecording heffect.1
    have hafter := h.step (silent_store rfl rfl).unrecording heffect.1
    obtain ⟨⟨hanswer, hrecorded', -⟩, -⟩ := heffect
    have hread : OutgoingTransactionRepository.latestByPurpose w.db input.purpose = existing :=
      Except.ok.inj (congrArg Prod.fst hanswer)
    have hdb : w.db = w'.db := congrArg Prod.snd hanswer
    have hlast := core_latestByPurpose w'.db input.purpose
    rw [← hdb, hread, hdb] at hlast
    cases existing with
    | none =>
      refine build w' ⟨fun record hmem => ?_, hafter.signed⟩
      rw [show w'.db.journalFor (.message input.logicalMessageId) = [] from
        List.getLast?_eq_none_iff.1 hlast.symm] at hmem
      cases hmem
    | some record =>
      have hresuming : Resuming input.logicalMessageId record w' := ⟨hafter, hlast.symm⟩
      have hsigned : Signed record.core := hafter.signed _ (List.mem_of_getLast? hlast.symm)
      have hnone : w'.recorded = [] := by
        rw [hrecorded', hrecorded]
        rfl
      refine (hresuming.resumeOrAbandon _ hsigned hnone).bind (fun resumable w'' hend => ?_)
        fun e w'' hend => hend.1
      cases resumable with
      | some record => exact hend.1
      | none => exact build w'' (hend.2 rfl)
  have guarded : Program.Always (rightlyReadEffect commits)
      (fun _ _ => LatestLive input.logicalMessageId)
      ((publishUntilBroadcast deps input).catchError fun error =>
        (Program.attempt (store (.transitionMessage input.messageRowId .failed))).bind
          fun _ => Program.throw (classifyPublishError error false)) w
      fun _ => LatestLive input.logicalMessageId := by
    refine first.catchError (fun _ _ h => h) fun e w hs => ?_
    have hfail : Program.Always (rightlyReadEffect commits)
        (fun _ _ => LatestLive input.logicalMessageId)
        (Program.attempt (store (.transitionMessage input.messageRowId .failed))) w
        fun _ => LatestLive input.logicalMessageId := by
      refine Program.Always.attempt (Program.always_perform.2 ⟨hs, fun answer w' heffect => ?_⟩)
      exact hs.step (silent_store rfl rfl).unrecording heffect.1
    exact hfail.bind (fun _ _ h => h) fun _ _ h => h
  refine guarded.bind (fun tx w hs => ?_) fun e w h => h
  have hafter : Program.Always (rightlyReadEffect commits)
      (fun _ _ => LatestLive input.logicalMessageId) (publishAfterBroadcast input tx) w
      fun _ => LatestLive input.logicalMessageId :=
    (publishAfterBroadcast_silent tx).always (fun β op w hop h =>
      ⟨h, fun r w' heffect => h.step hop.unrecording heffect.1⟩) hs
  exact hafter.catchError (fun _ _ h => h) fun e w h => h

/-- A resume abandons its transaction only on one of the grounds, exactly when it misreads no
    answer; and where every answer is read rightly, at most one transaction of a message can be
    committed after any publishes of it. -/
theorem resume_abandons_on_grounds (commits : Hash → RawTransaction) (deps : PipelineDeps)
    (id : LogicalMessageId) :
    (∀ (record : JournaledTx) (timeoutMs : Option Nat) (out : Except Error ResumeBroadcastOutcome)
      (log : NodeLog), Program.Runs logEffect (resumeJournaledBroadcast record timeoutMs) ⟨[], []⟩ out log →
        (((∃ e, out = .error e ∧ IsAbandonment e) → Grounds record log) ↔ ¬Misread record log)) ∧
      ∀ (w : PublishWorld)
        (calls : List (Program.Call PublishTextInput Error PublishResult PublishWorld)),
        w.db.journalFor (.message id) = [] →
        Program.Calls (rightlyReadEffect commits) (publishText deps) (BeforeRetry id) w calls →
        ∀ c ∈ calls, AtMostOneLive id c.before ∧ AtMostOneLive id c.after := by
  refine ⟨fun record timeoutMs out log hrun => ?_, fun w calls hnone hruns c hc => ?_⟩
  · exact ((always_resumeEnds record timeoutMs).runs hrun).grounds_iff
  · have hstart : LatestLive id w := by
      refine ⟨fun record hmem => ?_, fun record hmem => ?_⟩
      · rw [hnone] at hmem
        cases hmem
      · rw [hnone] at hmem
        cases hmem
    have hbetween : ∀ w input w', BeforeRetry id w input w' → LatestLive id w → LatestLive id w' := by
      intro w input w' hbefore h
      refine h.keep ?_ hbefore.dead
      refine hbefore.other.head_induction_on rfl ?_
      rintro db db' ⟨β, access, hrecords, rfl⟩ - hrest
      rw [hrest, journalFor_exec hrecords]
    have hcall : ∀ c ∈ calls, c.Ends (rightlyReadEffect commits) (publishText deps) →
        LatestLive id c.before → LatestLive id c.after := by
      intro c hc hends hbefore
      obtain ⟨w', hw'⟩ := hruns.between_of_mem c hc
      obtain ⟨rfl, -, hrecorded, -⟩ := hw'
      refine hends.known (LatestLive c.input.logicalMessageId)
        (hbefore.publishText hrecorded) ?_ ?_
      · rintro - β op w hnow rfl
        exact hnow
      · exact fun out _ h => h
    obtain ⟨-, hbefore, hafter⟩ := hruns.invariant hbetween hcall hstart c hc
    exact ⟨hbefore.atMostOneLive, hafter.atMostOneLive⟩

/-- A node that cannot be reached when transaction 100 is handed to it, with the texts of a lost
    connection and of a failed name resolution. -/
def unreachableNode (message : String) : SampleNode :=
  ⟨fun txHash => if txHash = 100 then .unknown else .committed,
    fun txHash => if txHash = 100 then some (.transport, message) else none⟩

/-- What the transactions of two publishes turn out to be while the node cannot be reached. -/
def unreachableCommits (message : String) : Hash → RawTransaction :=
  journaledAs (publishCall none (unreachableNode message)
    (publishCall none (unreachableNode message) queuedWorld).after.next).after.db

def unreachableCall (message : String) : Program.Call PublishTextInput Error PublishResult PublishWorld :=
  publishCall (some (unreachableCommits message)) (unreachableNode message) queuedWorld

def unreachableRetry (message : String) : Program.Call PublishTextInput Error PublishResult PublishWorld :=
  publishCall (some (unreachableCommits message)) (unreachableNode message)
    (unreachableCall message).after.next

theorem beforeRetry_next (w : PublishWorld) : BeforeRetry (.composed 7) w queuedText w.next where
  logicalMessageId := rfl
  other := by
    refine .single ⟨Unit, .transitionMessage 1 .queued, ?_, rfl⟩
    rintro tx ⟨⟩
  recorded := rfl
  dead := fun _ h => h

theorem beforeRetry_start : BeforeRetry (.composed 7) queuedWorld queuedText queuedWorld :=
  ⟨rfl, .refl, rfl, fun _ h => h⟩

/-- The node's answers are read rightly when no refusal that the pattern matches has another cause. -/
theorem ends_rightlyRead (commits : Hash → RawTransaction) {message : String} (w : PublishWorld)
    (hmessage : ¬spentElsewherePattern message) :
    (publishCall (some commits) (unreachableNode message) w).Ends (rightlyReadEffect commits)
      (publishText samplePipeline) := by
  refine Program.runs_of_run (publishHandler (some commits) (unreachableNode message)) id ?_
    (publishText samplePipeline queuedText) w
  intro β op w
  refine ⟨publishHandler_allowed commits _ op w, fun e he hop habandons => ?_, ?_⟩
  · cases op with
    | store access => exact hop trivial
    | getTransaction txHash =>
      simp only [publishHandler] at he
      split at he <;> cases he
    | sendTransaction tx =>
      simp only [publishHandler] at he
      split at he
      · cases he
      · obtain rfl := Except.error.inj he
        exact habandons
    | signTransaction tx =>
      simp only [publishHandler] at he
      split at he
      · cases he
      · obtain rfl := Except.error.inj he
        exact habandons
    | randomBytes length =>
      simp only [publishHandler] at he
      split at he
      · cases he
      · obtain rfl := Except.error.inj he
        exact habandons
    | _ =>
      first
        | (obtain rfl := Except.error.inj he; exact habandons)
        | cases he
  · cases op with
    | sendTransaction tx =>
      simp only [publishHandler, unreachableNode]
      split
      · trivial
      next fault text hrefused =>
        split at hrefused
        · obtain ⟨rfl, rfl⟩ := Prod.mk.inj (Option.some.inj hrefused)
          exact fun _ hpattern => absurd hpattern hmessage
        · cases hrefused
    | _ => trivial

/-- While the connection is lost, the transaction is kept for another retry. -/
theorem lost_connection_one_live :
    AtMostOneLive (.composed 7) (unreachableRetry "connection lost").after := by
  have hruns : Program.Calls (rightlyReadEffect (unreachableCommits "connection lost"))
      (publishText samplePipeline) (BeforeRetry (.composed 7)) queuedWorld
      [unreachableCall "connection lost", unreachableRetry "connection lost"] :=
    ⟨beforeRetry_start, ends_rightlyRead _ _ (by decide +kernel), beforeRetry_next _,
      ends_rightlyRead _ _ (by decide +kernel), trivial⟩
  exact ((resume_abandons_on_grounds _ _ _).2 _ _ rfl hruns _ (List.mem_cons_of_mem _ List.mem_cons_self)).2

/-- While the node's name cannot be resolved, the transaction is abandoned without grounds, and a
    second one is published that can be committed too. -/
theorem unresolved_host_two_live :
    Program.Calls (publishEffect (unreachableCommits "could not resolve host")) (publishText samplePipeline)
        (BeforeRetry (.composed 7)) queuedWorld
        [unreachableCall "could not resolve host", unreachableRetry "could not resolve host"] ∧
      queuedWorld.db.journalFor (.message (.composed 7)) = [] ∧
      ((unreachableRetry "could not resolve host").after.db.journalFor (.message (.composed 7))).map
        (·.txHash) = [100, 101] ∧
      (unreachableRetry "could not resolve host").after.dead = [] ∧
      ¬AtMostOneLive (.composed 7) (unreachableRetry "could not resolve host").after := by
  have hhashes : ((unreachableRetry "could not resolve host").after.db.journalFor
      (.message (.composed 7))).map (·.txHash) = [100, 101] := by decide +kernel
  have hdead : (unreachableRetry "could not resolve host").after.dead = [] := by decide +kernel
  refine ⟨⟨beforeRetry_start, ends_publishCall .., beforeRetry_next _, ends_publishCall .., trivial⟩, rfl,
    hhashes, hdead, fun h => ?_⟩
  have hjournaled : ∀ txHash ∈ [100, 101], ∃ record ∈
      (unreachableRetry "could not resolve host").after.db.journalFor (.message (.composed 7)),
      record.txHash = txHash := by
    rw [← hhashes]
    exact fun txHash => List.mem_map.1
  obtain ⟨first, hfirst, hhash⟩ := hjournaled 100 List.mem_cons_self
  obtain ⟨second, hsecond, hhash'⟩ := hjournaled 101 (List.mem_cons_of_mem _ List.mem_cons_self)
  have hlive : ∀ txHash, txHash ∉ (unreachableRetry "could not resolve host").after.dead := by
    rw [hdead]
    exact fun _ => List.not_mem_nil
  obtain rfl := h first hfirst second hsecond (hlive _) (hlive _)
  rw [hhash] at hhash'
  exact absurd hhash' (by decide)

end Runs

end cemp.ckb
