import CempMobile.Sync.Finalization
import CempMobile.Sync.ResponseFailures

open cemp.core cemp.database cemp.ckb

namespace cemp.sync

/-- A pass of a worker, and transactions that are committed while it runs. -/
structure ResponsePass extends WorkerPass ResponseWorld where
  chain : List Hash

/-- A pass as a run of its worker: it starts with no message to follow. -/
def ResponsePass.Runs (deps : LoraWorkerDeps) (pass : ResponsePass) : Prop :=
  pass.toWorkerPass.Runs deps (responseEffect (decide (pass.worker = .responseSender)) pass.chain)
    ⟨pass.found, none, []⟩

/-- What other work between two passes leaves: finalized messages, and no recorded commit of an
    acknowledgement that was not recorded before. -/
structure Meanwhile (db db' : Db) : Prop where
  finalized : ∀ original, Finalized db original → Finalized db' original
  committed : ∀ r ∈ db'.outgoingTransactions.rows, r.2.state = .committed →
    ∀ original, respondedBy r.2.purpose = some original →
      ∃ r' ∈ db.outgoingTransactions.rows, r'.2.state = .committed ∧
        respondedBy r'.2.purpose = some original

/-- Passes of the workers, one after the other, with other work in between. -/
def ResponseRuns (deps : LoraWorkerDeps) : Db → List ResponsePass → Prop
  | _, [] => True
  | db, pass :: passes =>
    Meanwhile db pass.found ∧ pass.Runs deps ∧ ResponseRuns deps pass.after.db passes

/-- Whether a pass of a worker ran to its end. -/
def Completed (worker : Worker) (passes : List ResponsePass) : Prop :=
  ∃ pass ∈ passes, pass.worker = worker ∧ pass.outcome = some (.ok ())

/-- Every worker ran to its end at least once. -/
structure EachCompleted (passes : List ResponsePass) : Prop where
  pendingTransactions : Completed .pendingTransactions passes
  incomingDiscovery : ∃ pages, Completed (.incomingDiscovery pages) passes
  lora : Completed .lora passes
  responseSender : Completed .responseSender passes
  watchedOutpoints : Completed .watchedOutpoints passes
  reclaimBatch : Completed .reclaimBatch passes

/-- A message whose acknowledgement is committed when a pass starts: it is recorded so, or it is on
    chain while the record waits. -/
def ResponsePass.Acknowledged (pass : ResponsePass) (original : LogicalMessageId) : Prop :=
  ∃ r ∈ pass.found.outgoingTransactions.rows, respondedBy r.2.purpose = some original ∧
    (r.2.state = .committed ∨ r.2.state = .submitted ∧ r.2.txHash ∈ pass.chain)

/-- Once an acknowledgement is committed and every worker has completed a pass, beginning with one
    that looks at pending transactions, the message is finalized. -/
def Finalizes (passes : List ResponsePass) : Prop :=
  ∀ front pass behind original, passes = front ++ pass :: behind →
    pass.worker = .pendingTransactions → pass.outcome = some (.ok ()) → EachCompleted (pass :: behind) →
    pass.Acknowledged original → ∀ last, (pass :: behind).getLast? = some last →
      Finalized last.after.db original

/-- A pass that lists every waiting transaction, in which no worker but the response sender records
    the commit of an acknowledgement ahead of its message, and the response sender is not stopped
    between the record and the move of the message. -/
structure ResponsePass.Attended (pass : ResponsePass) : Prop where
  backlog : pass.worker = .pendingTransactions →
    (pass.found.outgoingTransactions.select fun tx => tx.state == .submitted).length ≤ 500
  missed : pass.after.missed = []
  stopped : pass.outcome ≠ some (.ok ()) → pass.after.found = none

/-- A step that finds no message invalid. -/
def FindsValid (β : Type) (op : Op β) : Prop :=
  ∀ rowId target, op.moves = some (rowId, target) → target ≠ .invalid

section Valid

variable {α β : Type} {deps : PipelineDeps} {txHash : Option Hash} {sender : Bool}
  {chain : List Hash} {w w' : ResponseWorld} {original : LogicalMessageId}

theorem CommitsOnly.valid {op : Op β} (h : CommitsOnly txHash β op) : FindsValid β op := by
  cases op with
  | store access => exact h.1
  | _ => exact fun _ _ hmove => by cases hmove

theorem valid_of_commitsOnly {p : Prog α} (h : Program.Uses (CommitsOnly txHash) p) :
    Program.Uses FindsValid p :=
  h.mono fun _ _ h => CommitsOnly.valid h

theorem publishText_valid (input : PublishTextInput) :
    Program.Uses FindsValid (publishText deps input) := by
  have hfail : FindsValid Unit (.store (.transitionMessage input.messageRowId .failed)) := by
    intro rowId target hmove
    cases hmove
    decide
  have hsending : Program.Uses FindsValid (publishUntilBroadcast deps input) :=
    valid_of_commitsOnly (uncommitting_of_sending input publishUntilBroadcast_uses)
  refine Program.Uses.bind (Program.Uses.catchError hsending fun e => ?_) fun tx => ?_
  · refine Program.Uses.bind (Program.Uses.catchError ?_ fun _ => trivial) fun _ => trivial
    exact Program.Uses.bind (Program.uses_perform.2 hfail) fun _ => trivial
  · exact (valid_of_commitsOnly (publishAfterBroadcast_commits tx)).catchError fun _ => trivial

theorem finalizeOriginal_valid (rowId : Nat) (cell : OutPoint) :
    Program.Uses FindsValid (finalizeOriginal rowId cell) := by
  have hmove : FindsValid Unit (.store (.transitionMessage rowId .awaiting_remote_reclaim)) := by
    intro rowId target h
    cases h
    decide
  refine (valid_of_commitsOnly (advanceOriginals_uncommitting rowId)).bind fun _ => ?_
  refine Program.Uses.bind (Program.uses_perform.2 hmove) fun _ => ?_
  exact Program.uses_perform.2 fun _ _ h => by cases h

/-- The response sender finds no message invalid. -/
theorem runResponseSender_valid : Program.Uses FindsValid (runResponseSender deps) := by
  have read : ∀ {β : Type} {access : StoreOp β}, access.moves = none →
      Program.Uses FindsValid (store access) := by
    intro β access hmoves
    refine Program.uses_perform.2 fun rowId target h => ?_
    change access.moves = some (rowId, target) at h
    rw [hmoves] at h
    cases h
  refine (read rfl).bind fun queued => Program.Uses.forEach fun response _ => ?_
  refine (read rfl).bind fun chainRef => ?_
  split
  · refine (read rfl).bind fun original => ?_
    split
    · refine (valid_of_commitsOnly (recipientOf_uncommitting _)).bind fun recipient => ?_
      cases recipient with
      | none => trivial
      | some recipient =>
        refine (publishText_valid _).bind fun _ => ?_
        split
        · trivial
        · exact finalizeOriginal_valid _ _
    · trivial
  · trivial

theorem Finalized.next {op : Op β} {answer : Except Error β} (h : Finalized w.db original)
    (hop : FindsValid β op) (heffect : responseEffect sender chain β op w answer w') :
    Finalized w'.db original := by
  cases op with
  | store access =>
    obtain ⟨-, rfl⟩ := heffect
    cases sender
    all_goals exact h.exec hop
  | getTransaction hash =>
    obtain ⟨-, rfl⟩ := heffect
    exact h
  | signTransaction tx =>
    obtain ⟨-, rfl⟩ := heffect
    exact h
  | _ =>
    obtain rfl := heffect
    exact h

theorem always_finalized {p : Prog α} (huses : Program.Uses FindsValid p)
    (h : Finalized w.db original) :
    Program.Always (responseEffect sender chain) (fun _ _ w => Finalized w.db original) p w
      fun _ w => Finalized w.db original :=
  huses.always (fun _ _ _ hop hw => ⟨hw, fun _ _ heffect => Finalized.next hw hop heffect⟩) h

end Valid

section Passes

variable {deps : LoraWorkerDeps} {pass : ResponsePass} {original : LogicalMessageId}

theorem WorkerStep.valid {β : Type} {op : Op β} (h : WorkerStep β op) : FindsValid β op := by
  cases op with
  | store access => exact WorkerAccess.valid h
  | _ => exact fun _ _ hmove => by cases hmove

theorem Worker.valid (worker : Worker) : Program.Uses FindsValid (worker.program deps) := by
  by_cases hsender : worker = .responseSender
  · subst hsender
    exact runResponseSender_valid
  · exact (Worker.uses hsender).mono fun _ _ h => WorkerStep.valid h

/-- A finalized message stays so over a pass. -/
theorem ResponsePass.Runs.finalized (hruns : pass.Runs deps) (h : Finalized pass.found original) :
    Finalized pass.after.db original := by
  have hstart : Finalized (ResponseWorld.mk pass.found none []).db original := h
  have hknown := WorkerPass.Runs.known hruns (always_finalized (Worker.valid pass.worker) hstart)
    fun _ _ _ hw => hw
  cases hout : pass.outcome with
  | some out =>
    rw [hout] at hknown
    exact hknown
  | none =>
    rw [hout] at hknown
    exact hknown

/-- An attended pass leaves every recorded commit followed. -/
theorem ResponsePass.Runs.settled (hruns : pass.Runs deps) (hattended : pass.Attended)
    (h : Settled pass.found) : Settled pass.after.db := by
  by_cases hsender : pass.worker = .responseSender
  · have hstart : Tracked none ⟨pass.found, none, []⟩ := tracked_none.2 ⟨h, rfl⟩
    have hprogram : pass.worker.program deps = runResponseSender deps.pipeline := by
      rw [hsender]
      rfl
    have heffect : decide (pass.worker = .responseSender) = true := decide_eq_true hsender
    unfold ResponsePass.Runs at hruns
    rw [heffect] at hruns
    have halways : Program.Always (responseEffect true pass.chain) (fun _ _ => Following)
        (pass.worker.program deps) ⟨pass.found, none, []⟩
        (Program.OkOr (Tracked none) fun _ => Following) := by
      rw [hprogram]
      exact always_runResponseSender hstart
    have hknown := WorkerPass.Runs.known hruns halways fun _ _ w (hw : Following w) => hw
    have hstopped := hattended.stopped
    cases hout : pass.outcome with
    | none =>
      rw [hout] at hknown hstopped
      obtain ⟨target, htracked⟩ := hknown
      exact htracked.settled (hstopped (by simp))
    | some out =>
      rw [hout] at hknown hstopped
      cases out with
      | ok _ => exact (tracked_none.1 hknown).1
      | error e =>
        obtain ⟨target, htracked⟩ := hknown
        exact htracked.settled (hstopped (by simp))
  · have hstart : Watched ⟨pass.found, none, []⟩ := fun _ => h
    have heffect : decide (pass.worker = .responseSender) = false := decide_eq_false hsender
    unfold ResponsePass.Runs at hruns
    rw [heffect] at hruns
    have hknown := WorkerPass.Runs.known hruns (always_worker (Worker.uses hsender) hstart)
      fun _ _ w hw => hw
    cases hout : pass.outcome with
    | none =>
      rw [hout] at hknown
      exact hknown.1 hattended.missed
    | some out =>
      rw [hout] at hknown
      exact hknown.1 hattended.missed

end Passes

section Pending

variable {α : Type} {deps : PipelineDeps} {w : ResponseWorld} {chain : List Hash}
  {original : LogicalMessageId} {tx : OutgoingTransaction}

theorem always_journaled {sender : Bool} {record : OutgoingTransaction} (p : Prog α)
    (h : record ∈ w.db.journal) :
    Program.Always (responseEffect sender chain) Program.Anywhere p w
      fun _ w' => record ∈ w'.db.journal := by
  refine Program.always_invariant (fun β op w r w' heffect h => ?_) p h
  cases op with
  | store access =>
    obtain ⟨-, rfl⟩ := heffect
    cases sender
    all_goals exact mem_journal_exec access h
  | getTransaction hash =>
    obtain ⟨-, rfl⟩ := heffect
    exact h
  | signTransaction tx =>
    obtain ⟨-, rfl⟩ := heffect
    exact h
  | _ =>
    obtain rfl := heffect
    exact h

theorem purpose_of_respondedBy {purpose : TxPurpose} (h : respondedBy purpose = some original) :
    purpose = .message (.response original) := by
  cases purpose with
  | message logicalId =>
    cases logicalId with
    | response other =>
      obtain rfl := Option.some.inj h
      rfl
    | _ => cases h
  | _ => cases h

/-- Looking at an acknowledgement that is on chain records its commit. -/
theorem always_scanSubmitted (hmem : tx.core ∈ w.db.journal)
    (hresponds : respondedBy tx.purpose = some original) (hchain : tx.txHash ∈ chain) :
    Program.Always (responseEffect false chain) Program.Anywhere (scanSubmitted deps tx) w
      (Program.OkOr (Noticed original) fun _ _ => True) := by
  have hnamed : respondedMessage w.db tx.txHash = some original := by
    obtain ⟨r, hr, hcore⟩ := mem_journal.1 hmem
    have hhash : r.2.core.txHash = tx.core.txHash := by rw [hcore]
    have hpurpose : r.2.core.purpose = tx.core.purpose := by rw [hcore]
    have hrecord : respondedMessage w.db r.2.core.txHash = respondedBy r.2.core.purpose :=
      respondedMessage_of_mem hr
    rw [hhash, hpurpose] at hrecord
    exact hrecord.trans hresponds
  refine Program.Always.step trivial (fun _ _ _ => trivial) fun status w' heffect => ?_
  obtain ⟨hstatus, rfl⟩ := heffect
  obtain rfl := hstatus hchain status rfl
  rw [purpose_of_respondedBy hresponds]
  refine Program.Always.step trivial (fun _ _ _ => trivial) fun _ w'' heffect => ?_
  obtain ⟨-, rfl⟩ := heffect
  have hnoticed : Noticed original (w'.exec false (.markOutgoingTxState tx.txHash .committed)) := by
    by_cases hfinal : Finalized w'.db original
    · exact .inl (hfinal.exec fun _ _ hmove => by cases hmove)
    · exact .inr (missed_of_commits rfl hnamed hfinal)
  refine (always_noticed (work_of_plain (advanceCommittedMessage_uses _)) hnoticed).mono
    fun r w hw => ?_
  cases r with
  | ok _ => exact hw
  | error _ => trivial

/-- A completed pass over the pending transactions notices every acknowledgement on chain. -/
theorem always_runPendingTransactions {r : Nat × OutgoingTransaction}
    (hmem : r ∈ OutgoingTransactionRepository.selectByState w.db .submitted 500)
    (hresponds : respondedBy r.2.purpose = some original) (hchain : r.2.txHash ∈ chain) :
    Program.Always (responseEffect false chain) Program.Anywhere (runPendingTransactions deps) w
      (Program.OkOr (Noticed original) fun _ _ => True) := by
  have hjournal : r.2.core ∈ w.db.journal :=
    mem_journal.2 ⟨r, (Table.mem_select.1 (List.mem_of_mem_take hmem)).1, rfl⟩
  have kept : ∀ {α : Type} {p : Prog α} {w : ResponseWorld}, Program.Uses WorkerStep p →
      Noticed original w → Program.Always (responseEffect false chain) Program.Anywhere p w
        (Program.OkOr (Noticed original) fun _ _ => True) := by
    intro α p w huses h
    refine (always_noticed huses h).mono fun r w hw => ?_
    cases r with
    | ok _ => exact hw
    | error _ => trivial
  have hlooks : ∀ tx, Program.Uses WorkerStep (scanSubmitted deps tx) :=
    fun tx => work_of_plain (scanSubmitted_uses deps tx)
  have hkeeps : ∀ (tx : OutgoingTransaction) (w : ResponseWorld), r.2.core ∈ w.db.journal →
      Program.Always (responseEffect false chain) Program.Anywhere (scanSubmitted deps tx) w
        (Program.OkOr (fun w' => r.2.core ∈ w'.db.journal) fun _ _ => True) := by
    intro tx w h
    refine (always_journaled _ h).mono fun out w hw => ?_
    cases out with
    | ok _ => exact hw
    | error _ => trivial
  refine Program.Always.step trivial (fun _ _ _ => trivial) fun submitted w' heffect => ?_
  obtain ⟨hanswer, rfl⟩ := heffect
  have hlisted : r.2 ∈ submitted := by
    rw [Except.ok.inj hanswer]
    exact List.mem_map_of_mem hmem
  have hloop : Program.Always (responseEffect false chain) Program.Anywhere
      (Program.forEach (scanSubmitted deps) submitted) (w.exec false (.listOutgoingTxByState .submitted))
      (Program.OkOr (Noticed original) fun _ _ => True) :=
    Program.Always.forEach_mem (fun w => r.2.core ∈ w.db.journal) (Noticed original) (fun _ _ => True)
      hlisted (fun tx _ w h => hkeeps tx w h) (fun w h => always_scanSubmitted h hresponds hchain)
      (fun tx _ w h => kept (hlooks tx) h) hjournal
  refine hloop.bind (fun _ w h => ?_) fun _ _ _ => trivial
  refine kept ?_ h
  refine (work_of_plain (plain_access rfl rfl rfl rfl)).bind fun stranded => ?_
  exact Program.Uses.bind (Program.Uses.forEach fun message _ =>
    work_of_plain (healStrandedOutgoing_uses message)) fun _ => healStrandedIncoming_uses

end Pending

section Runs

variable {deps : LoraWorkerDeps} {pass : ResponsePass} {passes : List ResponsePass}
  {original : LogicalMessageId} {db db' : Db}

theorem Meanwhile.settled (h : Meanwhile db db') (hsettled : Settled db) : Settled db' := by
  intro r hr hstate original hresponds
  obtain ⟨r', hr', hstate', hresponds'⟩ := h.committed r hr hstate original hresponds
  exact h.finalized original (hsettled r' hr' hstate' original hresponds')

/-- An attended pass over the pending transactions finalizes what is acknowledged on chain. -/
theorem ResponsePass.Runs.acknowledged (hruns : pass.Runs deps) (hattended : pass.Attended)
    (hsettled : Settled pass.found) (hworker : pass.worker = .pendingTransactions)
    (hcompleted : pass.outcome = some (.ok ())) (h : pass.Acknowledged original) :
    Finalized pass.after.db original := by
  obtain ⟨r, hr, hresponds, hcommitted | ⟨hsubmitted, hchain⟩⟩ := h
  · exact hruns.finalized (hsettled r hr hcommitted original hresponds)
  · have hlisted : r ∈ OutgoingTransactionRepository.selectByState pass.found .submitted 500 := by
      rw [OutgoingTransactionRepository.selectByState, List.take_of_length_le (hattended.backlog hworker)]
      exact Table.mem_select.2 ⟨hr, by simpa using hsubmitted⟩
    have heffect : decide (pass.worker = .responseSender) = false := by
      rw [hworker]
      decide
    have hprogram : pass.worker.program deps = runPendingTransactions deps.pipeline := by
      rw [hworker]
      rfl
    unfold ResponsePass.Runs WorkerPass.Runs at hruns
    rw [hcompleted, heffect, hprogram] at hruns
    have hnoticed : Noticed original pass.after :=
      (always_runPendingTransactions hlisted hresponds hchain).runs hruns
    obtain hfinal | hmissed := hnoticed
    · exact hfinal
    · exact absurd hattended.missed hmissed

/-- A finalized message stays so over passes. -/
theorem ResponseRuns.finalized (hruns : ResponseRuns deps db passes) (h : Finalized db original) :
    ∀ later ∈ passes, Finalized later.after.db original := by
  induction passes generalizing db with
  | nil => exact fun later hlater => by cases hlater
  | cons pass passes ih =>
    obtain ⟨hmeanwhile, hpass, hrest⟩ := hruns
    have hafter := hpass.finalized (hmeanwhile.finalized original h)
    intro later hlater
    obtain rfl | hlater := List.mem_cons.1 hlater
    · exact hafter
    · exact ih hrest hafter later hlater

/-- Every attended pass of a run finds the recorded commits followed. -/
theorem ResponseRuns.settled {front behind : List ResponsePass} (hsettled : Settled db)
    (hruns : ResponseRuns deps db (front ++ pass :: behind)) (hattended : ∀ other ∈ front, other.Attended) :
    Settled pass.found ∧ pass.Runs deps ∧ ResponseRuns deps pass.after.db behind := by
  induction front generalizing db with
  | nil =>
    obtain ⟨hmeanwhile, hpass, hrest⟩ := hruns
    exact ⟨hmeanwhile.settled hsettled, hpass, hrest⟩
  | cons first front ih =>
    obtain ⟨hmeanwhile, hfirst, hrest⟩ := hruns
    have hafter := hfirst.settled (hattended first List.mem_cons_self) (hmeanwhile.settled hsettled)
    exact ih hafter hrest fun other hother => hattended other (List.mem_cons_of_mem _ hother)

end Runs

/-- A network with one account: it signs every transaction with one hash, while that is not
    journaled, and reports the transactions in `chain` committed. -/
def responseHandler (sender : Bool) (chain : List Hash) : Program.Handler Op Error ResponseWorld :=
  fun _ op w =>
    match op with
    | .store access => ((access.exec w.db).1, w.exec sender access)
    | .getTransaction txHash => (.ok (if txHash ∈ chain then .committed else .pending), w)
    | .sendTransaction tx => (.ok tx.hash, w)
    | .getLiveCell _ => (.ok .unknown, w)
    | .completeTransaction _ => (.ok ⟨[⟨6, 0⟩], some 6100000000, 1000⟩, w)
    | .signTransaction tx =>
      if ∀ record ∈ w.db.journal, record.txHash ≠ 7 then (.ok ⟨tx, 7⟩, w)
      else (.error (.other "no other hash"), w)
    | .markTransactions _ => (.ok (), w)
    | .deadlinePassed => (.ok true, w)
    | .now => (.ok 0, w)
    | .randomBytes length => (.ok (List.replicate length 0), w)
    | .randomPadding => (.ok [], w)
    | .senderProfileId => (.ok (sampleProfile 3), w)
    | .resolveLiveProfile _ => (.ok [], w)
    | .encryptEnvelope .. => (.ok (), w)
    | .findCells .. => (.ok ⟨[], ""⟩, w)
    | .ownProfileId => (.ok (some (sampleProfile 3)), w)
    | .getSetting _ => (.ok none, w)
    | _ => (.error (.other "no such call"), w)

theorem runs_responseHandler {α : Type} (sender : Bool) (chain : List Hash) (p : Prog α)
    (w : ResponseWorld) :
    Program.Runs (responseEffect sender chain) p w (Program.run (responseHandler sender chain) p w).1
      (Program.run (responseHandler sender chain) p w).2 := by
  refine Program.runs_of_run (responseHandler sender chain) id ?_ p w
  intro β op w
  cases op with
  | store access => exact ⟨rfl, rfl⟩
  | getTransaction txHash =>
    refine ⟨fun hchain status hanswer => ?_, rfl⟩
    simp only [responseHandler, if_pos hchain] at hanswer
    exact (Except.ok.inj hanswer).symm
  | signTransaction tx =>
    simp only [responseHandler]
    split
    next hfresh =>
      refine ⟨fun signed hanswer => ?_, rfl⟩
      obtain rfl := Except.ok.inj hanswer
      exact hfresh
    · exact ⟨fun signed hanswer => (by cases hanswer), rfl⟩
  | _ => rfl

/-- A pass of a worker on that network. -/
def networkPass (chain : List Hash) (worker : Worker) (db : Db) : ResponsePass :=
  let ran := Program.run (responseHandler (decide (worker = .responseSender)) chain)
    (worker.program loraDeps) ⟨db, none, []⟩
  ⟨⟨worker, db, some ran.1, ran.2⟩, chain⟩

/-- Passes of some workers, one after the other. -/
def networkPasses (chain : List Hash) : List Worker → Db → List ResponsePass
  | [], _ => []
  | worker :: workers, db =>
    networkPass chain worker db :: networkPasses chain workers (networkPass chain worker db).after.db

theorem runs_networkPass (chain : List Hash) (worker : Worker) (db : Db) :
    (networkPass chain worker db).Runs loraDeps :=
  runs_responseHandler _ chain _ _

/-- A received message of a contact, whose response is queued. -/
def answeringDb : Db :=
  { Db.empty with
    contacts := .singleton ⟨"alice", some (sampleProfile 1), false⟩
    conversations := .singleton ⟨1⟩
    messages := (Table.singleton receivedMessage).insert envelopeResponse fresh_envelopeResponse
    chainRefs := .singleton ⟨2, none, none, some 5, some 0⟩
    balance := ⟨100000000000, 50000000000, 20000000000, 0, 0⟩ }

theorem Meanwhile.refl (db : Db) : Meanwhile db db :=
  ⟨fun _ h => h, fun r hr hstate _ hresponds => ⟨r, hr, hstate, hresponds⟩⟩

theorem runs_networkPasses (chain : List Hash) (workers : List Worker) (db : Db) :
    ResponseRuns loraDeps db (networkPasses chain workers db) := by
  induction workers generalizing db with
  | nil => trivial
  | cons worker workers ih => exact ⟨.refl db, runs_networkPass chain worker db, ih _⟩

theorem settled_answeringDb : Settled answeringDb := fun r hr => by cases hr

/-- The response sender sees the commit itself, and the other worker has nothing left to record. -/
def seenBySender : List ResponsePass :=
  networkPasses [7] [.responseSender, .pendingTransactions] answeringDb

/-- The response sender times out, and then every worker completes a pass. -/
def timedOutPass : ResponsePass := networkPass [] .responseSender answeringDb

def seenLater : List ResponsePass :=
  networkPasses [7] [.pendingTransactions, .incomingDiscovery 1, .lora, .responseSender,
    .watchedOutpoints, .reclaimBatch] timedOutPass.after.db

end cemp.sync
