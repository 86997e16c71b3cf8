import CempMobile.Ckb.Incoming
import CempMobile.Ckb.Publisher
import CempMobile.Lib.Runs

open cemp.core cemp.database

namespace cemp.ckb

/-- The database, and how many transactions were built and broadcast. -/
structure Observed where
  db : Db
  builds : Nat
  broadcasts : Nat

/-- What calls do while the node reports a transaction committed. -/
def committedEffect (txHash : Hash) : Program.Effect Op Error Observed := fun _ op s answer s' =>
  match op with
  | .store access => answer = (access.exec s.db).1 ∧ s' = { s with db := (access.exec s.db).2 }
  | .getTransaction hash => (hash = txHash → answer = .ok .committed) ∧ s' = s
  | .completeTransaction _ => s' = { s with builds := s.builds + 1 }
  | .sendTransaction _ => s' = { s with broadcasts := s.broadcasts + 1 }
  | _ => s' = s

section Republish

variable {α : Type} {s s' : Observed} {out : Except Error α} {txHash : Hash}

theorem runs_store_ok {β : Type} {access : StoreOp β} {f : β → Prog α} {b : β} {db : Db}
    (h : access.exec s.db = (.ok b, db)) :
    Program.Runs (committedEffect txHash) ((store access).bind f) s out s' ↔
      Program.Runs (committedEffect txHash) (f b) { s with db := db } out s' := by
  simp only [Program.runs_bind, store, Program.runs_perform, committedEffect, h]
  constructor
  · rintro (⟨b', mid, ⟨hb, rfl⟩, hrest⟩ | ⟨e, ⟨he, -⟩, -⟩)
    · obtain rfl := Except.ok.inj hb
      exact hrest
    · cases he
  · intro hrest
    exact .inl ⟨b, _, ⟨rfl, rfl⟩, hrest⟩

theorem runs_store_error {β : Type} {access : StoreOp β} {f : β → Prog α} {e : Error} {db : Db}
    (h : access.exec s.db = (.error e, db)) :
    Program.Runs (committedEffect txHash) ((store access).bind f) s out s' ↔
      out = .error e ∧ s' = { s with db := db } := by
  simp only [Program.runs_bind, store, Program.runs_perform, committedEffect, h]
  constructor
  · rintro (⟨b', mid, ⟨hb, -⟩, -⟩ | ⟨e', ⟨he, rfl⟩, rfl⟩)
    · cases hb
    · obtain rfl := Except.error.inj he
      exact ⟨rfl, rfl⟩
  · rintro ⟨rfl, rfl⟩
    exact .inr ⟨e, ⟨rfl, rfl⟩, rfl⟩

theorem runs_getTransaction {f : TransactionStatus → Prog α} :
    Program.Runs (committedEffect txHash) ((call (.getTransaction txHash)).bind f) s out s' ↔
      Program.Runs (committedEffect txHash) (f .committed) s out s' := by
  simp only [Program.runs_bind, Program.runs_perform, committedEffect, forall_const]
  constructor
  · rintro (⟨status, mid, ⟨hstatus, rfl⟩, hrest⟩ | ⟨e, ⟨he, -⟩, -⟩)
    · obtain rfl := Except.ok.inj hstatus
      exact hrest
    · cases he
  · intro hrest
    exact .inl ⟨.committed, s, ⟨rfl, rfl⟩, hrest⟩

theorem waitForTransactionCommit_runs {timeoutMs : Option Nat} {out : Except Error Unit} :
    Program.Runs (committedEffect txHash) (waitForTransactionCommit txHash timeoutMs) s out s' ↔
      out = .ok () ∧ s' = s := by
  unfold waitForTransactionCommit pollForCommit
  rw [Program.bind_eq_bind, runs_getTransaction]
  exact Program.runs_ofExcept

theorem resumeJournaledBroadcast_runs (record : JournaledTx) {timeoutMs : Option Nat}
    {out : Except Error ResumeBroadcastOutcome} :
    Program.Runs (committedEffect record.txHash) (resumeJournaledBroadcast record timeoutMs) s out s' ↔
      out = .ok .committed ∧ s' = s := by
  unfold resumeJournaledBroadcast
  rw [Program.bind_eq_bind, runs_getTransaction]
  rfl

theorem resumeOrAbandon_runs {record : OutgoingTransaction} {timeoutMs : Option Nat}
    {out : Except Error (Option OutgoingTransaction)} :
    Program.Runs (committedEffect record.txHash) (resumeOrAbandon record timeoutMs) s out s' ↔
      out = .ok (some record) ∧ s' = s := by
  have hresume : ∀ r t, Program.Runs (committedEffect record.txHash)
      (resumeJournaledBroadcast (.ofRecord record) timeoutMs) s r t ↔ r = .ok .committed ∧ t = s :=
    fun _ _ => resumeJournaledBroadcast_runs (.ofRecord record)
  unfold resumeOrAbandon
  simp only [Program.bind_eq_bind, Program.runs_catchError, Program.runs_bind, hresume]
  constructor
  · rintro (⟨r, (⟨_, _, ⟨h, rfl⟩, hrest⟩ | ⟨e, ⟨h, -⟩, -⟩), rfl⟩ |
      ⟨e, mid, (⟨_, _, ⟨h, rfl⟩, hrest⟩ | ⟨e', ⟨h, -⟩, -⟩), -⟩)
    · obtain rfl := Except.ok.inj h
      obtain ⟨hr, rfl⟩ := hrest
      exact ⟨hr, rfl⟩
    · cases h
    · obtain rfl := Except.ok.inj h
      cases hrest.1
    · cases h
  · rintro ⟨rfl, rfl⟩
    exact .inl ⟨some record, .inl ⟨.committed, s', ⟨rfl, rfl⟩, rfl, rfl⟩, rfl⟩

variable {deps : PipelineDeps} {input : PublishTextInput} {record : OutgoingTransaction}

/-- The first stage of a publish hands on the journaled transaction. -/
theorem publishUntilBroadcast_runs {out : Except Error BroadcastTx}
    (hjournal : OutgoingTransactionRepository.latestByPurpose s.db input.purpose = some record) :
    Program.Runs (committedEffect record.txHash) (publishUntilBroadcast deps input) s out s' ↔
      out = .ok ⟨record.txHash, true, none, record.capacityShannon⟩ ∧ s' = s := by
  have hfind : (StoreOp.findOutgoingTxByPurpose input.purpose).exec s.db = (.ok (some record), s.db) := by
    simp only [StoreOp.exec, OutgoingTransactionRepository.findLatestByPurpose, Method.read, hjournal]
  unfold publishUntilBroadcast
  rw [Program.bind_eq_bind, runs_store_ok hfind]
  simp only [Program.bind_eq_bind, Program.runs_bind, resumeOrAbandon_runs]
  constructor
  · rintro (⟨_, _, ⟨h, rfl⟩, hrest⟩ | ⟨e, ⟨h, -⟩, -⟩)
    · obtain rfl := Except.ok.inj h
      exact hrest
    · cases h
  · rintro ⟨rfl, rfl⟩
    exact .inl ⟨some record, s', ⟨rfl, rfl⟩, rfl, rfl⟩

/-- From a landed state the walk to `pending` is empty, or starts with an illegal move. -/
theorem walkSteps_pending {state : MessageState} (hlanded : state.Landed) :
    (state = .available_on_chain ∧ walkSteps (some state) .pending = [] ∧
        walkSteps (some state) .available_on_chain = []) ∨
      (state ≠ .available_on_chain ∧ canTransitionMessage .outgoing state .queued = false ∧
        state ≠ .queued ∧ ∃ steps, walkSteps (some state) .pending = .queued :: steps) := by
  cases state <;> try cases hlanded
  · exact .inl ⟨rfl, by decide, by decide⟩
  all_goals exact .inr ⟨by decide, by decide, by decide, _, rfl⟩

/-- What a repeated publish of a committed message must not do, and what it returns. -/
structure Repeats (record : OutgoingTransaction) (s : Observed) (out : Except Error PublishResult)
    (s' : Observed) : Prop where
  builds : s'.builds = s.builds
  broadcasts : s'.broadcasts = s.broadcasts
  messages : s'.db.messages = s.db.messages
  balance : s'.db.balance = s.db.balance
  returns : ∃ result, out = .ok result ∧ result.txHash = record.txHash ∧ result.resumed

/-- The row has not moved on from `available_on_chain`, and the journal holds no amount to
    reserve. -/
def NothingToRepeat (state : MessageState) (record : OutgoingTransaction) : Prop :=
  state = .available_on_chain ∧ (record.capacityShannon = none ∨ record.capacityShannon = some 0)

/-- From `available_on_chain` neither walk of a publish moves the row. -/
theorem walkToState_idle {rowId : Nat} {target : MessageState} {m : Message} {f : Unit → Prog α}
    (hrow : s.db.messages.get? rowId = some m) (hsteps : walkSteps (some m.state) target = []) :
    Program.Runs (committedEffect txHash) ((walkToState rowId target).bind f) s out s' ↔
      Program.Runs (committedEffect txHash) (f ()) s out s' := by
  have hread : (StoreOp.getMessageState rowId).exec s.db = (.ok (some m.state), s.db) := by
    simp only [StoreOp.exec, Method.read, hrow, Option.map_some]
  unfold walkToState
  rw [Program.bind_eq_bind, Program.bind_assoc, runs_store_ok hread, hsteps]
  rfl

/-- A walk whose first move is illegal throws, and changes nothing. -/
theorem walkToState_refused {rowId : Nat} {target next : MessageState} {steps : List MessageState}
    {m : Message} {out : Except Error Unit} (hrow : s.db.messages.get? rowId = some m)
    (hsteps : walkSteps (some m.state) target = next :: steps) (hne : m.state ≠ next)
    (hillegal : canTransitionMessage m.direction m.state next = false) :
    Program.Runs (committedEffect txHash) (walkToState rowId target) s out s' →
      ∃ e, out = .error e ∧ s' = s := by
  have hread : (StoreOp.getMessageState rowId).exec s.db = (.ok (some m.state), s.db) := by
    simp only [StoreOp.exec, Method.read, hrow, Option.map_some]
  have hmove : (StoreOp.transitionMessage rowId next).exec s.db =
      (.error (.database .illegal_state_transition (m.direction.text ++
        " message cannot transition " ++ m.state.text ++ " → " ++ next.text)), s.db) := by
    simp [StoreOp.exec, MessageRepository.transitionState, hrow, hne, hillegal]
  unfold walkToState
  rw [Program.bind_eq_bind, runs_store_ok hread, hsteps, Program.forEach_cons,
    runs_store_error hmove]
  exact fun h => ⟨_, h.1, h.2⟩

/-- A move of capacity either carries an amount over, or throws. -/
theorem reserveCapacity_repeats (amount : Nat) (db : Db) :
    (∃ e, BalanceRepository.reserveCapacity amount db = (.error e, db)) ∨
      ∃ db', BalanceRepository.reserveCapacity amount db = (.ok (), db') ∧
        db'.balance ≠ db.balance := by
  unfold BalanceRepository.reserveCapacity BalanceRepository.move
  split_ifs with hzero hshort
  · exact .inl ⟨_, rfl⟩
  · exact .inl ⟨_, rfl⟩
  · refine .inr ⟨_, rfl, fun hsame => ?_⟩
    have havailable := congrArg WalletBalance.availableShannon hsame
    simp only [WalletBalance.get, WalletBalance.set] at havailable hshort
    omega

/-- The database after a repeated monitor stored the commit again. -/
def recommitted (db : Db) (rowId : Nat) (txHash : Hash) : Db :=
  (MessageRepository.setChainRef ⟨rowId, some txHash, some 0, none, none⟩
    (OutgoingTransactionRepository.setState db (fun tx => tx.txHash == txHash) .committed)).2

@[simp] theorem recommitted_messages (db : Db) (rowId : Nat) (txHash : Hash) :
    (recommitted db rowId txHash).messages = db.messages := rfl

@[simp] theorem recommitted_balance (db : Db) (rowId : Nat) (txHash : Hash) :
    (recommitted db rowId txHash).balance = db.balance := rfl

/-- The monitor of a repeated publish stores the commit again, and then reserves again. -/
theorem monitor_runs {rowId : Nat} {timeoutMs reserved : Option Nat} {m : Message}
    {out : Except Error PublishResult}
    (hjournal : (s.db.outgoingTransactions.first? fun tx => tx.txHash == txHash).isSome)
    (hrow : s.db.messages.get? rowId = some m) (hstate : m.state = .available_on_chain) :
    Program.Runs (committedEffect txHash) (monitor rowId txHash true timeoutMs reserved) s out s' ↔
      Program.Runs (committedEffect txHash)
        (do
          match reserved with
          | some amount => if amount ≠ 0 then store (.reserveCapacity amount (some rowId))
          | none => pure ()
          return ⟨txHash, ⟨txHash, 0⟩, true, true⟩ : Prog PublishResult)
        { s with db := recommitted s.db rowId txHash } out s' := by
  have hmark : (StoreOp.markOutgoingTxState txHash .committed).exec s.db =
      (.ok (), OutgoingTransactionRepository.setState s.db (fun tx => tx.txHash == txHash) .committed) := by
    simp only [StoreOp.exec, OutgoingTransactionRepository.markState, hjournal, if_true]
  have hwait : ∀ r t, Program.Runs (committedEffect txHash)
      (waitForTransactionCommit txHash timeoutMs) s r t ↔ r = .ok () ∧ t = s :=
    fun _ _ => waitForTransactionCommit_runs
  have hsteps : walkSteps (some m.state) .available_on_chain = [] := by
    rw [hstate]
    decide
  have hstored : (StoreOp.setMessageChainRef rowId ⟨txHash, 0⟩).exec
      (OutgoingTransactionRepository.setState s.db (fun tx => tx.txHash == txHash) .committed) =
        (.ok (), recommitted s.db rowId txHash) := rfl
  have hrow' : ({ s with db := recommitted s.db rowId txHash } : Observed).db.messages.get? rowId =
      some m := hrow
  unfold monitor
  rw [Program.bind_eq_bind, Program.runs_bind]
  simp only [hwait]
  constructor
  · rintro (⟨_, _, ⟨-, rfl⟩, hrest⟩ | ⟨e, ⟨h, -⟩, -⟩)
    · rw [Program.bind_eq_bind, runs_store_ok hmark, Program.bind_eq_bind, runs_store_ok hstored,
        Program.bind_eq_bind, walkToState_idle hrow' hsteps] at hrest
      exact hrest
    · cases h
  · intro hrest
    refine .inl ⟨(), s, ⟨trivial, rfl⟩, ?_⟩
    rw [Program.bind_eq_bind, runs_store_ok hmark, Program.bind_eq_bind, runs_store_ok hstored,
      Program.bind_eq_bind, walkToState_idle hrow' hsteps]
    exact hrest

theorem latestByPurpose_journaled {db : Db} {purpose : TxPurpose}
    (hjournal : OutgoingTransactionRepository.latestByPurpose db purpose = some record) :
    (db.outgoingTransactions.first? fun tx => tx.txHash == record.txHash).isSome := by
  obtain ⟨row, hlast, hrecord⟩ := Option.map_eq_some_iff.1 hjournal
  have hrow := (Table.last?_eq_some.1 hlast).1
  have hkey : row.2.key = some record.txHash := by simp [OutgoingTransaction.key, hrecord]
  have hfirst : (db.outgoingTransactions.first? fun tx => tx.txHash == record.txHash) = some row :=
    Table.first?_of_key (by simp [OutgoingTransaction.key]) hrow hkey
  rw [hfirst, Option.isSome_some]

/-- What a repeated publish comes down to: its second stage. -/
theorem publishText_runs {out : Except Error PublishResult}
    (hjournal : OutgoingTransactionRepository.latestByPurpose s.db input.purpose = some record) :
    Program.Runs (committedEffect record.txHash) (publishText deps input) s out s' ↔
      Program.Runs (committedEffect record.txHash)
        ((publishAfterBroadcast input ⟨record.txHash, true, none, record.capacityShannon⟩).catchError
          fun error => throw (classifyPublishError error true)) s out s' := by
  have hfirst : ∀ r t, Program.Runs (committedEffect record.txHash)
      (publishUntilBroadcast deps input) s r t ↔
        r = .ok ⟨record.txHash, true, none, record.capacityShannon⟩ ∧ t = s :=
    fun _ _ => publishUntilBroadcast_runs hjournal
  unfold publishText
  rw [Program.bind_eq_bind, Program.runs_bind]
  simp only [Program.runs_catchError, hfirst]
  constructor
  · rintro (⟨_, _, (⟨_, ⟨h, rfl⟩, h'⟩ | ⟨_, _, ⟨h, -⟩, -⟩), hrest⟩ | ⟨_, (⟨_, _, h⟩ | ⟨_, _, ⟨h, -⟩, -⟩), -⟩)
    · obtain rfl := Except.ok.inj h'
      obtain rfl := Except.ok.inj h
      exact hrest
    · cases h
    · cases h
    · cases h
  · intro hrest
    exact .inl ⟨_, s, .inl ⟨_, ⟨rfl, rfl⟩, rfl⟩, hrest⟩

/-- Reserving an amount again moves the balance, or throws, unless there is none. -/
theorem reserveAgain_runs {rowId : Nat} {reserved : Option Nat} {result : PublishResult}
    {out : Except Error PublishResult}
    (hrun : Program.Runs (committedEffect txHash)
      (do
        match reserved with
        | some amount => if amount ≠ 0 then store (.reserveCapacity amount (some rowId))
        | none => pure ()
        return result : Prog PublishResult) s out s') :
    ((reserved = none ∨ reserved = some 0) ∧ out = .ok result ∧ s' = s) ∨
      (¬(reserved = none ∨ reserved = some 0) ∧
        ((∃ e, out = .error e) ∨ s'.db.balance ≠ s.db.balance)) := by
  cases reserved with
  | none => exact .inl ⟨.inl rfl, hrun.1, hrun.2⟩
  | some amount =>
    by_cases hzero : amount = 0
    · subst hzero
      exact .inl ⟨.inr rfl, hrun.1, hrun.2⟩
    · refine .inr ⟨by simp [hzero], ?_⟩
      simp only [ne_eq, hzero, not_false_eq_true, if_true, Program.bind_eq_bind,
        Program.pure_eq_ret] at hrun
      obtain ⟨e, hrefused⟩ | ⟨db', hmoved, hchanged⟩ :=
        reserveCapacity_repeats amount s.db
      · have hexec : (StoreOp.reserveCapacity amount (some rowId)).exec s.db = (.error e, s.db) :=
          hrefused
        rw [runs_store_error hexec] at hrun
        exact .inl ⟨e, hrun.1⟩
      · have hexec : (StoreOp.reserveCapacity amount (some rowId)).exec s.db = (.ok (), db') :=
          hmoved
        rw [runs_store_ok hexec] at hrun
        refine .inr ?_
        rw [hrun.2]
        exact hchanged

/-- A repeated publish of a row at `available_on_chain` reserves the journaled amount, if it is
    not zero, and does nothing else. -/
theorem publishAfterBroadcast_available {m : Message} {out : Except Error PublishResult}
    (hjournal : (s.db.outgoingTransactions.first? fun tx => tx.txHash == record.txHash).isSome)
    (hrow : s.db.messages.get? input.messageRowId = some m) (hstate : m.state = .available_on_chain) :
    Program.Runs (committedEffect record.txHash)
        (publishAfterBroadcast input ⟨record.txHash, true, none, record.capacityShannon⟩) s out s' ↔
      Program.Runs (committedEffect record.txHash)
        (do
          match record.capacityShannon with
          | some amount => if amount ≠ 0 then store (.reserveCapacity amount (some input.messageRowId))
          | none => pure ()
          return ⟨record.txHash, ⟨record.txHash, 0⟩, true, true⟩ : Prog PublishResult)
        { s with db := recommitted s.db input.messageRowId record.txHash } out s' := by
  have hpending : walkSteps (some m.state) .pending = [] := by
    rw [hstate]
    decide
  rw [← monitor_runs hjournal hrow hstate]
  unfold publishAfterBroadcast
  simp only
  rw [Program.bind_eq_bind, walkToState_idle hrow hpending]

/-- A repeated publish of a row that moved on from `available_on_chain` throws. -/
theorem publishAfterBroadcast_moved {m : Message} {out : Except Error PublishResult}
    (hrow : s.db.messages.get? input.messageRowId = some m) (hlanded : m.state.Landed)
    (hne : m.state ≠ .available_on_chain)
    (hrun : Program.Runs (committedEffect txHash)
      (publishAfterBroadcast input ⟨txHash, true, none, record.capacityShannon⟩) s out s') :
    ∃ e, out = .error e := by
  have hdirection : m.direction = .outgoing := by
    have hfits := m.fits
    cases hdir : m.direction with
    | outgoing => rfl
    | incoming =>
      rw [hdir] at hfits
      revert hfits hlanded
      cases m.state <;> decide
  obtain ⟨h, -⟩ | ⟨-, hillegal, hqueued, steps, hsteps⟩ := walkSteps_pending hlanded
  · exact absurd h hne
  · unfold publishAfterBroadcast at hrun
    simp only [Program.bind_eq_bind, Program.runs_bind] at hrun
    obtain ⟨_, mid, hwalk, -⟩ | ⟨e, -, rfl⟩ := hrun
    · obtain ⟨e, h, -⟩ := walkToState_refused hrow hsteps hqueued (hdirection ▸ hillegal) hwalk
      cases h
    · exact ⟨e, rfl⟩

/-- Repeating a publish. The message's transaction is committed and its row has landed. Then
    the repetition is without effect, and answers the journaled transaction, exactly when the
    row is still at `available_on_chain` and the journal holds no amount to reserve: a later
    state is off the publisher's path, and the walk over it throws; at `available_on_chain` the
    monitor reserves the cell's capacity once more. -/
theorem publishText_idempotent_iff (deps : PipelineDeps) (input : PublishTextInput)
    (record : OutgoingTransaction) (m : Message) (s s' : Observed) (out : Except Error PublishResult)
    (hrow : s.db.messages.get? input.messageRowId = some m) (hlanded : m.state.Landed)
    (hjournal : OutgoingTransactionRepository.latestByPurpose s.db input.purpose = some record)
    (hrun : Program.Runs (committedEffect record.txHash) (publishText deps input) s out s') :
    Repeats record s out s' ↔ NothingToRepeat m.state record := by
  rw [publishText_runs hjournal, Program.runs_catchError] at hrun
  by_cases hstate : m.state = .available_on_chain
  · simp only [publishAfterBroadcast_available (latestByPurpose_journaled hjournal) hrow hstate] at hrun
    obtain ⟨result, hmid, rfl⟩ | ⟨e, mid, hmid, hout, rfl⟩ := hrun
    · obtain ⟨hnone, hresult, rfl⟩ | ⟨hsome, ⟨e, h⟩ | hbalance⟩ := reserveAgain_runs hmid
      · refine ⟨fun _ => ⟨hstate, hnone⟩, fun _ => ⟨rfl, rfl, rfl, rfl, result, rfl, ?_⟩⟩
        rw [Except.ok.inj hresult]
        exact ⟨rfl, rfl⟩
      · cases h
      · exact ⟨fun h => absurd h.balance hbalance, fun h => absurd h.2 hsome⟩
    · obtain ⟨-, h, -⟩ | ⟨hsome, -⟩ := reserveAgain_runs hmid
      · cases h
      · refine ⟨fun h => ?_, fun h => absurd h.2 hsome⟩
        obtain ⟨result, h, -⟩ := h.returns
        rw [hout] at h
        cases h
  · have hfails : ∃ e, out = .error e := by
      obtain ⟨result, hmid, rfl⟩ | ⟨e, mid, hmid, hout, -⟩ := hrun
      · obtain ⟨e, h⟩ := publishAfterBroadcast_moved hrow hlanded hstate hmid
        cases h
      · exact ⟨_, hout⟩
    obtain ⟨e, rfl⟩ := hfails
    constructor
    · rintro ⟨-, -, -, -, result, h, -⟩
      cases h
    · exact fun h => absurd h.1 hstate

end Republish

/-- Executes calls while the node reports every transaction committed. -/
def committedHandler : Program.Handler Op Error Observed := fun _ op s =>
  match op with
  | .store access => ((access.exec s.db).1, { s with db := (access.exec s.db).2 })
  | .getTransaction _ => (.ok .committed, s)
  | .completeTransaction _ => (.error (.other "no build"), { s with builds := s.builds + 1 })
  | .sendTransaction _ => (.error (.other "no broadcast"), { s with broadcasts := s.broadcasts + 1 })
  | _ => (.error (.other "no such call"), s)

theorem runs_committedHandler {α : Type} (txHash : Hash) (p : Prog α) (s : Observed) :
    Program.Runs (committedEffect txHash) p s (Program.run committedHandler p s).1
      (Program.run committedHandler p s).2 := by
  refine Program.runs_of_run committedHandler id ?_ p s
  intro β op s
  cases op <;> first | rfl | exact ⟨rfl, rfl⟩ | exact ⟨fun _ => rfl, rfl⟩

/-- The journaled transaction of a sample message, with the capacity of its cell. -/
def committedRecord (capacityShannon : Option Nat) : OutgoingTransaction :=
  ⟨9, .message (.composed 1), .committed, some 1000, capacityShannon, none⟩

/-- A database with one message, published and committed. -/
def committedDb (state : MessageState) (fits : state.Fits .outgoing) (capacityShannon : Option Nat) :
    Db :=
  { Db.empty with
    messages := .singleton ⟨1, .outgoing, state, some "hi", .composed 1, some (sampleMessageId 7), fits⟩
    outgoingTransactions := .singleton (committedRecord capacityShannon)
    balance := ⟨100000000000, 50000000000, 20000000000, 0, 0⟩ }

/-- The publish of that message. -/
def samplePublish : PublishTextInput :=
  ⟨1, .composed 1, "hi", sampleProfile 2, none, [], none, none, [], none, none⟩

/-- A second publish of a message whose journal record holds no amount. -/
theorem publishText_twice_available :
    Repeats (committedRecord none) ⟨committedDb .available_on_chain (by decide) none, 0, 0⟩
      (Program.run committedHandler (publishText samplePipeline samplePublish)
        ⟨committedDb .available_on_chain (by decide) none, 0, 0⟩).1
      (Program.run committedHandler (publishText samplePipeline samplePublish)
        ⟨committedDb .available_on_chain (by decide) none, 0, 0⟩).2 :=
  (publishText_idempotent_iff samplePipeline samplePublish (committedRecord none) _ _ _ _ rfl
    (by decide) (by decide) (runs_committedHandler 9 _ _)).2 ⟨rfl, .inl rfl⟩

/-- A second publish of a message that its recipient has received throws, and one of a message
    that is available on chain moves the balance. -/
theorem publishText_twice_received :
    (∃ out s', Program.Runs (committedEffect 9) (publishText samplePipeline samplePublish)
        ⟨committedDb .downloaded_by_recipient (by decide) (some 20000000000), 0, 0⟩ out s' ∧
      ¬Repeats (committedRecord (some 20000000000))
        ⟨committedDb .downloaded_by_recipient (by decide) (some 20000000000), 0, 0⟩ out s') ∧
    ∃ out s', Program.Runs (committedEffect 9) (publishText samplePipeline samplePublish)
        ⟨committedDb .available_on_chain (by decide) (some 20000000000), 0, 0⟩ out s' ∧
      ¬Repeats (committedRecord (some 20000000000))
        ⟨committedDb .available_on_chain (by decide) (some 20000000000), 0, 0⟩ out s' := by
  refine ⟨⟨_, _, runs_committedHandler 9 _ _, fun h => ?_⟩,
    ⟨_, _, runs_committedHandler 9 _ _, fun h => ?_⟩⟩
  · obtain ⟨result, hout, -⟩ := h.returns
    have hok : _ = true := congrArg Except.isOk hout
    exact absurd hok (by decide)
  · have hreserved := congrArg WalletBalance.reservedShannon h.balance
    exact absurd hreserved (by decide)

end cemp.ckb
