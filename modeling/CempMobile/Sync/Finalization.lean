import CempMobile.Ckb.PublisherSteps
import CempMobile.Database.Rows
import CempMobile.Sync.Passes

open cemp.core cemp.database cemp.database.MessageRepository cemp.ckb

namespace cemp.database

/-- The hash of the transaction an access would mark committed. -/
def StoreOp.commits : {β : Type} → StoreOp β → Option Hash
  | _, markOutgoingTxState txHash .committed => some txHash
  | _, markOutgoingTxStateIf txHash _ .committed => some txHash
  | _, _ => none

section Committed

variable {β : Type} {db : Db} {access : StoreOp β} {r : Nat × OutgoingTransaction}

theorem committed_setState {p : OutgoingTransaction → Bool} {state : TxState} {txHash : Hash}
    (hp : ∀ tx, p tx = true → tx.txHash = txHash)
    (hmem : r ∈ (OutgoingTransactionRepository.setState db p state).outgoingTransactions.rows)
    (hstate : r.2.state = .committed) :
    ∃ r' ∈ db.outgoingTransactions.rows, r'.2.core = r.2.core ∧
      (r'.2.state = .committed ∨ state = .committed ∧ r.2.txHash = txHash) := by
  obtain ⟨tx, htx, hval⟩ := Table.mem_update.1 hmem
  refine ⟨(r.1, tx), htx, ?_⟩
  split at hval
  next hmatch =>
    rw [hval] at hstate ⊢
    exact ⟨rfl, .inr ⟨hstate, hp tx hmatch⟩⟩
  · rw [hval] at hstate ⊢
    exact ⟨rfl, .inl hstate⟩

/-- A record that is committed after an access was so before, or is marked by it. -/
theorem committed_exec (hrecords : ∀ tx, access.records = some tx → tx.state ≠ .committed)
    (hmem : r ∈ (access.exec db).2.outgoingTransactions.rows) (hstate : r.2.state = .committed) :
    ∃ r' ∈ db.outgoingTransactions.rows, r'.2.core = r.2.core ∧
      (r'.2.state = .committed ∨ access.commits = some r.2.txHash) := by
  have marked : ∀ {state : TxState} {txHash : Hash},
      (∃ r' ∈ db.outgoingTransactions.rows, r'.2.core = r.2.core ∧
        (r'.2.state = .committed ∨ state = .committed ∧ r.2.txHash = txHash)) →
      (state = .committed → access.commits = some txHash) →
      ∃ r' ∈ db.outgoingTransactions.rows, r'.2.core = r.2.core ∧
        (r'.2.state = .committed ∨ access.commits = some r.2.txHash) := by
    rintro state txHash ⟨r', hr', hcore, hcases⟩ hcommits
    refine ⟨r', hr', hcore, hcases.imp id ?_⟩
    rintro ⟨hcommitted, hhash⟩
    rw [hhash]
    exact hcommits hcommitted
  by_cases htouch : access.records = none ∧ access.marks = none
  · rw [outgoingTransactions_exec htouch.1 htouch.2] at hmem
    exact ⟨r, hmem, rfl, .inl hstate⟩
  cases access with
  | recordOutgoingTx tx =>
    simp only [StoreOp.exec, OutgoingTransactionRepository.record] at hmem
    split at hmem
    · simp only [Table.rows_insert, List.mem_append, List.mem_singleton] at hmem
      obtain hold | rfl := hmem
      · exact ⟨r, hold, rfl, .inl hstate⟩
      · exact absurd hstate (hrecords tx rfl)
    · exact ⟨r, hmem, rfl, .inl hstate⟩
  | markOutgoingTxState txHash state =>
    simp only [StoreOp.exec, OutgoingTransactionRepository.markState] at hmem
    split at hmem
    · refine marked (committed_setState (fun tx h => by simpa using h) hmem hstate) ?_
      rintro rfl
      rfl
    · exact ⟨r, hmem, rfl, .inl hstate⟩
  | markOutgoingTxStateIf txHash expected state =>
    simp only [StoreOp.exec, OutgoingTransactionRepository.markStateIf] at hmem
    have hhash : ∀ tx : OutgoingTransaction,
        (tx.txHash == txHash && tx.state == expected) = true → tx.txHash = txHash := by
      intro tx h
      simp only [Bool.and_eq_true, beq_iff_eq] at h
      exact h.1
    refine marked (committed_setState hhash hmem hstate) ?_
    rintro rfl
    rfl
  | _ => exact absurd ⟨rfl, rfl⟩ htouch

end Committed

end cemp.database

namespace cemp.sync

/-- The states of a message whose answer is published and seen committed. -/
def FINALIZED_STATES : List MessageState := [.awaiting_remote_reclaim, .remote_reclaimed]

/-- A message that waits for its sender to reclaim its cell, or saw it reclaimed. -/
def Finalized (db : Db) (logicalId : LogicalMessageId) : Prop :=
  ∃ standing, db.standing logicalId = some standing ∧ standing.state ∈ FINALIZED_STATES

theorem finalized_iff {db : Db} {logicalId : LogicalMessageId} :
    Finalized db logicalId ↔
      ((db.standing logicalId).any fun standing => decide (standing.state ∈ FINALIZED_STATES)) = true := by
  simp [Finalized, Option.any_eq_true]

instance (db : Db) (logicalId : LogicalMessageId) : Decidable (Finalized db logicalId) :=
  decidable_of_iff _ finalized_iff.symm

/-- The message that a transaction of some purpose acknowledges. -/
def respondedBy : TxPurpose → Option LogicalMessageId
  | .message (.response original) => some original
  | _ => none

/-- The message that a journaled transaction acknowledges. -/
def respondedMessage (db : Db) (txHash : Hash) : Option LogicalMessageId :=
  (db.outgoingTransactions.first? fun tx => tx.txHash == txHash).bind fun r => respondedBy r.2.purpose

/-- Every message whose acknowledgement is recorded as committed is finalized. -/
def Settled (db : Db) : Prop :=
  ∀ r ∈ db.outgoingTransactions.rows, r.2.state = .committed →
    ∀ original, respondedBy r.2.purpose = some original → Finalized db original

/-- The wallet between the passes of the workers. -/
structure ResponseWorld where
  db : Db
  /-- The message whose acknowledgement this pass of the response sender recorded as committed,
      until it is finalized. -/
  found : Option LogicalMessageId
  /-- The messages whose acknowledgement another worker recorded as committed in this pass, when
      they were not finalized. -/
  missed : List LogicalMessageId

/-- The message not finalized yet whose acknowledgement an access would record as committed. -/
def newlyCommitted {β : Type} (db : Db) (access : StoreOp β) : Option LogicalMessageId :=
  (access.commits.bind (respondedMessage db)).filter fun original => ¬Finalized db original

/-- The wallet after an access of the response sender or of another worker. -/
def ResponseWorld.exec {β : Type} (sender : Bool) (access : StoreOp β) (w : ResponseWorld) :
    ResponseWorld :=
  let db := (access.exec w.db).2
  let newly := newlyCommitted w.db access
  if sender then
    ⟨db, (newly.or w.found).filter fun original => ¬Finalized db original, w.missed⟩
  else ⟨db, w.found, w.missed ++ newly.toList⟩

/-- What a pass does to the wallet while the transactions in `chain` are committed: the node answers
    so for them. It may answer anything for others, and so may any other call, but that the hash of
    a newly signed transaction is not journaled. -/
def responseEffect (sender : Bool) (chain : List Hash) : Program.Effect Op Error ResponseWorld :=
  fun _ op w answer w' =>
    match op with
    | .store access => answer = (access.exec w.db).1 ∧ w' = w.exec sender access
    | .getTransaction txHash =>
      (txHash ∈ chain → ∀ status, answer = .ok status → status = .committed) ∧ w' = w
    | .signTransaction _ =>
      (∀ signed, answer = .ok signed → ∀ record ∈ w.db.journal, record.txHash ≠ signed.hash) ∧ w' = w
    | _ => w' = w

section Finalized

variable {β : Type} {db : Db} {access : StoreOp β} {original : LogicalMessageId} {rowId : Nat}

/-- A finalized message stays so, unless it is found invalid. -/
theorem Finalized.exec (h : Finalized db original)
    (hmoves : ∀ rowId target, access.moves = some (rowId, target) → target ≠ .invalid) :
    Finalized (access.exec db).2 original := by
  have hnext : ∀ state ∈ FINALIZED_STATES, ∀ direction ∈ MESSAGE_DIRECTIONS,
      ∀ target ∈ outgoingMessageStates ++ incomingMessageStates,
        canTransitionMessage direction state target → target ≠ .invalid → target ∈ FINALIZED_STATES := by
    decide
  have hall : ∀ target : MessageState, target ∈ outgoingMessageStates ++ incomingMessageStates := by
    intro target
    cases target <;> decide
  obtain ⟨standing, hstands, hstate⟩ := h
  obtain ⟨m, hget, hid, hm, -⟩ := standing_eq_some.1 hstands
  obtain ⟨m', hget', hfollows⟩ := get?_exec access hget
  have hafter := standing_of_get? hget'
  rw [hfollows.logicalMessageId, hid] at hafter
  refine ⟨_, hafter, ?_⟩
  obtain hsame | ⟨hmove, hcan⟩ := hfollows.state
  · change m'.state ∈ FINALIZED_STATES
    rw [hsame, hm]
    exact hstate
  · rw [hm] at hcan
    exact hnext _ hstate _ (mem_directions _) _ (hall _) hcan (hmoves _ _ hmove)

/-- The row of a message that was moved to `awaiting_remote_reclaim`. -/
theorem Holds.finalized (h : Holds db rowId original)
    (hok : (transitionState rowId .awaiting_remote_reclaim db).1 = .ok ()) :
    Finalized (transitionState rowId .awaiting_remote_reclaim db).2 original := by
  obtain ⟨m, hget, hid⟩ := h
  obtain ⟨m', hget', hstate⟩ := state_of_transition_ok hok
  obtain ⟨m'', hget'', hfollows⟩ := get?_transitionState rowId .awaiting_remote_reclaim hget
  obtain rfl := Option.some.inj (hget'.symm.trans hget'')
  have hafter := standing_of_get? hget'
  rw [hfollows.logicalMessageId, hid] at hafter
  refine ⟨_, hafter, ?_⟩
  change m'.state ∈ FINALIZED_STATES
  rw [hstate]
  decide

/-- A record of the journal is the one its hash names. -/
theorem respondedMessage_of_mem {r : Nat × OutgoingTransaction}
    (hmem : r ∈ db.outgoingTransactions.rows) :
    respondedMessage db r.2.txHash = respondedBy r.2.purpose := by
  have hfirst : (db.outgoingTransactions.first? fun tx => tx.txHash == r.2.txHash) = some r :=
    Table.first?_of_key (by simp [OutgoingTransaction.key]) hmem rfl
  rw [respondedMessage, hfirst]
  rfl

end Finalized

/-- What is known in a pass of the response sender: every recorded commit is followed, but that of
    `target`, which is still to be followed. -/
structure Tracked (target : Option LogicalMessageId) (w : ResponseWorld) : Prop where
  committed : ∀ r ∈ w.db.outgoingTransactions.rows, r.2.state = .committed →
    ∀ original, respondedBy r.2.purpose = some original →
      Finalized w.db original ∨ w.found = some original
  found : ∀ original, w.found = some original → target = some original

/-- A step of the response sender that finds no invalid message, records no committed transaction,
    and marks none committed but the given one. -/
def CommitsOnly (txHash : Option Hash) : (β : Type) → Op β → Prop
  | _, .store access => (∀ rowId target, access.moves = some (rowId, target) → target ≠ .invalid) ∧
      (∀ tx, access.records = some tx → tx.state ≠ .committed) ∧
      ∀ marked, access.commits = some marked → txHash = some marked
  | _, _ => True

/-- A journaled transaction that acknowledges nothing but the target. -/
def Answers (target : Option LogicalMessageId) (db : Db) (txHash : Hash) : Prop :=
  ∃ record ∈ db.journal, record.txHash = txHash ∧
    ∀ original, respondedBy record.purpose = some original → target = some original

section Tracked

variable {α β : Type} {w w' : ResponseWorld} {target : Option LogicalMessageId} {chain : List Hash}
  {original : LogicalMessageId} {db : Db} {txHash : Option Hash}

theorem Tracked.settled (h : Tracked target w) (hfound : w.found = none) : Settled w.db := by
  intro r hr hstate original hresponds
  obtain hdone | hopen := h.committed r hr hstate original hresponds
  · exact hdone
  · rw [hfound] at hopen
    cases hopen

theorem tracked_none : Tracked none w ↔ Settled w.db ∧ w.found = none := by
  constructor
  · intro h
    have hfound : w.found = none := by
      cases hopen : w.found with
      | none => rfl
      | some original => cases h.found original hopen
    exact ⟨h.settled hfound, hfound⟩
  · rintro ⟨hsettled, hfound⟩
    refine ⟨fun r hr hstate original hresponds => .inl (hsettled r hr hstate original hresponds), ?_⟩
    intro original hopen
    rw [hfound] at hopen
    cases hopen

theorem Tracked.any (h : Tracked none w) : Tracked target w :=
  ⟨h.committed, fun original hopen => by cases h.found original hopen⟩

/-- Once its target is finalized, nothing is left to follow. -/
theorem Tracked.done (h : Tracked (some original) w) (hopen : w.found ≠ some original) :
    Tracked none w := by
  refine ⟨h.committed, fun other hother => ?_⟩
  obtain rfl := Option.some.inj (h.found other hother)
  exact absurd hother hopen

/-- What an access of the response sender leaves open is not finalized. -/
theorem open_exec {access : StoreOp β} (h : (w.exec true access).found = some original) :
    ¬Finalized (w.exec true access).db original := by
  simp only [ResponseWorld.exec, if_true, Option.filter_eq_some_iff, decide_eq_true_eq] at h
  exact h.2

/-- An access of the response sender that commits nothing but what answers the target. -/
theorem Tracked.exec {access : StoreOp β} (h : Tracked target w)
    (hmoves : ∀ rowId target, access.moves = some (rowId, target) → target ≠ .invalid)
    (hrecords : ∀ tx, access.records = some tx → tx.state ≠ .committed)
    (hcommits : ∀ marked, access.commits = some marked → ∀ original,
      respondedMessage w.db marked = some original → target = some original) :
    Tracked target (w.exec true access) := by
  have hopen : ∀ original, (newlyCommitted w.db access).or w.found = some original →
      target = some original := by
    intro original hor
    obtain hnew | ⟨-, hfound⟩ := Option.or_eq_some_iff.1 hor
    · obtain ⟨hresponds, -⟩ := Option.filter_eq_some_iff.1 hnew
      obtain ⟨marked, hmarked, hresponds⟩ := Option.bind_eq_some_iff.1 hresponds
      exact hcommits marked hmarked original hresponds
    · exact h.found original hfound
  refine ⟨fun r hr hstate original hresponds => ?_, fun original hfound => ?_⟩
  · by_cases hdone : Finalized (w.exec true access).db original
    · exact .inl hdone
    right
    have hpending : ¬Finalized w.db original := fun hbefore => hdone (hbefore.exec hmoves)
    obtain ⟨r', hr', hcore, hcases⟩ := committed_exec hrecords hr hstate
    have hresponds' : respondedBy r'.2.core.purpose = some original := by
      rw [hcore]
      exact hresponds
    have hleft : (newlyCommitted w.db access).or w.found = some original := by
      obtain hbefore | hmarked := hcases
      · have hfound := (h.committed r' hr' hbefore original hresponds').resolve_left hpending
        cases hnew : newlyCommitted w.db access with
        | none => exact hfound
        | some other =>
          have hother := hopen other (by rw [hnew]; rfl)
          rw [h.found original hfound] at hother
          exact hother.symm
      · have hhash : r'.2.core.txHash = r.2.txHash := by
          rw [hcore]
          rfl
        have hnamed : respondedMessage w.db r.2.txHash = some original :=
          (hhash ▸ respondedMessage_of_mem hr').trans hresponds'
        have hnew : newlyCommitted w.db access = some original := by
          rw [newlyCommitted, hmarked, Option.bind_some, hnamed]
          simp [hpending]
        rw [hnew]
        rfl
    simp only [ResponseWorld.exec, if_true, Option.filter_eq_some_iff, decide_eq_true_eq]
    exact ⟨hleft, hdone⟩
  · simp only [ResponseWorld.exec, if_true, Option.filter_eq_some_iff] at hfound
    exact hopen original hfound.1

theorem mem_journal_exec {record : OutgoingTransaction} (access : StoreOp β)
    (h : record ∈ db.journal) : record ∈ (access.exec db).2.journal := by
  obtain hsame | ⟨tx, -, happend⟩ := journal_exec access db
  · rw [hsame]
    exact h
  · rw [happend]
    exact List.mem_append_left _ h

theorem Answers.exec {marked : Hash} (h : Answers target db marked) (access : StoreOp β) :
    Answers target (access.exec db).2 marked := by
  obtain ⟨record, hmem, hhash, hresponds⟩ := h
  exact ⟨record, mem_journal_exec access hmem, hhash, hresponds⟩

theorem Answers.responded {marked : Hash} (h : Answers target db marked)
    (hresponds : respondedMessage db marked = some original) : target = some original := by
  obtain ⟨record, hmem, rfl, hrecord⟩ := h
  obtain ⟨r, hr, rfl⟩ := mem_journal.1 hmem
  have hnamed : respondedMessage db r.2.core.txHash = respondedBy r.2.core.purpose :=
    respondedMessage_of_mem hr
  exact hrecord original (hnamed.symm.trans hresponds)

/-- A step of the response sender. -/
theorem Tracked.next {op : Op β} {answer : Except Error β} (h : Tracked target w)
    (hop : CommitsOnly txHash β op) (hanswers : ∀ marked, txHash = some marked → Answers target w.db marked)
    (heffect : responseEffect true chain β op w answer w') :
    Tracked target w' ∧ ∀ marked, txHash = some marked → Answers target w'.db marked := by
  cases op with
  | store access =>
    obtain ⟨-, rfl⟩ := heffect
    obtain ⟨hmoves, hrecords, hcommits⟩ := hop
    refine ⟨h.exec hmoves hrecords fun marked hmarked original hresponds => ?_, fun marked hmarked => ?_⟩
    · exact (hanswers marked (hcommits marked hmarked)).responded hresponds
    · exact (hanswers marked hmarked).exec access
  | getTransaction hash =>
    obtain ⟨-, rfl⟩ := heffect
    exact ⟨h, hanswers⟩
  | signTransaction tx =>
    obtain ⟨-, rfl⟩ := heffect
    exact ⟨h, hanswers⟩
  | _ =>
    obtain rfl := heffect
    exact ⟨h, hanswers⟩

/-- A part of the response sender that commits nothing, or one transaction that answers the
    target. -/
theorem always_tracked {p : Prog α} (huses : Program.Uses (CommitsOnly txHash) p)
    (h : Tracked target w) (hanswers : ∀ marked, txHash = some marked → Answers target w.db marked) :
    Program.Always (responseEffect true chain) (fun _ _ => Tracked target) p w
      fun _ => Tracked target := by
  have hboth : Program.Always (responseEffect true chain)
      (fun _ _ w => Tracked target w ∧ ∀ marked, txHash = some marked → Answers target w.db marked) p w
      fun _ w => Tracked target w ∧ ∀ marked, txHash = some marked → Answers target w.db marked :=
    huses.always (fun β op w hop hw => ⟨hw, fun r w' heffect => hw.1.next hop hw.2 heffect⟩)
      ⟨h, hanswers⟩
  exact (hboth.weaken fun _ _ _ h => h.1).mono fun _ _ h => h.1

/-- A part that commits nothing. -/
theorem always_uncommitting {p : Prog α} (huses : Program.Uses (CommitsOnly none) p)
    (h : Tracked target w) :
    Program.Always (responseEffect true chain) (fun _ _ => Tracked target) p w
      fun _ => Tracked target :=
  always_tracked huses h fun marked hnone => by cases hnone

/-- A program that starts with a step that commits nothing. -/
theorem Tracked.step {op : Op β} {f : β → Prog α} {post : Except Error α → ResponseWorld → Prop}
    (h : Tracked target w) (hop : CommitsOnly none β op)
    (hok : ∀ b w', responseEffect true chain β op w (.ok b) w' → Tracked target w' →
      Program.Always (responseEffect true chain) (fun _ _ => Tracked target) (f b) w' post)
    (herror : ∀ e w', Tracked target w' → post (.error e) w') :
    Program.Always (responseEffect true chain) (fun _ _ => Tracked target)
      ((Program.perform op).bind f) w post := by
  have hnext : ∀ answer w', responseEffect true chain β op w answer w' → Tracked target w' :=
    fun answer w' heffect => (h.next hop (fun _ hnone => by cases hnone) heffect).1
  exact Program.Always.step h (fun e w' heffect => herror e w' (hnext _ w' heffect))
    fun b w' heffect => hok b w' heffect (hnext _ w' heffect)

theorem commitsOnly_access {access : StoreOp β} (hmoves : access.moves = none)
    (hrecords : access.records = none) (hcommits : access.commits = none) :
    CommitsOnly txHash β (.store access) := by
  refine ⟨fun _ _ h => ?_, fun _ h => ?_, fun _ h => ?_⟩
  · rw [hmoves] at h
    cases h
  · rw [hrecords] at h
    cases h
  · rw [hcommits] at h
    cases h

theorem commitsOnly_transition (rowId : Nat) {state : MessageState} (h : state ≠ .invalid) :
    CommitsOnly txHash Unit (.store (.transitionMessage rowId state)) := by
  refine ⟨fun _ _ hmove => ?_, fun _ h => (by cases h), fun _ h => by cases h⟩
  cases hmove
  exact h

end Tracked

section Publish

variable {β : Type} {deps : PipelineDeps} {input : PublishTextInput} {w : ResponseWorld}
  {chain : List Hash} {target : Option LogicalMessageId}

/-- Up to the broadcast, a publish commits nothing. -/
theorem SendingStep.uncommitting {op : Op β} (h : SendingStep input β op) : CommitsOnly none β op := by
  have hunsent : ∀ state ∈ UNSENT_STATES, state ≠ .invalid := by decide
  cases op with
  | store access =>
    cases access with
    | transitionMessage rowId state => exact commitsOnly_transition rowId (hunsent state h.2)
    | recordOutgoingTx tx =>
      refine ⟨fun _ _ h => (by cases h), fun tx' htx => ?_, fun _ h => by cases h⟩
      obtain rfl : tx = tx' := Option.some.inj htx
      rw [h.2]
      decide
    | markOutgoingTxState txHash state =>
      obtain rfl : state = .abandoned := h
      exact commitsOnly_access rfl rfl rfl
    | _ => first | exact h.elim | exact commitsOnly_access rfl rfl rfl
  | _ => trivial

theorem uncommitting_of_sending {α : Type} {p : Prog α} (input : PublishTextInput)
    (h : Program.Uses (SendingStep input) p) :
    Program.Uses (CommitsOnly none) p :=
  h.mono fun _ _ h => SendingStep.uncommitting h

/-- After the broadcast, it commits the transaction that is out. -/
theorem publishAfterBroadcast_commits (tx : BroadcastTx) :
    Program.Uses (CommitsOnly (some tx.txHash)) (publishAfterBroadcast input tx) := by
  have hpath : ∀ state ∈ OUTGOING_PUBLISH_PATH, state ≠ .invalid := by decide
  have access : ∀ {β : Type} {access : StoreOp β}, access.moves = none → access.records = none →
      access.commits = none → Program.Uses (CommitsOnly (some tx.txHash)) (store access) :=
    fun hmoves hrecords hcommits =>
      Program.uses_perform.2 (commitsOnly_access hmoves hrecords hcommits)
  have walk : ∀ state, Program.Uses (CommitsOnly (some tx.txHash))
      (walkToState input.messageRowId state) := by
    intro state
    refine (access rfl rfl rfl).bind fun current => Program.Uses.forEach fun next hnext => ?_
    refine Program.uses_perform.2 (commitsOnly_transition _ (hpath next ?_))
    unfold walkSteps at hnext
    split at hnext
    · cases hnext
    · split at hnext
      · split at hnext
        · cases hnext
        · exact List.mem_of_mem_take (List.mem_of_mem_drop hnext)
      · exact List.mem_of_mem_take (List.mem_of_mem_drop hnext)
  have monitored : Program.Uses (CommitsOnly (some tx.txHash))
      (monitor input.messageRowId tx.txHash tx.resumed input.timeoutMs tx.capacityShannon) := by
    refine Program.Uses.bind (waitForTransactionCommit_uses trivial trivial _) fun _ => ?_
    refine Program.Uses.bind (Program.uses_perform.2 ⟨fun _ _ h => (by cases h),
      fun _ h => (by cases h), fun marked h => h⟩) fun _ => ?_
    refine (access rfl rfl rfl).bind fun _ => Program.Uses.bind (walk _) fun _ => ?_
    split
    · split
      · exact (access rfl rfl rfl).bind fun _ => trivial
      · trivial
    · trivial
  unfold publishAfterBroadcast
  cases tx.fresh with
  | none => exact (walk _).bind fun _ => monitored
  | some signed =>
    exact Program.Uses.bind (Program.uses_perform.2 trivial) fun _ =>
      Program.Uses.bind (Program.uses_perform.2 (commitsOnly_transition _ (by decide)))
        fun _ => monitored

/-- A resume hands back the record it was given. -/
theorem resumeOrAbandon_returns (record : OutgoingTransaction) (timeoutMs : Option Nat)
    (w : ResponseWorld) :
    Program.Always (responseEffect true chain) Program.Anywhere (resumeOrAbandon record timeoutMs) w
      fun r _ => ∀ resumed, r = .ok (some resumed) → resumed = record := by
  have any : ∀ {α : Type} (p : Prog α) (w : ResponseWorld),
      Program.Always (responseEffect true chain) Program.Anywhere p w fun _ _ => True :=
    fun p w => Program.always_invariant (fun _ _ _ _ _ _ _ => trivial) p trivial
  have returned : ∀ w, Program.Always (responseEffect true chain) Program.Anywhere
      (Program.ret (some record) : Prog (Option OutgoingTransaction)) w
      fun r _ => ∀ resumed, r = .ok (some resumed) → resumed = record := by
    intro w resumed h
    exact (Option.some.inj (Except.ok.inj h)).symm
  refine Program.Always.catchError (?_ : Program.Always (responseEffect true chain) Program.Anywhere _ w
    fun r _ => ∀ resumed, r = .ok (some resumed) → resumed = record) (fun _ _ h => h) fun e w' _ => ?_
  · refine (any _ w).bind (fun outcome w' _ => ?_) fun e w' _ resumed h => by cases h
    split
    · exact (any _ w').bind (fun _ w'' _ => returned w'') fun e w'' _ resumed h => by cases h
    · exact returned w'
  cases e with
  | journaledAbandoned message spent =>
    exact (any _ w').bind (fun _ w'' _ resumed h => by cases h) fun e w'' _ resumed h => by cases h
  | _ => exact fun resumed h => by cases h

/-- A publish that hands out a transaction has journaled it, and recorded no commit. -/
def HandsOut (input : PublishTextInput) (r : Except Error BroadcastTx) (w : ResponseWorld) : Prop :=
  Tracked none w ∧ ∀ tx, r = .ok tx → Answers (respondedBy input.purpose) w.db tx.txHash

theorem handsOut_error {e : Error} (h : Tracked none w) : HandsOut input (.error e) w :=
  ⟨h, fun _ hr => by cases hr⟩

/-- A record for the purpose of a publish answers nothing else. -/
theorem answers_of_mem {record : OutgoingTransaction} (hmem : record ∈ w.db.journal)
    (hpurpose : record.purpose = input.purpose) :
    Answers (respondedBy input.purpose) w.db record.txHash :=
  ⟨record, hmem, rfl, fun original h => by rw [← hpurpose, h]⟩

theorem Answers.next {op : Op β} {answer : Except Error β} {w' : ResponseWorld} {marked : Hash}
    (h : Answers target w.db marked) (heffect : responseEffect true chain β op w answer w') :
    Answers target w'.db marked := by
  cases op with
  | store access =>
    obtain ⟨-, rfl⟩ := heffect
    exact h.exec access
  | getTransaction hash =>
    obtain ⟨-, rfl⟩ := heffect
    exact h
  | signTransaction tx =>
    obtain ⟨-, rfl⟩ := heffect
    exact h
  | _ =>
    obtain rfl := heffect
    exact h

/-- Recording a transaction that is not journaled yet. -/
theorem answers_record {tx : OutgoingTransaction} {answer : Except Error Unit} {w' : ResponseWorld}
    (heffect : responseEffect true chain Unit (.store (.recordOutgoingTx tx)) w answer w')
    (hpurpose : tx.purpose = input.purpose)
    (hfresh : ∀ record ∈ w.db.journal, record.txHash ≠ tx.txHash) :
    Answers (respondedBy input.purpose) w'.db tx.txHash := by
  obtain ⟨-, rfl⟩ := heffect
  have hjournal : (w.exec true (.recordOutgoingTx tx)).db.journal = w.db.journal ++ [tx.core] :=
    journal_record hfresh
  have hmem : tx.core ∈ (w.exec true (.recordOutgoingTx tx)).db.journal := by
    rw [hjournal]
    exact List.mem_append_right _ (List.mem_singleton_self _)
  have hanswers : Answers (respondedBy input.purpose) (w.exec true (.recordOutgoingTx tx)).db
      tx.core.txHash := answers_of_mem hmem hpurpose
  exact hanswers

/-- A program whose first part commits nothing. -/
theorem Tracked.part {α γ : Type} {p : Prog α} {f : α → Prog γ}
    {post : Except Error γ → ResponseWorld → Prop} (huses : Program.Uses (CommitsOnly none) p)
    (h : Tracked target w)
    (hok : ∀ a w', Tracked target w' →
      Program.Always (responseEffect true chain) (fun _ _ => Tracked target) (f a) w' post)
    (herror : ∀ e w', Tracked target w' → post (.error e) w') :
    Program.Always (responseEffect true chain) (fun _ _ => Tracked target) (p.bind f) w post :=
  (always_uncommitting huses h).bind hok herror

/-- A new transaction is journaled under the purpose of its publish before it is handed out. -/
theorem always_buildAndBroadcast (h : Tracked none w) :
    Program.Always (responseEffect true chain) (fun _ _ => Tracked none)
      (buildAndBroadcast deps input) w (HandsOut input) := by
  have move : ∀ state ∈ UNSENT_STATES, Program.Uses (CommitsOnly none)
      (store (.transitionMessage input.messageRowId state)) :=
    fun state hstate => uncommitting_of_sending input (Program.uses_perform.2 ⟨rfl, hstate⟩)
  have failed : ∀ (e : Error) (w : ResponseWorld), Tracked none w → HandsOut input (.error e) w :=
    fun e w h => handsOut_error h
  refine h.part (move _ (by decide)) (fun _ w h => ?_) failed
  refine h.step trivial (fun senderProfileId w _ h => ?_) failed
  refine h.step trivial (fun recipientKemPublicKey w _ h => ?_) failed
  refine h.part (uncommitting_of_sending input (assembleTextMessage_uses trivial (fun _ => trivial)
    trivial (fun _ _ _ => trivial) _)) (fun assembled w h => ?_) failed
  refine h.part (move _ (by decide)) (fun _ w h => ?_) failed
  refine h.part (uncommitting_of_sending input (completeAndFinalize_uses (fun _ => trivial) _ _))
    (fun built w h => ?_) failed
  refine h.part (move _ (by decide)) (fun _ w h => ?_) failed
  refine h.step trivial (fun signed w' heffect h => ?_) failed
  obtain ⟨hfresh, rfl⟩ := heffect
  have hfresh := hfresh signed rfl
  have hsubmitting : CommitsOnly none Unit
      (.store (.transitionMessage input.messageRowId .submitting)) :=
    commitsOnly_transition _ (by decide)
  refine h.step hsubmitting (fun _ w'' heffect h => ?_) failed
  -- The move to `submitting` leaves the journal, so that the hash is still not in it.
  obtain ⟨-, rfl⟩ := heffect
  have hjournal : (w'.exec true (.transitionMessage input.messageRowId .submitting)).db.journal =
      w'.db.journal := by
    obtain hsame | ⟨tx, hrecords, -⟩ :=
      journal_exec (.transitionMessage input.messageRowId .submitting) w'.db
    · exact hsame
    · cases hrecords
  rw [← hjournal] at hfresh
  have hrecord : ∀ tx : OutgoingTransaction, tx.state = .submitted →
      CommitsOnly none Unit (.store (.recordOutgoingTx tx)) := by
    intro tx hstate
    refine ⟨fun _ _ h => (by cases h), fun tx' htx => ?_, fun _ h => by cases h⟩
    obtain rfl : tx = tx' := Option.some.inj htx
    rw [hstate]
    decide
  refine h.step (hrecord _ rfl) (fun _ w₁ heffect h => ?_) failed
  have hanswers : Answers (respondedBy input.purpose) w₁.db signed.hash :=
    answers_record heffect rfl hfresh
  refine h.step (commitsOnly_access rfl rfl rfl) (fun _ w₂ heffect h => ?_) failed
  have hanswers := hanswers.next heffect
  refine h.step (commitsOnly_access rfl rfl rfl) (fun _ w₃ heffect h => ?_) failed
  have hanswers := hanswers.next heffect
  refine h.step trivial (fun accepted w₄ heffect h => ?_) failed
  have hanswers := hanswers.next heffect
  split
  · exact handsOut_error h
  · refine ⟨h, fun tx htx => ?_⟩
    obtain rfl := Except.ok.inj htx
    exact hanswers

/-- A publish hands out the journaled transaction of its message, or a new one it journals. -/
theorem always_publishUntilBroadcast (h : Tracked none w) :
    Program.Always (responseEffect true chain) (fun _ _ => Tracked none)
      (publishUntilBroadcast deps input) w (HandsOut input) := by
  have failed : ∀ (e : Error) (w : ResponseWorld), Tracked none w → HandsOut input (.error e) w :=
    fun e w h => handsOut_error h
  refine h.step (commitsOnly_access rfl rfl rfl) (fun existing w' heffect h => ?_) failed
  cases existing with
  | none => exact always_buildAndBroadcast h
  | some record =>
    obtain ⟨hanswer, rfl⟩ := heffect
    obtain ⟨hmem, hpurpose⟩ := mem_journal_of_latest (Except.ok.inj hanswer).symm
    have hanswers : Answers (respondedBy input.purpose) (w.exec true (.findOutgoingTxByPurpose
        input.purpose)).db record.core.txHash := answers_of_mem hmem hpurpose
    have huses : Program.Uses (CommitsOnly none) (resumeOrAbandon record input.timeoutMs) :=
      uncommitting_of_sending input (resumeOrAbandon_uses record _)
    have hjournaled : Program.Always (responseEffect true chain) Program.Anywhere
        (resumeOrAbandon record input.timeoutMs) _ fun _ w =>
          Answers (respondedBy input.purpose) w.db record.core.txHash :=
      Program.always_invariant (fun _ _ _ _ _ heffect h => h.next heffect) _ hanswers
    have hkept := ((hjournaled.and (resumeOrAbandon_returns record _ _)).and
      (always_uncommitting huses h)).weaken fun _ _ _ h => h.2
    refine hkept.bind ?_ fun e w' hw => handsOut_error hw.2
    rintro resumable w' ⟨⟨hanswers, hreturned⟩, h⟩
    cases resumable with
    | none => exact always_buildAndBroadcast h
    | some resumed =>
      obtain rfl := hreturned resumed rfl
      refine ⟨h, fun tx htx => ?_⟩
      obtain rfl := Except.ok.inj htx
      exact hanswers

/-- A publish journals its transaction under its purpose and records no other as committed,
    wherever it stops or is cut short. -/
theorem always_publishText (h : Tracked none w) :
    Program.Always (responseEffect true chain) (fun _ _ => Tracked (respondedBy input.purpose))
      (publishText deps input) w fun _ => Tracked (respondedBy input.purpose) := by
  have hguarded : Program.Always (responseEffect true chain) (fun _ _ => Tracked none)
      ((publishUntilBroadcast deps input).catchError fun error =>
        (Program.attempt (store (.transitionMessage input.messageRowId .failed))).bind
          fun _ => Program.throw (classifyPublishError error false)) w (HandsOut input) := by
    refine (always_publishUntilBroadcast h).catchError (fun _ _ h => h) fun e w' hw => ?_
    have hfail : Program.Uses (CommitsOnly none)
        (store (.transitionMessage input.messageRowId .failed)) :=
      Program.uses_perform.2 (commitsOnly_transition _ (by decide))
    have huses : Program.Uses (CommitsOnly none)
        (Program.attempt (store (.transitionMessage input.messageRowId .failed))) :=
      Program.Uses.catchError (hfail.bind fun _ => trivial) fun _ => trivial
    exact hw.1.part huses (fun _ w h => handsOut_error h) fun e w h => handsOut_error h
  refine (hguarded.weaken fun _ _ _ h => h.any).bind ?_ fun e w' hw => hw.1.any
  rintro tx w' ⟨h, hanswers⟩
  have hmarks : ∀ marked, some tx.txHash = some marked →
      Answers (respondedBy input.purpose) w'.db marked := by
    rintro marked hmarked
    obtain rfl := Option.some.inj hmarked
    exact hanswers tx rfl
  have hafter : Program.Always (responseEffect true chain)
      (fun _ _ => Tracked (respondedBy input.purpose)) (publishAfterBroadcast input tx) w'
      fun _ => Tracked (respondedBy input.purpose) :=
    always_tracked (publishAfterBroadcast_commits tx) h.any hmarks
  exact hafter.catchError (fun _ _ h => h) fun _ _ h => h

end Publish

section Respond

variable {β : Type} {deps : PipelineDeps} {w w' : ResponseWorld} {chain : List Hash}
  {original : LogicalMessageId} {rowId : Nat} {cell : OutPoint}

theorem Holds.next {sender : Bool} {op : Op β} {answer : Except Error β} (h : Holds w.db rowId original)
    (heffect : responseEffect sender chain β op w answer w') : Holds w'.db rowId original := by
  cases op with
  | store access =>
    obtain ⟨-, rfl⟩ := heffect
    cases sender
    all_goals exact h.exec access
  | getTransaction hash =>
    obtain ⟨-, rfl⟩ := heffect
    exact h
  | signTransaction tx =>
    obtain ⟨-, rfl⟩ := heffect
    exact h
  | _ =>
    obtain rfl := heffect
    exact h

theorem advanceOriginals_uncommitting (rowId : Nat) : Program.Uses (CommitsOnly none)
    (Program.forEach (advanceOriginal rowId) [.displayed, .response_queued, .response_sent]) := by
  refine Program.Uses.forEach fun state hstate => ?_
  have hvalid : state ≠ .invalid := by
    rintro rfl
    exact absurd hstate (by decide)
  refine Program.Uses.bind (Program.uses_perform.2 (commitsOnly_access rfl rfl rfl)) fun current => ?_
  cases current with
  | none => trivial
  | some m =>
    simp only
    split
    · trivial
    · split
      · exact Program.uses_perform.2 (commitsOnly_transition _ hvalid)
      · trivial

/-- A message that is walked to the end is finalized, and nothing is left to follow. -/
theorem always_finalizeOriginal (hholds : Holds w.db rowId original) (h : Tracked (some original) w) :
    Program.Always (responseEffect true chain) (fun _ _ => Tracked (some original))
      (finalizeOriginal rowId cell) w
      (Program.OkOr (Tracked none) fun _ => Tracked (some original)) := by
  have hheld : Program.Always (responseEffect true chain) Program.Anywhere
      (Program.forEach (advanceOriginal rowId) [.displayed, .response_queued, .response_sent]) w
      fun _ w' => Holds w'.db rowId original :=
    Program.always_invariant (fun _ _ _ _ _ heffect h => Holds.next h heffect) _ hholds
  have hwalk := (hheld.and (always_uncommitting (advanceOriginals_uncommitting rowId) h)).weaken
    fun _ _ _ h => h.2
  refine hwalk.bind ?_ fun e w' hw => hw.2
  rintro - w' ⟨hholds, h⟩
  have hmove : CommitsOnly none Unit (.store (.transitionMessage rowId .awaiting_remote_reclaim)) :=
    commitsOnly_transition _ (by decide)
  refine h.step hmove (fun _ w'' heffect h => ?_) fun e w'' h => h
  obtain ⟨hanswer, rfl⟩ := heffect
  have hfinalized : Finalized
      (w'.exec true (.transitionMessage rowId .awaiting_remote_reclaim)).db original :=
    hholds.finalized hanswer.symm
  have hdone : Tracked none (w'.exec true (.transitionMessage rowId .awaiting_remote_reclaim)) :=
    h.done fun hopen => open_exec hopen hfinalized
  refine Program.always_perform.2 ⟨h, fun r w'' heffect => ?_⟩
  have hwatch : CommitsOnly none Unit (.store (.registerWatch cell (.response rowId))) :=
    commitsOnly_access rfl rfl rfl
  have hafter := (hdone.next hwatch (fun _ hnone => by cases hnone) heffect).1
  cases r with
  | ok _ => exact hafter
  | error _ => exact hafter.any

/-- What the publish of a queued response acknowledges. -/
theorem respondedBy_receiptKind {logicalId : LogicalMessageId} {kind : ReceiptKind}
    (h : receiptKindOf logicalId = some kind) :
    kind.status = 0x01 ∧ respondedBy (.message logicalId) = some kind.original ∨
      kind.status ≠ 0x01 ∧ respondedBy (.message logicalId) = none := by
  cases logicalId with
  | response original =>
    obtain rfl := Option.some.inj h
    exact .inl ⟨rfl, rfl⟩
  | ackAttachment original =>
    obtain rfl := Option.some.inj h
    exact .inr ⟨show (0x05 : Nat) ≠ 0x01 by decide, rfl⟩
  | _ => cases h

theorem recipientOf_uncommitting (conversationId : Nat) :
    Program.Uses (CommitsOnly none) (recipientOf conversationId) := by
  refine Program.Uses.bind (Program.uses_perform.2 (commitsOnly_access rfl rfl rfl))
    fun conversation => ?_
  cases conversation with
  | none => trivial
  | some conversation =>
    exact Program.Uses.bind (Program.uses_perform.2 (commitsOnly_access rfl rfl rfl))
      fun _ => trivial

/-- Some message may be left to follow. -/
def Following (w : ResponseWorld) : Prop := ∃ target, Tracked target w

/-- A response that is sent to the end leaves nothing to follow. -/
theorem always_sendResponse (response : Nat × Message) (h : Tracked none w) :
    Program.Always (responseEffect true chain) (fun _ _ => Following) (sendResponse deps response) w
      (Program.OkOr (Tracked none) fun _ => Following) := by
  have along : ∀ {α : Type} {p : Prog α} {target : Option LogicalMessageId} {w : ResponseWorld}
      {post : Except Error α → ResponseWorld → Prop},
      Program.Always (responseEffect true chain) (fun _ _ => Tracked target) p w post →
      Program.Always (responseEffect true chain) (fun _ _ => Following) p w post :=
    fun h => h.weaken fun _ _ _ h => ⟨_, h⟩
  have failed : ∀ (e : Error) (w : ResponseWorld), Tracked none w →
      Program.OkOr (Tracked none) (fun _ => Following) (.error e : Except Error Unit) w :=
    fun e w h => ⟨none, h⟩
  have read : ∀ {β : Type} {access : StoreOp β}, access.moves = none → access.records = none →
      access.commits = none → Program.Uses (CommitsOnly none) (store access) :=
    fun hmoves hrecords hcommits =>
      Program.uses_perform.2 (commitsOnly_access hmoves hrecords hcommits)
  unfold sendResponse
  refine (along (always_uncommitting (read rfl rfl rfl) h)).bind (fun chainRef w h => ?_) failed
  split
  next originalCell kind hcell hkind =>
    have hfound : CommitsOnly none (Option (Nat × Message))
        (.store (.getMessageByLogicalId kind.original)) := commitsOnly_access rfl rfl rfl
    have hnext : ∀ r w', responseEffect true chain _ (.store (.getMessageByLogicalId kind.original))
        w r w' → Tracked none w' :=
      fun r w' heffect => (h.next hfound (fun _ hnone => by cases hnone) heffect).1
    refine Program.Always.step ⟨none, h⟩ (fun e w' heffect => failed e w' (hnext _ _ heffect))
      fun original w' heffect => ?_
    have h := hnext _ _ heffect
    split
    next originalId conversationId direction state body logicalId messageId fits =>
      have hholds : Holds w'.db originalId kind.original := by
        obtain ⟨hanswer, rfl⟩ := heffect
        exact ⟨_, byLogicalId_eq_some.1 (Except.ok.inj hanswer).symm⟩
      have hheld : ∀ {α : Type} (p : Prog α) {w : ResponseWorld}, Holds w.db originalId kind.original →
          Program.Always (responseEffect true chain) Program.Anywhere p w
            fun _ w' => Holds w'.db originalId kind.original :=
        fun p _ hholds => Program.always_invariant (fun _ _ _ _ _ heffect h => Holds.next h heffect) p hholds
      have hrecipient := ((hheld _ hholds).and (along (always_uncommitting
        (recipientOf_uncommitting response.2.conversationId) h))).weaken fun _ _ _ h => h.2
      refine hrecipient.bind ?_ fun e w hw => failed e w hw.2
      rintro recipient w ⟨hholds, h⟩
      cases recipient with
      | none => exact h
      | some recipient =>
        have hpublish : Program.Always (responseEffect true chain) (fun _ _ => Following)
            (publishText deps (responseInput response recipient messageId originalCell kind.status)) w
            fun _ w' => Holds w'.db originalId kind.original ∧
              Tracked (respondedBy (.message response.2.logicalMessageId)) w' :=
          ((hheld _ hholds).and (along (always_publishText h))).weaken fun _ _ _ h => h.2
        refine hpublish.bind ?_ fun e w hw => ⟨_, hw.2⟩
        rintro result w ⟨hholds, h⟩
        obtain ⟨hstatus, hresponds⟩ | ⟨hstatus, hresponds⟩ := respondedBy_receiptKind hkind
        · rw [if_neg (not_not.2 hstatus)]
          have htracked : Tracked (some kind.original) w := hresponds ▸ h
          refine (along (always_finalizeOriginal hholds htracked)).mono fun r w hw => ?_
          cases r with
          | ok _ => exact hw
          | error e => exact ⟨_, hw⟩
        · rw [if_pos hstatus]
          have htracked : Tracked none w := hresponds ▸ h
          exact htracked
    · exact h
  · exact h

/-- A pass of the response sender that is not cut short leaves nothing to follow, when it does not
    fail. -/
theorem always_runResponseSender (h : Tracked none w) :
    Program.Always (responseEffect true chain) (fun _ _ => Following) (runResponseSender deps) w
      (Program.OkOr (Tracked none) fun _ => Following) := by
  have hlist : Program.Uses (CommitsOnly none) (store (.listMessagesByState [.queued])) :=
    Program.uses_perform.2 (commitsOnly_access rfl rfl rfl)
  have hlisted : Program.Always (responseEffect true chain) (fun _ _ => Following)
      (store (.listMessagesByState [.queued])) w fun _ => Tracked none :=
    (always_uncommitting hlist h).weaken fun _ _ _ h => ⟨none, h⟩
  refine hlisted.bind (fun queued w h => ?_) fun e w h => ⟨none, h⟩
  exact Program.Always.forEach (Tracked none) (fun _ => Following)
    (fun response _ w h => always_sendResponse response h) h

end Respond

section Workers

variable {α β : Type} {deps : LoraWorkerDeps} {w w' : ResponseWorld} {chain : List Hash}
  {original : LogicalMessageId} {op : Op β} {answer : Except Error β}

/-- Every commit another worker recorded was of a finalized message, or was missed. -/
def Watched (w : ResponseWorld) : Prop := w.missed = [] → Settled w.db

/-- What a step of another worker does to the wallet. -/
theorem worker_exec (hop : WorkerStep β op) (heffect : responseEffect false chain β op w answer w') :
    w' = w ∨ ∃ access : StoreOp β, WorkerAccess access ∧ answer = (access.exec w.db).1 ∧
      w' = w.exec false access := by
  cases op with
  | store access =>
    obtain ⟨hanswer, rfl⟩ := heffect
    exact .inr ⟨access, hop, hanswer, rfl⟩
  | getTransaction hash => exact .inl heffect.2
  | signTransaction tx => exact .inl heffect.2
  | _ => exact .inl heffect

theorem WorkerAccess.valid {access : StoreOp β} (h : WorkerAccess access) (rowId : Nat)
    (target : MessageState) (hmove : access.moves = some (rowId, target)) : target ≠ .invalid := by
  have hvalid : ∀ state ∈ WORKER_STATES, state ≠ .invalid := by decide
  exact hvalid target (h.moves rowId target hmove)

theorem Finalized.worker (h : Finalized w.db original) (hop : WorkerStep β op)
    (heffect : responseEffect false chain β op w answer w') : Finalized w'.db original := by
  obtain rfl | ⟨access, haccess, -, rfl⟩ := worker_exec hop heffect
  · exact h
  · exact h.exec haccess.valid

theorem missed_worker (h : w.missed ≠ []) (hop : WorkerStep β op)
    (heffect : responseEffect false chain β op w answer w') : w'.missed ≠ [] := by
  obtain rfl | ⟨access, -, -, rfl⟩ := worker_exec hop heffect
  · exact h
  · exact List.append_ne_nil_of_left_ne_nil h _

theorem found_worker (hop : WorkerStep β op)
    (heffect : responseEffect false chain β op w answer w') : w'.found = w.found := by
  obtain rfl | ⟨access, -, -, rfl⟩ := worker_exec hop heffect
  · rfl
  · rfl

/-- Another worker that records the commit of an acknowledgement misses a message that is not
    finalized. -/
theorem missed_of_commits {access : StoreOp β} {txHash : Hash} (hcommits : access.commits = some txHash)
    (hresponds : respondedMessage w.db txHash = some original) (hpending : ¬Finalized w.db original) :
    (w.exec false access).missed ≠ [] := by
  have hnew : newlyCommitted w.db access = some original := by
    rw [newlyCommitted, hcommits, Option.bind_some, hresponds]
    simp [hpending]
  have hmissed : (w.exec false access).missed = w.missed ++ [original] := by
    simp only [ResponseWorld.exec, Bool.false_eq_true, if_false, hnew, Option.toList]
  rw [hmissed]
  simp

theorem Watched.worker (h : Watched w) (hop : WorkerStep β op)
    (heffect : responseEffect false chain β op w answer w') : Watched w' := by
  obtain rfl | ⟨access, haccess, -, rfl⟩ := worker_exec hop heffect
  · exact h
  intro hmissed r hr hstate original hresponds
  have hbefore : w.missed = [] := by
    by_contra hmissed'
    exact List.append_ne_nil_of_left_ne_nil hmissed' _ hmissed
  have hrecords : ∀ tx, access.records = some tx → tx.state ≠ .committed := by
    intro tx htx
    rw [haccess.records tx htx]
    decide
  obtain ⟨r', hr', hcore, hcases⟩ := committed_exec hrecords hr hstate
  have hresponds' : respondedBy r'.2.core.purpose = some original := by
    rw [hcore]
    exact hresponds
  by_contra hdone
  have hpending : ¬Finalized w.db original := fun hfinal => hdone (hfinal.exec haccess.valid)
  obtain hcommitted | hmarked := hcases
  · exact hpending (h hbefore r' hr' hcommitted original hresponds')
  · have hhash : r'.2.core.txHash = r.2.txHash := by
      rw [hcore]
      rfl
    have hnamed : respondedMessage w.db r.2.txHash = some original :=
      (hhash ▸ respondedMessage_of_mem hr').trans hresponds'
    exact missed_of_commits hmarked hnamed hpending hmissed

/-- What a pass of another worker keeps. -/
theorem always_worker {p : Prog α} (huses : Program.Uses WorkerStep p) (hwatched : Watched w) :
    Program.Always (responseEffect false chain) (fun _ _ w' => Watched w' ∧ w'.found = w.found) p w
      fun _ w' => Watched w' ∧ w'.found = w.found := by
  refine huses.always (fun β op w' hop hw => ⟨hw, fun r w'' heffect => ?_⟩) ⟨hwatched, rfl⟩
  exact ⟨hw.1.worker hop heffect, (found_worker hop heffect).trans hw.2⟩

/-- A message that is finalized, or was missed. -/
def Noticed (original : LogicalMessageId) (w : ResponseWorld) : Prop :=
  Finalized w.db original ∨ w.missed ≠ []

theorem always_noticed {p : Prog α} (huses : Program.Uses WorkerStep p) (h : Noticed original w) :
    Program.Always (responseEffect false chain) Program.Anywhere p w fun _ => Noticed original := by
  refine huses.always (fun β op w hop hw => ⟨trivial, fun r w' heffect => ?_⟩) h
  obtain hfinal | hmissed := hw
  · exact .inl (hfinal.worker hop heffect)
  · exact .inr (missed_worker hmissed hop heffect)

end Workers

end cemp.sync
