import CempMobile.Ckb.ReclaimBatch

open cemp.core cemp.database cemp.database.MessageRepository

namespace cemp.ckb

/-- A step that moves no row and makes no record submitted. -/
def PlainStep : (β : Type) → Op β → Prop
  | _, .store access => access.moves = none ∧ access.inserts = none ∧ access.records = none ∧
    access.marks ≠ some .submitted ∧ access.refers = none
  | _, _ => True

theorem plain_store {β : Type} {access : StoreOp β} (hmoves : access.moves = none)
    (hinserts : access.inserts = none) (hrecords : access.records = none)
    (hmarks : access.marks ≠ some .submitted) (hrefers : access.refers = none) :
    Program.Uses PlainStep (store access) :=
  Program.uses_perform.2 ⟨hmoves, hinserts, hrecords, hmarks, hrefers⟩

/-- Within a pass, and further than a world it went through. -/
def Since (w₀ w₁ w : ReclaimWorld) : Prop := Within w₀ w ∧ Grows w₁ w

/-- The same before the pass journals its batch. -/
def CollectedSince (w₀ w₁ w : ReclaimWorld) : Prop := Collected w₀ w ∧ Grows w₁ w

section Steps

variable {α : Type} {w₀ w₁ w : ReclaimWorld} {txHash : Hash} {timeoutMs : Option Nat}
  {known : ReclaimWorld → Prop}

theorem Since.steady (w₀ w₁ : ReclaimWorld) : Steady (Since w₀ w₁) := fun w w' hdb hgrows h =>
  ⟨Within.steady w₀ w w' hdb hgrows h.1, h.2.trans hgrows⟩

theorem CollectedSince.steady (w₀ w₁ : ReclaimWorld) : Steady (CollectedSince w₀ w₁) :=
  fun w w' hdb hgrows h => ⟨Collected.steady w₀ w w' hdb hgrows h.1, h.2.trans hgrows⟩

/-- Plain steps move nothing. -/
theorem Since.plain {p : Prog α} (huses : Program.Uses PlainStep p) (h : Since w₀ w₁ w) :
    Program.Always reclaimEffect (fun _ _ => Since w₀ w₁) p w fun _ => Since w₀ w₁ := by
  refine huses.always (fun β op w hop hw => ⟨hw, fun answer w' heffect => ?_⟩) h
  by_cases haccess : IsAccess β op
  · cases op with
    | store access =>
      obtain ⟨hmoves, hinserts, hrecords, hmarks, hrefers⟩ := hop
      obtain ⟨-, rfl⟩ := heffect
      exact ⟨hw.1.exec hmoves hinserts hrecords hmarks hrefers, hw.2.trans (grows_exec hrefers w)⟩
    | _ => exact haccess.elim
  · obtain ⟨-, rfl⟩ := reclaimEffect_call haccess heffect
    exact (Since.steady w₀ w₁).observe hw op answer

/-- A move that the pass may make. -/
theorem Since.move {rowId : Nat} {target : MessageState} (h : Since w₀ w₁ w)
    (hhandled : Handled w₀ w rowId)
    (hspent : target = .reclaimed →
      ∃ cell, lifecycleChainRef w.db rowId = some cell ∧ Spent w rowId cell) :
    Program.Always reclaimEffect (fun _ _ => Since w₀ w₁) (store (.transitionMessage rowId target)) w
      fun _ => Since w₀ w₁ :=
  always_reclaim_last h ⟨h.1.move hhandled hspent, h.2.trans (grows_exec rfl w)⟩

theorem okOr_of_always {p : Prog α}
    (h : Program.Always reclaimEffect (fun _ _ => known) p w fun _ => known) :
    Program.Always reclaimEffect (fun _ _ => known) p w (Program.OkOr known fun _ => known) := by
  refine h.mono fun r w' h => ?_
  cases r <;> exact h

/-- The wait for a commit returns when the node reports it. -/
theorem always_pollForCommit (hsteady : Steady known) (timeoutMs sleeps : Nat) (hw : known w) :
    Program.Always reclaimEffect (fun _ _ => known) (pollForCommit txHash timeoutMs sleeps) w
      (Program.OkOr (fun w' => known w' ∧ txHash ∈ w'.committed) fun _ => known) := by
  induction sleeps generalizing w with
  | zero =>
    unfold pollForCommit
    rw [Program.bind_eq_bind]
    refine always_reclaim_call (fun h => h) hw (fun status _ => ?_) fun e => hsteady.observe hw _ _
    have hknown := hsteady.observe hw (.getTransaction txHash) (.ok status)
    cases status with
    | committed => exact ⟨hknown, List.mem_cons_self⟩
    | _ => exact hknown
  | succ sleeps ih =>
    unfold pollForCommit
    rw [Program.bind_eq_bind]
    refine always_reclaim_call (fun h => h) hw (fun status _ => ?_) fun e => hsteady.observe hw _ _
    have hknown := hsteady.observe hw (.getTransaction txHash) (.ok status)
    have hagain : Program.Always reclaimEffect (fun _ _ => known)
        ((call .deadlinePassed).bind fun late =>
          if late then throw (timedOut timeoutMs status) else pollForCommit txHash timeoutMs sleeps)
        (w.observe (.getTransaction txHash) (.ok status))
        (Program.OkOr (fun w' => known w' ∧ txHash ∈ w'.committed) fun _ => known) := by
      refine always_reclaim_call (fun h => h) hknown (fun late _ => ?_)
        fun e => hsteady.observe hknown _ _
      cases late with
      | true => exact hsteady.observe hknown _ _
      | false => exact ih (hsteady.observe hknown _ _)
    cases status with
    | committed => exact ⟨hknown, List.mem_cons_self⟩
    | rejected reason => exact hknown
    | _ => exact hagain

theorem always_wait (hsteady : Steady known) (timeoutMs : Option Nat) (hw : known w) :
    Program.Always reclaimEffect (fun _ _ => known) (waitForTransactionCommit txHash timeoutMs) w
      (Program.OkOr (fun w' => known w' ∧ txHash ∈ w'.committed) fun _ => known) :=
  always_pollForCommit hsteady _ _ hw

/-- Resuming a journaled broadcast returns when the node reports the commit. -/
theorem always_resumeJournaledBroadcast (hsteady : Steady known) {record : JournaledTx}
    (timeoutMs : Option Nat) (hw : known w) :
    Program.Always reclaimEffect (fun _ _ => known) (resumeJournaledBroadcast record timeoutMs) w
      (Program.OkOr (fun w' => known w' ∧ record.txHash ∈ w'.committed) fun _ => known) := by
  have hwait : ∀ (w : ReclaimWorld) (outcome : ResumeBroadcastOutcome), known w →
      Program.Always reclaimEffect (fun _ _ => known)
        ((waitForTransactionCommit record.txHash timeoutMs).bind fun _ => Program.ret outcome) w
        (Program.OkOr (fun w' => known w' ∧ record.txHash ∈ w'.committed) fun _ => known) :=
    fun w outcome hw => (always_wait hsteady timeoutMs hw).bind (fun _ _ h => h) fun _ _ h => h
  unfold resumeJournaledBroadcast
  rw [Program.bind_eq_bind]
  refine always_reclaim_call (fun h => h) hw (fun status _ => ?_) fun e => hsteady.observe hw _ _
  have hknown := hsteady.observe hw (.getTransaction record.txHash) (.ok status)
  have hagain : Program.Always reclaimEffect (fun _ _ => known)
      (resubmit record timeoutMs) (w.observe (.getTransaction record.txHash) (.ok status))
      (Program.OkOr (fun w' => known w' ∧ record.txHash ∈ w'.committed) fun _ => known) := by
    unfold resubmit
    cases record.txHex with
    | none => exact hknown
    | some wire =>
      unfold rebroadcast
      have huses : Program.Uses (fun β op => ¬IsAccess β op)
          (Program.attempt (call (.sendTransaction wire))) :=
        Program.Uses.catchError ((Program.uses_perform.2 fun h => h).bind fun _ => trivial)
          fun _ => trivial
      refine (hsteady.always huses hknown).bind (fun answer w' h => ?_) fun _ _ h => h
      cases answer with
      | error e =>
        simp only
        split <;> exact h
      | ok hash =>
        simp only
        split
        · exact h
        · exact hwait w' .rebroadcast h
  cases status with
  | committed => exact ⟨hknown, List.mem_cons_self⟩
  | rejected reason => exact hknown
  | pending => exact hwait _ _ hknown
  | proposed => exact hwait _ _ hknown
  | sent => exact hagain
  | unknown => exact hagain

end Steps

section Resume

variable {w₀ w : ReclaimWorld} {journaled : OutgoingTransaction} {timeoutMs : Option Nat}

/-- The resumed batch is a submitted record of the journal. -/
theorem mem_of_resumed (h : resumedBatch w₀.db = some journaled) :
    ∃ r ∈ w₀.db.outgoingTransactions.rows, r.2 = journaled ∧
      ∃ ids, journaled.purpose = .reclaim ids ∧ journaled.state = .submitted := by
  obtain ⟨hlatest, hstate⟩ := Option.filter_eq_some_iff.1 h
  obtain ⟨r, hlast, rfl⟩ := Option.map_eq_some_iff.1 hlatest
  obtain ⟨hmem, hpurpose, -⟩ := Table.last?_eq_some.1 hlast
  refine ⟨r, hmem, rfl, ?_⟩
  cases hreclaim : r.2.purpose with
  | reclaim ids => exact ⟨ids, rfl, by simpa using hstate⟩
  | _ =>
    rw [hreclaim] at hpurpose
    cases hpurpose

/-- Once the resumed batch is reported committed, the rows it names are spent. -/
theorem spent_of_resumed (hjournaled : Journaled w₀) (h : resumedBatch w₀.db = some journaled)
    (hgrows : Grows w₀ w) (hcommitted : journaled.txHash ∈ w.committed) {rowId : Nat}
    (hnamed : rowId ∈ parseReclaimPurpose journaled.purpose) :
    ∃ cell, lifecycleChainRef w.db rowId = some cell ∧ Spent w rowId cell := by
  obtain ⟨r, hmem, rfl, ids, hpurpose, hstate⟩ := mem_of_resumed h
  obtain ⟨tx, htx, hhash, hcells⟩ := hjournaled.spends r hmem ids hpurpose hstate
  rw [hpurpose] at hnamed
  obtain ⟨cell, href, hcell⟩ := hcells rowId hnamed
  refine ⟨cell, (hgrows.chainRef rowId).trans href, .inr ?_⟩
  exact ⟨r.2.core, hgrows.journal (mem_journal.2 ⟨r, hmem, rfl⟩), ids, hpurpose, hnamed, hcommitted,
    tx, hgrows.signed htx, hhash, hcell⟩

theorem always_finishResumedReclaim (hjournaled : Journaled w₀)
    (h : resumedBatch w₀.db = some journaled) (hw : Within w₀ w)
    (hcommitted : journaled.txHash ∈ w.committed) :
    Program.Always reclaimEffect (fun _ _ => Within w₀) (finishResumedReclaim journaled) w
      fun _ => Within w₀ := by
  have hsince : Since w₀ w w := ⟨hw, .refl w⟩
  have hrows : ∀ w', Since w₀ w w' → Program.Always reclaimEffect (fun _ _ => Since w₀ w)
      (Program.forEach (fun rowId => store (.transitionMessage rowId .reclaimed))
        (parseReclaimPurpose journaled.purpose)) w' (Program.OkOr (Since w₀ w) fun _ => Since w₀ w) := by
    intro w' hw'
    refine Program.Always.forEach _ _ (fun rowId hnamed w'' hw'' => okOr_of_always ?_) hw'
    exact hw''.move (.inr ⟨journaled, h, hnamed⟩) fun _ =>
      spent_of_resumed hjournaled h hw''.1.grows (hw''.2.committed hcommitted) hnamed
  have hwhole : Program.Always reclaimEffect (fun _ _ => Since w₀ w)
      (finishResumedReclaim journaled) w fun _ => Since w₀ w := by
    unfold finishResumedReclaim
    simp only [Program.bind_eq_bind, Program.pure_eq_ret]
    refine Program.Always.bind (hsince.plain (plain_store rfl rfl rfl (by simp [StoreOp.marks]) rfl))
      (fun won w' hw' => ?_) fun _ _ h => h
    split
    · exact hw'
    refine (hrows w' hw').bind (fun _ w'' hw'' => hw''.plain ?_) fun _ _ h => h
    have hburn : ∀ (fee : Nat) (result : ReclaimBatchResult),
        Program.Uses PlainStep (if 0 < fee then
          (store (.recordFeeBurn fee)).bind fun _ => Program.ret result else Program.ret result) := by
      intro fee result
      split
      · exact Program.Uses.bind (plain_store rfl rfl rfl (by simp [StoreOp.marks]) rfl) fun _ => trivial
      · trivial
    split
    · exact Program.Uses.bind (plain_store rfl rfl rfl (by simp [StoreOp.marks]) rfl)
        fun _ => hburn _ _
    · exact hburn _ _
  exact (hwhole.weaken fun _ _ _ h => h.1).mono fun _ _ h => h.1

/-- Requeueing the rows of an abandoned batch. -/
theorem always_requeue (h : resumedBatch w₀.db = some journaled) (hw : Within w₀ w) :
    Program.Always reclaimEffect (fun _ _ => Within w₀)
      (Program.forEach (fun rowId => store (.transitionMessage rowId .reclaim_queued))
        (parseReclaimPurpose journaled.purpose)) w (Program.OkOr (Within w₀) fun _ => Within w₀) := by
  refine Program.Always.forEach _ _ (fun rowId hnamed w' hw' => okOr_of_always ?_) hw
  have hsince : Since w₀ w' w' := ⟨hw', .refl w'⟩
  have hne : MessageState.reclaim_queued ≠ .reclaimed := by decide
  have hmoved := hsince.move (.inr ⟨journaled, h, hnamed⟩) fun hreclaimed => absurd hreclaimed hne
  exact (hmoved.weaken fun _ _ _ h => h.1).mono fun _ _ h => h.1

theorem always_resumeReclaim (h : resumedBatch w₀.db = some journaled) (hw : Within w₀ w) :
    Program.Always reclaimEffect (fun _ _ => Within w₀) (resumeReclaim journaled timeoutMs) w
      fun r w' => Within w₀ w' ∧ (r = .ok none → journaled.txHash ∈ w'.committed) := by
  unfold resumeReclaim
  simp only [Program.bind_eq_bind, Program.pure_eq_ret]
  refine Program.Always.catchError (?_ : Program.Always reclaimEffect (fun _ _ => Within w₀) _ w
    fun r w' => Within w₀ w' ∧ (r = .ok none → journaled.txHash ∈ w'.committed)) (fun _ _ h => h) ?_
  · refine (always_resumeJournaledBroadcast (Within.steady w₀) timeoutMs hw).bind ?_
      fun e w' h => ⟨h, fun h => by cases h⟩
    rintro outcome w' ⟨hw', hcommitted⟩
    split
    · refine always_reclaim_call (fun h => h) hw' (fun _ _ => ?_) fun e => ?_
      · exact ⟨(Within.steady w₀).observe hw' _ _,
          fun _ => (grows_observe _ _ w').committed hcommitted⟩
      · exact ⟨(Within.steady w₀).observe hw' _ _, fun h => by cases h⟩
    · exact ⟨hw', fun _ => hcommitted⟩
  rintro e w' ⟨hw', -⟩
  cases e with
  | journaledAbandoned message spent =>
    have hsince : Since w₀ w' w' := ⟨hw', .refl w'⟩
    have hmark : Program.Uses PlainStep (store (.markOutgoingTxState journaled.txHash .abandoned)) :=
      plain_store rfl rfl rfl (by simp [StoreOp.marks]) rfl
    refine ((hsince.plain hmark).weaken fun _ _ _ h => h.1).bind (fun _ w'' hw'' => ?_)
      fun e w'' h => ⟨h.1, fun h => by cases h⟩
    exact (always_requeue h hw''.1).bind (fun _ w'' h => ⟨h, fun h => by cases h⟩)
      fun e w'' h => ⟨h, fun h => by cases h⟩
  | _ => exact ⟨hw', fun h => by cases h⟩

end Resume

section Collect

variable {w₀ w : ReclaimWorld} {deps : PipelineDeps} {timeoutMs : Option Nat}
  {known : ReclaimWorld → Prop}

/-- The candidates are resolved one after the other. Those answered are told live. -/
theorem always_resolveCandidates (candidates : List (Nat × OutPoint)) (told : List OutPoint)
    (hsub : ∀ candidate ∈ candidates, candidate ∈ reclaimCandidates w₀.db) (hw : Collected w₀ w)
    (htold : told ⊆ w.answered) :
    Program.Always reclaimEffect (fun _ _ => Collected w₀) (resolveCandidates candidates) w
      fun r w' => (Collected w₀ w' ∧ told ⊆ w'.answered) ∧ ∀ resolved, r = .ok resolved →
        ∀ row ∈ resolved, row.1 ∈ candidates ∧ row.1.2 ∈ w'.answered := by
  induction candidates generalizing w told with
  | nil =>
    refine ⟨⟨hw, htold⟩, fun resolved h row hrow => ?_⟩
    obtain rfl := Except.ok.inj h
    cases hrow
  | cons candidate candidates ih =>
    have hcandidate := hsub candidate List.mem_cons_self
    have hrest : ∀ c ∈ candidates, c ∈ reclaimCandidates w₀.db :=
      fun c hc => hsub c (List.mem_cons_of_mem _ hc)
    have hskip : ∀ w told, Collected w₀ w → told ⊆ w.answered →
        Program.Always reclaimEffect (fun _ _ => Collected w₀) (resolveCandidates candidates) w
          fun r w' => (Collected w₀ w' ∧ told ⊆ w'.answered) ∧ ∀ resolved, r = .ok resolved →
            ∀ row ∈ resolved, row.1 ∈ candidate :: candidates ∧ row.1.2 ∈ w'.answered := by
      intro w told hw htold
      refine (ih told hrest hw htold).mono fun r w' h => ⟨h.1, fun resolved hok row hrow => ?_⟩
      obtain ⟨hmem, hanswered⟩ := h.2 resolved hok row hrow
      exact ⟨List.mem_cons_of_mem _ hmem, hanswered⟩
    unfold resolveCandidates
    rw [Program.bind_eq_bind]
    refine always_reclaim_call (fun h => h) hw (fun status _ => ?_) fun e => ?_
    · have hw' := (Collected.steady w₀).observe hw (.getLiveCell candidate.2) (.ok status)
      have htold' := List.Subset.trans htold
        (grows_observe (.getLiveCell candidate.2) (.ok status) w).answered
      cases status with
      | live cell =>
        simp only [Program.bind_eq_bind, Program.pure_eq_ret]
        refine (hskip _ (candidate.2 :: told) hw' ?_).bind ?_ ?_
        · exact List.cons_subset_cons _ htold
        · rintro rest w'' ⟨⟨hw'', htold''⟩, hresolved⟩
          refine ⟨⟨hw'', fun o ho => htold'' (List.mem_cons_of_mem _ ho)⟩, ?_⟩
          intro resolved h
          obtain rfl := Except.ok.inj h
          refine List.forall_mem_cons.2 ⟨⟨List.mem_cons_self, htold'' List.mem_cons_self⟩, ?_⟩
          exact hresolved rest rfl
        · rintro e w'' ⟨⟨hw'', htold''⟩, -⟩
          exact ⟨⟨hw'', fun o ho => htold'' (List.mem_cons_of_mem _ ho)⟩, fun resolved h => by cases h⟩
      | dead =>
        simp only [Program.bind_eq_bind]
        have hanswered : candidate.2 ∈ (w.observe (.getLiveCell candidate.2) (.ok .dead)).answered :=
          List.mem_cons_self
        have hdead : candidate.2 ∈ (w.observe (.getLiveCell candidate.2) (.ok .dead)).dead :=
          List.mem_cons_self
        have hpending := hw'.move hcandidate hanswered (.inl rfl)
        have hreclaimed := hpending.move hcandidate hanswered (.inr ⟨rfl, hdead⟩)
        refine always_reclaim_store hw' (fun _ _ => ?_) fun e _ => ⟨⟨hpending, htold'⟩, fun _ h => by cases h⟩
        refine always_reclaim_store hpending (fun _ _ => ?_)
          fun e _ => ⟨⟨hreclaimed, htold'⟩, fun _ h => by cases h⟩
        exact hskip _ told hreclaimed htold'
      | unknown => exact hskip _ told hw' htold'
    · have hw' := (Collected.steady w₀).observe hw (.getLiveCell candidate.2) (.error e)
      exact ⟨⟨hw', htold⟩, fun _ h => by cases h⟩

/-- The transaction that is built spends the given cells. -/
theorem always_buildReclaimTx (hsteady : Steady known) (hw : known w) (outpoints : List OutPoint)
    (cells : List Cell) :
    Program.Always reclaimEffect (fun _ _ => known) (buildReclaimTx deps outpoints cells) w
      fun r w' => known w' ∧ ∀ built, r = .ok built → outpoints ⊆ built.tx.inputs := by
  have hthrow : ∀ e : Error, Program.Always reclaimEffect (fun _ _ => known)
      (Program.throw e : Prog BuiltTransaction) w
      fun r w' => known w' ∧ ∀ built, r = .ok built → outpoints ⊆ built.tx.inputs :=
    fun e => ⟨hw, fun _ h => by cases h⟩
  unfold buildReclaimTx
  split
  · exact hthrow _
  split
  · exact hthrow _
  cases reclaimInputsError deps 0 outpoints cells with
  | some e => exact hthrow e
  | none =>
    simp only [completeAndFinalize, Program.bind_eq_bind, Program.pure_eq_ret]
    refine always_reclaim_call (fun h => h) hw (fun completion _ => ?_)
      fun e => ⟨hsteady.observe hw _ _, fun _ h => by cases h⟩
    have hw' := hsteady.observe hw (.completeTransaction ⟨outpoints, []⟩) (.ok completion)
    split
    · exact ⟨hw', fun _ h => by cases h⟩
    · refine ⟨hw', fun built h => ?_⟩
      obtain rfl := Except.ok.inj h
      exact List.subset_append_left _ _

/-- After the broadcast the batch goes on once the node reports the commit. -/
theorem always_broadcast {α : Type} {post : Except Error α → ReclaimWorld → Prop}
    (hsteady : Steady known) (hw : known w) (signed : Transaction) {rest : Prog α} {e : Error}
    (hrest : ∀ w', known w' → signed.hash ∈ w'.committed →
      Program.Always reclaimEffect (fun _ _ => known) rest w' post)
    (hpost : ∀ e w', known w' → post (.error e) w') :
    Program.Always reclaimEffect (fun _ _ => known)
      ((call (.sendTransaction signed)).bind fun accepted =>
        if accepted ≠ signed.hash then throw e
        else (call (.markTransactions signed)).bind fun _ =>
          (waitForTransactionCommit signed.hash timeoutMs).bind fun _ => rest) w post := by
  refine always_reclaim_call (fun h => h) hw (fun accepted _ => ?_)
    fun e => hpost e _ (hsteady.observe hw _ _)
  have hsent := hsteady.observe hw (.sendTransaction signed) (.ok accepted)
  split
  · exact hpost _ _ hsent
  refine always_reclaim_call (fun h => h) hsent (fun _ _ => ?_)
    fun e => hpost e _ (hsteady.observe hsent _ _)
  have htracked := hsteady.observe hsent (.markTransactions signed) (.ok ())
  exact (always_wait hsteady timeoutMs htracked).bind (fun _ w' h => hrest w' h.1 h.2)
    fun e w' h => hpost e w' h

/-- No batch is submitted where none is resumed. -/
theorem none_submitted (hjournaled : Journaled w₀) (hnone : resumedBatch w₀.db = none) :
    ∀ r ∈ w₀.db.outgoingTransactions.rows, r.2.purpose.startsWith .reclaim = true →
      r.2.state ≠ .submitted := by
  intro r hr hreclaim hstate
  have hlast : w₀.db.outgoingTransactions.last? (fun tx => tx.purpose.startsWith .reclaim) = some r :=
    Table.last?_eq_some.2 ⟨hr, hreclaim, hjournaled.latest r hr hreclaim hstate⟩
  simp [resumedBatch, OutgoingTransactionRepository.latestByPurposePrefix, hlast, hstate] at hnone

/-- Marking is refused where no record matches. -/
theorem markStateIf_none {db : Db} {txHash : Hash} {expected state : TxState}
    (h : ∀ r ∈ db.outgoingTransactions.rows, r.2.txHash = txHash → r.2.state ≠ expected) :
    OutgoingTransactionRepository.markStateIf txHash expected state db = (.ok 0, db) := by
  have hno : ∀ r ∈ db.outgoingTransactions.rows,
      (r.2.txHash == txHash && r.2.state == expected) = false := by
    intro r hr
    by_cases hhash : r.2.txHash = txHash
    · simp [hhash, h r hr hhash]
    · simp [hhash]
  have hselect : (db.outgoingTransactions.select fun tx =>
      tx.txHash == txHash && tx.state == expected) = [] :=
    List.filter_eq_nil_iff.2 fun r hr => by simp [hno r hr]
  have hsame : db.outgoingTransactions.update
      (fun _ tx => tx.txHash == txHash && tx.state == expected)
      (OutgoingTransactionRepository.withTxState state)
      (OutgoingTransactionRepository.key_withTxState state) = db.outgoingTransactions :=
    Table.update_eq_self fun r hr hp => by simp [hno r hr] at hp
  simp only [OutgoingTransactionRepository.markStateIf, OutgoingTransactionRepository.setState,
    hselect, hsame, List.length_nil]

/-- The world after a transaction that is not journaled yet is recorded. -/
def ReclaimWorld.withRecord (w : ReclaimWorld) (tx : OutgoingTransaction)
    (fresh : w.db.outgoingTransactions.Fresh tx) : ReclaimWorld :=
  { w with db :=
    { w.db with outgoingTransactions := w.db.outgoingTransactions.insert tx fresh } }

theorem mem_withRecord {tx : OutgoingTransaction} (fresh : w.db.outgoingTransactions.Fresh tx)
    {r : Nat × OutgoingTransaction} :
    r ∈ (w.withRecord tx fresh).db.outgoingTransactions.rows ↔
      r ∈ w.db.outgoingTransactions.rows ∨ r = (w.db.outgoingTransactions.nextId, tx) := by
  simp only [ReclaimWorld.withRecord, Table.rows_insert, List.mem_append, List.mem_singleton]

theorem grows_withRecord {tx : OutgoingTransaction}
    (fresh : w.db.outgoingTransactions.Fresh tx) : Grows w (w.withRecord tx fresh) := by
  refine { Grows.refl w with journal := ?_, chainRefs := rfl }
  simp only [ReclaimWorld.withRecord, Db.journal, Table.rows_insert, List.map_append]
  exact List.subset_append_left _ _

/-- A batch that is recorded where none is submitted is the latest. -/
theorem Journaled.record {tx : OutgoingTransaction} {ids : List Nat} {signed : Transaction}
    (hw : Journaled w) (hnone : ∀ r ∈ w.db.outgoingTransactions.rows,
      r.2.purpose.startsWith .reclaim = true → r.2.state ≠ .submitted)
    (fresh : w.db.outgoingTransactions.Fresh tx) (hpurpose : tx.purpose = .reclaim ids)
    (hsigned : signed ∈ w.signed) (hhash : signed.hash = tx.txHash)
    (hcells : ∀ rowId ∈ ids, ∃ cell, lifecycleChainRef w.db rowId = some cell ∧
      cell ∈ signed.inputs) :
    Journaled (w.withRecord tx fresh) where
  latest r hr hreclaim hstate r' hr' _ := by
    obtain hold | rfl := (mem_withRecord fresh).1 hr
    · exact absurd hstate (hnone r hold hreclaim)
    · obtain hold' | rfl := (mem_withRecord fresh).1 hr'
      · exact Nat.le_of_lt (Table.lt_nextId hold')
      · exact Nat.le_refl _
  spends r hr ids' hpurpose' hstate := by
    obtain hold | rfl := (mem_withRecord fresh).1 hr
    · exact hw.spends r hold ids' hpurpose' hstate
    · obtain rfl : ids = ids' := TxPurpose.reclaim.inj (hpurpose.symm.trans hpurpose')
      exact ⟨signed, hsigned, hhash, hcells⟩

/-- What holds at the end of a pass. -/
def Passed (w₀ w : ReclaimWorld) : Prop :=
  Within w₀ w ∧ (resumedBatch w₀.db = none → w.db.journal = w₀.db.journal → Collected w₀ w)

theorem Collected.passed (h : Collected w₀ w) : Passed w₀ w := ⟨h.toWithin, fun _ _ => h⟩

/-- The batch of the given rows, from the answers on. -/
theorem always_settle {covered : List (Nat × OutPoint)} {txHash : Hash} {w₁ : ReclaimWorld}
    (hw : Since w₀ w₁ w) (hcovered : ∀ row ∈ covered, lifecycleChainRef w₁.db row.1 = some row.2 ∧
      row.2 ∈ w₁.answered) (hspent : ∀ row ∈ covered, Spent w row.1 row.2) :
    Program.Always reclaimEffect (fun _ _ => Since w₀ w₁)
      (Program.forEach (settleReclaimedRow txHash) covered) w
      (Program.OkOr (Since w₀ w₁) fun _ => Since w₀ w₁) := by
  have hstart : Since w₀ w w := ⟨hw.1, .refl w⟩
  have hloop : Program.Always reclaimEffect (fun _ _ => Since w₀ w)
      (Program.forEach (settleReclaimedRow txHash) covered) w
      (Program.OkOr (Since w₀ w) fun _ => Since w₀ w) := by
    refine Program.Always.forEach _ _ (fun row hrow w' hw' => okOr_of_always ?_) hstart
    obtain ⟨href, hanswered⟩ := hcovered row hrow
    have href' := ((hw.2.trans hw'.2).chainRef row.1).trans href
    unfold settleReclaimedRow
    simp only [Program.bind_eq_bind, Program.pure_eq_ret]
    refine (hw'.move (.inl ⟨_, href', (hw.2.trans hw'.2).answered hanswered⟩) fun _ =>
      ⟨_, href', (hspent row hrow).grows hw'.2⟩).bind (fun _ w'' hw'' => hw''.plain ?_) fun _ _ h => h
    refine Program.Uses.bind (plain_store rfl rfl rfl (by simp [StoreOp.marks]) rfl) fun watches => ?_
    split
    · exact plain_store rfl rfl rfl (by simp [StoreOp.marks]) rfl
    · trivial
  exact (hloop.weaken fun _ _ _ h => ⟨h.1, hw.2.trans h.2⟩).mono fun r w' h => by
    cases r <;> exact ⟨h.1, hw.2.trans h.2⟩

/-- A record of a batch that is not journaled yet. -/
theorem Within.record {tx : OutgoingTransaction} {covered : List (Nat × OutPoint)}
    {signed : Transaction} (hnone : ∀ r ∈ w₀.db.outgoingTransactions.rows,
      r.2.purpose.startsWith .reclaim = true → r.2.state ≠ .submitted)
    (hw : Collected w₀ w) (fresh : w.db.outgoingTransactions.Fresh tx)
    (hpurpose : tx.purpose = .reclaim (covered.map (·.1))) (hsigned : signed ∈ w.signed)
    (hhash : signed.hash = tx.txHash) (hinputs : ∀ row ∈ covered, row.2 ∈ signed.inputs)
    (hrefs : ∀ row ∈ covered, lifecycleChainRef w.db row.1 = some row.2) :
    Within w₀ (w.withRecord tx fresh) := by
  have hnone' : ∀ r ∈ w.db.outgoingTransactions.rows, r.2.purpose.startsWith .reclaim = true →
      r.2.state ≠ .submitted := by
    rw [hw.unchanged]
    exact hnone
  refine hw.toWithin.same (hw.journaled.record hnone' fresh hpurpose hsigned hhash ?_)
    (grows_withRecord fresh) fun _ => rfl
  intro rowId hid
  obtain ⟨row, hrow, rfl⟩ := List.mem_map.1 hid
  exact ⟨row.2, hrefs row hrow, hinputs row hrow⟩

/-- What a settled batch does last moves nothing. -/
theorem uses_settled (released fee : Nat) (result : ReclaimBatchResult) :
    let prune : Prog ReclaimBatchResult :=
      (store .pruneSpentWatches).bind fun _ => Program.ret result
    let burn : Prog ReclaimBatchResult :=
      if 0 < fee then (store (.recordFeeBurn fee)).bind fun _ => prune else prune
    Program.Uses PlainStep
      (if 0 < released then (store (.releaseReclaimedCapacity released)).bind fun _ => burn
      else burn) := by
  intro prune burn
  have hprune : Program.Uses PlainStep prune :=
    Program.Uses.bind (plain_store rfl rfl rfl (by simp [StoreOp.marks]) rfl) fun _ => trivial
  have hburn : Program.Uses PlainStep burn := by
    simp only [burn]
    split
    · exact Program.Uses.bind (plain_store rfl rfl rfl (by simp [StoreOp.marks]) rfl) fun _ => hprune
    · exact hprune
  split
  · exact Program.Uses.bind (plain_store rfl rfl rfl (by simp [StoreOp.marks]) rfl) fun _ => hburn
  · exact hburn

/-- Past its record, a pass has changed the journal. -/
theorem Since.passed {tx : OutgoingTransaction} {w₁ : ReclaimWorld}
    (fresh : w₁.db.outgoingTransactions.Fresh tx) (hjournal : w₁.db.journal = w₀.db.journal)
    (h : Since w₀ (w₁.withRecord tx fresh) w) : Passed w₀ w := by
  refine ⟨h.1, fun _ hsame => ?_⟩
  have hmem : tx.core ∈ w.db.journal :=
    h.2.journal (mem_journal.2 ⟨_, (mem_withRecord fresh).2 (.inr rfl), rfl⟩)
  rw [hsame, ← hjournal] at hmem
  obtain ⟨r, hr, hcore⟩ := mem_journal.1 hmem
  have hhash : r.2.core.txHash = tx.core.txHash := congrArg OutgoingTransaction.txHash hcore
  exact absurd (fresh r hr (congrArg some hhash)) (by simp [OutgoingTransaction.key])

theorem always_broadcastReclaim {covered : List (Nat × OutPoint)} {cells : List Cell}
    (hjournaled : Journaled w₀) (hnone : resumedBatch w₀.db = none) (hw : Collected w₀ w)
    (hcovered : ∀ row ∈ covered, row ∈ reclaimCandidates w₀.db ∧ row.2 ∈ w.answered) :
    Program.Always reclaimEffect (fun _ _ => Passed w₀) (broadcastReclaim deps covered cells timeoutMs)
      w fun _ => Passed w₀ := by
  have hsubmitted := none_submitted hjournaled hnone
  have hstart : CollectedSince w₀ w w := ⟨hw, .refl w⟩
  have hloop : Program.Always reclaimEffect (fun _ _ => CollectedSince w₀ w)
      (Program.forEach (fun row => store (.transitionMessage row.1 .reclaim_pending)) covered) w
      (Program.OkOr (CollectedSince w₀ w) fun _ => CollectedSince w₀ w) := by
    refine Program.Always.forEach _ _ (fun row hrow w' hw' => okOr_of_always ?_) hstart
    obtain ⟨hcandidate, hanswered⟩ := hcovered row hrow
    exact always_reclaim_last hw' ⟨hw'.1.move hcandidate (hw'.2.answered hanswered) (.inl rfl),
      hw'.2.trans (grows_exec rfl w')⟩
  unfold broadcastReclaim
  simp only [Program.bind_eq_bind, Program.pure_eq_ret]
  refine (hloop.weaken fun _ _ _ h => h.1.passed).bind (fun _ w₁ hw₁ => ?_) fun _ _ h => h.1.passed
  refine ((always_buildReclaimTx (CollectedSince.steady w₀ w) hw₁ _ _).weaken
    fun _ _ _ h => h.1.passed).bind (fun built w₂ hw₂ => ?_) fun _ _ h => h.1.1.passed
  obtain ⟨hw₂, hspends⟩ := hw₂
  have hsteady := CollectedSince.steady w₀ w
  refine always_reclaim_call (fun h => h) hw₂.1.passed (fun signed hsigns => ?_)
    fun e => (hsteady.observe hw₂ _ _).1.passed
  obtain ⟨hraw, hunused⟩ := hsigns
  have hw₃ := hsteady.observe hw₂ (.signTransaction built.tx) (.ok signed)
  have hsigned : signed ∈ (w₂.observe (.signTransaction built.tx) (.ok signed)).signed :=
    List.mem_cons_self
  have hdb := db_observe (.signTransaction built.tx) (.ok signed) w₂
  generalize w₂.observe (.signTransaction built.tx) (.ok signed) = w₃ at hw₃ hsigned hdb
  have hrefs : ∀ row ∈ covered, lifecycleChainRef w₃.db row.1 = some row.2 ∧ row.2 ∈ w₃.answered := by
    intro row hrow
    obtain ⟨hcandidate, hanswered⟩ := hcovered row hrow
    exact ⟨(hw₃.1.grows.chainRef row.1).trans (chainRef_of_candidate hcandidate),
      hw₃.2.answered hanswered⟩
  have hinputs : ∀ row ∈ covered, row.2 ∈ signed.inputs := by
    intro row hrow
    rw [show signed.inputs = built.tx.inputs from congrArg RawTransaction.inputs hraw]
    exact hspends built rfl (List.mem_map_of_mem hrow)
  have hjournal : w₃.db.journal = w₀.db.journal := by
    rw [Db.journal, Db.journal, hw₃.1.unchanged]
  generalize htx : ({
    txHash := signed.hash
    purpose := .reclaim (covered.map (·.1))
    state := .submitted
    feeShannon := some built.estimatedFee
    capacityShannon := some (cells.map (·.output.capacity)).sum
    txHex := some signed } : OutgoingTransaction) = tx
  by_cases fresh : w₃.db.outgoingTransactions.Fresh tx
  · have hrecord : (StoreOp.recordOutgoingTx tx).exec w₃.db =
        (.ok (), (w₃.withRecord tx fresh).db) := dif_pos fresh
    have hstart₄ : Since w₀ (w₃.withRecord tx fresh) (w₃.withRecord tx fresh) := by
      refine ⟨Within.record hsubmitted hw₃.1 fresh (htx ▸ rfl) hsigned (htx ▸ rfl) hinputs
        fun row hrow => (hrefs row hrow).1, .refl _⟩
    refine always_reclaim_store hw₃.1.passed (fun _ _ => ?_) fun e he => ?_
    · rw [hrecord]
      refine (always_broadcast (Since.steady w₀ _) hstart₄ signed (fun w' hw' hcommitted => ?_)
        fun e w' hw' => hw'.passed fresh hjournal).weaken fun _ _ _ h => h.passed fresh hjournal
      have hmarked : Since w₀ (w₃.withRecord tx fresh) { w' with
          db := ((StoreOp.markOutgoingTxStateIf signed.hash .submitted .committed).exec w'.db).2 } :=
        ⟨hw'.1.exec rfl rfl rfl (by simp [StoreOp.marks]) rfl, hw'.2.trans (grows_exec rfl w')⟩
      refine always_reclaim_store hw' (fun won _ => ?_) fun e _ => hmarked.passed fresh hjournal
      split
      · exact hmarked.passed fresh hjournal
      have hmem : tx.core ∈ (w₃.withRecord tx fresh).db.journal :=
        mem_journal.2 ⟨_, (mem_withRecord fresh).2 (.inr rfl), rfl⟩
      refine Program.Always.bind (always_settle hmarked hrefs fun row hrow => .inr ?_)
        (fun _ w'' hw'' => ?_) fun e w'' hw'' => hw''.passed fresh hjournal
      · subst htx
        exact ⟨_, hmarked.2.journal hmem, _, rfl, List.mem_map_of_mem hrow, hcommitted, signed,
          hmarked.2.signed hsigned, rfl, hinputs row hrow⟩
      · refine (hw''.plain ?_).mono fun _ _ h => h.passed fresh hjournal
        exact uses_settled _ _ _
    · rw [hrecord] at he
      cases he
  · have hrecord : (StoreOp.recordOutgoingTx tx).exec w₃.db = (.ok (), w₃.db) := dif_neg fresh
    refine always_reclaim_store hw₃.1.passed (fun _ _ => ?_) fun e he => ?_
    · rw [hrecord]
      have hsteady₃ := CollectedSince.steady w₀ w₃
      refine (always_broadcast hsteady₃ ⟨hw₃.1, .refl w₃⟩ signed (fun w' hw' _ => ?_)
        fun e w' hw' => hw'.1.passed).weaken fun _ _ _ h => h.1.passed
      have hrefused : (StoreOp.markOutgoingTxStateIf signed.hash .submitted .committed).exec w'.db =
          (.ok 0, w'.db) := by
        refine markStateIf_none fun r hr hhash => ?_
        rw [hw'.1.unchanged] at hr
        refine hsubmitted r hr (hunused r.2.core ?_ hhash)
        rw [Db.journal, hw₂.1.unchanged]
        exact List.mem_map_of_mem hr
      refine always_reclaim_store hw' (fun won hwon => ?_) fun e he => ?_
      · rw [hrefused] at hwon ⊢
        obtain rfl := Except.ok.inj hwon
        exact hw'.1.passed
      · rw [hrefused] at he
        cases he
    · rw [hrecord] at he
      cases he

/-- A pass, wherever it is. -/
theorem always_executeReclaimBatch (hjournaled : Journaled w₀) :
    Program.Always reclaimEffect (fun _ _ => Passed w₀) (executeReclaimBatch deps timeoutMs) w₀
      fun _ => Passed w₀ := by
  have hstart : Collected w₀ w₀ := .start hjournaled
  unfold executeReclaimBatch
  simp only [Program.bind_eq_bind, Program.pure_eq_ret]
  refine always_reclaim_store hstart.passed (fun journaled hlatest => ?_) fun e he => by cases he
  obtain rfl := Except.ok.inj hlatest
  split
  next tx hresumed =>
    have hresumed : resumedBatch w₀.db = some tx := hresumed
    have hpassed : ∀ w, Within w₀ w → Passed w₀ w := fun w hw => ⟨hw, fun hnone => by
      rw [hresumed] at hnone
      cases hnone⟩
    refine ((always_resumeReclaim hresumed (.start hjournaled)).weaken fun _ _ w hw => hpassed w hw).bind
      (fun abandoned w hw => ?_) fun e w hw => hpassed w hw.1
    cases abandoned with
    | some result => exact hpassed w hw.1
    | none =>
      exact ((always_finishResumedReclaim hjournaled hresumed hw.1 (hw.2 rfl)).weaken
        fun _ _ w hw => hpassed w hw).bind (fun _ w hw => hpassed w hw) fun _ w hw => hpassed w hw
  next hresumed =>
    refine always_reclaim_store hstart.passed (fun queued hqueued => ?_) fun e he => by cases he
    refine always_reclaim_store hstart.passed (fun waiting hwaiting => ?_) fun e he => by cases he
    obtain rfl : listedAt w₀.db .reclaim_queued = queued := Except.ok.inj hqueued
    obtain rfl : listedAt w₀.db .reclaim_pending = waiting := Except.ok.inj hwaiting
    refine ((always_resolveCandidates (reclaimCandidates w₀.db) [] (fun _ h => h) hstart
      (List.nil_subset _)).weaken fun _ _ w hw => hw.passed).bind (fun resolved w hw => ?_)
      fun e w hw => hw.1.1.passed
    obtain ⟨⟨hw, -⟩, hresolved⟩ := hw
    split
    · exact hw.passed
    refine (always_broadcastReclaim hjournaled hresumed hw fun row hrow => ?_).bind
      (fun _ _ h => h) fun _ _ h => h
    obtain ⟨r, hr, rfl⟩ := List.mem_map.1 hrow
    exact hresolved resolved rfl r hr

end Collect

end cemp.ckb
