import CempMobile.Database.Rows
import CempMobile.Sync.Transports

open cemp.core cemp.database cemp.database.MessageRepository cemp.ckb

namespace cemp.sync

/-- What may run after an ingest was cut short: the ingest of the same cell, or the heal. -/
inductive Pass where
  | reingest
  | heal
  deriving DecidableEq, Repr

def Pass.program (config : RateLimiterConfig) (ownProfileId : ProfileId)
    (decrypted : DecryptedEnvelope) (cell : OutPoint) : Pass → Prog Unit
  | .reingest => ingestIncomingCellData config ownProfileId (.ok decrypted) (some cell)
  | .heal => healStrandedIncoming

/-- One pass, complete or cut short, and the database it leaves. -/
structure PassStep where
  pass : Pass
  nowMs : Nat
  posts : Nat → Bool
  completed : Bool
  after : Db

/-- Passes that run one after the other. One that is not completed is cut short where `may`
    allows. -/
def PassRuns (may : ∀ β : Type, Op β → Db → Prop) (program : Pass → Prog Unit) :
    Db → List PassStep → Prop
  | _, [] => True
  | db, step :: steps =>
    (if step.completed then
      ∃ out, Program.Runs (passEffect step.nowMs step.posts) (program step.pass) db out step.after
    else Program.Interrupted (passEffect step.nowMs step.posts) may (program step.pass) db step.after) ∧
    PassRuns may program step.after steps

/-- The rows a heal works on. -/
def strandedRows (db : Db) : List (Nat × Message) :=
  selectByState db [.downloading, .decrypting] 500

/-- Whether a pass gets as far as a message: the message was advanced before, or the ingest is not
    dropped, or the heal lists the row. -/
def Reaches (config : RateLimiterConfig) (incoming : IncomingTextMessage) (db : Db)
    (step : PassStep) : Prop :=
  (∃ row, (exchange db incoming.messageId).1 = some row ∧ row.state ∉ STRANDABLE_INCOMING_STATES) ∨
    match step.pass with
    | .reingest => Admitted config db incoming step.nowMs
    | .heal => ∃ row ∈ strandedRows db, row.2.logicalMessageId = .incoming incoming.messageId

/-- The notifier posts for the message in every pass, and every completed pass gets as far as the
    message. -/
def PassesReach (config : RateLimiterConfig) (incoming : IncomingTextMessage) :
    Db → List PassStep → Prop
  | _, [] => True
  | db, step :: steps =>
    (∀ row, (exchange db incoming.messageId).1 = some row → step.posts row.rowId = true) ∧
      (step.completed = true → Reaches config incoming db step) ∧
      PassesReach config incoming step.after steps

/-- A message that is acknowledged, or can still be: it is to be advanced, and its chain reference
    names the cell. -/
def Recoverable (db : Db) (id : MessageId) (cell : OutPoint) : Prop :=
  Safe db id cell True

/-- A crash outside the window of a message. -/
def OutsideWindow (id : MessageId) : ∀ β : Type, Op β → Db → Prop :=
  fun β op db => ¬AckWindow id β op db

instance (id : MessageId) (β : Type) (op : Op β) (db : Db) : Decidable (OutsideWindow id β op db) :=
  inferInstanceAs (Decidable (¬AckWindow id β op db))

section Heal

variable {id : MessageId} {cell : OutPoint} {db db' : Db} {nowMs : Nat} {posts : Nat → Bool}
  {rows : List (Nat × Message)}

/-- Every row of a list still holds its message. -/
def HoldsAll (db : Db) (rows : List (Nat × Message)) : Prop :=
  ∀ row ∈ rows, Holds db row.1 row.2.logicalMessageId

theorem always_holdsAll {α : Type} (p : Prog α) (h : HoldsAll db rows) :
    Program.Always storeEffect Program.Anywhere p db fun _ db' => HoldsAll db' rows := by
  refine Program.always_invariant ?_ p h
  intro β op db r db' heffect h row hrow
  cases op with
  | store access =>
    have hdb : db' = (access.exec db).2 := congrArg Prod.snd heffect.symm
    rw [hdb]
    exact (h row hrow).exec access
  | _ =>
    obtain rfl : db' = db := heffect
    exact h row hrow

/-- Healing another row leaves a message and the response to it. -/
theorem always_healStrandedMessage_other {row : Nat × Message}
    (hholds : Holds db row.1 row.2.logicalMessageId)
    (hrow : LogicalMessageId.incoming id ≠ row.2.logicalMessageId)
    (hresponse : LogicalMessageId.response (.incoming id) ≠ row.2.logicalMessageId) :
    Program.Always storeEffect (fun _ _ db' => exchange db' id = exchange db id)
      (healStrandedMessage row) db
      (Program.OkOr (fun db' => exchange db' id = exchange db id) fun _ _ => False) := by
  unfold healStrandedMessage
  simp only [Program.bind_eq_bind, Program.pure_eq_ret]
  refine Program.Always.swallow (always_store executes_storeEffect rfl ?_ fun e h => by cases h)
  intro ref _
  refine always_exchange (advanceIncomingToReceived_leaves hholds hrow ?_ rfl)
    (advanceIncomingToReceived_leaves hholds hresponse ?_ rfl)
  · exact fun h => by cases h
  · exact fun h => hrow (LogicalMessageId.response.inj h)

/-- The heal of other rows, one after the other. -/
theorem always_heal_others (hholds : HoldsAll db rows) (others : List (Nat × Message))
    (hsub : ∀ row ∈ others, row ∈ rows)
    (hother : ∀ row ∈ others, LogicalMessageId.incoming id ≠ row.2.logicalMessageId ∧
      LogicalMessageId.response (.incoming id) ≠ row.2.logicalMessageId) :
    Program.Always storeEffect (fun _ _ db' => exchange db' id = exchange db id)
      (Program.forEach healStrandedMessage others) db
      (Program.OkOr (fun db' => exchange db' id = exchange db id ∧ HoldsAll db' rows)
        fun _ _ => False) := by
  induction others generalizing db with
  | nil => exact ⟨rfl, hholds⟩
  | cons row others ih =>
    obtain ⟨hrow, hresponse⟩ := hother row List.mem_cons_self
    have hfirst := (always_healStrandedMessage_other (hholds row (hsub row List.mem_cons_self))
      hrow hresponse).and (always_holdsAll (healStrandedMessage row) hholds)
    refine Program.Always.bind (hfirst.weaken fun _ _ _ h => h.1) ?_ fun _ _ h => h.1
    rintro _ db' ⟨hsame, hholds'⟩
    rw [← hsame]
    exact ih hholds' (fun r hr => hsub r (List.mem_cons_of_mem _ hr))
      fun r hr => hother r (List.mem_cons_of_mem _ hr)

/-- The heal of a message whose chain reference names a cell acknowledges it, if its notification
    is posted. -/
theorem always_heal_own {row : Nat × Message} {ref : Option MessageChainRef}
    (hid : row.2.logicalMessageId = .incoming id)
    (hexchange : exchange db id = (some ⟨row.1, row.2.state, ref⟩, none))
    (hstrandable : row.2.state ∈ STRANDABLE_INCOMING_STATES) (hcell : namedCell ref = some cell)
    (hposts : posts row.1 = true) :
    Program.Always (passEffect nowMs posts)
      (fun β op db' => OutsideWindow id β op db' → Recoverable db' id cell)
      (healStrandedMessage row) db
      (Program.OkOr (fun db' => Acknowledged db' id cell) fun _ _ => False) := by
  have hwritten : Written db id cell := by
    rw [Written, hexchange]
    exact ⟨_, rfl, hcell⟩
  have hrecoverable : Recoverable db id cell :=
    .inr ⟨pending_of_exchange hexchange hstrandable, fun _ => hwritten⟩
  unfold healStrandedMessage
  simp only [Program.bind_eq_bind, Program.pure_eq_ret]
  refine Program.Always.swallow (always_store (executes_passEffect _ _) (fun _ => hrecoverable) ?_
    fun e h => by cases h)
  intro ref' href
  obtain rfl : ref = ref' := by
    obtain ⟨m, -, -, -, h⟩ := standing_eq_some.1 (exchange_eq.1 hexchange).1
    exact h.symm.trans (Except.ok.inj href)
  change Program.Always _ _ (advanceIncomingToReceived row.1 row.2.state
    ⟨row.2.conversationId, row.2.logicalMessageId, namedCell ref⟩) _ _
  rw [hcell, hid]
  refine always_advance _ hexchange hstrandable hcell (fun β op db' h hnot => absurd h hnot)
    (fun β op db' hpending hwritten _ => .inr ⟨hpending, fun _ => hwritten⟩)
    (fun db' _ h => h) fun e db' hfailed _ => ?_
  rw [hposts] at hfailed
  cases hfailed

/-- A stranded row is stored in one of the two states in between. -/
theorem standing_of_stranded {row : Nat × Message} (h : row ∈ strandedRows db) :
    row.2.state ∈ [MessageState.downloading, .decrypting] ∧
      db.standing row.2.logicalMessageId = some ⟨row.1, row.2.state, chainRef? db row.1⟩ := by
  obtain ⟨hget, hstate⟩ := rowAt_of_selectByState h
  exact ⟨hstate, standing_of_get? hget⟩

theorem holdsAll_stranded (db : Db) : HoldsAll db (strandedRows db) := fun row hrow =>
  ⟨row.2, (rowAt_of_selectByState hrow).1, rfl⟩

/-- The response to a recoverable message is not among the stranded rows. -/
theorem Recoverable.response_ne (h : Recoverable db id cell) {row : Nat × Message}
    (hrow : row ∈ strandedRows db) :
    LogicalMessageId.response (.incoming id) ≠ row.2.logicalMessageId := by
  intro hid
  obtain ⟨hstate, hstands⟩ := standing_of_stranded hrow
  rw [← hid] at hstands
  rcases h with ⟨incoming, response, hexchange, -, -, hqueued, -⟩ | ⟨⟨-, hnone⟩, -⟩
  · rw [(exchange_eq.1 hexchange).2] at hstands
    obtain rfl := Option.some.inj hstands
    rw [show row.2.state = .queued from hqueued] at hstate
    revert hstate
    decide
  · have hnone' : db.standing (.response (.incoming id)) = none := hnone
    rw [hnone'] at hstands
    cases hstands

/-- An acknowledged message is not among the stranded rows. -/
theorem Acknowledged.row_ne (h : Acknowledged db id cell) {row : Nat × Message}
    (hrow : row ∈ strandedRows db) : LogicalMessageId.incoming id ≠ row.2.logicalMessageId := by
  intro hid
  obtain ⟨hstate, hstands⟩ := standing_of_stranded hrow
  obtain ⟨incoming, response, hexchange, hreceived, -⟩ := h
  rw [← hid, (exchange_eq.1 hexchange).1] at hstands
  obtain rfl := Option.some.inj hstands
  have hboth : ∀ state ∈ RECEIVED_STATES, state ∉ [MessageState.downloading, .decrypting] := by
    decide
  exact hboth _ hreceived hstate

theorem Recoverable.congr (hsame : exchange db' id = exchange db id) :
    Recoverable db' id cell ↔ Recoverable db id cell := by
  simp only [Recoverable, Safe, Acknowledged, Pending, Written, hsame]

/-- The heal of the stranded messages, with a recoverable one among them. -/
theorem always_heal_listed (hrecoverable : Recoverable db id cell)
    (hposts : ∀ row, (exchange db id).1 = some row → posts row.rowId = true) {row : Nat × Message}
    (hrow : row ∈ strandedRows db) (hid : row.2.logicalMessageId = .incoming id) :
    Program.Always (passEffect nowMs posts)
      (fun β op db' => OutsideWindow id β op db' → Recoverable db' id cell)
      (Program.forEach healStrandedMessage
        ((strandedRows db).filter fun row => row.2.direction == .incoming)) db
      (Program.OkOr (fun db' => Acknowledged db' id cell) fun _ _ => False) := by
  obtain hacknowledged | ⟨hpending, hwritten⟩ := hrecoverable
  · exact absurd hid.symm (hacknowledged.row_ne hrow)
  obtain ⟨hstate, hstands⟩ := standing_of_stranded hrow
  rw [hid] at hstands
  have hexchange : exchange db id = (some ⟨row.1, row.2.state, chainRef? db row.1⟩, none) :=
    Prod.ext hstands hpending.2
  have hstrandable : row.2.state ∈ STRANDABLE_INCOMING_STATES :=
    hpending.1 _ (congrArg Prod.fst hexchange)
  have hcell : namedCell (chainRef? db row.1) = some cell := by
    obtain ⟨stands, hsome, hcell⟩ := hwritten trivial
    rw [hexchange] at hsome
    obtain rfl := Option.some.inj hsome
    exact hcell
  have hlisted : row ∈ (strandedRows db).filter fun row => row.2.direction == .incoming :=
    List.mem_filter.2 ⟨hrow, by simp [incoming_of_strandable hstrandable]⟩
  obtain ⟨front, back, hsplit⟩ := List.append_of_mem hlisted
  have hsorted := (selectByState_sorted db [.downloading, .decrypting] 500).filter
    fun row => row.2.direction == .incoming
  rw [show selectByState db [.downloading, .decrypting] 500 = strandedRows db from rfl, hsplit,
    List.pairwise_append, List.pairwise_cons] at hsorted
  obtain ⟨-, ⟨hback, -⟩, hfront⟩ := hsorted
  have hmem : ∀ other ∈ front ++ row :: back, other ∈ strandedRows db := by
    rw [← hsplit]
    exact fun other h => (List.mem_filter.1 h).1
  have hother : ∀ other ∈ front ++ row :: back, other.1 ≠ row.1 →
      LogicalMessageId.incoming id ≠ other.2.logicalMessageId ∧
        LogicalMessageId.response (.incoming id) ≠ other.2.logicalMessageId := by
    intro other hmem' hne
    refine ⟨fun h => ?_, Recoverable.response_ne (.inr ⟨hpending, hwritten⟩) (hmem other hmem')⟩
    have hstands' := (standing_of_stranded (hmem other hmem')).2
    rw [← h, hstands] at hstands'
    exact hne (congrArg Standing.rowId (Option.some.inj hstands')).symm
  have hsame : ∀ db', exchange db' id = exchange db id → Recoverable db' id cell := by
    intro db' h
    exact (Recoverable.congr h).2 (.inr ⟨hpending, hwritten⟩)
  rw [hsplit, Program.forEach_append, Program.forEach_cons]
  have hfirst := always_heal_others (holdsAll_stranded db) front
    (fun other h => hmem other (List.mem_append_left _ h))
    (fun other h => hother other (List.mem_append_left _ h)
      (Nat.ne_of_lt (hfront other h row List.mem_cons_self)))
  refine Program.Always.bind ((hfirst.narrow passEffect_store).weaken
    fun _ _ db' h _ => hsame db' h) ?_ fun e db' h => h.elim
  rintro _ db' ⟨hdb', hholds⟩
  have hown : Program.Always (passEffect nowMs posts) _ (healStrandedMessage row) db' _ :=
    (always_heal_own hid (hdb'.trans hexchange) hstrandable hcell
      (hposts _ (congrArg Prod.fst hexchange))).and
        ((always_holdsAll (healStrandedMessage row) hholds).narrow passEffect_store)
  refine Program.Always.bind (hown.weaken fun _ _ _ h => h.1) ?_ fun e db'' h => h.1
  rintro _ db'' ⟨hacknowledged, hholds'⟩
  have hlast := always_heal_others hholds' back
    (fun other h => hmem other (List.mem_append_right _ (List.mem_cons_of_mem _ h)))
    (fun other h => hother other (List.mem_append_right _ (List.mem_cons_of_mem _ h))
      (Nat.ne_of_gt (hback other h)))
  refine ((hlast.narrow passEffect_store).weaken fun _ _ _ h _ => ?_).mono fun r db₃ h => ?_
  · exact .inl ((Acknowledged.congr h).2 hacknowledged)
  · cases r with
    | ok _ => exact (Acknowledged.congr h.1).2 hacknowledged
    | error e => exact h

/-- The heal of the stranded messages, with a recoverable one not among them. -/
theorem always_heal_unlisted (hrecoverable : Recoverable db id cell)
    (hlisted : ¬∃ row ∈ strandedRows db, row.2.logicalMessageId = .incoming id) :
    Program.Always storeEffect (fun _ _ db' => exchange db' id = exchange db id)
      (Program.forEach healStrandedMessage
        ((strandedRows db).filter fun row => row.2.direction == .incoming)) db
      fun _ db' => exchange db' id = exchange db id := by
  have hothers := always_heal_others (holdsAll_stranded db)
    ((strandedRows db).filter fun row => row.2.direction == .incoming)
    (fun row hrow => (List.mem_filter.1 hrow).1)
    (fun row hrow => ⟨fun hid => hlisted ⟨row, (List.mem_filter.1 hrow).1, hid.symm⟩,
      hrecoverable.response_ne (List.mem_filter.1 hrow).1⟩)
  refine hothers.mono fun r db' h => ?_
  cases r with
  | ok _ => exact h.1
  | error e => exact h.elim

/-- The heal of all stranded messages. -/
theorem always_healStrandedIncoming (hrecoverable : Recoverable db id cell)
    (hposts : ∀ row, (exchange db id).1 = some row → posts row.rowId = true) :
    Program.Always (passEffect nowMs posts)
      (fun β op db' => OutsideWindow id β op db' → Recoverable db' id cell) healStrandedIncoming db
      fun _ db' => Recoverable db' id cell ∧
        (Acknowledged db id cell ∨
            (∃ row ∈ strandedRows db, row.2.logicalMessageId = .incoming id) →
          Acknowledged db' id cell) := by
  unfold healStrandedIncoming
  rw [Program.bind_eq_bind]
  refine always_store (executes_passEffect _ _) (fun _ => hrecoverable) ?_ fun e h => by cases h
  intro rows hrows
  obtain rfl : strandedRows db = rows := Except.ok.inj hrows
  by_cases hlisted : ∃ row ∈ strandedRows db, row.2.logicalMessageId = .incoming id
  · obtain ⟨row, hrow, hid⟩ := hlisted
    refine (always_heal_listed hrecoverable hposts hrow hid).mono fun r db' h => ?_
    cases r with
    | ok _ => exact ⟨.inl h, fun _ => h⟩
    | error e => exact h.elim
  · refine Program.Always.weaken (((always_heal_unlisted hrecoverable hlisted).narrow
      passEffect_store).mono fun r db' h => ⟨?_, ?_⟩)
      fun _ _ _ h _ => (Recoverable.congr h).2 hrecoverable
    · exact (Recoverable.congr h).2 hrecoverable
    · exact fun hcases => (Acknowledged.congr h).2 (hcases.resolve_right hlisted)

end Heal

section Passes

variable {config : RateLimiterConfig} {ownProfileId : ProfileId} {decrypted : DecryptedEnvelope}
  {incoming : IncomingTextMessage} {cell : OutPoint} {db : Db} {nowMs : Nat} {posts : Nat → Bool}

theorem written_of_recoverable {id : MessageId} (h : Recoverable db id cell) : Written db id cell := by
  obtain ⟨row, response, hexchange, -, hcell, -⟩ | ⟨-, hwritten⟩ := h
  · rw [Written, hexchange]
    exact ⟨row, rfl, hcell⟩
  · exact hwritten trivial

/-- Ingesting the cell of a recoverable message again. -/
theorem always_reingest (hcontent : isPureAcknowledgement incoming = false)
    (hrecoverable : Recoverable db incoming.messageId cell)
    (hposts : ∀ row, (exchange db incoming.messageId).1 = some row → posts row.rowId = true) :
    Program.Always (passEffect nowMs posts)
      (fun β op db' => OutsideWindow incoming.messageId β op db' →
        Recoverable db' incoming.messageId cell)
      (ingestMessage config incoming (some cell)) db fun _ db' =>
        Recoverable db' incoming.messageId cell ∧
          (Acknowledged db incoming.messageId cell ∨ Admitted config db incoming nowMs →
            Acknowledged db' incoming.messageId cell) := by
  have hwritten := written_of_recoverable hrecoverable
  obtain hacknowledged | ⟨hpending, -⟩ := hrecoverable
  · have hadvanced : Indifferent db incoming.messageId incoming := by
      obtain ⟨row, response, hexchange, hreceived, -⟩ := hacknowledged
      exact .inr (.inr ⟨row, by rw [hexchange], not_strandable_of_received hreceived⟩)
    refine ((always_ingest_indifferent hacknowledged.quiet hadvanced).weaken fun _ _ _ h _ => ?_).mono
      fun _ db' h => ?_
    · exact .inl ((Acknowledged.congr h).2 hacknowledged)
    · have hsame := (Acknowledged.congr h).2 hacknowledged
      exact ⟨.inl hsame, fun _ => hsame⟩
  · refine ((always_ingest_pending rfl hcontent hpending).weaken fun _ _ db' h hout => ?_).mono
      fun _ db' h => ?_
    · exact (h hout).imp id fun h => ⟨h.1, fun _ => h.2 hwritten⟩
    · obtain ⟨hdropped, hsame⟩ | ⟨-, rowId, hrow, ⟨-, h⟩ | ⟨hfailed, -⟩⟩ := h
      · exact ⟨(Recoverable.congr hsame).2 (.inr ⟨hpending, fun _ => hwritten⟩), fun hcases =>
          (Acknowledged.congr hsame).2 (hcases.resolve_right hdropped)⟩
      · exact ⟨.inl h, fun _ => h⟩
      · obtain ⟨row, hsome, -⟩ := hwritten
        rw [← hrow row hsome, hposts row hsome] at hfailed
        cases hfailed

/-- One pass over a recoverable message leaves it recoverable, wherever it is cut short outside the
    window. A pass that is completed and gets as far as the message acknowledges it. -/
theorem always_pass (config : RateLimiterConfig)
    (hopens : processIncomingText (.ok decrypted) ownProfileId = .ok incoming)
    (hcontent : isPureAcknowledgement incoming = false)
    (hrecoverable : Recoverable db incoming.messageId cell) {step : PassStep}
    (hposts : ∀ row, (exchange db incoming.messageId).1 = some row → step.posts row.rowId = true) :
    Program.Always (passEffect step.nowMs step.posts)
      (fun β op db' => OutsideWindow incoming.messageId β op db' →
        Recoverable db' incoming.messageId cell)
      (step.pass.program config ownProfileId decrypted cell) db fun _ db' =>
        Recoverable db' incoming.messageId cell ∧
          (Reaches config incoming db step → Acknowledged db' incoming.messageId cell) := by
  have hadvanced : (∃ row, (exchange db incoming.messageId).1 = some row ∧
      row.state ∉ STRANDABLE_INCOMING_STATES) → Acknowledged db incoming.messageId cell := by
    rintro ⟨row, hrow, hpast⟩
    obtain h | ⟨hpending, -⟩ := hrecoverable
    · exact h
    · exact absurd (hpending.1 row hrow) hpast
  unfold Reaches
  cases step.pass with
  | reingest =>
    rw [Pass.program, ingestIncomingCellData, hopens]
    refine (always_reingest hcontent hrecoverable hposts).mono fun _ db' h => ?_
    exact ⟨h.1, fun hreaches => h.2 (hreaches.imp_left hadvanced)⟩
  | heal =>
    refine (always_healStrandedIncoming hrecoverable hposts).mono fun _ db' h => ?_
    exact ⟨h.1, fun hreaches => h.2 (hreaches.imp_left hadvanced)⟩

/-- A run of passes over a recoverable message. -/
theorem Recoverable.passRuns {steps : List PassStep}
    (hopens : processIncomingText (.ok decrypted) ownProfileId = .ok incoming)
    (hcontent : isPureAcknowledgement incoming = false)
    (hrecoverable : Recoverable db incoming.messageId cell)
    (hruns : PassRuns (OutsideWindow incoming.messageId)
      (Pass.program config ownProfileId decrypted cell) db steps)
    (hreach : PassesReach config incoming db steps) :
    ∀ step ∈ steps, Recoverable step.after incoming.messageId cell ∧
      (step.completed = true → Acknowledged step.after incoming.messageId cell) := by
  induction steps generalizing db with
  | nil => exact fun step h => absurd h List.not_mem_nil
  | cons step steps ih =>
    obtain ⟨hstep, hrest⟩ := hruns
    obtain ⟨hposts, hreaches, hreachRest⟩ := hreach
    have hpass := always_pass config hopens hcontent hrecoverable hposts
    have hafter : Recoverable step.after incoming.messageId cell ∧
        (step.completed = true → Acknowledged step.after incoming.messageId cell) := by
      split at hstep
      next hcompleted =>
        obtain ⟨out, hrun⟩ := hstep
        have hpost := hpass.runs hrun
        exact ⟨hpost.1, fun _ => hpost.2 (hreaches hcompleted)⟩
      next hcut =>
        exact ⟨hpass.interrupted (fun β op db' hmay h => h hmay) hstep, fun h => absurd h hcut⟩
    exact List.forall_mem_cons.2 ⟨hafter, ih hafter.1 hrest hreachRest⟩

/-- After a crash outside the window of the acknowledgement, and any passes that are cut short
    outside it too, every completed pass that gets as far as the message leaves it acknowledged. -/
theorem recovery_acknowledged {started : Db} {steps : List PassStep}
    (hopens : processIncomingText (.ok decrypted) ownProfileId = .ok incoming)
    (hcontent : isPureAcknowledgement incoming = false)
    (hnew : exchange db incoming.messageId = (none, none))
    (hcrash : Program.Interrupted (passEffect nowMs posts)
      (fun β op db' => Written db' incoming.messageId cell ∧
        OutsideWindow incoming.messageId β op db')
      (ingestIncomingCellData config ownProfileId (.ok decrypted) (some cell)) db started)
    (hruns : PassRuns (OutsideWindow incoming.messageId)
      (Pass.program config ownProfileId decrypted cell) started steps)
    (hreach : PassesReach config incoming started steps) :
    ∀ step ∈ steps, step.completed = true → Acknowledged step.after incoming.messageId cell := by
  have hpending : Pending db incoming.messageId := by
    rw [Pending, hnew]
    exact ⟨fun row h => (by cases h), rfl⟩
  rw [ingestIncomingCellData, hopens] at hcrash
  have hstarted : Recoverable started incoming.messageId cell := by
    have hknown : ∀ (β : Type) (op : Op β) (db' : Db), (Written db' incoming.messageId cell ∧
        OutsideWindow incoming.messageId β op db') → (¬AckWindow incoming.messageId β op db' →
          Safe db' incoming.messageId cell (Written db incoming.messageId cell)) →
        Recoverable db' incoming.messageId cell := by
      rintro β op db' ⟨hwritten, hout⟩ h
      exact (h hout).imp id fun h => ⟨h.1, fun _ => hwritten⟩
    exact (always_ingest_pending rfl hcontent hpending).interrupted hknown hcrash
  exact fun step hstep => (hstarted.passRuns hopens hcontent hruns hreach step hstep).2

end Passes

/-- The ingest of a text from its cell, cut short after some operations. -/
def sampleIngest : Prog Unit :=
  Pass.program DEFAULT_RATE_LIMITS (sampleProfile 3) fromAlice.decrypted ⟨5, 0⟩ .reingest

def crashedAfter (n : Nat) : Db := Program.runFor (clockedHandler 0) n sampleIngest Db.empty

/-- A completed pass over a database. -/
def completedPass (pass : Pass) (db : Db) : PassStep where
  pass := pass
  nowMs := 0
  posts := fun _ => true
  completed := true
  after := (Program.run (clockedHandler 0)
    (pass.program DEFAULT_RATE_LIMITS (sampleProfile 3) fromAlice.decrypted ⟨5, 0⟩) db).2

theorem passRuns_completed (may : ∀ β : Type, Op β → Db → Prop) (pass : Pass) (db : Db) :
    PassRuns may (Pass.program DEFAULT_RATE_LIMITS (sampleProfile 3) fromAlice.decrypted ⟨5, 0⟩) db
      [completedPass pass db] :=
  ⟨⟨_, runs_passEffect_clockedHandler 0 _ db⟩, trivial⟩

/-- A crash between the move to `received` and the notification: neither ingesting the cell again
    nor the heal queues the acknowledgement. -/
theorem crash_in_window_unacknowledged :
    Program.Interrupted (passEffect 0 fun _ => true)
        (fun _ _ db => Written db (sampleMessageId 8) ⟨5, 0⟩) sampleIngest Db.empty (crashedAfter 17) ∧
      ∀ pass, PassRuns Program.Anywhere
          (Pass.program DEFAULT_RATE_LIMITS (sampleProfile 3) fromAlice.decrypted ⟨5, 0⟩)
          (crashedAfter 17) [completedPass pass (crashedAfter 17)] ∧
        ¬Acknowledged (completedPass pass (crashedAfter 17)).after (sampleMessageId 8) ⟨5, 0⟩ := by
  have hcut : Program.CutAfter (clockedHandler 0)
      (fun _ _ db => Written db (sampleMessageId 8) ⟨5, 0⟩) 17 sampleIngest Db.empty := by
    decide +kernel
  refine ⟨hcut.interrupted (passEffect_clockedHandler 0), fun pass => ?_⟩
  refine ⟨passRuns_completed _ pass _, ?_⟩
  rintro ⟨row, response, hexchange, -⟩
  have hnone : (exchange (completedPass pass (crashedAfter 17)).after (sampleMessageId 8)).2 = none := by
    cases pass <;> decide +kernel
  rw [hexchange] at hnone
  cases hnone

/-- A crash before the move to `received`: the heal acknowledges the text. -/
theorem crash_before_window_acknowledged :
    Acknowledged (completedPass .heal (crashedAfter 15)).after (sampleMessageId 8) ⟨5, 0⟩ := by
  have hcut : Program.CutAfter (clockedHandler 0)
      (fun β op db' => Written db' (sampleMessageId 8) ⟨5, 0⟩ ∧
        OutsideWindow (sampleMessageId 8) β op db') 15 sampleIngest Db.empty := by
    decide +kernel
  have hcrash := hcut.interrupted (passEffect_clockedHandler 0)
  have hlisted : ∃ row ∈ strandedRows (crashedAfter 15),
      row.2.logicalMessageId = .incoming (sampleMessageId 8) := by
    decide +kernel
  exact recovery_acknowledged fromAlice.opens rfl rfl hcrash (passRuns_completed _ .heal _)
    ⟨fun _ _ => rfl, fun _ => .inr hlisted, trivial⟩ _ List.mem_cons_self rfl

end cemp.sync
