import CempMobile.Sync.Settlement

open cemp.core cemp.database cemp.database.MessageRepository cemp.ckb

namespace cemp.sync

/-- An envelope handed to the ingest, from a cell or from a chain-less source, while the notifier
    works or does not. -/
structure Arrival (ownProfileId : ProfileId) extends Delivery ownProfileId where
  notifies : Bool

/-- Envelopes ingested one after the other. The copies of one message are not dropped by the block
    check or the rate limit; what becomes of the other envelopes does not matter. -/
def ArrivalRuns (config : RateLimiterConfig) {ownProfileId : ProfileId} (id : MessageId) :
    Db → List (Arrival ownProfileId) → Db → Prop
  | db, [], db' => db' = db
  | db, a :: as, db' =>
    (a.incoming.messageId = id → isPureAcknowledgement a.incoming = false →
      Admitted config db a.incoming a.nowMs) ∧
      ∃ out mid,
        Program.Runs (passEffect a.nowMs fun _ => a.notifies)
          (ingestIncomingCellData config ownProfileId (.ok a.decrypted) a.source) db out mid ∧
        ArrivalRuns config id mid as db'

/-- The source of a copy of a message, and whether its notification can be posted. -/
def copyOf {ownProfileId : ProfileId} (id : MessageId) (a : Arrival ownProfileId) :
    Option (Option OutPoint × Bool) :=
  if a.incoming.messageId = id ∧ isPureAcknowledgement a.incoming = false then
    some (a.source, a.notifies)
  else none

section Arrivals

variable {config : RateLimiterConfig} {ownProfileId : ProfileId} {id : MessageId}
  {cell : OutPoint} {db mid db' : Db} {a : Arrival ownProfileId} {as : List (Arrival ownProfileId)}
  {out : Except Error Unit}

theorem Acknowledged.congr (hsame : exchange db' id = exchange db id) :
    Acknowledged db' id cell ↔ Acknowledged db id cell := by
  rw [Acknowledged, Acknowledged, hsame]

theorem Unacknowledged.congr (hsame : exchange db' id = exchange db id) :
    Unacknowledged db' id ↔ Unacknowledged db id := by
  rw [Unacknowledged, Unacknowledged, hsame]

/-- A received message can no longer be advanced. -/
theorem not_strandable_of_received {state : MessageState} (h : state ∈ RECEIVED_STATES) :
    state ∉ STRANDABLE_INCOMING_STATES := by
  revert state
  decide

/-- Every ingest leaves a received message and the response to it. -/
theorem exchange_of_received
    (hrun : Program.Runs (passEffect a.nowMs fun _ => a.notifies)
      (ingestIncomingCellData config ownProfileId (.ok a.decrypted) a.source) db out mid)
    (hquiet : Quiet db id)
    (hreceived : ∃ row, (exchange db id).1 = some row ∧ row.state ∈ RECEIVED_STATES) :
    exchange mid id = exchange db id := by
  obtain ⟨row, hrow, hstate⟩ := hreceived
  rw [ingestIncomingCellData, a.opens] at hrun
  exact (always_ingest_indifferent hquiet
    (.inr (.inr ⟨row, hrow, not_strandable_of_received hstate⟩))).runs hrun

/-- An acknowledged message stays so, whatever arrives. -/
theorem Acknowledged.arrivals (h : Acknowledged db id cell) (hruns : ArrivalRuns config id db as db') :
    Acknowledged db' id cell := by
  induction as generalizing db with
  | nil =>
    obtain rfl := hruns
    exact h
  | cons a as ih =>
    obtain ⟨-, out, mid, hrun, hrest⟩ := hruns
    have hreceived : ∃ row, (exchange db id).1 = some row ∧ row.state ∈ RECEIVED_STATES := by
      obtain ⟨row, response, hexchange, hstate, -⟩ := h
      exact ⟨row, by rw [hexchange], hstate⟩
    exact ih ((Acknowledged.congr (exchange_of_received hrun h.quiet hreceived)).2 h) hrest

/-- A message received without an acknowledgement never gets one, whatever arrives. -/
theorem Unacknowledged.arrivals (h : Unacknowledged db id)
    (hruns : ArrivalRuns config id db as db') : Unacknowledged db' id := by
  induction as generalizing db with
  | nil =>
    obtain rfl := hruns
    exact h
  | cons a as ih =>
    obtain ⟨-, out, mid, hrun, hrest⟩ := hruns
    exact ih ((Unacknowledged.congr (exchange_of_received hrun h.quiet h.1)).2 h) hrest

theorem Unacknowledged.not_acknowledged (h : Unacknowledged db id) (cell : OutPoint) :
    ¬Acknowledged db id cell := by
  rintro ⟨row, response, hexchange, -⟩
  have hnone := h.2
  rw [hexchange] at hnone
  cases hnone

/-- A message is acknowledged to one cell. -/
theorem Acknowledged.unique {cell' : OutPoint} (h : Acknowledged db id cell)
    (h' : Acknowledged db id cell') : cell = cell' := by
  obtain ⟨row, response, hexchange, -, hcell, -⟩ := h
  obtain ⟨row', response', hexchange', -, hcell', -⟩ := h'
  obtain ⟨rfl, rfl⟩ : row = row' ∧ response = response' := by
    simpa using hexchange.symm.trans hexchange'
  exact Option.some.inj (hcell.symm.trans hcell')

/-- What the first copy of a message that is not stored yet leaves. -/
theorem first_copy (hnew : exchange db id = (none, none)) (hid : a.incoming.messageId = id)
    (hcontent : isPureAcknowledgement a.incoming = false)
    (hadmitted : Admitted config db a.incoming a.nowMs)
    (hrun : Program.Runs (passEffect a.nowMs fun _ => a.notifies)
      (ingestIncomingCellData config ownProfileId (.ok a.decrypted) a.source) db out mid) :
    match a.source, a.notifies with
    | some cell, true => Acknowledged mid id cell
    | _, _ => Unacknowledged mid id := by
  have hpending : Pending db id := by
    rw [Pending, hnew]
    exact ⟨fun row h => (by cases h), rfl⟩
  rw [ingestIncomingCellData, a.opens] at hrun
  cases hsource : a.source with
  | none =>
    rw [hsource] at hrun
    obtain ⟨h, -⟩ | ⟨-, h⟩ := (always_ingest_chainless hid hcontent hpending).runs hrun
    · exact absurd hadmitted h
    · exact h
  | some cell =>
    rw [hsource] at hrun
    obtain ⟨h, -⟩ | ⟨-, rowId, -, h⟩ := (always_ingest_pending hid hcontent hpending).runs hrun
    · exact absurd hadmitted h
    · rcases h with ⟨hnotifies, h⟩ | ⟨hnotifies, h⟩ <;> simp only [hnotifies] <;> exact h

/-- After any sequence of arrivals, a message that was not stored before is acknowledged to a
    cell exactly when its first copy came from that cell and its notification was posted. -/
theorem arrivals_acknowledged_iff (hnew : exchange db id = (none, none))
    (hruns : ArrivalRuns config id db as db') :
    Acknowledged db' id cell ↔ as.findSome? (copyOf id) = some (some cell, true) := by
  induction as generalizing db with
  | nil =>
    obtain rfl := hruns
    rw [List.findSome?_nil]
    constructor
    · rintro ⟨row, response, hexchange, -⟩
      rw [hnew] at hexchange
      cases hexchange
    · intro h
      cases h
  | cons a as ih =>
    obtain ⟨hadmitted, out, mid, hrun, hrest⟩ := hruns
    rw [List.findSome?_cons]
    by_cases hcopy : a.incoming.messageId = id ∧ isPureAcknowledgement a.incoming = false
    · have hfirst := first_copy hnew hcopy.1 hcopy.2 (hadmitted hcopy.1 hcopy.2) hrun
      rw [copyOf, if_pos hcopy]
      have unacknowledged : ∀ {copy : Option OutPoint × Bool}, copy ≠ (some cell, true) →
          Unacknowledged mid id → (Acknowledged db' id cell ↔ some copy = some (some cell, true)) := by
        intro copy hne h
        have hnot := (h.arrivals hrest).not_acknowledged cell
        simp [hnot, hne]
      cases hsource : a.source <;> cases hnotifies : a.notifies <;>
        rw [hsource, hnotifies] at hfirst
      · exact unacknowledged (by simp) hfirst
      · exact unacknowledged (by simp) hfirst
      · exact unacknowledged (by simp) hfirst
      · rename_i source
        constructor
        · intro h
          rw [(hfirst.arrivals hrest).unique h]
        · intro h
          obtain rfl : source = cell := by simpa using h
          exact hfirst.arrivals hrest
    · have hindifferent : Indifferent db id a.incoming := by
        by_cases hid : a.incoming.messageId = id
        · exact .inl (by simpa [hid] using hcopy)
        · exact .inr (.inl hid)
      have hquiet : Quiet db id := by
        rw [Quiet, hnew]
        rintro standing (h | h) <;> cases h
      have hrun' := hrun
      rw [ingestIncomingCellData, a.opens] at hrun'
      have hsame := (always_ingest_indifferent hquiet hindifferent).runs hrun'
      rw [copyOf, if_neg hcopy]
      exact ih (hsame.trans hnew) hrest

end Arrivals

theorem passEffect_clockedHandler (nowMs : Nat) (β : Type) (op : Op β) (db : Db) :
    passEffect nowMs (fun _ => true) β op db (clockedHandler nowMs β op db).1
      (clockedHandler nowMs β op db).2 := by
  cases op <;> first | rfl | exact ⟨rfl, rfl⟩

theorem runs_passEffect_clockedHandler (nowMs : Nat) {α : Type} (p : Prog α) (db : Db) :
    Program.Runs (passEffect nowMs fun _ => true) p db (Program.run (clockedHandler nowMs) p db).1
      (Program.run (clockedHandler nowMs) p db).2 :=
  Program.runs_of_run (clockedHandler nowMs) id (passEffect_clockedHandler nowMs _) p db

/-- The copies of one text from the chain and from the gateway. -/
def chainCopy : Arrival (sampleProfile 3) where
  toDelivery := fromAlice
  notifies := true

def gatewayCopy : Arrival (sampleProfile 3) where
  toDelivery := { fromAlice with source := none }
  notifies := true

/-- The database after two of the copies arrive at an empty one. -/
def arrivedFirst (first : Arrival (sampleProfile 3)) : Db :=
  (Program.run (clockedHandler 0) (ingestIncomingCellData DEFAULT_RATE_LIMITS (sampleProfile 3)
    (.ok first.decrypted) first.source) Db.empty).2

def arrivedSecond (first second : Arrival (sampleProfile 3)) : Db :=
  (Program.run (clockedHandler 0) (ingestIncomingCellData DEFAULT_RATE_LIMITS (sampleProfile 3)
    (.ok second.decrypted) second.source) (arrivedFirst first)).2

theorem arrivalRuns_two {first second : Arrival (sampleProfile 3)}
    (hfirst : first.nowMs = 0 ∧ first.notifies = true)
    (hsecond : second.nowMs = 0 ∧ second.notifies = true)
    (hadmitted : Admitted DEFAULT_RATE_LIMITS Db.empty first.incoming 0)
    (hadmitted' : Admitted DEFAULT_RATE_LIMITS (arrivedFirst first) second.incoming 0) :
    ArrivalRuns DEFAULT_RATE_LIMITS (sampleMessageId 8) Db.empty [first, second]
      (arrivedSecond first second) := by
  have hrun : ∀ (a : Arrival (sampleProfile 3)) (db : Db), a.nowMs = 0 ∧ a.notifies = true →
      ∃ out, Program.Runs (passEffect a.nowMs fun _ => a.notifies)
        (ingestIncomingCellData DEFAULT_RATE_LIMITS (sampleProfile 3) (.ok a.decrypted) a.source)
        db out (Program.run (clockedHandler 0) (ingestIncomingCellData DEFAULT_RATE_LIMITS
          (sampleProfile 3) (.ok a.decrypted) a.source) db).2 := by
    rintro a db ⟨hnow, hnotifies⟩
    rw [hnow, hnotifies]
    exact ⟨_, runs_passEffect_clockedHandler 0 _ _⟩
  obtain ⟨out, hrunFirst⟩ := hrun first Db.empty hfirst
  obtain ⟨out', hrunSecond⟩ := hrun second (arrivedFirst first) hsecond
  rw [← hfirst.1] at hadmitted
  rw [← hsecond.1] at hadmitted'
  exact ⟨fun _ _ => hadmitted, out, _, hrunFirst, fun _ _ => hadmitted', out', _, hrunSecond, rfl⟩

/-- A text that arrives from the gateway first is never acknowledged, although its cell arrives
    afterwards. -/
theorem gateway_copy_first_unacknowledged :
    ArrivalRuns DEFAULT_RATE_LIMITS (sampleMessageId 8) Db.empty [gatewayCopy, chainCopy]
        (arrivedSecond gatewayCopy chainCopy) ∧
      ¬Acknowledged (arrivedSecond gatewayCopy chainCopy) (sampleMessageId 8) ⟨5, 0⟩ := by
  refine ⟨arrivalRuns_two ⟨rfl, rfl⟩ ⟨rfl, rfl⟩ (by decide +kernel)
    (by decide +kernel), ?_⟩
  have hnone : (exchange (arrivedSecond gatewayCopy chainCopy) (sampleMessageId 8)).2 = none := by
    decide +kernel
  rintro ⟨row, response, hexchange, -⟩
  rw [hexchange] at hnone
  cases hnone

/-- A text that arrives from the chain first is acknowledged, and stays so. -/
theorem chain_copy_first_acknowledged :
    Acknowledged (arrivedSecond chainCopy gatewayCopy) (sampleMessageId 8) ⟨5, 0⟩ :=
  (arrivals_acknowledged_iff rfl (arrivalRuns_two ⟨rfl, rfl⟩ ⟨rfl, rfl⟩
    (by decide +kernel) (by decide +kernel))).2 (by decide)

end cemp.sync
