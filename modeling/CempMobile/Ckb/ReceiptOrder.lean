import CempMobile.Ckb.Acknowledgements
import Mathlib.Algebra.BigOperators.Group.Finset.Basic
import Mathlib.Algebra.Order.BigOperators.Group.Finset

open cemp.core cemp.database cemp.database.MessageRepository cemp.database.AttachmentRepository

namespace cemp.ckb

/-- The calls of `processAcknowledgements` for incoming messages that carry these receipts, one
    after another. A call that throws ends, and the next message is processed all the same. -/
def processMessages (messages : List (List Receipt)) (db : Db) : Db :=
  messages.foldl (fun db receipts => (runLocal (processAcknowledgements receipts) db).2) db

/-- Message states, download flags and ledger buckets are the same. -/
structure SameOutcome (db db' : Db) : Prop where
  messages : db.messages = db'.messages
  attachments : db.attachments = db'.attachments
  balance : db.balance = db'.balance

/-- What acknowledgement processing promises for the receipts in a database. -/
structure ReceiptsLawful (db : Db) (receipts : List Receipt) : Prop where
  /-- Any order of the receipts, with any repetitions and over any messages, has one outcome. -/
  order : ∀ messages : List (List Receipt), (∀ r, r ∈ messages.flatten ↔ r ∈ receipts) →
    SameOutcome (processMessages messages db) (processMessages [receipts] db)
  /-- A receipt that throws changes neither the messages nor the ledger, and those behind it are
      processed. -/
  atomic : ∀ front receipt behind acked before e after, receipts = front ++ receipt :: behind →
    runLocal (processAcknowledgements front) db = (.ok acked, before) →
    runLocal (applyReceipt receipt) before = (.error e, after) →
    after.messages = before.messages ∧ after.balance = before.balance ∧
      SameOutcome (processMessages [receipts] db) (processMessages [behind] after)

/-- The row that a receipt acknowledges in a database. -/
def ackedRow (db : Db) (receipt : Receipt) : Option Nat :=
  match receiptEffect db receipt with
  | .ack rowId _ => some rowId
  | _ => none

/-- The row whose attachment a receipt flags. -/
def flaggedRow (db : Db) (receipt : Receipt) : Option Nat :=
  match receiptEffect db receipt with
  | .flag rowId => some rowId
  | _ => none

/-- The distinct rows that the receipts acknowledge. -/
def ackedRows (db : Db) (receipts : List Receipt) : Finset Nat :=
  (receipts.filterMap (ackedRow db)).toFinset

/-- The capacity that the journal of a row's message carries. -/
def journaledCapacity (db : Db) (rowId : Nat) : Option Nat :=
  (messageJournalInfo db rowId).bind (·.2)

/-- The ledger's reserved bucket covers the capacity of all the rows that the receipts acknowledge,
    and none of these rows carries a capacity of zero. -/
def Funded (db : Db) (receipts : List Receipt) : Prop :=
  (∀ rowId ∈ ackedRows db receipts, journaledCapacity db rowId ≠ some 0) ∧
    ∑ rowId ∈ ackedRows db receipts, (journaledCapacity db rowId).getD 0 ≤
      db.balance.reservedShannon

/-- The tally one receipt further, unless its capacity cannot be moved. -/
def Tally.next (db : Db) (t : Tally) (receipt : Receipt) : Option Tally :=
  match receiptEffect db receipt with
  | .skip => some t
  | .flag rowId => some (t.flag rowId)
  | .ack rowId capacity =>
    if rowId ∈ t.acked then some t
    else
      match capacity with
      | .none => some (t.ack rowId)
      | some amount => if Movable db t amount then some ((t.ack rowId).move amount) else .none

/-- The tally of receipts none of which is refused. -/
def Tally.count (db : Db) : Tally → List Receipt → Option Tally
  | t, [] => some t
  | t, receipt :: receipts => (t.next db receipt).bind fun t' => Tally.count db t' receipts

section Count

variable {db : Db} {t t' t'' : Tally} {receipt : Receipt} {receipts front behind : List Receipt}
  {messages : List (List Receipt)} {rowId : Nat}

theorem receiptEffect_capacity {capacity : Option Nat}
    (h : receiptEffect db receipt = .ack rowId capacity) :
    capacity = journaledCapacity db rowId :=
  (receiptEffect_ack h).2.1

/-- A receipt that is not refused leaves the database of the next tally. -/
theorem applyReceipt_next (h : t.next db receipt = some t') :
    ∃ acked, runLocal (applyReceipt receipt) (t.apply db) = (.ok acked, t'.apply db) := by
  have hstep := applyReceipt_run receipt (t.apply db)
  rw [receiptEffect_apply] at hstep
  unfold Tally.next at h
  cases heffect : receiptEffect db receipt with
  | skip =>
    simp only [heffect, Option.some.injEq] at h hstep
    subst h
    exact ⟨_, hstep⟩
  | flag rowId =>
    simp only [heffect, Option.some.injEq, markRemoteDownloaded_apply] at h hstep
    subst h
    exact ⟨_, hstep⟩
  | ack rowId capacity =>
    by_cases hacked : rowId ∈ t.acked
    · simp only [heffect, hacked, if_true, Option.some.injEq] at h hstep
      subst h
      exact ⟨_, hstep⟩
    · cases capacity with
      | none =>
        simp only [heffect, hacked, if_false, Option.some.injEq, setMessageState_apply] at h hstep
        subst h
        exact ⟨_, hstep⟩
      | some amount =>
        by_cases hmovable : Movable db t amount
        · simp only [heffect, hacked, hmovable, if_false, if_true, Option.some.injEq,
            setMessageState_apply] at h hstep
          rw [markReclaimable_apply db (t.ack rowId) hmovable.1 hmovable.2] at hstep
          subst h
          exact ⟨_, hstep⟩
        · simp [heffect, hacked, hmovable] at h

/-- A receipt that is refused has moved its row into the reclaim queue already. -/
theorem applyReceipt_refused (h : t.next db receipt = none) :
    ∃ rowId m e, db.messages.get? rowId = some m ∧ m.state ∈ ACKABLE_STATES ∧ rowId ∉ t.acked ∧
      runLocal (applyReceipt receipt) (t.apply db) = (.error e, (t.ack rowId).apply db) := by
  have hstep := applyReceipt_run receipt (t.apply db)
  rw [receiptEffect_apply] at hstep
  unfold Tally.next at h
  cases heffect : receiptEffect db receipt with
  | skip => simp [heffect] at h
  | flag rowId => simp [heffect] at h
  | ack rowId capacity =>
    obtain ⟨-, -, m, -, hget, hstate⟩ := receiptEffect_ack heffect
    by_cases hacked : rowId ∈ t.acked
    · simp [heffect, hacked] at h
    · cases capacity with
      | none => simp [heffect, hacked] at h
      | some amount =>
        by_cases hmovable : Movable db t amount
        · simp [heffect, hacked, hmovable] at h
        · obtain ⟨e, hrefused⟩ := markReclaimable_refused db (t.ack rowId) (not_movable hmovable)
          simp only [heffect, hacked, if_false, setMessageState_apply] at hstep
          rw [hrefused] at hstep
          exact ⟨rowId, m, e, hget, hstate, hacked, hstep⟩

theorem processAcknowledgements_count (h : t.count db receipts = some t') :
    ∃ acked, runLocal (processAcknowledgements receipts) (t.apply db) =
      (.ok acked, t'.apply db) := by
  induction receipts generalizing t with
  | nil =>
    cases h
    exact ⟨[], rfl⟩
  | cons receipt receipts ih =>
    obtain ⟨mid, hnext, hrest⟩ := Option.bind_eq_some_iff.1 h
    obtain ⟨acked, hfirst⟩ := applyReceipt_next hnext
    obtain ⟨others, hothers⟩ := ih hrest
    refine ⟨acked.toList ++ others, ?_⟩
    simp only [processAcknowledgements, Program.bind_eq_bind]
    rw [runLocal_bind_ok hfirst, runLocal_bind_ok hothers]
    rfl

theorem count_append :
    t.count db (front ++ behind) = (t.count db front).bind fun t' => t'.count db behind := by
  induction front generalizing t with
  | nil => rfl
  | cons receipt front ih =>
    simp only [List.cons_append, Tally.count, Option.bind_assoc, ih]

/-- Where a list is not counted, there is a first receipt that is refused. -/
theorem count_eq_none (h : t.count db receipts = none) :
    ∃ front receipt behind t', receipts = front ++ receipt :: behind ∧
      t.count db front = some t' ∧ t'.next db receipt = none := by
  induction receipts generalizing t with
  | nil => cases h
  | cons receipt receipts ih =>
    cases hnext : t.next db receipt with
    | none => exact ⟨[], receipt, receipts, t, rfl, rfl, hnext⟩
    | some mid =>
      simp only [Tally.count, hnext, Option.bind_some] at h
      obtain ⟨front, refused, behind, t', rfl, hfront, hrefused⟩ := ih h
      refine ⟨receipt :: front, refused, behind, t', rfl, ?_, hrefused⟩
      simp only [Tally.count, hnext, Option.bind_some, hfront]

theorem processMessages_count (h : t.count db messages.flatten = some t') :
    processMessages messages (t.apply db) = t'.apply db := by
  induction messages generalizing t with
  | nil =>
    cases h
    rfl
  | cons receipts messages ih =>
    rw [List.flatten_cons, count_append] at h
    obtain ⟨mid, hfirst, hrest⟩ := Option.bind_eq_some_iff.1 h
    obtain ⟨acked, hrun⟩ := processAcknowledgements_count hfirst
    rw [← ih hrest]
    simp only [processMessages, List.foldl_cons, hrun]

/-- The rows of the receipts that a tally has not acknowledged yet. -/
def newRows (db : Db) (t : Tally) (receipts : List Receipt) : Finset Nat :=
  ackedRows db receipts \ t.acked.toFinset

theorem newRows_none : newRows db .none receipts = ackedRows db receipts := by
  simp [newRows, Tally.none]

theorem newRows_cons_of_none (h : ackedRow db receipt = none) :
    newRows db t (receipt :: receipts) = newRows db t receipts := by
  simp [newRows, ackedRows, h]

theorem newRows_cons_of_mem (h : ackedRow db receipt = some rowId) (hacked : rowId ∈ t.acked) :
    newRows db t (receipt :: receipts) = newRows db t receipts := by
  ext id
  simp only [newRows, ackedRows, List.filterMap_cons, h, List.toFinset_cons, Finset.mem_sdiff,
    Finset.mem_insert, List.mem_toFinset]
  constructor
  · rintro ⟨rfl | hmem, hnew⟩
    · exact absurd hacked hnew
    · exact ⟨hmem, hnew⟩
  · rintro ⟨hmem, hnew⟩
    exact ⟨.inr hmem, hnew⟩

theorem newRows_cons (h : ackedRow db receipt = some rowId) (hacked : rowId ∉ t.acked) :
    newRows db t (receipt :: receipts) = insert rowId (newRows db (t.ack rowId) receipts) := by
  ext id
  simp only [newRows, ackedRows, List.filterMap_cons, h, List.toFinset_cons, Finset.mem_sdiff,
    Finset.mem_insert, List.mem_toFinset, Tally.ack]
  by_cases hid : id = rowId
  · simp [hid, hacked]
  · simp [hid]

theorem notMem_newRows_ack : rowId ∉ newRows db (t.ack rowId) receipts := by
  simp [newRows, Tally.ack]

/-- What the rows not acknowledged yet take from the reserved bucket. -/
def Covered (db : Db) (t : Tally) (receipts : List Receipt) : Prop :=
  (∀ rowId ∈ newRows db t receipts, journaledCapacity db rowId ≠ some 0) ∧
    t.moved + ∑ rowId ∈ newRows db t receipts, (journaledCapacity db rowId).getD 0 ≤
      db.balance.reservedShannon

/-- Receipts are counted, none refused, if and only if the bucket covers their rows. -/
theorem count_isSome_iff (hmoved : t.moved ≤ db.balance.reservedShannon) :
    (t.count db receipts).isSome ↔ Covered db t receipts := by
  induction receipts generalizing t with
  | nil => simpa [Tally.count, Covered, newRows, ackedRows] using hmoved
  | cons receipt receipts ih =>
    cases heffect : receiptEffect db receipt with
    | skip =>
      have hrow : ackedRow db receipt = none := by simp [ackedRow, heffect]
      simp only [Tally.count, Tally.next, heffect, Option.bind_some, ih hmoved, Covered,
        newRows_cons_of_none hrow]
    | flag rowId =>
      have hrow : ackedRow db receipt = none := by simp [ackedRow, heffect]
      have hflag : (t.flag rowId).moved ≤ db.balance.reservedShannon := hmoved
      simp only [Tally.count, Tally.next, heffect, Option.bind_some, ih hflag, Covered,
        newRows_cons_of_none hrow]
      rfl
    | ack rowId capacity =>
      have hrow : ackedRow db receipt = some rowId := by simp [ackedRow, heffect]
      by_cases hacked : rowId ∈ t.acked
      · simp only [Tally.count, Tally.next, heffect, hacked, if_true, Option.bind_some, ih hmoved,
          Covered, newRows_cons_of_mem hrow hacked]
      · have hcapacity := receiptEffect_capacity heffect
        have hsplit : Covered db t (receipt :: receipts) ↔
            capacity ≠ some 0 ∧
              (∀ id ∈ newRows db (t.ack rowId) receipts, journaledCapacity db id ≠ some 0) ∧
              t.moved + (capacity.getD 0 + ∑ id ∈ newRows db (t.ack rowId) receipts,
                (journaledCapacity db id).getD 0) ≤ db.balance.reservedShannon := by
          rw [Covered, newRows_cons hrow hacked, Finset.forall_mem_insert,
            Finset.sum_insert notMem_newRows_ack, ← hcapacity, and_assoc]
        rw [hsplit]
        cases capacity with
        | none =>
          have hack : (t.ack rowId).moved ≤ db.balance.reservedShannon := hmoved
          simp only [Tally.count, Tally.next, heffect, hacked, if_false, Option.bind_some, ih hack]
          simp [Covered, Tally.ack]
        | some amount =>
          by_cases hmovable : Movable db t amount
          · have hmore : ((t.ack rowId).move amount).moved ≤ db.balance.reservedShannon :=
              hmovable.2
            have hpos : amount ≠ 0 := Nat.ne_of_gt hmovable.1
            simp only [Tally.count, Tally.next, heffect, hacked, hmovable, if_false, if_true,
              Option.bind_some, ih hmore]
            simp [Covered, Tally.move, Tally.ack, newRows, hpos, Nat.add_assoc]
          · simp only [Tally.count, Tally.next, heffect, hacked, hmovable, if_false,
              Option.bind_none, Option.isSome_none, Bool.false_eq_true, false_iff]
            rintro ⟨hpos, -, hsum⟩
            apply hmovable
            have hne : amount ≠ 0 := fun h => hpos (by rw [h])
            simp only [Option.getD_some] at hsum
            exact ⟨by omega, by omega⟩

/-- What a count leaves, in terms of which receipts there are. -/
theorem count_spec (h : t.count db receipts = some t') :
    (∀ id, id ∈ t'.acked ↔ id ∈ t.acked ∨ id ∈ ackedRows db receipts) ∧
      (∀ id, id ∈ t'.flagged ↔ id ∈ t.flagged ∨ ∃ r ∈ receipts, flaggedRow db r = some id) ∧
      t'.moved = t.moved + ∑ rowId ∈ newRows db t receipts, (journaledCapacity db rowId).getD 0 := by
  induction receipts generalizing t with
  | nil =>
    cases h
    simp [ackedRows, newRows]
  | cons receipt receipts ih =>
    obtain ⟨mid, hnext, hrest⟩ := Option.bind_eq_some_iff.1 h
    obtain ⟨hacked', hflagged', hmoved'⟩ := ih hrest
    unfold Tally.next at hnext
    cases heffect : receiptEffect db receipt with
    | skip =>
      have hrow : ackedRow db receipt = none := by simp [ackedRow, heffect]
      have hflagged : flaggedRow db receipt = none := by simp [flaggedRow, heffect]
      simp only [heffect, Option.some.injEq] at hnext
      subst hnext
      refine ⟨?_, ?_, ?_⟩
      · simpa [ackedRows, hrow] using hacked'
      · simpa [hflagged] using hflagged'
      · rw [hmoved', newRows_cons_of_none hrow]
    | flag rowId =>
      have hrow : ackedRow db receipt = none := by simp [ackedRow, heffect]
      have hflagged : flaggedRow db receipt = some rowId := by simp [flaggedRow, heffect]
      simp only [heffect, Option.some.injEq] at hnext
      subst hnext
      refine ⟨?_, ?_, ?_⟩
      · simpa [ackedRows, hrow, Tally.flag] using hacked'
      · intro id
        rw [hflagged' id]
        simp only [Tally.flag, List.mem_cons, exists_eq_or_imp, hflagged, Option.some.injEq,
          @eq_comm _ rowId id]
        tauto
      · rw [hmoved', newRows_cons_of_none hrow]
        rfl
    | ack rowId capacity =>
      have hrow : ackedRow db receipt = some rowId := by simp [ackedRow, heffect]
      have hflagged : flaggedRow db receipt = none := by simp [flaggedRow, heffect]
      have hcapacity := receiptEffect_capacity heffect
      have hrows : ∀ id, id ∈ ackedRows db (receipt :: receipts) ↔
          id = rowId ∨ id ∈ ackedRows db receipts := by
        intro id
        simp [ackedRows, hrow]
      by_cases hacked : rowId ∈ t.acked
      · simp only [heffect, hacked, if_true, Option.some.injEq] at hnext
        subst hnext
        refine ⟨?_, ?_, ?_⟩
        · intro id
          rw [hacked' id, hrows id]
          constructor
          · tauto
          · rintro (hmem | rfl | hmem)
            · exact .inl hmem
            · exact .inl hacked
            · exact .inr hmem
        · simpa [hflagged] using hflagged'
        · rw [hmoved', newRows_cons_of_mem hrow hacked]
      · have hmid : mid.acked = rowId :: t.acked ∧ mid.flagged = t.flagged ∧
            mid.moved = t.moved + capacity.getD 0 := by
          cases capacity with
          | none =>
            simp only [heffect, hacked, if_false, Option.some.injEq] at hnext
            subst hnext
            exact ⟨rfl, rfl, rfl⟩
          | some amount =>
            by_cases hmovable : Movable db t amount
            · simp only [heffect, hacked, hmovable, if_false, if_true, Option.some.injEq] at hnext
              subst hnext
              exact ⟨rfl, rfl, rfl⟩
            · simp [heffect, hacked, hmovable] at hnext
        obtain ⟨hmidAcked, hmidFlagged, hmidMoved⟩ := hmid
        have hnew : newRows db mid receipts = newRows db (t.ack rowId) receipts := by
          simp only [newRows, hmidAcked, Tally.ack]
        refine ⟨?_, ?_, ?_⟩
        · intro id
          rw [hacked' id, hrows id, hmidAcked, List.mem_cons]
          tauto
        · simpa [hflagged, hmidFlagged] using hflagged'
        · rw [hmoved', hmidMoved, hnew, newRows_cons hrow hacked,
            Finset.sum_insert notMem_newRows_ack, ← hcapacity, Nat.add_assoc]

/-- Receipts are funded if and only if all of them are counted in one message. -/
theorem count_none_isSome_iff : (Tally.none.count db receipts).isSome ↔ Funded db receipts := by
  rw [count_isSome_iff (Nat.zero_le _)]
  simp only [Covered, newRows_none, Funded]
  simp [Tally.none]

/-- The tally matters only as the sets of its rows and the capacity moved. -/
theorem apply_congr (hacked : ∀ id, id ∈ t.acked ↔ id ∈ t'.acked)
    (hflagged : ∀ id, id ∈ t.flagged ↔ id ∈ t'.flagged) (hmoved : t.moved = t'.moved) :
    t.apply db = t'.apply db := by
  have hacks : ∀ id, t.acked.contains id = t'.acked.contains id := by
    intro id
    rw [Bool.eq_iff_iff, List.contains_iff_mem, List.contains_iff_mem, hacked id]
  have hflags : ∀ id, t.flagged.contains id = t'.flagged.contains id := by
    intro id
    rw [Bool.eq_iff_iff, List.contains_iff_mem, List.contains_iff_mem, hflagged id]
  simp only [Tally.apply, hacks, hflags, hmoved]

/-- Counted receipts leave one database, in whatever order and however often they come. -/
theorem count_congr (hsame : ∀ r, r ∈ front ↔ r ∈ behind) (h : Tally.none.count db front = some t)
    (h' : Tally.none.count db behind = some t') : t.apply db = t'.apply db := by
  obtain ⟨hacked, hflagged, hmoved⟩ := count_spec h
  obtain ⟨hacked', hflagged', hmoved'⟩ := count_spec h'
  have hrows : ackedRows db front = ackedRows db behind := by
    ext id
    simp only [ackedRows, List.mem_toFinset, List.mem_filterMap, hsame]
  apply apply_congr
  · intro id
    rw [hacked, hacked', hrows]
  · intro id
    simp only [hflagged, hflagged', hsame]
  · rw [hmoved, hmoved', newRows_none, newRows_none, hrows]

theorem Funded.congr (hsame : ∀ r, r ∈ front ↔ r ∈ behind) :
    Funded db front ↔ Funded db behind := by
  have hrows : ackedRows db front = ackedRows db behind := by
    ext id
    simp only [ackedRows, List.mem_toFinset, List.mem_filterMap, hsame]
  simp only [Funded, hrows]

theorem Funded.count (funded : Funded db receipts) :
    ∃ t, Tally.none.count db receipts = some t :=
  Option.isSome_iff_exists.1 (count_none_isSome_iff.2 funded)

theorem processMessages_singleton :
    processMessages [receipts] db = (runLocal (processAcknowledgements receipts) db).2 := rfl

/-- A refused receipt breaks the promise: its row has changed. -/
theorem ReceiptsLawful.funded (lawful : ReceiptsLawful db receipts) : Funded db receipts := by
  by_contra unfunded
  rw [← count_none_isSome_iff, Option.not_isSome_iff_eq_none] at unfunded
  obtain ⟨front, receipt, behind, t, hsplit, hfront, hrefused⟩ := count_eq_none unfunded
  obtain ⟨acked, hrun⟩ := processAcknowledgements_count hfront
  obtain ⟨rowId, m, e, hget, hstate, hnew, hthrown⟩ := applyReceipt_refused hrefused
  rw [apply_none] at hrun
  have hkept := (lawful.atomic front receipt behind acked _ e _ hsplit hrun hthrown).1
  have hrow : ((t.ack rowId).apply db).messages.get? rowId = (t.apply db).messages.get? rowId := by
    rw [hkept]
  simp only [get?_apply, hget, Option.map_some, hnew, if_false, Tally.ack, List.mem_cons, true_or,
    if_true, Option.some.injEq] at hrow
  rw [← hrow] at hstate
  exact not_ackable_reclaim_queued m hstate

theorem Funded.lawful (funded : Funded db receipts) : ReceiptsLawful db receipts := by
  obtain ⟨t, hcount⟩ := funded.count
  have hwhole : processMessages [receipts] db = t.apply db := by
    have h := @processMessages_count db .none t [receipts] (by simpa using hcount)
    rwa [apply_none] at h
  constructor
  · intro messages hsame
    obtain ⟨t', hcount'⟩ := ((Funded.congr hsame).2 funded).count
    have h := processMessages_count hcount'
    rw [apply_none] at h
    rw [hwhole, h, count_congr hsame hcount' hcount]
    exact ⟨rfl, rfl, rfl⟩
  · intro front receipt behind acked before e after hsplit hfront hthrown
    rw [hsplit, count_append] at hcount
    obtain ⟨mid, hmid, hrest⟩ := Option.bind_eq_some_iff.1 hcount
    obtain ⟨next, hnext, -⟩ := Option.bind_eq_some_iff.1 hrest
    obtain ⟨others, hrun⟩ := processAcknowledgements_count hmid
    obtain ⟨answer, happlied⟩ := applyReceipt_next hnext
    rw [apply_none, hfront] at hrun
    cases hrun
    rw [happlied] at hthrown
    cases hthrown

end Count

/-- The receipts for a database have one outcome in any order, with any repetitions and over any
    messages, and a receipt that throws leaves messages and ledger as they were, if and only if the
    reserved bucket covers the capacity of all the rows that they acknowledge. -/
theorem processAcknowledgements_lawful_iff (db : Db) (receipts : List Receipt) :
    ReceiptsLawful db receipts ↔ Funded db receipts :=
  ⟨ReceiptsLawful.funded, Funded.lawful⟩

theorem fits_available : MessageState.available_on_chain.Fits .outgoing := by decide

/-- Two messages on chain, of capacities 3 and 2. The ledger has reserved the first only. -/
def unfundedDb : Db :=
  { Db.empty with
    messages := ⟨[(1, ⟨1, .outgoing, .available_on_chain, some "hi", .composed 1,
        some (sampleMessageId 7), fits_available⟩),
      (2, ⟨1, .outgoing, .available_on_chain, some "there", .composed 2,
        some (sampleMessageId 8), fits_available⟩)], by decide, by decide⟩
    outgoingTransactions := ⟨[(1, ⟨100, .message (.composed 1), .committed, none, some 3, none⟩),
      (2, ⟨200, .message (.composed 2), .committed, none, some 2, none⟩)], by decide, by decide⟩
    balance := ⟨3, 0, 3, 0, 0⟩ }

/-- The two receipts in one order move 3 to the reclaimable bucket, in the other one 2. -/
theorem unfundedDb_not_lawful :
    ¬ ReceiptsLawful unfundedDb
      [⟨sampleMessageId 7, receiptDownloaded⟩, ⟨sampleMessageId 8, receiptDownloaded⟩] := by
  intro lawful
  have swapped := lawful.order
    [[⟨sampleMessageId 8, receiptDownloaded⟩, ⟨sampleMessageId 7, receiptDownloaded⟩]]
    (by simp [or_comm])
  exact absurd (congrArg WalletBalance.reclaimableShannon swapped.balance) (by decide)

end cemp.ckb
