import CempMobile.Ckb.Resume
import CempMobile.Database.Journal
import CempMobile.Images.Send

open cemp.core cemp.database cemp.ckb

namespace cemp.images

section Capacity

/-- The cell of one chunk. -/
def chunkCell (deps : PipelineDeps) (content : Bytes) : CellOutput :=
  { capacity := deps.occupiedCapacity ⟨0, deps.lock, none, .bytes content⟩ + CAPACITY_MARGIN
    lock := deps.lock
    type := none
    data := .bytes content }

/-- A cell that carries data: in a chunk transaction every output but the change. -/
def carriesData (output : CellOutput) : Bool := output.data ≠ .bytes []

def totalCapacity (tx : RawTransaction) : Nat := (tx.outputs.map (·.capacity)).sum

def chunkCapacity (tx : RawTransaction) : Nat :=
  ((tx.outputs.filter carriesData).map (·.capacity)).sum

def changeCapacity (tx : RawTransaction) : Nat :=
  ((tx.outputs.filter fun output => !carriesData output).map (·.capacity)).sum

theorem sum_filter_add {α : Type} (f : α → Nat) (p : α → Bool) (xs : List α) :
    ((xs.filter p).map f).sum + ((xs.filter fun x => !p x).map f).sum = (xs.map f).sum := by
  induction xs with
  | nil => rfl
  | cons x xs ih =>
    cases hp : p x <;> simp [hp] <;> omega

theorem totalCapacity_eq (tx : RawTransaction) :
    totalCapacity tx = chunkCapacity tx + changeCapacity tx :=
  (sum_filter_add ..).symm

/-- A transaction of one cell for each of some chunks, and perhaps a change cell behind them. -/
def IsChunkTx (deps : PipelineDeps) (chunks : List Bytes) (tx : RawTransaction) : Prop :=
  chunks ≠ [] ∧ [] ∉ chunks ∧
    ∃ change : Option Nat,
      tx.outputs = chunks.map (chunkCell deps) ++ (change.map (changeOutput deps)).toList

variable {deps : PipelineDeps} {chunks : List Bytes} {tx : RawTransaction}

/-- The cells that carry data are the first outputs, one for each chunk. -/
theorem IsChunkTx.filter_outputs (h : IsChunkTx deps chunks tx) :
    tx.outputs.filter carriesData = tx.outputs.take chunks.length := by
  obtain ⟨-, hfull, change, houtputs⟩ := h
  have hchunks : (chunks.map (chunkCell deps)).filter carriesData = chunks.map (chunkCell deps) := by
    apply List.filter_eq_self.2
    intro output houtput
    obtain ⟨content, hcontent, rfl⟩ := List.mem_map.1 houtput
    have hne : content ≠ [] := fun h => hfull (h ▸ hcontent)
    simp [carriesData, chunkCell, hne]
  have hchange : (change.map (changeOutput deps)).toList.filter carriesData = [] := by
    cases change <;> simp [carriesData, changeOutput]
  have hlength : chunks.length = (chunks.map (chunkCell deps)).length := by simp
  rw [houtputs, List.filter_append, hchunks, hchange, hlength, List.take_left, List.append_nil]

theorem IsChunkTx.chunkCapacity_pos (h : IsChunkTx deps chunks tx) : 0 < chunkCapacity tx := by
  have hfilter := h.filter_outputs
  obtain ⟨hne, -, change, houtputs⟩ := h
  obtain ⟨content, rest, rfl⟩ := List.exists_cons_of_ne_nil hne
  unfold chunkCapacity
  rw [hfilter, houtputs]
  simp only [List.map_cons, List.cons_append, List.length_cons, List.take_succ_cons, List.sum_cons,
    chunkCell, CAPACITY_MARGIN]
  omega

end Capacity

/-- The database while chunks are published, and the transaction whose commit was seen. -/
structure ChunkWorld where
  db : Db
  observed : Option Hash

/-- What the steps of a publish do. `commits` is what a transaction hash commits to: a signature
    changes neither the inputs nor the outputs. The client's cache is in memory. -/
def chunkEffect (commits : Hash → RawTransaction) : Program.Effect Op Error ChunkWorld :=
  fun _ op w answer w' =>
    match op with
    | .store access => access.exec w.db = (answer, w'.db) ∧ w'.observed = w.observed
    | .getTransaction txHash =>
      w' = if answer = .ok .committed then { w with observed := some txHash } else w
    | .signTransaction tx => w' = w ∧ ∀ signed, answer = .ok signed → commits signed.hash = tx
    | .markTransactions _ => w' = w ∧ answer = .ok ()
    | _ => w' = w

/-- A call of `publishAttachmentChunks`, complete or cut short. -/
structure ChunkPass where
  chunks : PreparedChunks
  timeoutMs : Option Nat
  before : Db
  out : Option (Except Error PublishChunksResult)
  after : ChunkWorld

def ChunkPass.Runs (commits : Hash → RawTransaction) (deps : PipelineDeps) (pass : ChunkPass) : Prop :=
  let program := publishAttachmentChunks deps pass.chunks pass.timeoutMs
  match pass.out with
  | some out => Program.Runs (chunkEffect commits) program ⟨pass.before, none⟩ out pass.after
  | none =>
    Program.Interrupted (chunkEffect commits) Program.Anywhere program ⟨pass.before, none⟩ pass.after

/-- Other work on the database journals no chunk transaction. -/
def OtherWork (db db' : Db) : Prop :=
  ∀ record ∈ db'.journal, ∀ id, record.purpose = .attachmentChunks id → record ∈ db.journal

/-- Calls one after the other, with other work in between. -/
def ChunkRuns (commits : Hash → RawTransaction) (deps : PipelineDeps) : Db → List ChunkPass → Prop
  | _, [] => True
  | db, pass :: passes =>
    OtherWork db pass.before ∧ pass.Runs commits deps ∧ ChunkRuns commits deps pass.after.db passes

/-- Over the call, `amount` went from the available to the reserved bucket. -/
def ChunkPass.Reserves (pass : ChunkPass) (amount : Nat) : Prop :=
  pass.after.db.balance.reservedShannon = pass.before.balance.reservedShannon + amount ∧
    pass.before.balance.availableShannon = pass.after.db.balance.availableShannon + amount

instance (pass : ChunkPass) (amount : Nat) : Decidable (pass.Reserves amount) :=
  inferInstanceAs (Decidable (_ ∧ _))

/-- Every journaled chunk transaction carries the capacity of all its outputs. -/
def Journals (commits : Hash → RawTransaction) (deps : PipelineDeps) (db : Db) : Prop :=
  ∀ record ∈ db.journal, ∀ id, record.purpose = .attachmentChunks id →
    record.capacityShannon = some (totalCapacity (commits record.txHash)) ∧
      ∃ chunks, IsChunkTx deps chunks (commits record.txHash)

variable {commits : Hash → RawTransaction} {deps : PipelineDeps} {w w' : ChunkWorld} {db : Db}
  {balance : WalletBalance} {txHash : Hash} {timeoutMs : Option Nat}

section Journals

variable {β : Type}

theorem Journals.same {db' : Db} (h : Journals commits deps db) (hsame : db'.journal = db.journal) :
    Journals commits deps db' := fun record hmem => h record (hsame ▸ hmem)

/-- Only a record of a chunk transaction asks for anything. -/
theorem Journals.exec (access : StoreOp β) (h : Journals commits deps db)
    (hrecords : ∀ record id, access.records = some record → record.purpose = .attachmentChunks id →
      record.capacityShannon = some (totalCapacity (commits record.txHash)) ∧
        ∃ chunks, IsChunkTx deps chunks (commits record.txHash)) :
    Journals commits deps (access.exec db).2 := by
  obtain hsame | ⟨tx, hrecord, happend⟩ := journal_exec access db
  · exact h.same hsame
  · intro record hmem id hpurpose
    rw [happend, List.mem_append, List.mem_singleton] at hmem
    obtain hmem | rfl := hmem
    · exact h record hmem id hpurpose
    · exact hrecords tx id hrecord hpurpose

theorem Journals.other {db' : Db} (h : Journals commits deps db) (hother : OtherWork db db') :
    Journals commits deps db' :=
  fun record hmem id hpurpose => h record (hother record hmem id hpurpose) id hpurpose

end Journals

/-- A chunk transaction that is in the journal. -/
def Awaits (commits : Hash → RawTransaction) (deps : PipelineDeps) (db : Db) (txHash : Hash) : Prop :=
  (∃ record ∈ db.journal, record.txHash = txHash) ∧ ∃ chunks, IsChunkTx deps chunks (commits txHash)

/-- A call has not seen a commit yet: the ledger is as it was. -/
structure Unseen (commits : Hash → RawTransaction) (deps : PipelineDeps) (balance : WalletBalance)
    (awaited : Option Hash) (w : ChunkWorld) : Prop where
  journals : Journals commits deps w.db
  balance_eq : w.db.balance = balance
  observed : w.observed = none
  awaits : ∀ txHash ∈ awaited, Awaits commits deps w.db txHash

/-- A call has seen a commit, and has not reserved anything yet. -/
structure Seen (commits : Hash → RawTransaction) (deps : PipelineDeps) (balance : WalletBalance)
    (txHash : Hash) (w : ChunkWorld) : Prop where
  journals : Journals commits deps w.db
  balance_eq : w.db.balance = balance
  observed : w.observed = some txHash
  awaits : Awaits commits deps w.db txHash

/-- A call has reserved what it takes for the capacity of the transaction it saw committed. -/
structure Reserved (commits : Hash → RawTransaction) (deps : PipelineDeps) (balance : WalletBalance)
    (txHash : Hash) (w : ChunkWorld) : Prop where
  journals : Journals commits deps w.db
  observed : w.observed = some txHash
  chunks : ∃ chunks, IsChunkTx deps chunks (commits txHash)
  reserved : ∃ db, db.balance = balance ∧
    w.db = (BalanceRepository.reserveCapacity (totalCapacity (commits txHash)) db).2

section Steps

variable {awaited : Option Hash} {β : Type}

theorem Awaits.exec (h : Awaits commits deps db txHash) (access : StoreOp β) :
    Awaits commits deps (access.exec db).2 txHash := by
  obtain ⟨⟨record, hmem, hhash⟩, hchunks⟩ := h
  refine ⟨⟨record, ?_, hhash⟩, hchunks⟩
  obtain hsame | ⟨tx, -, happend⟩ := journal_exec access db
  · rw [hsame]
    exact hmem
  · rw [happend]
    exact List.mem_append_left _ hmem

/-- A marked record is there to be marked. -/
theorem Awaits.markState (h : Awaits commits deps db txHash) (state : TxState) :
    (OutgoingTransactionRepository.markState txHash state db).1 = .ok () := by
  obtain ⟨⟨record, hmem, hhash⟩, -⟩ := h
  obtain ⟨r, hr, rfl⟩ := mem_journal.1 hmem
  unfold OutgoingTransactionRepository.markState
  have hfirst : (db.outgoingTransactions.first? fun tx => tx.txHash == txHash).isSome := by
    rw [Option.isSome_iff_ne_none]
    intro hnone
    have := Table.first?_eq_none.1 hnone r hr
    exact this (beq_iff_eq.2 hhash)
  rw [if_pos hfirst]

theorem balance_markState (state : TxState) (db : Db) :
    (OutgoingTransactionRepository.markState txHash state db).2.balance = db.balance := by
  unfold OutgoingTransactionRepository.markState
  split <;> rfl

theorem balance_record (tx : OutgoingTransaction) (db : Db) :
    (OutgoingTransactionRepository.record tx db).2.balance = db.balance := by
  unfold OutgoingTransactionRepository.record
  split <;> rfl

/-- After a record its hash is journaled, by it or by an earlier record of the hash. -/
theorem journaled_record (tx : OutgoingTransaction) (db : Db) :
    ∃ record ∈ (OutgoingTransactionRepository.record tx db).2.journal, record.txHash = tx.txHash := by
  by_cases hfresh : ∀ record ∈ db.journal, record.txHash ≠ tx.txHash
  · refine ⟨tx.core, ?_, rfl⟩
    rw [journal_record hfresh]
    exact List.mem_append_right _ List.mem_cons_self
  · push Not at hfresh
    obtain ⟨record, hmem, hhash⟩ := hfresh
    refine ⟨record, ?_, hhash⟩
    obtain hsame | happend := journal_record_cases tx db
    · rw [hsame]
      exact hmem
    · rw [happend]
      exact List.mem_append_left _ hmem

/-- While a call waits, its node reports the commit or leaves everything as it was. -/
theorem polls_unseen :
    Polls (chunkEffect commits) txHash (Unseen commits deps balance (some txHash))
      (Seen commits deps balance txHash) where
  committed := by
    intro w w' h hanswer
    simp only [chunkEffect, if_true] at hanswer
    subst hanswer
    exact ⟨h.journals, h.balance_eq, rfl, h.awaits txHash rfl⟩
  status := by
    intro w r w' h hanswer hne
    simp only [chunkEffect, hne, if_false] at hanswer
    exact hanswer ▸ h
  late := fun w r w' h hanswer => hanswer ▸ h
  send := fun tx w r w' h hanswer => hanswer ▸ h

/-- Recording a commit and reserving the capacity of the transaction. -/
theorem always_settle {ρ : Type} {result : ρ} {capacity : Nat}
    (hcapacity : capacity = totalCapacity (commits txHash))
    (h : Seen commits deps balance txHash w) :
    Program.Always (chunkEffect commits) (fun _ _ w => Journals commits deps w.db)
      (do
        store (.markOutgoingTxState txHash .committed)
        store (.reserveCapacity capacity none)
        return result) w
      fun r w' => Reserved commits deps balance txHash w' ∧
        (r = .ok result ∨ ∃ code message, r = .error (.database code message)) := by
  refine Program.Always.step h.journals ?_ ?_
  · rintro e w' ⟨hanswer, -⟩
    have hok := h.awaits.markState .committed
    simp only [StoreOp.exec] at hanswer
    rw [hanswer] at hok
    cases hok
  · rintro _ w' ⟨hanswer, hobserved⟩
    have hdb : w'.db = (StoreOp.exec (.markOutgoingTxState txHash .committed) w.db).2 := by
      rw [hanswer]
    have hbalance : w'.db.balance = balance := by
      rw [hdb, ← h.balance_eq]
      exact balance_markState _ _
    have hjournals : Journals commits deps w'.db := by
      rw [hdb]
      exact h.journals.exec (.markOutgoingTxState txHash .committed) fun _ _ hnone => by cases hnone
    have hreserved : ∀ w'', w''.db = (StoreOp.exec (.reserveCapacity capacity none) w'.db).2 →
        w''.observed = w'.observed → Reserved commits deps balance txHash w'' := by
      intro w'' hdb'' hobserved''
      refine ⟨?_, ?_, h.awaits.2, w'.db, hbalance, ?_⟩
      · rw [hdb'']
        exact hjournals.exec (.reserveCapacity capacity none) fun _ _ hnone => by cases hnone
      · rw [hobserved'', hobserved, h.observed]
      · rw [hdb'', hcapacity]
        rfl
    refine Program.Always.step hjournals ?_ ?_
    · rintro e w'' ⟨hanswer', hobserved'⟩
      refine ⟨hreserved w'' (by rw [hanswer']) hobserved', .inr ?_⟩
      have herror : (BalanceRepository.move .available_shannon .reserved_shannon capacity w'.db).1 =
          .error e := by
        simp only [StoreOp.exec, BalanceRepository.reserveCapacity] at hanswer'
        rw [hanswer']
      unfold BalanceRepository.move at herror
      split_ifs at herror
      · obtain rfl := Except.error.inj herror
        exact ⟨_, _, rfl⟩
      · obtain rfl := Except.error.inj herror
        exact ⟨_, _, rfl⟩
    · rintro _ w'' ⟨hanswer', hobserved'⟩
      exact ⟨hreserved w'' (by rw [hanswer']) hobserved', .inl rfl⟩

/-- Where a call may stop: it saw no commit, or it reserved for the one it saw. -/
def Settled (commits : Hash → RawTransaction) (deps : PipelineDeps) (balance : WalletBalance)
    (w : ChunkWorld) : Prop :=
  Unseen commits deps balance none w ∨ ∃ txHash, Reserved commits deps balance txHash w

/-- How the guarded part of a resume may stop. -/
def Resuming (commits : Hash → RawTransaction) (deps : PipelineDeps) (balance : WalletBalance)
    (txHash : Hash) : Except Error (Option PublishChunksResult) → ChunkWorld → Prop
  | .ok none, _ => False
  | .ok (some _), w => Reserved commits deps balance txHash w
  | .error e, w => Unseen commits deps balance (some txHash) w ∨
      Reserved commits deps balance txHash w ∧ ∃ code message, e = .database code message

/-- How a resume may stop: it hands back nothing only when it has seen no commit. -/
def Resumed (commits : Hash → RawTransaction) (deps : PipelineDeps) (balance : WalletBalance) :
    Except Error (Option PublishChunksResult) → ChunkWorld → Prop
  | .ok none, w => Unseen commits deps balance none w
  | .ok (some _), w => Settled commits deps balance w
  | .error _, w => Settled commits deps balance w

theorem Unseen.access (h : Unseen commits deps balance awaited w)
    (access : StoreOp β) (hbalance : (access.exec w.db).2.balance = w.db.balance)
    (hrecords : access.records = none) (hdb : w'.db = (access.exec w.db).2)
    (hobserved : w'.observed = w.observed) : Unseen commits deps balance awaited w' where
  journals := by
    rw [hdb]
    exact h.journals.exec access fun _ _ hsome => by rw [hrecords] at hsome; cases hsome
  balance_eq := by rw [hdb, hbalance, h.balance_eq]
  observed := by rw [hobserved, h.observed]
  awaits := by
    intro txHash htx
    rw [hdb]
    exact (h.awaits txHash htx).exec access

theorem Unseen.forget (h : Unseen commits deps balance awaited w) :
    Unseen commits deps balance none w :=
  ⟨h.journals, h.balance_eq, h.observed, fun _ htx => by cases htx⟩

theorem Unseen.record {tx : OutgoingTransaction} (h : Unseen commits deps balance none w)
    (hcapacity : tx.capacityShannon = some (totalCapacity (commits tx.txHash)))
    (hchunks : ∃ chunks, IsChunkTx deps chunks (commits tx.txHash))
    (hdb : w'.db = (OutgoingTransactionRepository.record tx w.db).2)
    (hobserved : w'.observed = w.observed) : Unseen commits deps balance (some tx.txHash) w' where
  journals := by
    rw [hdb]
    refine h.journals.exec (.recordOutgoingTx tx) ?_
    rintro _ id ⟨⟩ -
    exact ⟨hcapacity, hchunks⟩
  balance_eq := by
    rw [hdb, balance_record, h.balance_eq]
  observed := by rw [hobserved, h.observed]
  awaits := by
    rintro _ ⟨⟩
    refine ⟨?_, hchunks⟩
    rw [hdb]
    exact journaled_record tx w.db

/-- A resume reserves for the journaled transaction, or finds out that it is gone. -/
theorem always_resumeChunks {chunks : PreparedChunks} {journaled : OutgoingTransaction}
    (hcapacity : journaled.capacityShannon = some (totalCapacity (commits journaled.txHash)))
    (h : Unseen commits deps balance (some journaled.txHash) w) :
    Program.Always (chunkEffect commits) (fun _ _ w => Journals commits deps w.db)
      (resumeChunks chunks journaled timeoutMs) w (Resumed commits deps balance) := by
  have hpositive : totalCapacity (commits journaled.txHash) ≠ 0 := by
    obtain ⟨chunks, hchunks⟩ := (h.awaits _ rfl).2
    have := hchunks.chunkCapacity_pos
    have := totalCapacity_eq (commits journaled.txHash)
    omega
  unfold resumeChunks
  simp only [hcapacity]
  have settle : ∀ w, Seen commits deps balance journaled.txHash w →
      Program.Always (chunkEffect commits) (fun _ _ w => Journals commits deps w.db)
        (do
          store (.markOutgoingTxState journaled.txHash .committed)
          if totalCapacity (commits journaled.txHash) ≠ 0 then do
            store (.reserveCapacity (totalCapacity (commits journaled.txHash)) none)
            pure (some ⟨journaled.txHash, chunks.chunks.length, true⟩)
          else pure (some ⟨journaled.txHash, chunks.chunks.length, true⟩)) w
        (Resuming commits deps balance journaled.txHash) := by
    intro w hw
    simp only [if_pos hpositive]
    refine (always_settle rfl hw).mono ?_
    rintro r w' ⟨hreserved, rfl | ⟨code, message, rfl⟩⟩
    · exact hreserved
    · exact .inr ⟨hreserved, code, message, rfl⟩
  refine Program.Always.catchError
    (?_ : Program.Always _ _ _ w (Resuming commits deps balance journaled.txHash)) ?_ ?_
  · refine ((polls_unseen.resume h).weaken fun _ _ _ h => h.journals).bind ?_ fun e w' h => .inl h
    intro outcome w' hseen
    cases outcome with
    | committed => exact settle w' hseen
    | rebroadcast =>
      cases journaled.txHex with
      | none => exact settle w' hseen
      | some tx =>
        refine Program.Always.step hseen.journals ?_ ?_
        · rintro e w'' ⟨-, hanswer⟩
          cases hanswer
        · rintro _ w'' ⟨rfl, -⟩
          exact settle w'' hseen
  · intro result w' hresult
    cases result with
    | none => exact hresult.elim
    | some result => exact .inr ⟨_, hresult⟩
  · intro e w' hw'
    cases e with
    | journaledAbandoned message spent =>
      obtain hunseen | ⟨-, code, message, hne⟩ := hw'
      · have habandon : ∀ r w'', chunkEffect commits _ (.store (.markOutgoingTxState journaled.txHash
            .abandoned)) w' r w'' → Unseen commits deps balance none w'' := by
          rintro r w'' ⟨hanswer, hobserved⟩
          refine (hunseen.access (.markOutgoingTxState journaled.txHash .abandoned)
            (balance_markState _ _) rfl ?_ hobserved).forget
          rw [hanswer]
        refine Program.Always.step hunseen.journals ?_ ?_
        · intro e w'' hanswer
          exact .inl (habandon _ w'' hanswer)
        · intro _ w'' hanswer
          exact habandon _ w'' hanswer
      · cases hne
    | _ =>
      obtain hunseen | ⟨hreserved, -⟩ := hw'
      · exact .inl hunseen.forget
      · exact .inr ⟨_, hreserved⟩

theorem always_completeAndFinalize {known : ChunkWorld → Prop} {context : String}
    {tx : RawTransaction} (h : known w) :
    Program.Always (chunkEffect commits) (fun _ _ => known) (completeAndFinalize deps context tx) w
      fun r w' => known w' ∧ ∀ built, r = .ok built → ∃ change : Option Nat,
        built.tx.outputs = tx.outputs ++ (change.map (changeOutput deps)).toList := by
  refine Program.Always.step h ?_ ?_
  · rintro e w' rfl
    exact ⟨h, fun built hbuilt => by cases hbuilt⟩
  · rintro completion w' rfl
    split
    · exact ⟨h, fun built hbuilt => by cases hbuilt⟩
    · refine ⟨h, ?_⟩
      rintro built ⟨⟩
      exact ⟨completion.change, rfl⟩

theorem always_buildDataCellsTx {known : ChunkWorld → Prop} {chunks : List Bytes} (h : known w) :
    Program.Always (chunkEffect commits) (fun _ _ => known) (buildDataCellsTx deps chunks) w
      fun r w' => known w' ∧ ∀ built, r = .ok built → IsChunkTx deps chunks built.tx := by
  unfold buildDataCellsTx
  split
  · exact ⟨h, fun built hbuilt => by cases hbuilt⟩
  next hne =>
    split
    · exact ⟨h, fun built hbuilt => by cases hbuilt⟩
    next hfull =>
      refine (always_completeAndFinalize h).mono ?_
      rintro r w' ⟨hknown, houtputs⟩
      refine ⟨hknown, fun built hbuilt => ⟨hne, fun hmem => hfull ?_, houtputs built hbuilt⟩⟩
      exact List.any_eq_true.2 ⟨[], hmem, rfl⟩

/-- A new upload reserves what its journal record says. -/
theorem always_uploadChunks {chunks : PreparedChunks} (h : Unseen commits deps balance none w) :
    Program.Always (chunkEffect commits) (fun _ _ w => Journals commits deps w.db)
      (uploadChunks deps chunks timeoutMs) w fun _ w' => Settled commits deps balance w' := by
  refine ((always_buildDataCellsTx h).weaken fun _ _ _ h => h.journals).bind ?_
    fun e w' h => .inl h.1
  rintro built w' ⟨hunseen, htx⟩
  have hchunks := htx built rfl
  refine Program.Always.step hunseen.journals ?_ ?_
  · rintro e w' ⟨rfl, -⟩
    exact .inl hunseen
  · rintro signed w' ⟨rfl, hsigned⟩
    have hcommits := hsigned signed rfl
    have hrecorded : ∀ r w'', chunkEffect commits _ (.store (.recordOutgoingTx
        { txHash := signed.hash
          purpose := chunks.purpose
          state := .submitted
          feeShannon := some built.estimatedFee
          capacityShannon := some (totalCapacity built.tx)
          txHex := some signed })) w' r w'' → Unseen commits deps balance (some signed.hash) w'' := by
      rintro r w'' ⟨hanswer, hobserved⟩
      refine hunseen.record ?_ ⟨chunks.chunks, ?_⟩ (congrArg Prod.snd hanswer).symm hobserved
      · rw [hcommits]
      · rw [hcommits]
        exact hchunks
    have hpositive : 0 < (built.tx.outputs.map (·.capacity)).sum := by
      change 0 < totalCapacity built.tx
      have := hchunks.chunkCapacity_pos
      have := totalCapacity_eq built.tx
      omega
    refine Program.Always.step hunseen.journals ?_ ?_
    · intro e w'' hanswer
      exact .inl (hrecorded _ w'' hanswer).forget
    · intro _ w'' hanswer
      have hawaits := hrecorded _ w'' hanswer
      refine Program.Always.step hawaits.journals ?_ ?_
      · rintro e w₃ rfl
        exact .inl hawaits.forget
      · rintro accepted w₃ rfl
        split
        · exact .inl hawaits.forget
        · refine Program.Always.step hawaits.journals ?_ ?_
          · rintro e w₄ ⟨-, hfail⟩
            cases hfail
          · rintro _ w₄ ⟨rfl, -⟩
            refine ((polls_unseen.wait hawaits).weaken fun _ _ _ h => h.journals).bind ?_
              fun e w₅ h => .inl h.forget
            intro _ w₅ hseen
            refine (always_settle ?_ hseen).mono fun _ _ h => Or.inr ⟨_, h.1⟩
            rw [hcommits]
            rfl

/-- A call reserves for a transaction when it sees its commit, and otherwise nothing. -/
theorem always_publishAttachmentChunks (chunks : PreparedChunks) (timeoutMs : Option Nat)
    (h : Journals commits deps db) :
    Program.Always (chunkEffect commits) (fun _ _ w => Journals commits deps w.db)
      (publishAttachmentChunks deps chunks timeoutMs) ⟨db, none⟩
      fun _ w' => Settled commits deps db.balance w' := by
  have hstart : Unseen commits deps db.balance none ⟨db, none⟩ :=
    ⟨h, rfl, rfl, fun _ htx => by cases htx⟩
  have finish : ∀ r w', Resumed commits deps db.balance (.ok r) w' →
      Program.Always (chunkEffect commits) (fun _ _ w => Journals commits deps w.db)
        (r.elim (uploadChunks deps chunks timeoutMs) Program.ret) w'
        fun _ w' => Settled commits deps db.balance w' := by
    intro r w' hresumed
    cases r with
    | none => exact always_uploadChunks hresumed
    | some result => exact hresumed
  refine Program.Always.step h (fun e w' hanswer => ?_) fun journaled w' hanswer => ?_
  · obtain ⟨hanswer, -⟩ := hanswer
    cases hanswer
  · obtain ⟨hanswer, hobserved⟩ := hanswer
    have hread : OutgoingTransactionRepository.latestByPurpose db chunks.purpose = journaled :=
      Except.ok.inj (congrArg Prod.fst hanswer)
    have hdb : w'.db = db := (congrArg Prod.snd hanswer).symm
    obtain ⟨db', observed⟩ := w'
    obtain rfl : db' = db := hdb
    obtain rfl : observed = none := hobserved
    cases hresumable : journaled.filter fun tx => tx.state == .submitted with
    | none => exact finish none _ hstart
    | some tx =>
      obtain ⟨hsome, -⟩ := Option.filter_eq_some_iff.1 hresumable
      obtain ⟨hmem, hpurpose⟩ := mem_journal_of_latest (hread.trans hsome)
      have hjournaled := h tx.core hmem _ hpurpose
      have hawaits : Unseen commits deps db'.balance (some tx.txHash) ⟨db', none⟩ := by
        refine ⟨h, rfl, rfl, ?_⟩
        rintro _ ⟨⟩
        exact ⟨⟨tx.core, hmem, rfl⟩, hjournaled.2⟩
      refine (always_resumeChunks hjournaled.1 hawaits).bind (fun r w' hr => ?_) fun e w' he => he
      cases r with
      | none => exact finish none w' hr
      | some result => exact finish (some result) w' hr

end Steps

section Runs

variable {passes : List ChunkPass} {pass : ChunkPass}

theorem ChunkPass.Runs.journals (hrun : pass.Runs commits deps) (h : Journals commits deps pass.before) :
    Journals commits deps pass.after.db := by
  have halways := always_publishAttachmentChunks pass.chunks pass.timeoutMs h
  unfold ChunkPass.Runs at hrun
  split at hrun
  · obtain hunseen | ⟨txHash, hreserved⟩ := halways.runs hrun
    · exact hunseen.journals
    · exact hreserved.journals
  · exact halways.interrupted (fun _ _ _ _ h => h) hrun

/-- Where a call is made, the journal is as it should be. -/
theorem ChunkRuns.journals (hruns : ChunkRuns commits deps db passes) (h : Journals commits deps db)
    (hpass : pass ∈ passes) : Journals commits deps pass.before ∧ pass.Runs commits deps := by
  induction passes generalizing db with
  | nil => cases hpass
  | cons first passes ih =>
    obtain ⟨hother, hrun, hrest⟩ := hruns
    have hbefore := h.other hother
    obtain rfl | hpass := List.mem_cons.1 hpass
    · exact ⟨hbefore, hrun⟩
    · exact ih hrest (hrun.journals hbefore) hpass

/-- A reservation of everything is one of the chunk cells when there is no change and the ledger
    has enough. -/
theorem Reserved.exact_iff (h : Reserved commits deps db.balance txHash w) :
    (w.db.balance.reservedShannon = db.balance.reservedShannon + chunkCapacity (commits txHash) ∧
      db.balance.availableShannon = w.db.balance.availableShannon + chunkCapacity (commits txHash)) ↔
      changeCapacity (commits txHash) = 0 ∧
        chunkCapacity (commits txHash) ≤ db.balance.availableShannon := by
  obtain ⟨chunks, hchunks⟩ := h.chunks
  obtain ⟨db', hbalance, hdb⟩ := h.reserved
  have hpositive := hchunks.chunkCapacity_pos
  have htotal := totalCapacity_eq (commits txHash)
  rw [hdb, ← hbalance]
  unfold BalanceRepository.reserveCapacity BalanceRepository.move
  split
  · omega
  · split
    next hshort =>
      simp only [WalletBalance.get] at hshort ⊢
      omega
    next henough =>
      simp only [WalletBalance.get, WalletBalance.set] at henough ⊢
      omega

/-- A call that sees the commit of a chunk transaction, fresh or resumed, reserves the capacity of
    its chunk cells exactly when the transaction has no change cell of any capacity and the ledger
    has that much available. -/
theorem chunkRuns_reserve_iff
    (hstart : ∀ record ∈ db.journal, ∀ id, record.purpose ≠ .attachmentChunks id)
    (hruns : ChunkRuns commits deps db passes) (hpass : pass ∈ passes)
    (hcomplete : pass.out.isSome) (hobserved : pass.after.observed = some txHash) :
    pass.Reserves (chunkCapacity (commits txHash)) ↔
      changeCapacity (commits txHash) = 0 ∧
        chunkCapacity (commits txHash) ≤ pass.before.balance.availableShannon := by
  have hjournals : Journals commits deps db :=
    fun record hmem id hpurpose => absurd hpurpose (hstart record hmem id)
  obtain ⟨hbefore, hrun⟩ := hruns.journals hjournals hpass
  obtain ⟨out, hout⟩ := Option.isSome_iff_exists.1 hcomplete
  simp only [ChunkPass.Runs, hout] at hrun
  obtain hunseen | ⟨seen, hreserved⟩ := (always_publishAttachmentChunks _ _ hbefore).runs hrun
  · rw [hunseen.observed] at hobserved
    cases hobserved
  · obtain rfl := Option.some.inj (hreserved.observed.symm.trans hobserved)
    exact hreserved.exact_iff

/-- One chunk of a small image. -/
def sampleChunks : PreparedChunks where
  prepared := ⟨[1, 2, 3], "image/webp", 4, 4, [], []⟩
  encrypted := ⟨List.replicate 16 6, List.replicate 12 0, [1, 2, 3], []⟩
  chunks := [[1, 2, 3]]

/-- The transaction of that chunk, with some change. -/
def sampleChunkTx (change : Option Nat) : RawTransaction where
  inputs := [⟨9, 0⟩]
  outputs := chunkCell samplePipeline [1, 2, 3] ::
    (change.map (changeOutput samplePipeline)).toList

/-- A wallet whose transactions cost 1000 shannon, leave some change and commit at once. -/
def chunkHandler (change : Option Nat) : Program.Handler Op Error ChunkWorld := fun _ op w =>
  match op with
  | .store access => ((access.exec w.db).1, { w with db := (access.exec w.db).2 })
  | .completeTransaction _ => (.ok ⟨[⟨9, 0⟩], change, 1000⟩, w)
  | .signTransaction tx =>
    if tx = sampleChunkTx change then (.ok ⟨tx, 77⟩, w) else (.error (.other "not signed"), w)
  | .sendTransaction tx => (.ok tx.hash, w)
  | .markTransactions _ => (.ok (), w)
  | .getTransaction txHash => (.ok .committed, { w with observed := some txHash })
  | _ => (.error (.other "no such call"), w)

theorem runs_chunkHandler (change : Option Nat) {α : Type} (p : Prog α) (w : ChunkWorld) :
    Program.Runs (chunkEffect fun _ => sampleChunkTx change) p w
      (Program.run (chunkHandler change) p w).1 (Program.run (chunkHandler change) p w).2 := by
  refine Program.runs_of_run (chunkHandler change) id ?_ p w
  intro β op w
  cases op with
  | signTransaction tx =>
    simp only [chunkHandler]
    split
    next h => exact ⟨rfl, fun signed hsigned => by rw [h]⟩
    next => exact ⟨rfl, fun signed hsigned => by cases hsigned⟩
  | _ => first | rfl | exact ⟨rfl, rfl⟩

/-- 1000 CKB. -/
def fundedDb : Db := { Db.empty with balance := ⟨100000000000, 100000000000, 0, 0, 0⟩ }

def uploadPass (change : Option Nat) : ChunkPass :=
  let ran := Program.run (chunkHandler change)
    (publishAttachmentChunks samplePipeline sampleChunks none) ⟨fundedDb, none⟩
  ⟨sampleChunks, none, fundedDb, some ran.1, ran.2⟩

theorem runs_uploadPass (change : Option Nat) :
    ChunkRuns (fun _ => sampleChunkTx change) samplePipeline fundedDb [uploadPass change] :=
  ⟨fun _ h _ _ => h, runs_chunkHandler change _ _, trivial⟩

/-- Without a change cell the reservation is exact. -/
theorem changeless_upload_exact :
    (uploadPass none).Reserves (chunkCapacity (sampleChunkTx none)) := by
  have hobserved : (uploadPass none).after.observed = some 77 := by decide
  apply (chunkRuns_reserve_iff (fun _ h => by cases h) (runs_uploadPass none) List.mem_cons_self rfl
    hobserved).2
  decide

/-- 50 CKB of change are reserved as if they were a chunk. -/
theorem change_reserved_as_chunk :
    ChunkRuns (fun _ => sampleChunkTx (some 5000000000)) samplePipeline fundedDb
        [uploadPass (some 5000000000)] ∧
      (uploadPass (some 5000000000)).after.observed = some 77 ∧
      ¬(uploadPass (some 5000000000)).Reserves (chunkCapacity (sampleChunkTx (some 5000000000))) :=
  ⟨runs_uploadPass _, by decide, by decide⟩

end Runs

end cemp.images
