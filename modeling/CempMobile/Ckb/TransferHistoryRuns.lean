import CempMobile.Ckb.TransferHistory
import Mathlib.Data.List.Forall2
import Mathlib.Data.List.Nodup
import Mathlib.Algebra.BigOperators.Group.List.Basic

open Except

namespace cemp.ckb.client

variable {chain : List Committed} {lockScript : Script} {provider : Provider}
  {entries : List IndexedTransaction} {position : Option String → Nat}

/-! ### Cells of the chain -/

section Cells

theorem Committed.find?_cons (tx : Committed) (rest : List Committed) (txHash : String) :
    ((tx :: rest).find? fun t => t.txHash == txHash) =
      if tx.txHash = txHash then some tx else rest.find? fun t => t.txHash == txHash := by
  rw [List.find?_cons]
  by_cases h : tx.txHash = txHash
  · simp [h]
  · rw [beq_false_of_ne h, if_neg h]

theorem find?_of_mem (hhashes : (chain.map Committed.txHash).Nodup) {tx : Committed}
    (htx : tx ∈ chain) : (chain.find? fun t => t.txHash == tx.txHash) = some tx := by
  induction chain with
  | nil => cases htx
  | cons first rest ih =>
    obtain ⟨hfirst, hrest⟩ := List.nodup_cons.1 hhashes
    rw [Committed.find?_cons]
    rcases List.mem_cons.1 htx with rfl | hin
    · rw [if_pos rfl]
    · have hne : first.txHash ≠ tx.txHash :=
        fun heq => hfirst (heq ▸ List.mem_map_of_mem hin)
      rw [if_neg hne, ih hrest hin]

theorem mem_cells {tx : Committed} {cell : (String × Nat) × CellOutput} :
    cell ∈ tx.cells ↔ cell.1.1 = tx.txHash ∧ tx.body.outputs[cell.1.2]? = some cell.2 := by
  obtain ⟨⟨txHash, i⟩, output⟩ := cell
  unfold Committed.cells
  simp only [List.mem_map, Prod.mk.injEq, Prod.exists, List.mem_zipIdx_iff_getElem?]
  constructor
  · rintro ⟨output', i', hget, ⟨rfl, rfl⟩, rfl⟩
    exact ⟨rfl, hget⟩
  · rintro ⟨rfl, hget⟩
    exact ⟨output, i, hget, ⟨rfl, rfl⟩, rfl⟩

theorem keys_cells (tx : Committed) :
    tx.cells.map Prod.fst = (List.range tx.body.outputs.length).map fun i => (tx.txHash, i) := by
  unfold Committed.cells
  rw [List.map_map, List.range_eq_range', ← List.zipIdx_map_snd 0 tx.body.outputs, List.map_map]
  rfl

theorem keys_nodup (hhashes : (chain.map Committed.txHash).Nodup) :
    ((cellsOf chain).map Prod.fst).Nodup := by
  unfold cellsOf
  rw [List.map_flatMap, List.nodup_flatMap]
  constructor
  · intro tx _
    rw [keys_cells]
    exact List.nodup_range.map fun i j hij => congrArg Prod.snd hij
  · refine (List.pairwise_map.1 hhashes).imp fun hne => ?_
    intro key hfirst hsecond
    simp only [keys_cells, List.mem_map] at hfirst hsecond
    obtain ⟨_, _, rfl⟩ := hfirst
    obtain ⟨_, _, heq⟩ := hsecond
    exact hne (congrArg Prod.fst heq).symm

/-- A reference finds the output of the transaction with its hash, whatever the comparison of
    references is. -/
theorem lookup_cellsOf [BEq (String × Nat)] [LawfulBEq (String × Nat)]
    (hhashes : (chain.map Committed.txHash).Nodup) (txHash : String) (i : Nat) :
    (cellsOf chain).lookup (txHash, i) =
      ((chain.find? fun tx => tx.txHash == txHash).bind fun tx => tx.body.outputs[i]?) := by
  have hfound : ∀ {output : CellOutput}, ((txHash, i), output) ∈ cellsOf chain →
      ((chain.find? fun tx => tx.txHash == txHash).bind fun tx => tx.body.outputs[i]?) =
        some output := by
    intro output hcell
    obtain ⟨tx, htx, hin⟩ := List.mem_flatMap.1 hcell
    obtain ⟨hhash, hget⟩ := mem_cells.1 hin
    have hhash : txHash = tx.txHash := hhash
    rw [hhash, find?_of_mem hhashes htx]
    exact hget
  cases hlook : (cellsOf chain).lookup (txHash, i) with
  | some output =>
    obtain ⟨before, after, hsplit, _⟩ := List.lookup_eq_some_iff.1 hlook
    exact (hfound (hsplit ▸ by simp)).symm
  | none =>
    rw [List.lookup_eq_none_iff] at hlook
    cases hfind : chain.find? fun tx => tx.txHash == txHash with
    | none => rfl
    | some tx =>
      have hhash : tx.txHash = txHash := by simpa using List.find?_some hfind
      cases hget : tx.body.outputs[i]? with
      | none => exact hget.symm
      | some output =>
        have hcell : ((txHash, i), output) ∈ cellsOf chain :=
          List.mem_flatMap.2 ⟨tx, List.mem_of_find?_eq_some hfind, mem_cells.2 ⟨hhash.symm, hget⟩⟩
        exact absurd rfl (bne_iff_ne.1 (hlook _ hcell))

end Cells

/-! ### What a lock gains -/

section Delta

variable (hchain : ChainHistory chain) (hnode : Honest chain lockScript provider entries position)

include hchain hnode

/-- An input that refers to a transaction of the chain spends what its reference is worth. -/
theorem spentBy_eq_ok {input : CellInput}
    (hknown : input.reference ∈ (cellsOf chain).map Prod.fst) :
    spentBy provider lockScript input = .ok (valueOf chain lockScript input.reference) := by
  obtain ⟨cell, hcell, hkey⟩ := List.mem_map.1 hknown
  obtain ⟨tx, htx, hin⟩ := List.mem_flatMap.1 hcell
  obtain ⟨hhash, hget⟩ := mem_cells.1 hin
  have hhash : input.previousOutput.txHash = tx.txHash :=
    (congrArg Prod.fst hkey).symm.trans hhash
  have hindex : cell.1.2 = quantity input.previousOutput.index := congrArg Prod.snd hkey
  have hvalue : valueOf chain lockScript input.reference = worth lockScript cell.2 := by
    unfold valueOf Ledger.valueAt CellInput.reference
    rw [@lookup_cellsOf chain instBEqOfDecidableEq inferInstance hchain.hashes, hhash,
      find?_of_mem hchain.hashes htx, ← hindex]
    simp [hget]
  unfold spentBy
  rw [hnode.body, hhash, find?_of_mem hchain.hashes htx, hvalue, ← hindex]
  simp [Except.bind, bind, hget]

/-- There is no transaction behind a cellbase input. -/
theorem spentBy_cellbase {input : CellInput} (hcellbase : input.isCellbase = true) :
    spentBy provider lockScript input =
      .error ⟨"transferHistory", "node does not know source transaction " ++
        input.previousOutput.txHash⟩ := by
  have hhash : input.previousOutput.txHash = cellbaseHash := beq_iff_eq.1 hcellbase
  have hnone : (chain.find? fun tx => tx.txHash == cellbaseHash) = none := by
    rw [List.find?_eq_none]
    intro tx htx heq
    exact hchain.cellbase (List.mem_map.2 ⟨tx, htx, beq_iff_eq.1 heq⟩)
  unfold spentBy
  rw [hnode.body, hhash, hnone]
  rfl

theorem subtractSpent_eq_ok_iff {inputs : List CellInput} {delta net : ℤ}
    (hmade : ∀ input ∈ inputs, input.isCellbase = false →
      input.reference ∈ (cellsOf chain).map Prod.fst) :
    subtractSpent provider lockScript delta inputs = .ok net ↔
      (∀ input ∈ inputs, input.isCellbase = false) ∧
        net = delta - (((inputs.filter fun input => !input.isCellbase).map
          CellInput.reference).map (valueOf chain lockScript)).sum := by
  induction inputs generalizing delta with
  | nil =>
    simp only [subtractSpent, Except.ok.injEq, List.not_mem_nil, false_implies, implies_true,
      true_and, List.filter_nil, List.map_nil, List.sum_nil, sub_zero]
    exact eq_comm
  | cons input inputs ih =>
    have hrest := @ih (delta - valueOf chain lockScript input.reference)
      fun input hin => hmade input (List.mem_cons_of_mem _ hin)
    rw [subtractSpent, bind_eq_ok_iff]
    cases hcellbase : input.isCellbase with
    | true =>
      rw [spentBy_cellbase hchain hnode hcellbase]
      constructor
      · rintro ⟨_, hspent, _⟩
        cases hspent
      · rintro ⟨hall, _⟩
        rw [hall input List.mem_cons_self] at hcellbase
        cases hcellbase
    | false =>
      rw [spentBy_eq_ok hchain hnode (hmade input List.mem_cons_self hcellbase)]
      have hsub : ∀ a b c : ℤ, a - (b + c) = a - b - c := by omega
      simp only [Except.ok.injEq, exists_eq_left', hrest, List.mem_cons, forall_eq_or_imp,
        hcellbase, true_and, List.filter_cons, Bool.not_false, if_true, List.map_cons,
        List.sum_cons, hsub]

theorem lockDelta_eq_ok_iff {tx : Committed} (htx : tx ∈ chain) {delta : ℤ} :
    lockDelta provider tx.txHash lockScript = .ok delta ↔
      (∀ input ∈ tx.body.inputs, input.isCellbase = false) ∧
        delta = trueDelta chain lockScript tx := by
  have hmade : ∀ input ∈ tx.body.inputs, input.isCellbase = false →
      input.reference ∈ (cellsOf chain).map Prod.fst := by
    intro input hin hcellbase
    refine hchain.made tx htx _ (List.mem_map_of_mem (List.mem_filter.2 ⟨hin, ?_⟩))
    rw [hcellbase]
    rfl
  unfold lockDelta
  rw [hnode.body, find?_of_mem hchain.hashes htx]
  exact subtractSpent_eq_ok_iff hchain hnode hmade

end Delta

/-! ### Paging -/

section Paging

/-- An entry and the record it leads to. -/
def Recorded (provider : Provider) (lockScript : Script) (entry : IndexedTransaction)
    (record : TransferRecord) : Prop :=
  transferRecord provider lockScript entry = .ok record

theorem transferRecords_eq_ok_iff {entries : List IndexedTransaction}
    {records : List TransferRecord} :
    transferRecords provider lockScript entries = .ok records ↔
      List.Forall₂ (Recorded provider lockScript) entries records := by
  induction entries generalizing records with
  | nil =>
    rw [List.forall₂_nil_left_iff, transferRecords, Except.ok.injEq]
    exact eq_comm
  | cons entry entries ih =>
    rw [List.forall₂_cons_left_iff, transferRecords, bind_eq_ok_iff]
    constructor
    · rintro ⟨first, hfirst, hmore⟩
      obtain ⟨rest, hrest, heq⟩ := bind_eq_ok_iff.1 hmore
      cases heq
      exact ⟨first, rest, hfirst, ih.1 hrest, rfl⟩
    · rintro ⟨first, rest, hfirst, hrest, rfl⟩
      exact ⟨first, hfirst, bind_eq_ok_iff.2 ⟨rest, ih.2 hrest, rfl⟩⟩

theorem Recorded.txHash {entry : IndexedTransaction} {record : TransferRecord}
    (h : Recorded provider lockScript entry record) : record.txHash = entry.txHash := by
  obtain ⟨delta, _, heq⟩ := bind_eq_ok_iff.1 h
  cases heq
  rfl

section Records

variable {entries : List IndexedTransaction} {records : List TransferRecord}

theorem hashes_of_recorded (h : List.Forall₂ (Recorded provider lockScript) entries records) :
    records.map TransferRecord.txHash = entries.map IndexedTransaction.txHash := by
  induction h with
  | nil => rfl
  | cons hfirst _ ih => rw [List.map_cons, List.map_cons, hfirst.txHash, ih]

theorem recorded_of_entry (h : List.Forall₂ (Recorded provider lockScript) entries records)
    {entry : IndexedTransaction} (hin : entry ∈ entries) :
    ∃ record ∈ records, Recorded provider lockScript entry record := by
  induction h with
  | nil => cases hin
  | @cons _ first _ _ hfirst _ ih =>
    rcases List.mem_cons.1 hin with rfl | hin
    · exact ⟨first, List.mem_cons_self, hfirst⟩
    · obtain ⟨record, hrecord, hrecorded⟩ := ih hin
      exact ⟨record, List.mem_cons_of_mem _ hrecord, hrecorded⟩

theorem entry_of_recorded (h : List.Forall₂ (Recorded provider lockScript) entries records)
    {record : TransferRecord} (hin : record ∈ records) :
    ∃ entry ∈ entries, Recorded provider lockScript entry record := by
  induction h with
  | nil => cases hin
  | @cons first _ _ _ hfirst _ ih =>
    rcases List.mem_cons.1 hin with rfl | hin
    · exact ⟨first, List.mem_cons_self, hfirst⟩
    · obtain ⟨entry, hentry, hrecorded⟩ := ih hin
      exact ⟨entry, List.mem_cons_of_mem _ hentry, hrecorded⟩

theorem exists_recorded
    (h : ∀ entry ∈ entries, ∃ record, Recorded provider lockScript entry record) :
    ∃ records, List.Forall₂ (Recorded provider lockScript) entries records := by
  induction entries with
  | nil => exact ⟨[], .nil⟩
  | cons entry entries ih =>
    obtain ⟨first, hfirst⟩ := h entry List.mem_cons_self
    obtain ⟨rest, hrest⟩ := ih fun other hin => h other (List.mem_cons_of_mem _ hin)
    exact ⟨first :: rest, .cons hfirst hrest⟩

end Records

/-- A page has the records of the entries that the indexer gave. -/
theorem transferHistory_eq_ok_iff {cursor : Option String} {limit : Option Nat}
    {count : Nat} {lastCursor : String} {page : TransferHistoryPage}
    (hpage : provider.findTransactions ⟨lockScript, limit.getD 20, cursor⟩ =
      .ok ⟨(entries.drop (position cursor)).take count, lastCursor⟩) :
    transferHistory provider lockScript cursor limit = .ok page ↔
      page.lastCursor = lastCursor ∧
        List.Forall₂ (Recorded provider lockScript)
          ((entries.drop (position cursor)).take count) page.records := by
  obtain ⟨records, last⟩ := page
  unfold transferHistory
  rw [hpage, ← transferRecords_eq_ok_iff]
  simp only [bind, Except.bind, pure, Except.pure]
  cases transferRecords provider lockScript ((entries.drop (position cursor)).take count) with
  | error err => simp
  | ok found =>
    simp only [Except.ok.injEq, TransferHistoryPage.mk.injEq]
    exact ⟨fun ⟨h1, h2⟩ => ⟨h2.symm, h1⟩, fun ⟨h1, h2⟩ => ⟨h2, h1.symm⟩⟩

variable (hnode : Honest chain lockScript provider entries position) {limit : Option Nat}
  (hlimit : 0 < limit.getD 20)

include hnode hlimit

/-- What paging yields are the records of the entries from the cursor on. -/
theorem paged_recorded {cursor : Option String} {records : List TransferRecord}
    (hpaged : Paged provider lockScript limit cursor records) :
    List.Forall₂ (Recorded provider lockScript) (entries.drop (position cursor)) records := by
  induction hpaged with
  | @last cursor lastCursor hpage =>
    obtain ⟨count, indexed, hfind, -, -, hprogress⟩ := hnode.page (limit.getD 20) cursor hlimit
    obtain ⟨-, hnone⟩ := (transferHistory_eq_ok_iff hfind).1 hpage
    rw [List.forall₂_nil_right_iff, List.take_eq_nil_iff] at hnone
    rcases hnone with hcount | hdrop
    · have hend : ¬ position cursor < entries.length := fun hlt => by
        have := hprogress hlt
        omega
      rw [List.drop_eq_nil_of_le (by omega)]
      exact .nil
    · rw [hdrop]
      exact .nil
  | @more cursor lastCursor records rest hpage _ _ ih =>
    obtain ⟨count, indexed, hfind, -, hnext, -⟩ := hnode.page (limit.getD 20) cursor hlimit
    obtain ⟨hcursor, hrecords⟩ := (transferHistory_eq_ok_iff hfind).1 hpage
    have hcursor : lastCursor = indexed := hcursor
    rw [hcursor, hnext, ← List.drop_drop] at ih
    rw [← List.take_append_drop count (entries.drop (position cursor))]
    exact List.rel_append hrecords ih

/-- Paging comes to the end: a page is empty at the end only, and takes the cursor on. -/
theorem recorded_paged {records : List TransferRecord} (cursor : Option String)
    (hrecords : List.Forall₂ (Recorded provider lockScript)
      (entries.drop (position cursor)) records) :
    Paged provider lockScript limit cursor records := by
  -- On the entries that are left.
  induction hleft : entries.length - position cursor using Nat.strong_induction_on
    generalizing cursor records with
  | _ left ih =>
    obtain ⟨count, indexed, hfind, -, hnext, hprogress⟩ := hnode.page (limit.getD 20) cursor hlimit
    have hfirst := List.forall₂_take count hrecords
    have hpage : transferHistory provider lockScript cursor limit =
        .ok ⟨records.take count, indexed⟩ := (transferHistory_eq_ok_iff hfind).2 ⟨rfl, hfirst⟩
    have hlength := hrecords.length_eq
    rw [List.length_drop] at hlength
    by_cases hend : position cursor < entries.length
    · have hcount := hprogress hend
      have hnonempty : records.take count ≠ [] := by
        intro hnil
        rcases List.take_eq_nil_iff.1 hnil with hzero | hnil
        · omega
        · rw [hnil, List.length_nil] at hlength
          omega
      have hrest := List.forall₂_drop count hrecords
      rw [List.drop_drop, ← hnext] at hrest
      have hpaged := ih _ (by omega) (some indexed) hrest rfl
      rw [← List.take_append_drop count records]
      exact .more hpage hnonempty hpaged
    · have hnil : records = [] := List.length_eq_zero_iff.1 (by omega)
      subst hnil
      rw [List.take_nil] at hpage
      exact .last hpage

theorem paged_none_iff {records : List TransferRecord} :
    Paged provider lockScript limit none records ↔
      List.Forall₂ (Recorded provider lockScript) entries records := by
  have hstart : entries.drop (position none) = entries := by
    rw [hnode.start]
    rfl
  constructor
  · intro hpaged
    rw [← hstart]
    exact paged_recorded hnode hlimit hpaged
  · intro hrecords
    exact recorded_paged hnode hlimit none (hstart.symm ▸ hrecords)

end Paging

/-! ### An exact history -/

section Exactness

theorem hash_of_mem_entriesOf {tx : Committed} {entry : IndexedTransaction}
    (hentry : entry ∈ entriesOf chain lockScript tx) : entry.txHash = tx.txHash := by
  rcases List.mem_append.1 hentry with hin | hin
  · obtain ⟨_, _, rfl⟩ := List.mem_map.1 hin
    rfl
  · obtain ⟨_, _, rfl⟩ := List.mem_map.1 hin
    rfl

theorem hashes_entriesOf (tx : Committed) :
    (entriesOf chain lockScript tx).map IndexedTransaction.txHash =
      List.replicate (entriesOf chain lockScript tx).length tx.txHash := by
  rw [List.eq_replicate_iff]
  refine ⟨List.length_map _, ?_⟩
  rintro txHash hin
  obtain ⟨entry, hentry, rfl⟩ := List.mem_map.1 hin
  exact hash_of_mem_entriesOf hentry

/-- The hash of a transaction appears once for each of its entries. -/
theorem count_entriesOf (whole : List Committed) (hhashes : (chain.map Committed.txHash).Nodup)
    {tx : Committed} (htx : tx ∈ chain) :
    ((chain.flatMap (entriesOf whole lockScript)).map IndexedTransaction.txHash).count tx.txHash =
      (entriesOf whole lockScript tx).length := by
  have hown : ∀ t : Committed, ((entriesOf whole lockScript t).map
      IndexedTransaction.txHash).count tx.txHash =
        if t.txHash = tx.txHash then (entriesOf whole lockScript t).length else 0 := by
    intro t
    rw [hashes_entriesOf, List.count_replicate]
    simp only [beq_iff_eq]
  induction chain with
  | nil => cases htx
  | cons first rest ih =>
    obtain ⟨hfirst, hrest⟩ := List.nodup_cons.1 hhashes
    rw [List.flatMap_cons, List.map_append, List.count_append, hown]
    rcases List.mem_cons.1 htx with rfl | hin
    · have hnone : ((rest.flatMap (entriesOf whole lockScript)).map
          IndexedTransaction.txHash).count tx.txHash = 0 := by
        rw [List.count_eq_zero]
        intro hmem
        obtain ⟨entry, hentry, hhash⟩ := List.mem_map.1 hmem
        obtain ⟨t, ht, hin⟩ := List.mem_flatMap.1 hentry
        rw [hash_of_mem_entriesOf hin] at hhash
        exact hfirst (hhash ▸ List.mem_map_of_mem ht)
      rw [if_pos rfl, hnone, Nat.add_zero]
    · have hne : first.txHash ≠ tx.txHash :=
        fun heq => hfirst (heq ▸ List.mem_map_of_mem hin)
      rw [if_neg hne, Nat.zero_add, ih hrest hin]

/-- Where each touched transaction has one entry, the entries list them. -/
theorem hashes_of_single (whole : List Committed)
    (hsingle : ∀ tx ∈ chain, Touches whole lockScript tx →
      (entriesOf whole lockScript tx).length = 1) :
    (chain.flatMap (entriesOf whole lockScript)).map IndexedTransaction.txHash =
      (chain.filter fun tx => Touches whole lockScript tx).map Committed.txHash := by
  induction chain with
  | nil => rfl
  | cons first rest ih =>
    rw [List.flatMap_cons, List.map_append, hashes_entriesOf, List.filter_cons,
      ih fun tx htx => hsingle tx (List.mem_cons_of_mem _ htx)]
    by_cases htouch : Touches whole lockScript first
    · rw [hsingle first List.mem_cons_self htouch, if_pos (decide_eq_true htouch)]
      rfl
    · have hnil : entriesOf whole lockScript first = [] := not_not.1 htouch
      rw [hnil, if_neg (by simpa using htouch)]
      rfl

/-- The hashes of the entries list each touched transaction once exactly when each has one
    entry. -/
theorem once_iff (hchain : ChainHistory chain)
    (hcomplete : entries.Perm (chain.flatMap (entriesOf chain lockScript))) :
    (entries.map IndexedTransaction.txHash).Perm
        ((chain.filter fun tx => Touches chain lockScript tx).map Committed.txHash) ↔
      ∀ tx ∈ chain, Touches chain lockScript tx → (entriesOf chain lockScript tx).length = 1 := by
  constructor
  · intro honce tx htx htouch
    have hnodup : ((chain.filter fun tx => Touches chain lockScript tx).map
        Committed.txHash).Nodup := hchain.hashes.sublist (List.filter_sublist.map _)
    rw [← count_entriesOf chain hchain.hashes htx, ← (hcomplete.map _).count_eq, honce.count_eq]
    exact List.count_eq_one_of_mem hnodup
      (List.mem_map_of_mem (List.mem_filter.2 ⟨htx, decide_eq_true htouch⟩))
  · intro hsingle
    rw [← hashes_of_single chain hsingle]
    exact hcomplete.map _

/-! What a transaction that does not touch the lock gains is nothing. -/

theorem worth_of_not_pays {output : CellOutput} (hpays : ¬ paysLock lockScript output = true) :
    worth lockScript output = 0 := if_neg hpays

theorem worth_of_untouched {tx : Committed} (htouch : ¬ Touches chain lockScript tx)
    {output : CellOutput} (hin : output ∈ tx.body.outputs) : worth lockScript output = 0 := by
  have hnil := (List.append_eq_nil_iff.1 (not_not.1 htouch)).1
  rw [List.map_eq_nil_iff, List.filter_eq_nil_iff] at hnil
  obtain ⟨i, hget⟩ := List.mem_iff_getElem?.1 hin
  exact worth_of_not_pays (hnil (output, i) (List.mem_zipIdx_iff_getElem?.2 hget))

theorem valueOf_of_untouched (hhashes : (chain.map Committed.txHash).Nodup) {tx : Committed}
    (htouch : ¬ Touches chain lockScript tx) {reference : String × Nat}
    (hin : reference ∈ tx.spends) : valueOf chain lockScript reference = 0 := by
  obtain ⟨input, hinput, rfl⟩ := List.mem_map.1 hin
  obtain ⟨hinput, hcellbase⟩ := List.mem_filter.1 hinput
  have hnil := (List.append_eq_nil_iff.1 (not_not.1 htouch)).2
  rw [List.map_eq_nil_iff, List.filter_eq_nil_iff] at hnil
  obtain ⟨i, hget⟩ := List.mem_iff_getElem?.1 hinput
  have hspends : ¬ spendsLock chain lockScript input = true :=
    hnil (input, i) (List.mem_zipIdx_iff_getElem?.2 hget)
  unfold spendsLock CellInput.reference at hspends
  rw [hcellbase, Bool.true_and, lookup_cellsOf hhashes] at hspends
  unfold valueOf Ledger.valueAt CellInput.reference
  rw [@lookup_cellsOf chain instBEqOfDecidableEq inferInstance hhashes]
  cases hcell : (chain.find? fun t => t.txHash == input.previousOutput.txHash).bind
      fun t => t.body.outputs[quantity input.previousOutput.index]? with
  | none => rfl
  | some output =>
    rw [hcell] at hspends
    have hpays : ¬ paysLock lockScript output = true := hspends
    rw [Option.map_some, Option.getD_some, worth_of_not_pays hpays]

theorem trueDelta_of_untouched (hhashes : (chain.map Committed.txHash).Nodup) {tx : Committed}
    (htouch : ¬ Touches chain lockScript tx) : trueDelta chain lockScript tx = 0 := by
  have houtputs : (tx.body.outputs.map (worth lockScript)).sum = 0 :=
    List.sum_eq_zero fun value hvalue => by
      obtain ⟨output, hin, rfl⟩ := List.mem_map.1 hvalue
      exact worth_of_untouched htouch hin
  have hspends : (tx.spends.map (valueOf chain lockScript)).sum = 0 :=
    List.sum_eq_zero fun value hvalue => by
      obtain ⟨reference, hin, rfl⟩ := List.mem_map.1 hvalue
      exact valueOf_of_untouched hhashes htouch hin
  rw [trueDelta, houtputs, hspends, sub_zero]

theorem sum_touched (whole : List Committed) (hwhole : (whole.map Committed.txHash).Nodup) :
    ((chain.filter fun tx => Touches whole lockScript tx).map (trueDelta whole lockScript)).sum =
      (chain.map (trueDelta whole lockScript)).sum := by
  induction chain with
  | nil => rfl
  | cons first rest ih =>
    rw [List.filter_cons, List.map_cons, List.sum_cons, ← ih]
    by_cases htouch : Touches whole lockScript first
    · rw [if_pos (decide_eq_true htouch), List.map_cons, List.sum_cons]
    · rw [if_neg (by simpa using htouch), trueDelta_of_untouched hwhole htouch, zero_add]

theorem total_cells (tx : Committed) :
    Ledger.total (worth lockScript) tx.cells = (tx.body.outputs.map (worth lockScript)).sum := by
  unfold Ledger.total Committed.cells
  rw [List.map_map]
  conv_rhs => rw [← List.zipIdx_map_fst 0 tx.body.outputs, List.map_map]
  rfl

theorem sum_trueDelta (whole : List Committed) :
    (chain.map (trueDelta whole lockScript)).sum =
      Ledger.total (worth lockScript) (cellsOf chain) -
        ((chain.flatMap Committed.spends).map (valueOf whole lockScript)).sum := by
  induction chain with
  | nil => rfl
  | cons first rest ih =>
    have hcells : Ledger.total (worth lockScript) (cellsOf (first :: rest)) =
        (first.body.outputs.map (worth lockScript)).sum +
          Ledger.total (worth lockScript) (cellsOf rest) := by
      rw [← total_cells]
      simp only [Ledger.total, cellsOf, List.flatMap_cons, List.map_append, List.sum_append]
    rw [List.map_cons, List.sum_cons, ih, hcells, List.flatMap_cons, List.map_append,
      List.sum_append, trueDelta]
    omega

/-- The true deltas of the touched transactions sum to the lock's current total. -/
theorem sum_touched_eq_currentTotal (hchain : ChainHistory chain) :
    ((chain.filter fun tx => Touches chain lockScript tx).map (trueDelta chain lockScript)).sum =
      currentTotal chain lockScript := by
  rw [sum_touched chain hchain.hashes, sum_trueDelta, currentTotal,
    Ledger.total_unspent (keys_nodup hchain.hashes) hchain.spentOnce]
  rfl

/-- Records that list the touched transactions once, each with its true delta, sum to the total. -/
theorem total_of_once (hchain : ChainHistory chain) {records : List TransferRecord}
    (honce : (records.map TransferRecord.txHash).Perm
      ((chain.filter fun tx => Touches chain lockScript tx).map Committed.txHash))
    (hdelta : ∀ record ∈ records, ∀ tx ∈ chain, tx.txHash = record.txHash →
      record.deltaShannon = trueDelta chain lockScript tx) :
    (records.map TransferRecord.deltaShannon).sum = currentTotal chain lockScript := by
  let deltaOf : String → ℤ := fun txHash =>
    ((chain.find? fun tx => tx.txHash == txHash).map (trueDelta chain lockScript)).getD 0
  have hof : ∀ tx ∈ chain, deltaOf tx.txHash = trueDelta chain lockScript tx := by
    intro tx htx
    simp only [deltaOf, find?_of_mem hchain.hashes htx, Option.map_some, Option.getD_some]
  have hrecords : records.map TransferRecord.deltaShannon =
      (records.map TransferRecord.txHash).map deltaOf := by
    rw [List.map_map]
    refine List.map_congr_left fun record hrecord => ?_
    obtain ⟨tx, htx, hhash⟩ := List.mem_map.1 (honce.mem_iff.1 (List.mem_map_of_mem hrecord))
    have htx : tx ∈ chain := (List.mem_filter.1 htx).1
    rw [hdelta record hrecord tx htx hhash, ← hof tx htx, hhash]
    rfl
  rw [hrecords, (honce.map deltaOf).sum_eq, List.map_map, ← sum_touched_eq_currentTotal hchain]
  refine congrArg List.sum (List.map_congr_left fun tx htx => ?_)
  exact hof tx (List.mem_filter.1 htx).1

end Exactness

section History

/-- An entry is one of a touched transaction. -/
theorem exists_of_entry (hnode : Honest chain lockScript provider entries position)
    {entry : IndexedTransaction} (hentry : entry ∈ entries) :
    ∃ tx ∈ chain, Touches chain lockScript tx ∧ entry.txHash = tx.txHash := by
  obtain ⟨tx, htx, hin⟩ := List.mem_flatMap.1 (hnode.complete.mem_iff.1 hentry)
  exact ⟨tx, htx, List.ne_nil_of_mem hin, hash_of_mem_entriesOf hin⟩

variable (hchain : ChainHistory chain) (hnode : Honest chain lockScript provider entries position)

include hchain hnode

/-- A record is that of its transaction, which has no cellbase input. -/
theorem recorded_iff {entry : IndexedTransaction} {record : TransferRecord} {tx : Committed}
    (htx : tx ∈ chain) (hhash : entry.txHash = tx.txHash) :
    Recorded provider lockScript entry record ↔
      (∀ input ∈ tx.body.inputs, input.isCellbase = false) ∧
        record = ⟨tx.txHash, trueDelta chain lockScript tx,
          directionOf (trueDelta chain lockScript tx), entry.blockNumber⟩ := by
  unfold Recorded transferRecord
  rw [bind_eq_ok_iff, hhash]
  constructor
  · rintro ⟨delta, hdelta, heq⟩
    obtain ⟨hcellbase, rfl⟩ := (lockDelta_eq_ok_iff hchain hnode htx).1 hdelta
    cases heq
    exact ⟨hcellbase, rfl⟩
  · rintro ⟨hcellbase, rfl⟩
    exact ⟨_, (lockDelta_eq_ok_iff hchain hnode htx).2 ⟨hcellbase, rfl⟩, rfl⟩

end History

/-! ### A node that serves a chain -/

section Served

/-- How far a cursor is into the entries: as long as its text. -/
def positionOf (cursor : Option String) : Nat := (cursor.map String.length).getD 0

def servedBy (chain : List Committed) (entries : List IndexedTransaction) : Provider where
  findTransactions query :=
    .ok ⟨(entries.drop (positionOf query.after)).take query.limit,
      String.ofList (List.replicate (positionOf query.after + query.limit) 'f')⟩
  getTransactionBody txHash :=
    .ok ((chain.find? fun tx => tx.txHash == txHash).map Committed.body)

theorem servedBy_honest (hcomplete : entries.Perm (chain.flatMap (entriesOf chain lockScript))) :
    Honest chain lockScript (servedBy chain entries) entries positionOf where
  complete := hcomplete
  start := rfl
  page limit after hlimit := by
    refine ⟨limit, _, rfl, le_rfl, ?_, fun _ => hlimit⟩
    simp [positionOf]
  body _ := rfl

def repeated (digit : Char) : String := "0x" ++ String.ofList (List.replicate 64 digit)

def lockOf (digit : Char) : Script := ⟨repeated digit, .type, "0x"⟩

def cell (capacity : String) (owner : Char) : CellOutput := ⟨capacity, lockOf owner, none⟩

/-- The genesis: a cell of the lock `b`, under a cellbase input. -/
def genesis : Committed where
  txHash := repeated '1'
  blockNumber := "0x0"
  txIndex := "0x0"
  body := ⟨"0x0", [], [], [⟨⟨cellbaseHash, "0xffffffff"⟩, "0x0"⟩], [cell "0x3e8" 'b'], ["0x"], ["0x"]⟩

/-- The lock `b` pays the lock `a`. -/
def payment : Committed where
  txHash := repeated '2'
  blockNumber := "0x1"
  txIndex := "0x1"
  body := ⟨"0x0", [], [], [⟨⟨repeated '1', "0x0"⟩, "0x0"⟩], [cell "0x258" 'a', cell "0x190" 'b'],
    ["0x", "0x"], ["0x"]⟩

/-- The lock `a` pays a part of it back, and keeps the change. -/
def change : Committed where
  txHash := repeated '3'
  blockNumber := "0x2"
  txIndex := "0x1"
  body := ⟨"0x0", [], [], [⟨⟨repeated '2', "0x0"⟩, "0x0"⟩], [cell "0xc8" 'b', cell "0x190" 'a'],
    ["0x", "0x"], ["0x"]⟩

theorem chain_with_change : ChainHistory [genesis, payment, change] where
  hashes := by decide +kernel
  cellbase := by decide +kernel
  made := by decide +kernel
  spentOnce := by decide +kernel

theorem chain_with_payment : ChainHistory [genesis, payment] where
  hashes := by decide +kernel
  cellbase := by decide +kernel
  made := by decide +kernel
  spentOnce := by decide +kernel

end Served

end cemp.ckb.client
