import CempMobile.Database.Balances

namespace cemp.database

/-- A row of `wallet_balances`. Its columns are decimal texts, which the code reads as `bigint`s. -/
structure BalanceRow where
  totalShannon : Int
  availableShannon : Int
  reservedShannon : Int
  reclaimableShannon : Int
  pendingShannon : Int
  deriving DecidableEq, Repr

def BalanceRow.get (row : BalanceRow) : BalanceCategory → Int
  | .available_shannon => row.availableShannon
  | .reserved_shannon => row.reservedShannon
  | .reclaimable_shannon => row.reclaimableShannon

def BalanceRow.set (row : BalanceRow) (category : BalanceCategory) (amount : Int) : BalanceRow :=
  match category with
  | .available_shannon => { row with availableShannon := amount }
  | .reserved_shannon => { row with reservedShannon := amount }
  | .reclaimable_shannon => { row with reclaimableShannon := amount }

/-- The rows by their wallet. -/
abbrev BalanceTable : Type := Nat → Option BalanceRow

/-- `CAST(text AS INTEGER)` of a decimal text. What does not fit in 64 bits is clamped. -/
def castInteger (n : Int) : Int := max (-2 ^ 63) (min n (2 ^ 63 - 1))

namespace BalanceTable

/-- `UPDATE wallet_balances SET … WHERE wallet_id = ?`. -/
def update (walletId : Nat) (f : BalanceRow → BalanceRow) (table : BalanceTable) : BalanceTable :=
  fun id => if id = walletId then (table id).map f else table id

def getBalance (walletId : Nat) (table : BalanceTable) : Except Error BalanceRow :=
  match table walletId with
  | none => .error (.database .not_found ("wallet " ++ toString walletId ++ " has no balance row"))
  | some row => .ok row

/-- How a refresh splits the chain's total over the two protocol categories, given what they hold:
    what is missing is reserved, what is too much is taken from `reserved` first. -/
def reconcile (chainReserved reserved reclaimable : Int) : Int × Int :=
  if chainReserved < reserved + reclaimable then
    let reclaimable := if chainReserved < reclaimable then chainReserved else reclaimable
    (chainReserved - reclaimable, reclaimable)
  else if reserved + reclaimable < chainReserved then (chainReserved - reclaimable, reclaimable)
  else (reserved, reclaimable)

/-- Sets the categories that a refresh reads from the chain, and reconciles the protocol categories
    where it has a chain total for them. -/
def setChainBalances (walletId : Nat) (totalShannon availableShannon : Int)
    (chainReserved : Option Int) (table : BalanceTable) : Except Error Unit × BalanceTable :=
  match chainReserved with
  | none =>
    (.ok (), table.update walletId fun row =>
      { row with totalShannon := totalShannon, availableShannon := availableShannon })
  | some chainReserved =>
    match table.getBalance walletId with
    | .error e => (.error e, table)
    | .ok balance =>
      let split := reconcile chainReserved balance.reservedShannon balance.reclaimableShannon
      (.ok (), table.update walletId fun row =>
        { row with
          totalShannon := totalShannon
          availableShannon := availableShannon
          reservedShannon := split.1
          reclaimableShannon := split.2 })

/-- The move between two categories, on the row as it is stored. -/
def move (walletId : Nat) (source target : BalanceCategory) (amount : Int) (table : BalanceTable) :
    Except Error Unit × BalanceTable :=
  if amount ≤ 0 then
    (.error (.database .constraint_violation "capacity move amount must be positive"), table)
  else
    match table.getBalance walletId with
    | .error e => (.error e, table)
    | .ok balance =>
      if balance.get source < amount then
        (.error (.database .constraint_violation ("insufficient " ++ source.text ++ ": have " ++
          toString (balance.get source) ++ ", need " ++ toString amount)), table)
      else
        (.ok (), table.update walletId fun row =>
          (row.set source (balance.get source - amount)).set target (balance.get target + amount))

/-- Writes off a fee in SQL, by integer casts. Neither side is negative when it is called, so the
    difference of the casts does not overflow. -/
def recordFeeBurn (walletId : Nat) (amountShannon : Int) (table : BalanceTable) :
    Except Error Unit × BalanceTable :=
  if amountShannon ≤ 0 then (.ok (), table)
  else
    let burned : BalanceRow → Int := fun row =>
      max 0 (castInteger row.reclaimableShannon - castInteger amountShannon)
    (.ok (), table.update walletId fun row => { row with reclaimableShannon := burned row })

end BalanceTable

/-- The calls that change balances. -/
inductive LedgerCall where
  | setChainBalances (walletId : Nat) (totalShannon availableShannon : Int)
      (chainReserved : Option Int)
  | reserveCapacity (walletId : Nat) (amountShannon : Int)
  | markReclaimable (walletId : Nat) (amountShannon : Int)
  | releaseReclaimedCapacity (walletId : Nat) (amountShannon : Int)
  | recordFeeBurn (walletId : Nat) (amountShannon : Int)
  deriving DecidableEq, Repr

namespace LedgerCall

def walletId : LedgerCall → Nat
  | setChainBalances walletId .. => walletId
  | reserveCapacity walletId _ => walletId
  | markReclaimable walletId _ => walletId
  | releaseReclaimedCapacity walletId _ => walletId
  | recordFeeBurn walletId _ => walletId

def exec : LedgerCall → BalanceTable → Except Error Unit × BalanceTable
  | setChainBalances walletId total available chainReserved =>
    BalanceTable.setChainBalances walletId total available chainReserved
  | reserveCapacity walletId amount =>
    BalanceTable.move walletId .available_shannon .reserved_shannon amount
  | markReclaimable walletId amount =>
    BalanceTable.move walletId .reserved_shannon .reclaimable_shannon amount
  | releaseReclaimedCapacity walletId amount =>
    BalanceTable.move walletId .reclaimable_shannon .available_shannon amount
  | recordFeeBurn walletId amount => BalanceTable.recordFeeBurn walletId amount

def amounts : LedgerCall → List Int
  | setChainBalances _ total available chainReserved => total :: available :: chainReserved.toList
  | reserveCapacity _ amount => [amount]
  | markReclaimable _ amount => [amount]
  | releaseReclaimedCapacity _ amount => [amount]
  | recordFeeBurn _ amount => [amount]

/-- The amounts are shannons that SQLite's integers can hold. -/
def InRange (call : LedgerCall) : Prop := ∀ amount ∈ call.amounts, 0 ≤ amount ∧ amount < 2 ^ 63

instance (call : LedgerCall) : Decidable call.InRange :=
  inferInstanceAs (Decidable (∀ amount ∈ call.amounts, 0 ≤ amount ∧ amount < 2 ^ 63))

end LedgerCall

/-- No bucket is negative. -/
structure BalanceRow.NonNegative (row : BalanceRow) : Prop where
  total : 0 ≤ row.totalShannon
  available : 0 ≤ row.availableShannon
  reserved : 0 ≤ row.reservedShannon
  reclaimable : 0 ≤ row.reclaimableShannon
  pending : 0 ≤ row.pendingShannon

def BalanceTable.NonNegative (table : BalanceTable) : Prop :=
  ∀ walletId row, table walletId = some row → row.NonNegative

/-- The sum of the buckets that capacity is moved between. -/
def BalanceRow.sum (row : BalanceRow) : Int :=
  row.availableShannon + row.reservedShannon + row.reclaimableShannon + row.pendingShannon

/-- A move conserves the sum, carries exactly its amount, and is refused where the source is
    insufficient. -/
structure MoveLaw (source target : BalanceCategory) (amount : Int) (row row' : BalanceRow) :
    Prop where
  conserved : row'.sum = row.sum
  refused : row.get source < amount → row' = row
  carried : 0 < amount → amount ≤ row.get source →
    row' = (row.set source (row.get source - amount)).set target (row.get target + amount)

/-- A refresh makes the protocol categories add up to the chain's total, and does not make
    anything reclaimable. -/
structure RefreshLaw (chainReserved : Int) (row row' : BalanceRow) : Prop where
  total : row'.reservedShannon + row'.reclaimableShannon = chainReserved
  reclaimable : row'.reclaimableShannon ≤ row.reclaimableShannon

/-- What a call has to do to the row of its wallet. -/
def LedgerCall.Law : LedgerCall → BalanceRow → BalanceRow → Prop
  | setChainBalances _ total available none, row, row' =>
    row' = { row with totalShannon := total, availableShannon := available }
  | setChainBalances _ _ _ (some chainReserved), row, row' => RefreshLaw chainReserved row row'
  | reserveCapacity _ amount, row, row' =>
    MoveLaw .available_shannon .reserved_shannon amount row row'
  | markReclaimable _ amount, row, row' =>
    MoveLaw .reserved_shannon .reclaimable_shannon amount row row'
  | releaseReclaimedCapacity _ amount, row, row' =>
    MoveLaw .reclaimable_shannon .available_shannon amount row row'
  | recordFeeBurn _ amount, row, row' =>
    row' = { row with
      reclaimableShannon := row.reclaimableShannon - min amount row.reclaimableShannon }

/-- A call keeps the law on its wallet's row, leaves the other rows, and no bucket is negative
    after it. -/
structure LedgerCall.Lawful (call : LedgerCall) (table : BalanceTable) : Prop where
  nonNegative : (call.exec table).2.NonNegative
  row : ∀ row, table call.walletId = some row →
    ∃ row', (call.exec table).2 call.walletId = some row' ∧ call.Law row row'
  others : ∀ id, id ≠ call.walletId → (call.exec table).2 id = table id

/-- Every call of a sequence is lawful where it is made. -/
def LawfulRun : BalanceTable → List LedgerCall → Prop
  | _, [] => True
  | table, call :: calls => call.Lawful table ∧ LawfulRun (call.exec table).2 calls

/-- A fee is only burned from a bucket that the integer cast reads exactly. -/
def LedgerCall.CastsExactly : LedgerCall → BalanceTable → Prop
  | recordFeeBurn walletId amount, table =>
    0 < amount → ∀ row, table walletId = some row → row.reclaimableShannon < 2 ^ 63
  | _, _ => True

def CastsExactlyRun : BalanceTable → List LedgerCall → Prop
  | _, [] => True
  | table, call :: calls => call.CastsExactly table ∧ CastsExactlyRun (call.exec table).2 calls

section Laws

variable {table : BalanceTable} {row : BalanceRow} {id walletId : Nat}
  {source target : BalanceCategory} {amount : Int} {f : BalanceRow → BalanceRow}

namespace BalanceTable

@[simp] theorem update_self : table.update walletId f walletId = (table walletId).map f := if_pos rfl

theorem update_of_ne (h : id ≠ walletId) : table.update walletId f id = table id := if_neg h

theorem NonNegative.update (h : table.NonNegative)
    (hf : ∀ row, table walletId = some row → row.NonNegative → (f row).NonNegative) :
    (table.update walletId f).NonNegative := by
  intro id row hrow
  by_cases hid : id = walletId
  · subst hid
    rw [update_self] at hrow
    obtain ⟨old, hold, rfl⟩ := Option.map_eq_some_iff.1 hrow
    exact hf old hold (h id old hold)
  · rw [update_of_ne hid] at hrow
    exact h id row hrow

theorem getBalance_eq_ok : table.getBalance walletId = .ok row ↔ table walletId = some row := by
  unfold getBalance
  cases table walletId <;> simp

/-- A move is refused and changes nothing, or carries its amount. -/
theorem move_cases (walletId : Nat) (source target : BalanceCategory) (amount : Int)
    (table : BalanceTable) :
    (move walletId source target amount table).2 = table ∧
        (∀ row, table walletId = some row → amount ≤ 0 ∨ row.get source < amount) ∨
      ∃ row, table walletId = some row ∧ 0 < amount ∧ amount ≤ row.get source ∧
        (move walletId source target amount table).2 = table.update walletId fun _ =>
          (row.set source (row.get source - amount)).set target (row.get target + amount) := by
  unfold move
  by_cases hpositive : amount ≤ 0
  · rw [if_pos hpositive]
    exact .inl ⟨rfl, fun _ _ => .inl hpositive⟩
  rw [if_neg hpositive]
  cases hget : table.getBalance walletId with
  | error e =>
    refine .inl ⟨rfl, fun row hrow => ?_⟩
    rw [getBalance_eq_ok.2 hrow] at hget
    cases hget
  | ok balance =>
    have hrow := getBalance_eq_ok.1 hget
    by_cases hshort : balance.get source < amount
    · refine .inl ⟨?_, fun row hrow' => ?_⟩
      · simp only [if_pos hshort]
      · obtain rfl := Option.some.inj (hrow.symm.trans hrow')
        exact .inr hshort
    · refine .inr ⟨balance, hrow, by omega, by omega, ?_⟩
      simp only [if_neg hshort]
      funext id
      by_cases hid : id = walletId
      · subst hid
        rw [update_self, update_self, hrow]
        rfl
      · rw [update_of_ne hid, update_of_ne hid]

end BalanceTable

theorem moved_sum (hne : source ≠ target) (row : BalanceRow) (amount : Int) :
    ((row.set source (row.get source - amount)).set target (row.get target + amount)).sum =
      row.sum := by
  cases source <;> cases target <;>
    simp only [ne_eq, not_true_eq_false, BalanceRow.get, BalanceRow.set, BalanceRow.sum] at * <;>
    omega

theorem moved_nonNegative (hne : source ≠ target) (h : row.NonNegative) (hpositive : 0 < amount)
    (henough : amount ≤ row.get source) :
    ((row.set source (row.get source - amount)).set target
      (row.get target + amount)).NonNegative := by
  obtain ⟨htotal, havailable, hreserved, hreclaimable, hpending⟩ := h
  cases source <;> cases target <;>
    simp only [ne_eq, not_true_eq_false, BalanceRow.get] at * <;>
    constructor <;> simp only [BalanceRow.set] <;> omega

/-- A move on the row of its wallet is lawful. -/
theorem move_law (hne : source ≠ target) (h : table.NonNegative) :
    (BalanceTable.move walletId source target amount table).2.NonNegative ∧
      (∀ row, table walletId = some row → ∃ row',
        (BalanceTable.move walletId source target amount table).2 walletId = some row' ∧
          MoveLaw source target amount row row') ∧
      ∀ id, id ≠ walletId →
        (BalanceTable.move walletId source target amount table).2 id = table id := by
  obtain ⟨hsame, hrefused⟩ | ⟨balance, hbalance, hpositive, henough, hmoved⟩ :=
    BalanceTable.move_cases walletId source target amount table
  · rw [hsame]
    refine ⟨h, fun row hrow => ⟨row, hrow, rfl, fun _ => rfl, fun hpositive henough => ?_⟩,
      fun _ _ => rfl⟩
    have hnot := hrefused row hrow
    omega
  · rw [hmoved]
    refine ⟨?_, fun row hrow => ?_, fun id hid => BalanceTable.update_of_ne hid⟩
    · refine h.update fun row hrow hrow₀ => ?_
      obtain rfl := Option.some.inj (hbalance.symm.trans hrow)
      exact moved_nonNegative hne hrow₀ hpositive henough
    · obtain rfl := Option.some.inj (hbalance.symm.trans hrow)
      rw [BalanceTable.update_self, hbalance]
      refine ⟨_, rfl, moved_sum hne balance amount, fun hshort => ?_, fun _ _ => rfl⟩
      omega

/-- A call that rewrites the row of its wallet is lawful when its law holds of the new row. -/
theorem lawful_of_update {call : LedgerCall} (h : table.NonNegative)
    (hexec : (call.exec table).2 = table.update call.walletId f)
    (hlaw : ∀ row, table call.walletId = some row → row.NonNegative →
      (f row).NonNegative ∧ call.Law row (f row)) : call.Lawful table := by
  refine ⟨?_, fun row hrow => ?_, fun id hid => ?_⟩
  · rw [hexec]
    exact h.update fun row hrow hrow₀ => (hlaw row hrow hrow₀).1
  · refine ⟨f row, ?_, (hlaw row hrow (h _ row hrow)).2⟩
    rw [hexec, BalanceTable.update_self, hrow, Option.map_some]
  · rw [hexec, BalanceTable.update_of_ne hid]

theorem lawful_of_absent {call : LedgerCall} (h : table.NonNegative)
    (hexec : (call.exec table).2 = table) (habsent : table call.walletId = none) :
    call.Lawful table := by
  refine ⟨by rw [hexec]; exact h, fun row hrow => ?_, fun _ _ => by rw [hexec]⟩
  rw [habsent] at hrow
  cases hrow

theorem reconcile_law {chainReserved reserved reclaimable : Int} (hchain : 0 ≤ chainReserved)
    (hreserved : 0 ≤ reserved) (hreclaimable : 0 ≤ reclaimable) :
    let split := BalanceTable.reconcile chainReserved reserved reclaimable
    0 ≤ split.1 ∧ 0 ≤ split.2 ∧ split.1 + split.2 = chainReserved ∧ split.2 ≤ reclaimable := by
  unfold BalanceTable.reconcile
  split_ifs <;> simp only <;> omega

/-- A refresh is lawful. -/
theorem refresh_lawful {total available : Int} {chainReserved : Option Int} (h : table.NonNegative)
    (hrange : (LedgerCall.setChainBalances walletId total available chainReserved).InRange) :
    (LedgerCall.setChainBalances walletId total available chainReserved).Lawful table := by
  have htotal := (hrange total List.mem_cons_self).1
  have havailable := (hrange available (List.mem_cons_of_mem _ List.mem_cons_self)).1
  cases chainReserved with
  | none =>
    refine lawful_of_update h rfl fun row _ hrow => ⟨?_, rfl⟩
    exact ⟨htotal, havailable, hrow.reserved, hrow.reclaimable, hrow.pending⟩
  | some chainReserved =>
    have hchain : 0 ≤ chainReserved := by
      refine (hrange chainReserved ?_).1
      simp [LedgerCall.amounts]
    cases hrow : table walletId with
    | none =>
      refine lawful_of_absent h ?_ hrow
      simp only [LedgerCall.exec, BalanceTable.setChainBalances, BalanceTable.getBalance, hrow]
    | some balance =>
      let split :=
        BalanceTable.reconcile chainReserved balance.reservedShannon balance.reclaimableShannon
      let refreshed : BalanceRow → BalanceRow := fun row =>
        ⟨total, available, split.1, split.2, row.pendingShannon⟩
      have hexec : ((LedgerCall.setChainBalances walletId total available
          (some chainReserved)).exec table).2 = table.update walletId refreshed := by
        simp only [LedgerCall.exec, BalanceTable.setChainBalances,
          BalanceTable.getBalance_eq_ok.2 hrow]
        rfl
      refine lawful_of_update h hexec fun row hrow' hrow₀ => ?_
      obtain rfl := Option.some.inj (hrow.symm.trans hrow')
      obtain ⟨hfirst, hsecond, hsum, hle⟩ := reconcile_law hchain hrow₀.reserved hrow₀.reclaimable
      exact ⟨⟨htotal, havailable, hfirst, hsecond, hrow₀.pending⟩, hsum, hle⟩

theorem castInteger_eq {n : Int} (h₀ : 0 ≤ n) (h : n < 2 ^ 63) : castInteger n = n := by
  unfold castInteger
  omega

/-- A bucket that the cast clamps loses more than the fee. -/
theorem burned_ne {bucket : Int} (h : 2 ^ 63 ≤ bucket) (hpositive : 0 < amount)
    (hrange : amount < 2 ^ 63) :
    max 0 (castInteger bucket - castInteger amount) ≠ bucket - min amount bucket := by
  rw [castInteger_eq hpositive.le hrange]
  unfold castInteger
  omega

/-- A fee burn is lawful exactly where the cast reads the bucket. -/
theorem recordFeeBurn_lawful_iff (h : table.NonNegative)
    (hrange : (LedgerCall.recordFeeBurn walletId amount).InRange) :
    (LedgerCall.recordFeeBurn walletId amount).Lawful table ↔
      (LedgerCall.recordFeeBurn walletId amount).CastsExactly table := by
  obtain ⟨hnonneg, hsmall⟩ := hrange amount List.mem_cons_self
  by_cases hzero : amount ≤ 0
  · have hexec : ((LedgerCall.recordFeeBurn walletId amount).exec table).2 = table := by
      simp only [LedgerCall.exec, BalanceTable.recordFeeBurn, if_pos hzero]
    refine iff_of_true ⟨by rw [hexec]; exact h, fun row hrow => ⟨row, by rw [hexec]; exact hrow, ?_⟩,
      fun _ _ => by rw [hexec]⟩ fun hpositive => by omega
    have hreclaimable := (h _ row hrow).reclaimable
    have hsame : row.reclaimableShannon - min amount row.reclaimableShannon =
      row.reclaimableShannon := by omega
    rw [LedgerCall.Law, hsame]
  have hpositive : 0 < amount := by omega
  let burned : BalanceRow → BalanceRow := fun row =>
    ⟨row.totalShannon, row.availableShannon, row.reservedShannon,
      max 0 (castInteger row.reclaimableShannon - castInteger amount), row.pendingShannon⟩
  have hexec : ((LedgerCall.recordFeeBurn walletId amount).exec table).2 =
      table.update walletId burned := by
    simp only [LedgerCall.exec, BalanceTable.recordFeeBurn, if_neg hzero]
    rfl
  constructor
  · intro hlawful _ row hrow
    by_contra hlarge
    obtain ⟨row', hrow', hlaw⟩ := hlawful.row row hrow
    rw [hexec, LedgerCall.walletId, BalanceTable.update_self, hrow] at hrow'
    obtain rfl := Option.some.inj hrow'
    have hbucket := congrArg BalanceRow.reclaimableShannon hlaw
    exact burned_ne (not_lt.1 hlarge) hpositive hsmall hbucket
  · intro hcasts
    refine lawful_of_update h hexec fun row hrow hrow₀ => ?_
    have hbucket := castInteger_eq hrow₀.reclaimable (hcasts hpositive row hrow)
    have hfee := castInteger_eq hnonneg hsmall
    refine ⟨⟨hrow₀.total, hrow₀.available, hrow₀.reserved, le_max_left .., hrow₀.pending⟩, ?_⟩
    have hreclaimable := hrow₀.reclaimable
    have hsame : max 0 (castInteger row.reclaimableShannon - castInteger amount) =
        row.reclaimableShannon - min amount row.reclaimableShannon := by
      rw [hbucket, hfee]
      omega
    exact congrArg (fun bucket => { row with reclaimableShannon := bucket }) hsame

theorem move_lawful {call : LedgerCall} (hne : source ≠ target) (h : table.NonNegative)
    (hexec : call.exec table = BalanceTable.move call.walletId source target amount table)
    (hlaw : ∀ row row', MoveLaw source target amount row row' → call.Law row row') :
    call.Lawful table := by
  obtain ⟨hnonneg, hrow, hothers⟩ := move_law hne h
  refine ⟨by rw [hexec]; exact hnonneg, fun row hget => ?_, fun id hid => ?_⟩
  · obtain ⟨row', hget', hmoved⟩ := hrow row hget
    exact ⟨row', by rw [hexec]; exact hget', hlaw row row' hmoved⟩
  · rw [hexec]
    exact hothers id hid

/-- A call is lawful exactly where it burns no fee from a bucket that the cast clamps. -/
theorem lawful_iff (call : LedgerCall) (h : table.NonNegative) (hrange : call.InRange) :
    call.Lawful table ↔ call.CastsExactly table := by
  cases call with
  | setChainBalances walletId total available chainReserved =>
    exact iff_of_true (refresh_lawful h hrange) trivial
  | reserveCapacity walletId amount =>
    have hne : BalanceCategory.available_shannon ≠ .reserved_shannon := by decide
    exact iff_of_true (move_lawful hne h rfl fun _ _ h => h) trivial
  | markReclaimable walletId amount =>
    have hne : BalanceCategory.reserved_shannon ≠ .reclaimable_shannon := by decide
    exact iff_of_true (move_lawful hne h rfl fun _ _ h => h) trivial
  | releaseReclaimedCapacity walletId amount =>
    have hne : BalanceCategory.reclaimable_shannon ≠ .available_shannon := by decide
    exact iff_of_true (move_lawful hne h rfl fun _ _ h => h) trivial
  | recordFeeBurn walletId amount => exact recordFeeBurn_lawful_iff h hrange

/-- No call leaves a negative bucket, lawful or not. -/
theorem exec_nonNegative (call : LedgerCall) (h : table.NonNegative) (hrange : call.InRange) :
    (call.exec table).2.NonNegative := by
  cases call with
  | recordFeeBurn walletId amount =>
    simp only [LedgerCall.exec, BalanceTable.recordFeeBurn]
    split_ifs
    · exact h
    · exact h.update fun row _ hrow =>
        ⟨hrow.total, hrow.available, hrow.reserved, le_max_left .., hrow.pending⟩
  | _ => exact ((lawful_iff _ h hrange).2 trivial).nonNegative

/-- Over every sequence of calls, the ledger keeps its laws exactly when no fee is burned from a
    bucket that SQLite's cast cannot read. -/
theorem ledger_lawful_iff {table : BalanceTable} {calls : List LedgerCall} (h : table.NonNegative)
    (hrange : ∀ call ∈ calls, call.InRange) :
    LawfulRun table calls ↔ CastsExactlyRun table calls := by
  induction calls generalizing table with
  | nil => exact Iff.rfl
  | cons call calls ih =>
    obtain ⟨hcall, hrest⟩ := List.forall_mem_cons.1 hrange
    rw [LawfulRun, CastsExactlyRun, lawful_iff call h hcall, ih (exec_nonNegative call h hcall) hrest]

/-- A wallet without capacity. -/
def zeroBalances : BalanceTable := fun id => if id = 1 then some ⟨0, 0, 0, 0, 0⟩ else none

theorem nonNegative_zeroBalances : zeroBalances.NonNegative := by
  intro id row hrow
  unfold zeroBalances at hrow
  split_ifs at hrow
  obtain rfl := Option.some.inj hrow
  constructor <;> decide

/-- A message that is published, acknowledged and reclaimed between two refreshes. -/
def sampleCalls : List LedgerCall :=
  [.setChainBalances 1 1000 1000 none, .reserveCapacity 1 300, .markReclaimable 1 300,
    .setChainBalances 1 1000 700 (some 300), .releaseReclaimedCapacity 1 290, .recordFeeBurn 1 10]

theorem sampleCalls_lawful : LawfulRun zeroBalances sampleCalls := by
  refine (ledger_lawful_iff nonNegative_zeroBalances ?_).2 ?_
  · decide
  · refine ⟨trivial, trivial, trivial, trivial, trivial, fun _ row hrow => ?_, trivial⟩
    obtain rfl : row = ⟨1000, 990, 0, 10, 0⟩ := Option.some.inj (hrow.symm.trans (by decide))
    decide

/-- The largest amount that fits, made reclaimable twice. -/
def clampedCalls : List LedgerCall :=
  let amount := 2 ^ 63 - 1
  [.setChainBalances 1 amount amount none, .reserveCapacity 1 amount, .markReclaimable 1 amount,
    .setChainBalances 1 amount amount none, .reserveCapacity 1 amount, .markReclaimable 1 amount,
    .recordFeeBurn 1 1]

/-- A fee of one shannon takes half of the bucket. -/
theorem clampedCalls_unlawful :
    (∀ call ∈ clampedCalls, call.InRange) ∧ ¬LawfulRun zeroBalances clampedCalls := by
  have hrange : ∀ call ∈ clampedCalls, call.InRange := by decide
  refine ⟨hrange, fun h => ?_⟩
  obtain ⟨-, -, -, -, -, -, hburn, -⟩ := h
  obtain ⟨row', hrow', hlaw⟩ := hburn.row ⟨2 ^ 63 - 1, 0, 0, 2 ^ 64 - 2, 0⟩ (by decide)
  obtain rfl : row' = ⟨2 ^ 63 - 1, 0, 0, 2 ^ 63 - 2, 0⟩ :=
    Option.some.inj (hrow'.symm.trans (by decide))
  exact absurd (congrArg BalanceRow.reclaimableShannon hlaw) (by decide)

end Laws

section Store

variable {table : BalanceTable} {walletId : Nat} {db : Db} {source target : BalanceCategory}

/-- The row that keeps a balance of the store. -/
def WalletBalance.row (balance : WalletBalance) : BalanceRow :=
  ⟨balance.totalShannon, balance.availableShannon, balance.reservedShannon,
    balance.reclaimableShannon, balance.pendingShannon⟩

@[simp] theorem get_row (balance : WalletBalance) (category : BalanceCategory) :
    balance.row.get category = balance.get category := by
  cases category <;> rfl

theorem set_row (balance : WalletBalance) (category : BalanceCategory) (amount : Nat) :
    balance.row.set category amount = (balance.set category amount).row := by
  cases category <;> rfl

/-- A move of the store is the move of the row that keeps its balance. -/
theorem row_move (h : table walletId = some db.balance.row) (amount : Nat) :
    (BalanceTable.move walletId source target amount table).1 =
        (BalanceRepository.move source target amount db).1 ∧
      (BalanceTable.move walletId source target amount table).2 walletId =
        some (BalanceRepository.move source target amount db).2.balance.row := by
  unfold BalanceTable.move BalanceRepository.move
  by_cases hzero : amount = 0
  · have hnone : (amount : Int) ≤ 0 := by omega
    rw [if_pos hnone, if_pos hzero]
    exact ⟨rfl, h⟩
  have hsome : ¬(amount : Int) ≤ 0 := by omega
  rw [if_neg hsome, if_neg hzero, BalanceTable.getBalance_eq_ok.2 h]
  simp only [get_row]
  by_cases hshort : db.balance.get source < amount
  · rw [if_pos (Int.ofNat_lt.2 hshort), if_pos hshort]
    exact ⟨rfl, h⟩
  · rw [if_neg fun h => hshort (Int.ofNat_lt.1 h), if_neg hshort]
    have hdebit : (db.balance.get source : Int) - amount = ↑(db.balance.get source - amount) := by
      omega
    have hcredit : (db.balance.get target : Int) + amount = ↑(db.balance.get target + amount) := by
      omega
    simp only [BalanceTable.update_self, h, Option.map_some, hdebit, hcredit, set_row, and_self]

/-- A fee burn of the store is the one of the row, as long as the cast reads both amounts. -/
theorem row_recordFeeBurn {amount : Nat} (h : table walletId = some db.balance.row)
    (hbucket : db.balance.reclaimableShannon < 2 ^ 63) (hamount : amount < 2 ^ 63) :
    (BalanceTable.recordFeeBurn walletId amount table).1 =
        (BalanceRepository.recordFeeBurn amount db).1 ∧
      (BalanceTable.recordFeeBurn walletId amount table).2 walletId =
        some (BalanceRepository.recordFeeBurn amount db).2.balance.row := by
  unfold BalanceTable.recordFeeBurn BalanceRepository.recordFeeBurn
  by_cases hzero : amount = 0
  · have hnone : (amount : Int) ≤ 0 := by omega
    subst hzero
    rw [if_pos hnone]
    exact ⟨rfl, h⟩
  have hsome : ¬(amount : Int) ≤ 0 := by omega
  rw [if_neg hsome]
  have hreclaimable := castInteger_eq (Int.natCast_nonneg db.balance.reclaimableShannon) (by omega)
  have hfee := castInteger_eq (Int.natCast_nonneg amount) (by omega)
  have hburned : max 0 ((db.balance.reclaimableShannon : Int) - amount) =
      ↑(db.balance.reclaimableShannon - amount) := by omega
  simp only [BalanceTable.update_self, h, Option.map_some, WalletBalance.row, hreclaimable, hfee,
    hburned, and_self]

end Store

end cemp.database
