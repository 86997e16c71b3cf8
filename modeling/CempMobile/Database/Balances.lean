import CempMobile.Database.Schema

namespace cemp.database

/-- The categories capacity is moved between. -/
inductive BalanceCategory where
  | available_shannon | reserved_shannon | reclaimable_shannon
  deriving DecidableEq, Repr

def BalanceCategory.text : BalanceCategory → String
  | available_shannon => "available_shannon"
  | reserved_shannon => "reserved_shannon"
  | reclaimable_shannon => "reclaimable_shannon"

def WalletBalance.get (balance : WalletBalance) : BalanceCategory → Nat
  | .available_shannon => balance.availableShannon
  | .reserved_shannon => balance.reservedShannon
  | .reclaimable_shannon => balance.reclaimableShannon

def WalletBalance.set (balance : WalletBalance) (category : BalanceCategory) (amount : Nat) :
    WalletBalance :=
  match category with
  | .available_shannon => { balance with availableShannon := amount }
  | .reserved_shannon => { balance with reservedShannon := amount }
  | .reclaimable_shannon => { balance with reclaimableShannon := amount }

namespace BalanceRepository

/-- An atomic move between two categories. It refuses to drive either negative. -/
def move (source target : BalanceCategory) (amount : Nat) : Method Unit := fun db =>
  if amount = 0 then
    (.error (.database .constraint_violation "capacity move amount must be positive"), db)
  else if db.balance.get source < amount then
    (.error (.database .constraint_violation ("insufficient " ++ source.text ++ ": have " ++
      toString (db.balance.get source) ++ ", need " ++ toString amount)), db)
  else
    let debited := db.balance.set source (db.balance.get source - amount)
    (.ok (), { db with balance := debited.set target (db.balance.get target + amount) })

def reserveCapacity (amountShannon : Nat) : Method Unit :=
  move .available_shannon .reserved_shannon amountShannon

def markReclaimable (amountShannon : Nat) : Method Unit :=
  move .reserved_shannon .reclaimable_shannon amountShannon

def releaseReclaimedCapacity (amountShannon : Nat) : Method Unit :=
  move .reclaimable_shannon .available_shannon amountShannon

/-- Writes off reclaimable capacity burned as a fee, floored at zero. -/
def recordFeeBurn (amountShannon : Nat) : Method Unit := fun db =>
  (.ok (), { db with
    balance := { db.balance with
      reclaimableShannon := db.balance.reclaimableShannon - amountShannon } })

end BalanceRepository

/-- Everything the wallet owns: what a move between categories leaves unchanged. -/
def WalletBalance.owned (balance : WalletBalance) : Nat :=
  balance.availableShannon + balance.reservedShannon + balance.reclaimableShannon

/-- A move touches the balance alone. -/
theorem BalanceRepository.move_frame (source target : BalanceCategory) (amount : Nat) (db : Db) :
    ∃ balance, (move source target amount db).2 = { db with balance := balance } := by
  unfold move
  split_ifs
  · exact ⟨db.balance, rfl⟩
  · exact ⟨db.balance, rfl⟩
  · exact ⟨_, rfl⟩

/-- A move between two different categories neither creates nor loses capacity. -/
theorem BalanceRepository.move_owned {source target : BalanceCategory} (hne : source ≠ target)
    (amount : Nat) (db : Db) : (move source target amount db).2.balance.owned = db.balance.owned := by
  unfold move
  split_ifs with hzero hshort
  · rfl
  · rfl
  · cases source <;> cases target <;>
      simp only [ne_eq, not_true_eq_false, WalletBalance.get, WalletBalance.set,
        WalletBalance.owned, not_lt] at * <;> omega

/-- A refused move leaves the database as it was. -/
theorem BalanceRepository.move_error {source target : BalanceCategory} {amount : Nat} {db db' : Db}
    {e : Error} (h : move source target amount db = (.error e, db')) : db' = db := by
  unfold move at h
  split_ifs at h <;> simp_all

end cemp.database
