import CempMobile.App.Container
import Mathlib.Data.List.Induction

open cemp.core cemp.vault

namespace cemp.vault

variable {deriveSubSeed : Bytes → Bytes} {v v' : SecureVault}

/-- What the buffers of a vault hold between two operations of the container: the live seed is
    the one of the file, and a cached database key has been wiped by the caller that asked for
    it. -/
structure SecureVault.KeyInv (deriveSubSeed : Bytes → Bytes) (v : SecureVault) : Prop where
  live : ∀ r, v.seed = some r → r < v.buffers.next ∧ v.file = some (v.buffers.get r)
  cached : ∀ k, v.dbKey = some k → ∃ r, v.seed = some r ∧ k ≠ r ∧
    (v.buffers.get r).length = BIP39_SEED_BYTES ∧
    v.buffers.get k = zeroed (deriveSubSeed (v.buffers.get r))

/-- What an operation of the vault does, other than to derive the database key: nothing, drop
    the live key material, or enter a new session. -/
def SecureVault.Moves (v v' : SecureVault) : Prop :=
  v' = v ∨ (v'.seed = none ∧ v'.dbKey = none ∧ v'.sessions = v.sessions) ∨
    ∃ seed, v' = { v with file := some seed }.setUnlocked seed

namespace SecureVault

theorem buildVault_moves (seed : Bytes) (wraps : Bool) : v.Moves (v.buildVault seed wraps).2 := by
  unfold buildVault
  split
  · exact .inl rfl
  · split
    · exact .inl rfl
    · exact .inr (.inr ⟨seed, rfl⟩)

theorem unlockBy_moves (denied : VaultError) (authenticated : Bool) :
    v.Moves (unlockBy denied v authenticated).2 := by
  unfold unlockBy
  cases hfile : v.file with
  | none => exact .inl rfl
  | some seed =>
    cases authenticated with
    | false => exact .inl rfl
    | true =>
      have hsame : { v with file := some seed } = v := by rw [← hfile]
      exact .inr (.inr ⟨seed, by rw [hsame]; rfl⟩)

theorem lock_moves : v.Moves v.lock := .inr (.inl ⟨rfl, rfl, rfl⟩)

theorem wipe_moves (v : SecureVault) (deletesKey : Bool) : v.Moves (v.wipe deletesKey).2 := by
  cases deletesKey <;> exact .inr (.inl ⟨rfl, rfl, rfl⟩)

theorem setUnlocked_keyInv (seed : Bytes) :
    ({ v with file := some seed }.setUnlocked seed).KeyInv deriveSubSeed where
  live := by
    intro r hr
    obtain rfl : _ = r := Option.some.inj hr
    exact ⟨Nat.lt_succ_self _, congrArg some Heap.get_alloc_self.symm⟩
  cached := by
    intro k hk
    cases hk

theorem KeyInv.moves (hinv : v.KeyInv deriveSubSeed) (hmoves : v.Moves v') :
    v'.KeyInv deriveSubSeed := by
  obtain rfl | ⟨hseed, hkey, -⟩ | ⟨seed, rfl⟩ := hmoves
  · exact hinv
  · constructor
    · intro r hr
      rw [hseed] at hr
      cases hr
    · intro k hk
      rw [hkey] at hk
      cases hk
  · exact setUnlocked_keyInv seed

/-- Wiping the key that a caller borrowed keeps the seed, which is another buffer. -/
theorem KeyInv.wiped (hinv : v.KeyInv deriveSubSeed) {r k : Nat} (hseed : v.seed = some r)
    (hlength : (v.buffers.get r).length = BIP39_SEED_BYTES) (hne : k ≠ r)
    (hseed' : v'.seed = v.seed) (hfile : v'.file = v.file) (hkey : v'.dbKey = some k)
    (hnext : v.buffers.next ≤ v'.buffers.next)
    (hsame : v'.buffers.get r = v.buffers.get r)
    (hzero : v'.buffers.get k = zeroed (deriveSubSeed (v.buffers.get r))) :
    v'.KeyInv deriveSubSeed where
  live := by
    intro r' hr'
    rw [hseed', hseed] at hr'
    obtain rfl := Option.some.inj hr'
    obtain ⟨hlt, hstored⟩ := hinv.live r hseed
    exact ⟨Nat.lt_of_lt_of_le hlt hnext, by rw [hfile, hsame, hstored]⟩
  cached := by
    intro k' hk'
    rw [hkey] at hk'
    obtain rfl := Option.some.inj hk'
    exact ⟨r, hseed'.trans hseed, hne, by rw [hsame, hlength], by rw [hsame, hzero]⟩

/-- An unlocked vault hands out the key it keeps, or derives one from the live seed, or leaves
    the failure without a trace. -/
theorem getDatabaseKey_cases (deriveSubSeed : Bytes → Bytes) (hstate : v.state = .unlocked) :
    (∃ k, v.dbKey = some k ∧ v.getDatabaseKey deriveSubSeed = (.ok k, v)) ∨
    (∃ r, v.dbKey = none ∧ v.seed = some r ∧ (v.buffers.get r).length = BIP39_SEED_BYTES ∧
      v.getDatabaseKey deriveSubSeed = (.ok v.buffers.next,
        { v with
          buffers := (v.buffers.alloc (deriveSubSeed (v.buffers.get r))).2
          dbKey := some v.buffers.next })) ∨
    (v.dbKey = none ∧ ∃ e, v.getDatabaseKey deriveSubSeed = (.error e, v)) := by
  unfold getDatabaseKey assertUnlocked
  rw [hstate]
  cases hkey : v.dbKey with
  | some k => exact .inl ⟨k, rfl, rfl⟩
  | none =>
    cases hseed : v.seed with
    | none => exact .inr (.inr ⟨rfl, _, rfl⟩)
    | some r =>
      by_cases hlength : (v.buffers.get r).length = BIP39_SEED_BYTES
      · refine .inr (.inl ⟨r, rfl, rfl, hlength, ?_⟩)
        simp only [deriveLocalDatabaseKey, hlength, ne_eq, not_true_eq_false, if_false,
          Heap.fst_alloc]
      · refine .inr (.inr ⟨rfl, ?_⟩)
        simp only [deriveLocalDatabaseKey, hlength, ne_eq, not_false_eq_true, if_true]
        exact ⟨_, rfl⟩

end SecureVault

end cemp.vault

namespace cemp.app

variable {deriveSubSeed : Bytes → Bytes} {c c' : AppContainer}

/-- The key of an opening is the one `deriveLocalDatabaseKey` gives for the seed of the vault. -/
def Opening.Derived (deriveSubSeed : Bytes → Bytes) (o : Opening) : Prop :=
  ∃ seed, o.seed = some seed ∧ deriveLocalDatabaseKey deriveSubSeed seed = .ok o.key

/-- The database was only opened under the derived key, and in one session of the vault
    `getDatabaseKey` gave one key. -/
structure KeysDerived (deriveSubSeed : Bytes → Bytes) (openings : List Opening) : Prop where
  derived : ∀ o ∈ openings, o.Derived deriveSubSeed
  stable : ∀ o ∈ openings, ∀ o' ∈ openings, o.session = o'.session → o.key = o'.key

namespace AppContainer

/-- An `afterVaultUnlock` that has to open the database is the first one of its session to ask
    for the key, or the derived key is what wiping leaves of it. -/
def AsksFirst (deriveSubSeed : Bytes → Bytes) (c : AppContainer) : Operation → Prop
  | .afterVaultUnlock .. => c.vault.state = .unlocked → c.db = none → c.vault.dbKey = none ∨
      ∃ seed, c.vault.file = some seed ∧ zeroed (deriveSubSeed seed) = deriveSubSeed seed
  | _ => True

/-- What the openings so far have to do with the vault as it stands. -/
structure KeyInv (deriveSubSeed : Bytes → Bytes) (c : AppContainer) : Prop where
  vault : c.vault.KeyInv deriveSubSeed
  past : ∀ o ∈ c.openings, o.session ≤ c.vault.sessions
  current : ∀ o ∈ c.openings, o.session = c.vault.sessions → c.vault.seed.isSome →
    o.seed = c.vault.file
  seed : ∀ o ∈ c.openings, ∀ o' ∈ c.openings, o.session = o'.session → o.seed = o'.seed

/-- An opening of the database: the key that the vault hands out, and the vault after the
    caller wiped it. -/
def Opens (deriveSubSeed : Bytes → Bytes) (c c' : AppContainer) : Prop :=
  ∃ k vault, c.vault.state = .unlocked ∧ c.db = none ∧
    c.vault.getDatabaseKey deriveSubSeed = (.ok k, vault) ∧
    c'.vault = { vault with buffers := fillZero vault.buffers (some k) } ∧
    c'.openings = c.openings ++ [⟨vault.buffers.get k, vault.file, vault.sessions⟩]

theorem openDatabase_cases (deriveSubSeed : Bytes → Bytes) (opens migrates : Bool) (hstate : c.vault.state = .unlocked) :
    ((c.openDatabase deriveSubSeed opens migrates).2 = c ∧ (c.db = none → c.vault.dbKey = none)) ∨
      c.Opens deriveSubSeed (c.openDatabase deriveSubSeed opens migrates).2 := by
  unfold openDatabase
  by_cases hopen : c.db.isSome
  · rw [if_pos hopen]
    refine .inl ⟨rfl, fun hdb => ?_⟩
    rw [hdb] at hopen
    cases hopen
  · have hdb : c.db = none := Option.not_isSome_iff_eq_none.mp hopen
    rw [if_neg hopen]
    obtain ⟨k, -, hget⟩ | ⟨r, -, -, -, hget⟩ | ⟨hkey, e, hget⟩ :=
      SecureVault.getDatabaseKey_cases deriveSubSeed hstate
    · refine .inr ⟨k, c.vault, hstate, hdb, hget, ?_⟩
      rw [hget]
      cases opens <;> cases migrates <;> exact ⟨rfl, rfl⟩
    · refine .inr ⟨_, _, hstate, hdb, hget, ?_⟩
      rw [hget]
      cases opens <;> cases migrates <;> exact ⟨rfl, rfl⟩
    · rw [hget]
      exact .inl ⟨rfl, fun _ => hkey⟩

theorem afterVaultUnlock_cases (deriveSubSeed : Bytes → Bytes) (c : AppContainer)
    (opens migrates initializes : Bool) :
    let c' := (c.afterVaultUnlock deriveSubSeed opens migrates initializes).2
    (c'.vault = c.vault ∧ c'.openings = c.openings ∧
        c.AsksFirst deriveSubSeed (.afterVaultUnlock opens migrates initializes)) ∨
      c.Opens deriveSubSeed c' := by
  intro c'
  by_cases hstate : c.vault.state = .unlocked
  · have hafter : c'.vault = (c.openDatabase deriveSubSeed opens migrates).2.vault ∧
        c'.openings = (c.openDatabase deriveSubSeed opens migrates).2.openings := by
      simp only [c', afterVaultUnlock, hstate, ne_eq, not_true_eq_false, if_false]
      generalize c.openDatabase deriveSubSeed opens migrates = opened
      obtain ⟨_ | _, d⟩ := opened
      · exact ⟨rfl, rfl⟩
      · cases hmessaging : d.messaging <;> cases initializes <;>
          simp only [hmessaging, not_true_eq_false, not_false_eq_true, if_true, if_false,
            Bool.false_eq_true, and_self]
    obtain ⟨hsame, hfirst⟩ | ⟨k, vault, hunlocked, hdb, hget, hvault, hopenings⟩ :=
      openDatabase_cases deriveSubSeed opens migrates hstate
    · rw [hsame] at hafter
      exact .inl ⟨hafter.1, hafter.2, fun _ hdb => .inl (hfirst hdb)⟩
    · exact .inr ⟨k, vault, hunlocked, hdb, hget, hafter.1.trans hvault, hafter.2.trans hopenings⟩
  · have hafter : c' = { c with state := containerState c.vault } := by
      simp only [c', afterVaultUnlock, hstate, ne_eq, not_false_eq_true, if_true]
    rw [hafter]
    exact .inl ⟨rfl, rfl, fun h => absurd h hstate⟩

theorem closeDatabase_frame (c : AppContainer) (closes : Bool) :
    (c.closeDatabase closes).2.vault = c.vault ∧
      (c.closeDatabase closes).2.openings = c.openings := by
  unfold closeDatabase
  cases c.db <;> cases closes <;> exact ⟨rfl, rfl⟩

theorem lock_frame (c : AppContainer) (closes : Bool) :
    (c.lock closes).2.vault = c.vault.lock ∧ (c.lock closes).2.openings = c.openings := by
  have hframe := closeDatabase_frame { c with vault := c.vault.lock } closes
  unfold lock
  generalize closeDatabase closes { c with vault := c.vault.lock } = closed at hframe
  obtain ⟨_ | _, d⟩ := closed <;> exact hframe

theorem handleExternalLock_frame (c : AppContainer) (closes : Bool) :
    (c.handleExternalLock closes).2.vault = c.vault ∧
      (c.handleExternalLock closes).2.openings = c.openings := by
  have hframe := closeDatabase_frame c closes
  unfold handleExternalLock
  generalize c.closeDatabase closes = closed at hframe
  obtain ⟨_ | _, d⟩ := closed <;> exact hframe

theorem wipe_frame (c : AppContainer) (destroys deletesKey : Bool) :
    c.vault.Moves (c.wipe destroys deletesKey).2.vault ∧
      (c.wipe destroys deletesKey).2.openings = c.openings := by
  cases destroys with
  | false => exact ⟨.inl rfl, rfl⟩
  | true =>
    have hmoves := c.vault.wipe_moves deletesKey
    cases deletesKey <;> exact ⟨hmoves, rfl⟩

/-- An operation opens the database, or it leaves the openings as they are and the vault makes
    one of its own moves. -/
theorem step_cases (deriveSubSeed : Bytes → Bytes) (c : AppContainer) (operation : Operation) :
    (c.vault.Moves (step deriveSubSeed c operation).vault ∧
        (step deriveSubSeed c operation).openings = c.openings ∧
        c.AsksFirst deriveSubSeed operation) ∨
      (c.Opens deriveSubSeed (step deriveSubSeed c operation) ∧
        ∃ opens migrates initializes, operation = .afterVaultUnlock opens migrates initializes) := by
  cases operation with
  | buildVault seed wraps => exact .inl ⟨SecureVault.buildVault_moves seed wraps, rfl, trivial⟩
  | unlock authenticated => exact .inl ⟨SecureVault.unlockBy_moves _ authenticated, rfl, trivial⟩
  | unlockWithBiometrics authenticated =>
    exact .inl ⟨SecureVault.unlockBy_moves _ authenticated, rfl, trivial⟩
  | afterVaultUnlock opens migrates initializes =>
    obtain ⟨hvault, hopenings, hfirst⟩ | hopens :=
      afterVaultUnlock_cases deriveSubSeed c opens migrates initializes
    · exact .inl ⟨.inl hvault, hopenings, hfirst⟩
    · exact .inr ⟨hopens, opens, migrates, initializes, rfl⟩
  | resetLocalData destroys =>
    refine .inl ⟨.inl ?_, ?_, trivial⟩ <;> cases destroys <;> rfl
  | lock closes =>
    obtain ⟨hvault, hopenings⟩ := lock_frame c closes
    refine .inl ⟨?_, hopenings, trivial⟩
    simp only [step, hvault]
    exact SecureVault.lock_moves
  | autoLock => exact .inl ⟨SecureVault.lock_moves, rfl, trivial⟩
  | handleExternalLock closes =>
    obtain ⟨hvault, hopenings⟩ := handleExternalLock_frame c closes
    exact .inl ⟨.inl hvault, hopenings, trivial⟩
  | wipe destroys deletesKey =>
    obtain ⟨hmoves, hopenings⟩ := wipe_frame c destroys deletesKey
    exact .inl ⟨hmoves, hopenings, trivial⟩

/-- The key of an opening: derived when the vault keeps none, and wiped when it does. Either
    way the vault keeps a wiped one. -/
theorem Opens.spec (hinv : c.vault.KeyInv deriveSubSeed) (h : c.Opens deriveSubSeed c') :
    ∃ r, c.vault.seed = some r ∧ (c.vault.buffers.get r).length = BIP39_SEED_BYTES ∧
      c'.vault.KeyInv deriveSubSeed ∧ c'.vault.seed = some r ∧
      c'.vault.file = c.vault.file ∧ c'.vault.sessions = c.vault.sessions ∧
      c'.openings = c.openings ++
        [⟨if c.vault.dbKey = none then deriveSubSeed (c.vault.buffers.get r)
          else zeroed (deriveSubSeed (c.vault.buffers.get r)), c.vault.file, c.vault.sessions⟩] := by
  obtain ⟨k, vault, hstate, -, hget, hvault, hopenings⟩ := h
  obtain ⟨k', hkey, hcached⟩ | ⟨r, hkey, hseed, hlength, hderived⟩ | ⟨-, e, herror⟩ :=
    SecureVault.getDatabaseKey_cases deriveSubSeed hstate
  · obtain ⟨hk, rfl⟩ := Prod.mk.inj (hcached.symm.trans hget)
    obtain rfl := Except.ok.inj hk
    obtain ⟨r, hseed, hne, hlength, hzero⟩ := hinv.cached k' hkey
    have hsome : ¬c.vault.dbKey = none := by
      rw [hkey]
      exact Option.some_ne_none k'
    have hinv' : c'.vault.KeyInv deriveSubSeed := by
      rw [hvault]
      refine hinv.wiped hseed hlength hne rfl rfl hkey (Nat.le_refl _) (Heap.get_set_of_ne hne.symm) ?_
      refine Heap.get_set_self.trans ?_
      rw [hzero]
      simp only [zeroed, List.length_replicate]
    refine ⟨r, hseed, hlength, hinv', by rw [hvault, hseed], by rw [hvault], by rw [hvault], ?_⟩
    rw [if_neg hsome, ← hzero]
    exact hopenings
  · obtain ⟨hk, rfl⟩ := Prod.mk.inj (hderived.symm.trans hget)
    obtain rfl := Except.ok.inj hk
    have hlt := (hinv.live r hseed).1
    have hinv' : c'.vault.KeyInv deriveSubSeed := by
      rw [hvault]
      refine hinv.wiped hseed hlength (Nat.ne_of_gt hlt) rfl rfl rfl (Nat.le_succ _) ?_ ?_
      · exact (Heap.get_set_of_ne (Nat.ne_of_lt hlt)).trans (Heap.get_alloc_of_lt hlt)
      · refine Heap.get_set_self.trans ?_
        rw [Heap.get_alloc_self]
    refine ⟨r, hseed, hlength, hinv', by rw [hvault, hseed], by rw [hvault], by rw [hvault], ?_⟩
    rw [Heap.get_alloc_self] at hopenings
    rw [if_pos hkey]
    exact hopenings
  · rw [herror] at hget
    cases (Prod.mk.inj hget).1

theorem KeyInv.of_moves (hinv : c.KeyInv deriveSubSeed) (hmoves : c.vault.Moves c'.vault)
    (hopenings : c'.openings = c.openings) : c'.KeyInv deriveSubSeed := by
  have hvault := hinv.vault.moves hmoves
  rcases hmoves with hsame | ⟨hseed, -, hsessions⟩ | ⟨seed, hnew⟩
  · exact ⟨hvault, by rw [hopenings, hsame]; exact hinv.past,
      by rw [hopenings, hsame]; exact hinv.current, by rw [hopenings]; exact hinv.seed⟩
  · refine ⟨hvault, by rw [hopenings, hsessions]; exact hinv.past, ?_,
      by rw [hopenings]; exact hinv.seed⟩
    intro o _ _ hlive
    rw [hseed] at hlive
    cases hlive
  · -- a new session has no opening yet
    have hsessions : c'.vault.sessions = c.vault.sessions + 1 := by rw [hnew]; rfl
    refine ⟨hvault, ?_, ?_, by rw [hopenings]; exact hinv.seed⟩
    · intro o ho
      rw [hopenings] at ho
      have hpast := hinv.past o ho
      omega
    · intro o ho hcurrent
      rw [hopenings] at ho
      have hpast := hinv.past o ho
      omega

theorem KeyInv.opens (hinv : c.KeyInv deriveSubSeed) (h : c.Opens deriveSubSeed c') :
    c'.KeyInv deriveSubSeed := by
  obtain ⟨r, hseed, -, hvault, -, hfile, hsessions, hopenings⟩ := h.spec hinv.vault
  have hlive : c.vault.seed.isSome := by rw [hseed]; rfl
  have hmem : ∀ o ∈ c'.openings, o ∈ c.openings ∨
      (o.seed = c.vault.file ∧ o.session = c.vault.sessions) := by
    intro o ho
    rw [hopenings, List.mem_append, List.mem_singleton] at ho
    obtain ho | rfl := ho
    · exact .inl ho
    · exact .inr ⟨rfl, rfl⟩
  refine ⟨hvault, ?_, ?_, ?_⟩
  · intro o ho
    rw [hsessions]
    obtain ho | ⟨-, ho⟩ := hmem o ho
    · exact hinv.past o ho
    · exact Nat.le_of_eq ho
  · intro o ho hcurrent _
    rw [hfile]
    obtain ho | ⟨ho, -⟩ := hmem o ho
    · exact hinv.current o ho (hcurrent.trans hsessions) hlive
    · exact ho
  · intro o ho o' ho' hsession
    obtain ho | ⟨hos, ho⟩ := hmem o ho <;> obtain ho' | ⟨hos', ho'⟩ := hmem o' ho'
    · exact hinv.seed o ho o' ho' hsession
    · rw [hos', hinv.current o ho (hsession.trans ho') hlive]
    · rw [hos, hinv.current o' ho' (hsession.symm.trans ho) hlive]
    · rw [hos, hos']

theorem step_keyInv (hinv : c.KeyInv deriveSubSeed) (operation : Operation) :
    (step deriveSubSeed c operation).KeyInv deriveSubSeed := by
  obtain ⟨hmoves, hopenings, -⟩ | ⟨hopens, -⟩ := step_cases deriveSubSeed c operation
  · exact hinv.of_moves hmoves hopenings
  · exact hinv.opens hopens

/-- In one session the openings have one seed, so their keys agree once they are derived. -/
theorem KeyInv.keysDerived (hinv : c.KeyInv deriveSubSeed)
    (hderived : ∀ o ∈ c.openings, o.Derived deriveSubSeed) :
    KeysDerived deriveSubSeed c.openings := by
  refine ⟨hderived, fun o ho o' ho' hsession => ?_⟩
  obtain ⟨seed, hseed, hkey⟩ := hderived o ho
  obtain ⟨seed', hseed', hkey'⟩ := hderived o' ho'
  have hsame : seed = seed' := by
    have hboth := hinv.seed o ho o' ho' hsession
    rw [hseed, hseed'] at hboth
    exact Option.some.inj hboth
  rw [← hsame] at hkey'
  exact Except.ok.inj (hkey.symm.trans hkey')

theorem derived_iff {seed key : Bytes} {session : Nat} (hlength : seed.length = BIP39_SEED_BYTES) :
    Opening.Derived deriveSubSeed ⟨key, some seed, session⟩ ↔ deriveSubSeed seed = key := by
  have hderive : deriveLocalDatabaseKey deriveSubSeed seed = .ok (deriveSubSeed seed) := by
    unfold deriveLocalDatabaseKey
    rw [if_neg (not_not_intro hlength)]
  constructor
  · rintro ⟨seed', hseed, hkey⟩
    obtain rfl := Option.some.inj hseed
    exact Except.ok.inj (hderive.symm.trans hkey)
  · rintro rfl
    exact ⟨seed, rfl, hderive⟩

/-- One operation adds an underived key exactly when it is not the first of its session to ask. -/
theorem step_keysDerived_iff (hinv : c.KeyInv deriveSubSeed) (operation : Operation) :
    KeysDerived deriveSubSeed (step deriveSubSeed c operation).openings ↔
      KeysDerived deriveSubSeed c.openings ∧ c.AsksFirst deriveSubSeed operation := by
  have hinv' := step_keyInv hinv operation
  obtain ⟨-, hopenings, hfirst⟩ | ⟨hopens, opens, migrates, initializes, rfl⟩ :=
    step_cases deriveSubSeed c operation
  · rw [hopenings, and_iff_left hfirst]
  · obtain ⟨r, hseed, hlength, -, -, -, -, hopenings⟩ := hopens.spec hinv.vault
    obtain ⟨k, vault, hstate, hdb, -⟩ := hopens
    obtain ⟨-, hfile⟩ := hinv.vault.live r hseed
    rw [hfile] at hopenings
    -- what the key of the new opening has to be
    have hfirst : c.AsksFirst deriveSubSeed (.afterVaultUnlock opens migrates initializes) ↔
        Opening.Derived deriveSubSeed
          ⟨if c.vault.dbKey = none then deriveSubSeed (c.vault.buffers.get r)
            else zeroed (deriveSubSeed (c.vault.buffers.get r)),
            some (c.vault.buffers.get r), c.vault.sessions⟩ := by
      rw [derived_iff hlength]
      constructor
      · intro hasks
        obtain hnone | ⟨seed, hseed', hzero⟩ := hasks hstate hdb
        · rw [if_pos hnone]
        · rw [hfile] at hseed'
          obtain rfl := Option.some.inj hseed'
          rw [hzero, ite_self]
      · intro hkey _ _
        by_cases hnone : c.vault.dbKey = none
        · exact .inl hnone
        · rw [if_neg hnone] at hkey
          exact .inr ⟨_, hfile, hkey.symm⟩
    rw [hfirst]
    constructor
    · intro hall
      have hall' := hall.derived
      rw [hopenings] at hall'
      have hbefore : ∀ o ∈ c.openings, o.Derived deriveSubSeed :=
        fun o ho => hall' o (List.mem_append_left _ ho)
      exact ⟨hinv.keysDerived hbefore,
        hall' _ (List.mem_append_right _ (List.mem_singleton_self _))⟩
    · rintro ⟨hall, hnew⟩
      refine hinv'.keysDerived fun o ho => ?_
      rw [hopenings, List.mem_append, List.mem_singleton] at ho
      obtain ho | rfl := ho
      · exact hall.derived o ho
      · exact hnew

theorem init_keyInv (file : Option Bytes) : (init file).KeyInv deriveSubSeed :=
  ⟨⟨nofun, nofun⟩, nofun, nofun, nofun⟩

theorem run_append_singleton (operations : List Operation) (operation : Operation) :
    run deriveSubSeed c (operations ++ [operation]) =
      step deriveSubSeed (run deriveSubSeed c operations) operation := by
  simp only [run, List.foldl_append, List.foldl_cons, List.foldl_nil]

theorem run_keyInv (hinv : c.KeyInv deriveSubSeed) (operations : List Operation) :
    (run deriveSubSeed c operations).KeyInv deriveSubSeed := by
  induction operations using List.reverseRecOn with
  | nil => exact hinv
  | append_singleton operations operation ih =>
    rw [run_append_singleton]
    exact step_keyInv ih operation

/-- Over every run of the app the database is only opened under the derived key, and within a
    session `getDatabaseKey` gives one key, exactly when no `afterVaultUnlock` opens the database
    a second time in a session. -/
theorem run_keysDerived_iff (deriveSubSeed : Bytes → Bytes) (file : Option Bytes)
    (operations : List Operation) :
    KeysDerived deriveSubSeed (run deriveSubSeed (init file) operations).openings ↔
      ∀ before operation after, operations = before ++ operation :: after →
        (run deriveSubSeed (init file) before).AsksFirst deriveSubSeed operation := by
  induction operations using List.reverseRecOn with
  | nil =>
    refine ⟨fun _ before operation after h => ?_, fun _ => ⟨nofun, nofun⟩⟩
    cases before <;> cases h
  | append_singleton operations operation ih =>
    rw [run_append_singleton, step_keysDerived_iff (run_keyInv (init_keyInv file) operations), ih]
    constructor
    · rintro ⟨hall, hlast⟩ before op after h
      rcases List.eq_nil_or_concat after with rfl | ⟨after, op', rfl⟩
      · obtain ⟨rfl, hop⟩ := List.append_inj' h rfl
        obtain rfl := List.singleton_inj.mp hop
        exact hlast
      · have hsplit : operations ++ [operation] = (before ++ op :: after) ++ [op'] := by
          rw [h, List.append_assoc, List.cons_append, List.concat_eq_append]
        exact hall before op after (List.append_inj' hsplit rfl).1
    · intro hall
      refine ⟨fun before op after h => hall before op (after ++ [operation]) ?_,
        hall operations operation [] rfl⟩
      rw [h, List.append_assoc, List.cons_append]

/-- The migration fails, the user resets the local data from the unlock screen and opens again:
    the new database is encrypted under thirty-two zero bytes. -/
theorem reset_opens_under_zeroes :
    ¬KeysDerived (fun _ => List.replicate 32 1)
      (run (fun _ => List.replicate 32 1) (init (some (List.replicate 64 7)))
        [.unlock true, .afterVaultUnlock true false true, .resetLocalData true,
          .afterVaultUnlock true true true]).openings := by
  intro hall
  have hkeys := hall.stable ⟨List.replicate 32 1, some (List.replicate 64 7), 1⟩ (by decide +kernel)
    ⟨List.replicate 32 0, some (List.replicate 64 7), 1⟩ (by decide +kernel) rfl
  exact absurd hkeys (by decide)

end AppContainer

end cemp.app
