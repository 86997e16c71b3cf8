import CempMobile.Vault.States

open cemp.core

namespace cemp.secureVault

/-! Creating a vault, wherever it fails. -/

/-- A creation call. -/
inductive Creation where
  | createWithNewMnemonic (wordCount : VaultWordCount) (password : String)
    (opts : CreateVaultOptions)
  | importMnemonic (words : List String) (password : String) (passphrase : Option String)
    (opts : CreateVaultOptions)

def Creation.call : Creation → VaultCall
  | .createWithNewMnemonic wordCount password opts => .createWithNewMnemonic wordCount password opts
  | .importMnemonic words password passphrase opts =>
    .importMnemonic words password passphrase opts

/-- Whether a call is the write of the wrapped database key, and threw. -/
def failsDatabaseKey : ∀ β : Type, VaultOp β → Except VaultError β → Bool
  | _, .write .databaseKey _, .error _ => true
  | _, _, _ => false

/-- The calls of a method over storage, which also tells whether the write of the database key
    threw. -/
def watchedEffect : Program.Effect VaultOp VaultError (World × Bool) := fun β op s r s' =>
  storageEffect β op s.1 r s'.1 ∧ s'.2 = (s.2 || failsDatabaseKey β op r)

theorem Quiet.watched {β : Type} {op : VaultOp β} {s s' : World × Bool} {r : Except VaultError β}
    (hquiet : Quiet β op) (h : watchedEffect β op s r s') : s' = s := by
  have hworld := hquiet.storage h.1
  have hflag : failsDatabaseKey β op r = false := by
    cases op with
    | write name content => exact hquiet.elim
    | _ => rfl
  have hsame := h.2
  rw [hflag, Bool.or_false] at hsame
  exact Prod.ext hworld hsame

theorem quiet_runs {α : Type} {p : Vault α} (hquiet : Program.Uses Quiet p) {s s' : World × Bool}
    {out : Except VaultError α} (h : Program.Runs watchedEffect p s out s') : s' = s := by
  have hkeeps : ∀ (β : Type) (op : VaultOp β) (t : World × Bool) (r : Except VaultError β)
      (t' : World × Bool), Quiet β op → watchedEffect β op t r t' → t = s → t' = s :=
    fun _ _ _ _ _ hop hstep hs => (hop.watched hstep).trans hs
  exact h.preserves hquiet hkeeps rfl

/-- How a creation may fail: before it stored anything, or at the write of the database key, when
    the vault file is already there. -/
def FailsFrom (w : World) (s : World × Bool) : Prop :=
  s = (w, false) ∨ s.2 = true ∧ w.storage .vaultFile = none ∧ s.1.storage .vaultFile ≠ none

variable {crypto : Crypto} {w : World}

/-- A quiet part fails without a trace, and hands the rest the same world. -/
theorem FailsFrom.quiet_bind {α β : Type} {p : Vault α} (hquiet : Program.Uses Quiet p)
    {f : α → Vault β} {e : VaultError} {s : World × Bool}
    (hf : ∀ a, Program.Runs watchedEffect p (w, false) (.ok a) (w, false) →
      Program.Runs watchedEffect (f a) (w, false) (.error e) s → FailsFrom w s)
    (h : Program.Runs watchedEffect (p.bind f) (w, false) (.error e) s) : FailsFrom w s := by
  obtain ⟨a, mid, hp, hrest⟩ | ⟨e', hp, -⟩ := Program.runs_bind.1 h
  · obtain rfl := quiet_runs hquiet hp
    exact hf a hp hrest
  · exact .inl (quiet_runs hquiet hp)

theorem buildVault_fails {payload : VaultSecretPayload} {wordCount : VaultWordCount}
    {password : String} {opts : CreateVaultOptions} (hempty : w.storage .vaultFile = none)
    {e : VaultError} {s : World × Bool}
    (h : Program.Runs watchedEffect (buildVault crypto payload wordCount password opts) (w, false)
      (.error e) s) : FailsFrom w s := by
  refine FailsFrom.quiet_bind (prepareVault_quiet _ _ _ _) (fun prepared _ hrest => ?_) h
  obtain ⟨_, mid, hfile, hrest⟩ | ⟨e', hfile, -⟩ := Program.runs_bind.1 hrest
  · obtain ⟨⟨-, hworld⟩ | ⟨e', herror, -⟩, hflag⟩ := Program.runs_perform.1 hfile
    · obtain ⟨_, last, hkey, hrest⟩ | ⟨e', hkey, -⟩ := Program.runs_bind.1 hrest
      · obtain ⟨⟨hok, -⟩, -⟩ := Program.runs_perform.1 hrest
        cases hok
      · obtain ⟨⟨hok, -⟩ | ⟨e'', herror, hsame⟩, hfailed⟩ := Program.runs_perform.1 hkey
        · cases hok
        · -- The vault file was written, and the write of the database key threw.
          refine .inr ⟨?_, hempty, ?_⟩
          · rw [hfailed]
            simp [failsDatabaseKey]
          · rw [hsame, hworld]
            simp [World.write]
    · cases herror
  · obtain ⟨⟨hok, -⟩ | ⟨e'', -, hsame⟩, hflag⟩ := Program.runs_perform.1 hfile
    · cases hok
    · exact .inl (Prod.ext hsame (by rw [hflag]; rfl))

/-- Creation goes on only where storage holds no vault file. -/
theorem assertCanInitialize_runs {s s' : World × Bool}
    (h : Program.Runs watchedEffect assertCanInitialize s (.ok ()) s') :
    s.1.storage .vaultFile = none := by
  obtain ⟨existing, mid, hread, h⟩ := Program.runs_bind_ok.1 h
  obtain ⟨m, mid', hmemory, h⟩ := Program.runs_bind_ok.1 h
  split at h
  · cases h.1
  · next hguard =>
    obtain ⟨⟨hok | ⟨e, herror⟩, -⟩, -⟩ := Program.runs_perform.1 hread
    · have hstored := Except.ok.inj hok
      have hnone : existing = none := by
        simpa using fun hsome => hguard (.inl hsome)
      exact hstored ▸ hnone
    · cases herror

theorem createWithNewMnemonic_fails {wordCount : VaultWordCount} {password : String}
    {opts : CreateVaultOptions} {e : VaultError} {s : World × Bool}
    (h : Program.Runs watchedEffect (createWithNewMnemonic crypto wordCount password opts)
      (w, false) (.error e) s) : FailsFrom w s := by
  refine FailsFrom.quiet_bind assertCanInitialize_quiet (fun _ hassert h => ?_) h
  have hempty : w.storage .vaultFile = none := assertCanInitialize_runs hassert
  refine FailsFrom.quiet_bind (orElse_quiet (performs_quiet (by trivial))) (fun entropy _ h => ?_) h
  split at h
  · obtain ⟨-, rfl⟩ := h
    exact .inl rfl
  · refine FailsFrom.quiet_bind (ofExcept_quiet _) (fun mnemonic _ h => ?_) h
    refine FailsFrom.quiet_bind (ofExcept_quiet _) (fun seed _ h => ?_) h
    obtain ⟨_, mid, -, hret⟩ | ⟨e', hbuild, -⟩ := Program.runs_bind.1 h
    · cases hret.1
    · exact buildVault_fails hempty hbuild

theorem importMnemonic_fails {words : List String} {password : String}
    {passphrase : Option String} {opts : CreateVaultOptions} {e : VaultError} {s : World × Bool}
    (h : Program.Runs watchedEffect (importMnemonic crypto words password passphrase opts)
      (w, false) (.error e) s) : FailsFrom w s := by
  refine FailsFrom.quiet_bind assertCanInitialize_quiet (fun _ hassert h => ?_) h
  have hempty : w.storage .vaultFile = none := assertCanInitialize_runs hassert
  dsimp only at h
  split at h
  · obtain ⟨-, rfl⟩ := h
    exact .inl rfl
  · split at h
    · obtain ⟨-, rfl⟩ := h
      exact .inl rfl
    · split at h
      · obtain ⟨-, rfl⟩ := h
        exact .inl rfl
      · exact FailsFrom.quiet_bind (ofExcept_quiet _) (fun seed _ h => buildVault_fails hempty h) h

theorem creation_fails (creation : Creation) {e : VaultError} {s : World × Bool}
    (h : Program.Runs watchedEffect (method crypto creation.call) (w, false) (.error e) s) :
    FailsFrom w s := by
  cases creation with
  | createWithNewMnemonic wordCount password opts =>
    obtain ⟨words, mid, -, hret⟩ | ⟨e', hcreate, -⟩ := Program.runs_bind.1 h
    · cases hret.1
    · exact createWithNewMnemonic_fails hcreate
  | importMnemonic words password passphrase opts => exact importMnemonic_fails h

/-- A creation call that throws leaves storage and the vault as they were, exactly when what threw
    was not the write of the wrapped database key. -/
theorem creation_atomic (creation : Creation) {w w' : World} {failed : Bool} {e : VaultError}
    (h : Program.Runs watchedEffect (method crypto creation.call) (w, false) (.error e)
      (w', failed)) :
    (w'.storage = w.storage ∧ w'.memory = w.memory) ↔ failed = false := by
  obtain hsame | ⟨hfailed, hempty, hstored⟩ := creation_fails creation h
  · obtain ⟨rfl, rfl⟩ := Prod.mk.inj hsame
    exact iff_of_true ⟨rfl, rfl⟩ rfl
  · simp only at hfailed hstored
    subst hfailed
    refine iff_of_false ?_ (by decide)
    rintro ⟨hstorage, -⟩
    rw [hstorage] at hstored
    exact hstored hempty

/-- Where a vault file is stored, no creation succeeds: a retry is refused. -/
theorem creation_refused (creation : Creation) {w : World} {s : World × Bool}
    (hstored : w.storage .vaultFile ≠ none) {out : Except VaultError Unit}
    (h : Program.Runs watchedEffect (method crypto creation.call) (w, false) out s) :
    out ≠ .ok () := by
  rintro rfl
  cases creation with
  | createWithNewMnemonic wordCount password opts =>
    obtain ⟨words, mid, hcreate, -⟩ := Program.runs_bind_ok.1 h
    obtain ⟨_, _, hassert, -⟩ := Program.runs_bind_ok.1 hcreate
    exact hstored (assertCanInitialize_runs hassert)
  | importMnemonic words password passphrase opts =>
    obtain ⟨_, _, hassert, -⟩ := Program.runs_bind_ok.1 h
    exact hstored (assertCanInitialize_runs hassert)

/-! The write of the database key throws: the vault is stored, its words are not returned, and a
    retry is refused. -/

def newVault : Creation := .createWithNewMnemonic .twelve "password" {}

def brokenStorage : Rig := { Rig.fresh with brokenWrites := [.databaseKey] }

/-- The rig over storage, watched as well. -/
def watchedHandle : Program.Handler VaultOp VaultError (Rig × Bool) := fun β op s =>
  ((Rig.handle β op s.1).1,
    ((Rig.handle β op s.1).2, s.2 || failsDatabaseKey β op (Rig.handle β op s.1).1))

def interruptedCreation : Except VaultError Unit × Rig × Bool :=
  Program.run watchedHandle (method rigCrypto newVault.call) (brokenStorage, false)

theorem interruptedCreation_out : interruptedCreation.1 = .error .external := by decide +kernel

theorem interruptedCreation_stored :
    (interruptedCreation.2.1.world.storage .vaultFile).isSome = true := by decide +kernel

theorem interruptedCreation_runs :
    Program.Runs watchedEffect (method rigCrypto newVault.call) (brokenStorage.world, false)
      (.error .external) (interruptedCreation.2.1.world, interruptedCreation.2.2) := by
  rw [← interruptedCreation_out]
  exact Program.runs_of_run watchedHandle (fun s => (s.1.world, s.2))
    (fun op s => ⟨Rig.handle_storage op s.1, rfl⟩) _ (brokenStorage, false)

theorem not_creation_atomic :
    ¬∀ (crypto : Crypto) (creation : Creation) (w w' : World) (failed : Bool) (e : VaultError),
      Program.Runs watchedEffect (method crypto creation.call) (w, false) (.error e)
        (w', failed) → w'.storage = w.storage ∧ w'.memory = w.memory := by
  intro h
  obtain ⟨hstorage, -⟩ := h _ _ _ _ _ _ interruptedCreation_runs
  have hstored := interruptedCreation_stored
  rw [hstorage] at hstored
  cases hstored

theorem creation_atomic_interrupted :
    (interruptedCreation.2.1.world.storage = brokenStorage.world.storage ∧
      interruptedCreation.2.1.world.memory = brokenStorage.world.memory) ↔
      interruptedCreation.2.2 = false :=
  creation_atomic newVault interruptedCreation_runs

end cemp.secureVault
