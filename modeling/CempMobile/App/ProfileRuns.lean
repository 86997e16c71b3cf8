import CempMobile.App.Profiles
import CempMobile.Images.Uploads
import CempMobile.Sync.PendingTransactions

open cemp.core cemp.database cemp.ckb cemp.images cemp.sync

namespace cemp.app

/-- A call of `publishMyProfile`, complete or cut short. -/
structure ProfilePass where
  handle : String
  before : Db
  out : Option (Except Error PublishMyProfileResult)
  after : ImageWorld

def ProfilePass.Runs (commits : Hash → RawTransaction) (deps : ProfileDeps) (pass : ProfilePass) : Prop :=
  let program := publishMyProfile deps pass.handle
  match pass.out with
  | some out => Program.Runs (imageEffect commits) program (.start pass.before) out pass.after
  | none =>
    Program.Interrupted (imageEffect commits) Program.Anywhere program (.start pass.before) pass.after

/-- Other work journals no profile transaction, and leaves the stored profiles. -/
def LeavesProfiles (db db' : Db) : Prop :=
  db'.journalFor .profileCreate = db.journalFor .profileCreate ∧ db'.profiles.rows = db.profiles.rows

/-- Calls one after the other, with other work in between. -/
def ProfileRuns (commits : Hash → RawTransaction) (deps : ProfileDeps) : Db → List ProfilePass → Prop
  | _, [] => True
  | db, pass :: passes =>
    LeavesProfiles db pass.before ∧ pass.Runs commits deps ∧ ProfileRuns commits deps pass.after.db passes

/-- The account has an active profile whose cell a transaction creates. -/
def HasActive (deps : ProfileDeps) (db : Db) (txHash : Hash) : Prop :=
  ∃ r ∈ db.profiles.rows, r.2.accountId = deps.accountId ∧ r.2.state = .active ∧
    r.2.outpointTxHash = some txHash

/-- Of the journaled profile transactions that can commit there is at most one, and the active
    profile it creates is stored. -/
structure PublishedOnce (deps : ProfileDeps) (live : Hash → Prop) (db : Db) : Prop where
  atMostOne : ∀ record ∈ db.journalFor .profileCreate, ∀ record' ∈ db.journalFor .profileCreate,
    live record.txHash → live record'.txHash → record = record'
  stored : ∀ record ∈ db.journalFor .profileCreate, live record.txHash → HasActive deps db record.txHash

instance (deps : ProfileDeps) (db : Db) (txHash : Hash) : Decidable (HasActive deps db txHash) :=
  inferInstanceAs (Decidable (∃ r ∈ db.profiles.rows, _))

variable {commits : Hash → RawTransaction} {deps : ProfileDeps} {live : Hash → Prop} {db : Db}
  {passes : List ProfilePass} {pass : ProfilePass} {w w' : ImageWorld} {handle : String}

section Call

/-- What every step of a call keeps: the journal grows by what the call records, and the stored
    profiles stay. -/
structure Grown (db : Db) (w : ImageWorld) : Prop where
  journal : ∀ record ∈ w.db.journal, record ∈ db.journal ∨ ∃ tx ∈ w.recorded, tx.core = record
  profiles : ∀ r ∈ db.profiles.rows, r ∈ w.db.profiles.rows

theorem Grown.step {β : Type} {op : Op β} {r : Except Error β} (h : Grown db w)
    (heffect : imageEffect commits β op w r w') : Grown db w' := by
  obtain rfl | ⟨access, -, hdb, hrecorded, -⟩ := imageEffect_cases heffect
  · exact h
  · refine ⟨fun record hmem => ?_, fun r hr => ?_⟩
    · rw [hrecorded]
      have hold : record ∈ w.db.journal → record ∈ db.journal ∨
          ∃ tx ∈ w.recorded ++ access.records.toList, tx.core = record := by
        intro hmem
        obtain hmem | ⟨tx, htx, hcore⟩ := h.journal record hmem
        · exact .inl hmem
        · exact .inr ⟨tx, List.mem_append_left _ htx, hcore⟩
      rw [hdb] at hmem
      obtain hsame | ⟨tx, hrecord, happend⟩ := journal_exec access w.db
      · exact hold (hsame ▸ hmem)
      · rw [happend, List.mem_append, List.mem_singleton] at hmem
        obtain hmem | rfl := hmem
        · exact hold hmem
        · refine .inr ⟨tx, List.mem_append_right _ ?_, rfl⟩
          rw [hrecord]
          exact List.mem_singleton_self tx
    · rw [hdb]
      exact mem_profiles_exec access (h.profiles r hr)

variable {recorded : List OutgoingTransaction} {α β : Type} {op : Op β} {rest : β → Prog α}
  {post : Except Error α → ImageWorld → Prop}

/-- One step that journals nothing. -/
theorem always_silent (hw : w.recorded = recorded)
    (hrecords : ∀ access, op = .store access → access.records = none)
    (herror : ∀ e w', w'.recorded = recorded → post (.error e) w')
    (hrest : ∀ b w', w'.recorded = recorded → imageEffect commits β op w (.ok b) w' →
      Program.Always (imageEffect commits) (fun _ _ w => w.recorded.length ≤ 1) (rest b) w' post)
    (hle : recorded.length ≤ 1) :
    Program.Always (imageEffect commits) (fun _ _ w => w.recorded.length ≤ 1)
      ((Program.perform op).bind rest) w post := by
  refine Program.Always.step (by rw [hw]; exact hle) (fun e w' heffect => ?_) fun b w' heffect => ?_
  · exact herror e w' ((recorded_same hrecords heffect).trans hw)
  · exact hrest b w' ((recorded_same hrecords heffect).trans hw) heffect

/-- How a new publish may stop: it has journaled at most one transaction, and has stored its profile
    when it returns. -/
def NewlyPublished (deps : ProfileDeps) (r : Except Error PublishMyProfileResult) (w : ImageWorld) : Prop :=
  w.recorded.length ≤ 1 ∧ ∀ result, r = .ok result → ∀ tx ∈ w.recorded, HasActive deps w.db tx.txHash

theorem newlyPublished_error {e : Error} (hw : w.recorded = recorded) (hle : recorded.length ≤ 1) :
    NewlyPublished deps (.error e) w := by
  refine ⟨by rw [hw]; exact hle, fun result h => ?_⟩
  cases h

theorem buildCreateProfileTx_quiet (profile : CempProfileV1) :
    Program.Uses Quiet (buildCreateProfileTx deps profile) := by
  unfold buildCreateProfileTx
  split
  · trivial
  · refine Program.Uses.bind (Program.uses_perform.2 trivial) fun completion => ?_
    split
    · trivial
    · split <;> trivial

/-- A quiet part of a publish. -/
theorem always_quietPart {first : Prog β} (hw : w.recorded.length ≤ 1)
    (huses : Program.Uses Quiet first) (herror : ∀ e, post (.error e) w)
    (hrest : ∀ b, Program.Always (imageEffect commits) (fun _ _ w => w.recorded.length ≤ 1) (rest b)
      w post) :
    Program.Always (imageEffect commits) (fun _ _ w => w.recorded.length ≤ 1) (first.bind rest) w
      post := by
  have quiet : Program.Always (imageEffect commits) (fun _ _ w => w.recorded.length ≤ 1) first w
      fun _ w' => w' = w :=
    always_leaves (fun _ _ _ _ hop heffect => hop.same heffect) (fun _ _ _ => hw) huses
  refine quiet.bind (fun b w' h => ?_) fun e w' h => ?_
  · subst h
    exact hrest b
  · subst h
    exact herror e

/-- What a publish does once its transaction is journaled. -/
theorem always_storeProfile {signed : Transaction} {typeArgs : ProfileId} {tx : OutgoingTransaction}
    (hw : w.recorded = [tx]) (htx : tx.txHash = signed.hash) :
    Program.Always (imageEffect commits) (fun _ _ w => w.recorded.length ≤ 1)
      (do
        let accepted ← call (.sendTransaction signed)
        if accepted ≠ signed.hash then
          throw (.other "publishMyProfile: node returned a different tx hash")
        else
          trackBroadcastSpend signed
          waitForTransactionCommit signed.hash none
          store (.markOutgoingTxState signed.hash .committed)
          store (.createProfile
            { accountId := deps.accountId
              profileIdHex := typeArgs
              typeIdHex := some typeArgs
              outpointTxHash := some signed.hash
              outpointIndex := some 0
              state := .active
              previousProfileIdHex := none })
          return ⟨typeArgs, some signed.hash⟩) w (NewlyPublished deps) := by
  have one_le : [tx].length ≤ 1 := Nat.le_refl 1
  have hle : w.recorded.length ≤ 1 := by rw [hw]; exact one_le
  refine always_quietPart hle (Program.uses_perform.2 trivial) (fun e => newlyPublished_error hw one_le)
    fun accepted => ?_
  split
  · exact newlyPublished_error hw one_le
  refine always_quietPart hle (Program.uses_perform.2 trivial) (fun e => newlyPublished_error hw one_le)
    fun _ => ?_
  refine always_quietPart hle (waitForTransactionCommit_uses trivial trivial _)
    (fun e => newlyPublished_error hw one_le) fun _ => ?_
  refine always_silent hw (by rintro _ ⟨⟩; rfl) (fun e w' h => newlyPublished_error h one_le)
    (fun _ w' hw' _ => ?_) one_le
  refine always_silent hw' (by rintro _ ⟨⟩; rfl) (fun e w'' h => newlyPublished_error h one_le)
    (fun _ w'' hw'' heffect => ?_) one_le
  refine ⟨by rw [hw'']; exact one_le, fun result _ tx' htx' => ?_⟩
  rw [hw'', List.mem_singleton] at htx'
  subst htx'
  obtain ⟨hanswer, -⟩ := heffect
  simp only [StoreOp.exec, ProfileRepository.create] at hanswer
  split at hanswer
  next fresh =>
    have hdb := (congrArg Prod.snd hanswer).symm
    simp only at hdb
    rw [HasActive, hdb, Table.rows_insert]
    refine ⟨_, List.mem_append_right _ List.mem_cons_self, rfl, rfl, ?_⟩
    rw [htx]
  next => cases hanswer

theorem always_publishNewProfile (hw : w.recorded = []) :
    Program.Always (imageEffect commits) (fun _ _ w => w.recorded.length ≤ 1)
      (publishNewProfile deps handle) w (NewlyPublished deps) := by
  have none_le : ([] : List OutgoingTransaction).length ≤ 1 := Nat.zero_le _
  refine always_silent hw (by rintro _ ⟨⟩) (fun e w' h => newlyPublished_error h none_le)
    (fun nowMs w hw _ => ?_) none_le
  have hle : w.recorded.length ≤ 1 := by rw [hw]; exact none_le
  refine always_quietPart hle (buildCreateProfileTx_quiet _) (fun e => newlyPublished_error hw none_le)
    fun built => ?_
  refine always_quietPart hle (Program.uses_perform.2 trivial) (fun e => newlyPublished_error hw none_le)
    fun signed => ?_
  have one_le : ∀ tx : OutgoingTransaction, [tx].length ≤ 1 := fun _ => Nat.le_refl 1
  refine Program.Always.step hle (fun e w' heffect => ?_) fun _ w' heffect => ?_
  · have hw' := heffect.2.1
    rw [hw] at hw'
    exact newlyPublished_error hw' (one_le _)
  · have hw' := heffect.2.1
    rw [hw] at hw'
    exact always_storeProfile hw' rfl

/-- The active profile a call finds. -/
def activeProfile (deps : ProfileDeps) (db : Db) : Option StoredProfile :=
  (db.profiles.last? fun p => p.accountId == deps.accountId && p.state == .active).map (·.2)

theorem activeProfile_of_hasActive {txHash : Hash} (h : HasActive deps db txHash) :
    activeProfile deps db ≠ none := by
  obtain ⟨r, hr, haccount, hstate, -⟩ := h
  unfold activeProfile
  rw [ne_eq, Option.map_eq_none_iff, Table.last?_eq_none]
  intro hnone
  exact hnone r hr (by simp [haccount, hstate])

/-- What a call may have journaled: nothing when it finds an active profile, and otherwise at most
    one transaction. -/
def Journaled (deps : ProfileDeps) (db : Db) (w : ImageWorld) : Prop :=
  w.recorded.length ≤ 1 ∧ (activeProfile deps db ≠ none → w.recorded = [])

theorem always_publishMyProfile (commits : Hash → RawTransaction) (deps : ProfileDeps) (handle : String)
    (db : Db) :
    Program.Always (imageEffect commits) (fun _ _ => Journaled deps db) (publishMyProfile deps handle)
      (.start db) fun r w => Journaled deps db w ∧
        ∀ result, r = .ok result → ∀ tx ∈ w.recorded, HasActive deps w.db tx.txHash := by
  have hstart : ∀ w : ImageWorld, w.recorded = [] → Journaled deps db w := by
    intro w hw
    refine ⟨?_, fun _ => hw⟩
    rw [hw]
    exact Nat.zero_le _
  refine Program.Always.step (hstart _ rfl) ?_ ?_
  · rintro e w ⟨hanswer, -⟩
    cases hanswer
  · rintro existing w ⟨hanswer, hrecorded, -⟩
    have hread : activeProfile deps db = existing := Except.ok.inj (congrArg Prod.fst hanswer)
    have hw : w.recorded = [] := hrecorded
    cases existing with
    | some active =>
      refine ⟨hstart w hw, fun result _ tx htx => ?_⟩
      rw [hw] at htx
      cases htx
    | none =>
      have journaled : ∀ w : ImageWorld, w.recorded.length ≤ 1 → Journaled deps db w :=
        fun w h => ⟨h, fun hsome => absurd hread hsome⟩
      refine ((always_publishNewProfile hw).weaken fun _ _ w h => journaled w h).mono ?_
      rintro r w ⟨hle, hstored⟩
      exact ⟨journaled w hle, hstored⟩

end Call

section Runs

/-- A call journals what it says, and keeps what was stored. -/
theorem ProfilePass.Runs.journaled (hrun : pass.Runs commits deps) :
    Journaled deps pass.before pass.after ∧ Grown pass.before pass.after := by
  have hstart : Grown pass.before (.start pass.before) :=
    ⟨fun record hmem => .inl hmem, fun r hr => hr⟩
  have always := (always_publishMyProfile commits deps pass.handle pass.before).invariant
    (fun β op w r w' _ heffect (h : Grown pass.before w) => h.step heffect) hstart
  unfold ProfilePass.Runs at hrun
  split at hrun
  · obtain ⟨⟨hjournaled, -⟩, hgrown⟩ := always.runs hrun
    exact ⟨hjournaled, hgrown⟩
  · exact always.interrupted (fun _ _ _ _ h => h) hrun

theorem ProfilePass.Runs.stored {result : PublishMyProfileResult} {tx : OutgoingTransaction}
    (hrun : pass.Runs commits deps) (hout : pass.out = some (.ok result))
    (htx : tx ∈ pass.after.recorded) : HasActive deps pass.after.db tx.txHash := by
  unfold ProfilePass.Runs at hrun
  simp only [hout] at hrun
  exact ((always_publishMyProfile commits deps pass.handle pass.before).runs hrun).2 result rfl tx htx

theorem PublishedOnce.leaves {db' : Db} (h : PublishedOnce deps live db)
    (hleaves : LeavesProfiles db db') : PublishedOnce deps live db' := by
  obtain ⟨hjournal, hprofiles⟩ := hleaves
  refine ⟨?_, ?_⟩
  · rw [hjournal]
    exact h.atMostOne
  · rw [hjournal]
    intro record hmem hlive
    unfold HasActive
    rw [hprofiles]
    exact h.stored record hmem hlive

theorem eq_of_mem_of_length_le_one {α : Type} {xs : List α} {x y : α} (hle : xs.length ≤ 1) (hx : x ∈ xs) (hy : y ∈ xs) :
    x = y := by
  obtain ⟨i, hi, rfl⟩ := List.mem_iff_getElem.1 hx
  obtain ⟨j, hj, rfl⟩ := List.mem_iff_getElem.1 hy
  obtain rfl : i = j := by omega
  rfl

/-- A call whose transaction can commit only when the call returns. -/
theorem ProfilePass.Runs.publishedOnce (hrun : pass.Runs commits deps)
    (hreturned : ∀ tx ∈ pass.after.recorded, live tx.txHash → ∃ result, pass.out = some (.ok result))
    (h : PublishedOnce deps live pass.before) : PublishedOnce deps live pass.after.db := by
  obtain ⟨⟨hle, hsilent⟩, hgrown⟩ := hrun.journaled
  have sources : ∀ record ∈ pass.after.db.journalFor .profileCreate,
      record ∈ pass.before.journalFor .profileCreate ∨ ∃ tx ∈ pass.after.recorded, tx.core = record := by
    intro record hmem
    obtain ⟨hjournal, hpurpose⟩ := mem_journalFor.1 hmem
    exact (hgrown.journal record hjournal).imp (fun h => mem_journalFor.2 ⟨h, hpurpose⟩) fun h => h
  have kept : ∀ {txHash : Hash}, HasActive deps pass.before txHash → HasActive deps pass.after.db txHash := by
    rintro txHash ⟨r, hr, hactive⟩
    exact ⟨r, hgrown.profiles r hr, hactive⟩
  -- a live transaction from before left an active profile, so nothing new was journaled
  have old : ∀ record ∈ pass.before.journalFor .profileCreate, live record.txHash →
      pass.after.recorded = [] := fun record hmem hlive =>
    hsilent (activeProfile_of_hasActive (h.stored record hmem hlive))
  refine ⟨fun record hmem record' hmem' hlive hlive' => ?_, fun record hmem hlive => ?_⟩
  · obtain hbefore | ⟨tx, htx, rfl⟩ := sources record hmem
    · obtain hbefore' | ⟨tx', htx', -⟩ := sources record' hmem'
      · exact h.atMostOne record hbefore record' hbefore' hlive hlive'
      · rw [old record hbefore hlive] at htx'
        cases htx'
    · obtain hbefore' | ⟨tx', htx', rfl⟩ := sources record' hmem'
      · rw [old record' hbefore' hlive'] at htx
        cases htx
      · rw [eq_of_mem_of_length_le_one hle htx htx']
  · obtain hbefore | ⟨tx, htx, rfl⟩ := sources record hmem
    · exact kept (h.stored record hbefore hlive)
    · obtain ⟨result, hout⟩ := hreturned tx htx hlive
      have hstored : HasActive deps pass.after.db tx.txHash := hrun.stored hout htx
      exact hstored

/-- Of the profile transactions journaled in any calls at most one can commit, and the active profile
    it creates is stored, when every call that journals one that can commit returns. -/
theorem profileRuns_publishedOnce (hstart : PublishedOnce deps live db)
    (hruns : ProfileRuns commits deps db passes)
    (hreturned : ∀ pass ∈ passes, ∀ tx ∈ pass.after.recorded, live tx.txHash →
      ∃ result, pass.out = some (.ok result)) :
    ∀ pass ∈ passes, PublishedOnce deps live pass.after.db := by
  induction passes generalizing db with
  | nil => exact fun pass hpass => by cases hpass
  | cons first passes ih =>
    obtain ⟨hleaves, hrun, hrest⟩ := hruns
    have hafter := hrun.publishedOnce (hreturned first List.mem_cons_self) (hstart.leaves hleaves)
    intro pass hpass
    obtain rfl | hpass := List.mem_cons.1 hpass
    · exact hafter
    · exact ih hafter hrest (fun pass h => hreturned pass (List.mem_cons_of_mem _ h)) pass hpass

def sampleProfileDeps : ProfileDeps where
  pipeline := samplePipeline
  accountId := 1
  mlDsaPublicKey := [1]
  mlKemPublicKey := [2]
  lockScriptHash := [3]
  encodeCempProfileV1 := fun _ => [4]
  hashTypeId := fun firstInput _ => sampleProfile (UInt8.ofNat firstInput.index)

/-- A complete call with a node. -/
def profileCall (commits : Option (Hash → RawTransaction)) (node : Node) (db : Db) : ProfilePass :=
  let ran := Program.run (imageHandler commits node) (publishMyProfile sampleProfileDeps "alice")
    (.start db)
  ⟨"alice", db, some ran.1, ran.2⟩

theorem runs_profileCall (commits : Hash → RawTransaction) (node : Node) (db : Db) :
    (profileCall (some commits) node db).Runs commits sampleProfileDeps :=
  runs_imageHandler commits node (publishMyProfile sampleProfileDeps "alice") (.start db)

/-- What a pass over the pending transactions leaves. -/
def pendingPass (db : Db) : Db :=
  (Program.run (imageHandler none promptNode) (runPendingTransactions samplePipeline) (.start db)).2.db

/-- A node that leaves the first profile transaction pending. -/
def pendingNode : Node :=
  ⟨fun txHash => if txHash = 100 then .pending else .committed, fun _ => none⟩

/-- What the transactions of a call that is not committed in time and of a retry turn out to be. -/
def profileCommits : Hash → RawTransaction :=
  commitsOf (profileCall none promptNode (pendingPass (profileCall none pendingNode .empty).after.db)).after.db

def firstPublish (node : Node) : ProfilePass := profileCall (some profileCommits) node .empty

def secondPublish : ProfilePass :=
  profileCall (some profileCommits) promptNode (pendingPass (firstPublish pendingNode).after.db)

theorem publishedOnce_empty : PublishedOnce sampleProfileDeps live .empty :=
  ⟨fun _ h => absurd h (List.not_mem_nil), fun _ h => absurd h (List.not_mem_nil)⟩

/-- A first publish that returns is the only one. -/
theorem returned_publish_once :
    PublishedOnce sampleProfileDeps (fun _ => True) (firstPublish promptNode).after.db := by
  obtain ⟨result, hok, -⟩ : ∃ result, (Program.run (imageHandler (some profileCommits) promptNode)
      (publishMyProfile sampleProfileDeps "alice") (.start .empty)).1 = .ok result ∧
        (fun _ => true) result := exists_of_any (by decide +kernel)
  have hruns : ProfileRuns profileCommits sampleProfileDeps .empty [firstPublish promptNode] :=
    ⟨⟨rfl, rfl⟩, runs_profileCall .., trivial⟩
  refine profileRuns_publishedOnce publishedOnce_empty hruns ?_ _ List.mem_cons_self
  intro pass hpass tx _ _
  obtain rfl := List.mem_singleton.1 hpass
  exact ⟨result, congrArg some hok⟩

/-- After a publish that was not committed in time, and a pass that saw it committed, a retry
    publishes a second profile. -/
theorem timed_out_publish_twice :
    ProfileRuns profileCommits sampleProfileDeps .empty [firstPublish pendingNode, secondPublish] ∧
      (∀ r ∈ secondPublish.after.db.outgoingTransactions.rows, r.2.state = .committed) ∧
      (secondPublish.after.db.journalFor .profileCreate).length = 2 ∧
      ¬PublishedOnce sampleProfileDeps (fun _ => True) secondPublish.after.db := by
  have hleaves : LeavesProfiles (firstPublish pendingNode).after.db
      (pendingPass (firstPublish pendingNode).after.db) := ⟨by decide +kernel, by decide +kernel⟩
  have hmissing : ∃ record ∈ secondPublish.after.db.journalFor .profileCreate,
      ¬HasActive sampleProfileDeps secondPublish.after.db record.txHash := by decide +kernel
  refine ⟨⟨⟨rfl, rfl⟩, runs_profileCall .., hleaves, runs_profileCall .., trivial⟩, ?_, ?_, ?_⟩
  · decide +kernel
  · decide +kernel
  · intro h
    obtain ⟨record, hmem, hnone⟩ := hmissing
    exact hnone (h.stored record hmem trivial)

end Runs

end cemp.app
