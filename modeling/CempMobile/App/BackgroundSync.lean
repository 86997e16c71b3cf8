import CempMobile.App.RouteTagCache

/-! The background tick. A locked one probes the cached route tags and posts one notification. -/

open cemp.core

namespace cemp.app

inductive BackgroundSyncOutcome where
  | full | notified | quiet | idle
  deriving DecidableEq, Repr

/-- What the dependencies of one tick do. A query or a refresh that is none rejects. -/
structure BackgroundSyncDeps where
  isVaultUnlocked : Bool
  /-- Whether the full sweep resolves. -/
  runFullSync : Bool
  /-- The tags of the unlocked account. -/
  routeTagsHex : Option (List String)
  /-- The answer for a tag, by the number of the query. -/
  listOutpointsForTag : Nat → String → Option (List String)
  /-- Whether the notification of a count is posted. -/
  notify : Nat → Bool

/-- The outpoints of the tags that answered, and how many did. -/
def probe (listOutpointsForTag : Nat → String → Option (List String)) :
    Nat → List String → List String × Nat
  | _, [] => ([], 0)
  | index, tag :: tags =>
    let (current, answered) := probe listOutpointsForTag (index + 1) tags
    match listOutpointsForTag index tag with
    | none => (current, answered)
    | some outpoints => (outpoints ++ current, answered + 1)

/-- What a locked tick comes to: its outcome, the cache that it writes, and the outpoints whose
    number its notification posted. -/
structure LockedProbe where
  outcome : BackgroundSyncOutcome
  written : Option TagCache
  posted : Option (List String)
  deriving DecidableEq

def lockedProbe (deps : BackgroundSyncDeps) : Option TagCache → LockedProbe
  | none => ⟨.idle, none, none⟩
  | some cache =>
    if cache.tags = [] then ⟨.idle, none, none⟩
    else
      let (current, answered) := probe deps.listOutpointsForTag 0 cache.tags
      if answered = 0 then ⟨.quiet, none, none⟩
      else
        let unseen := newOutpoints cache.lastSeen current
        if 0 < unseen.length ∧ deps.notify unseen.length = false then ⟨.quiet, none, none⟩
        else
          -- A tag that failed has said nothing of what it reported before.
          let lastSeen :=
            if answered = cache.tags.length then current else (cache.lastSeen ++ current).eraseDups
          if 0 < unseen.length then ⟨.notified, some ⟨cache.tags, lastSeen⟩, some unseen⟩
          else ⟨.quiet, some ⟨cache.tags, lastSeen⟩, none⟩

/-- A tick, or the refresh of the tags at an unlock. -/
inductive SyncEvent where
  | tick (deps : BackgroundSyncDeps)
  | refresh (tags : List String)

variable {κ : Type} (keystore : RouteTagKeyStore κ)

/-- The storage after a tick, its outcome, of which there is none where it throws, and what it
    posted. -/
def runBackgroundSync (deps : BackgroundSyncDeps) (storage : RouteTagStorage κ) :
    RouteTagStorage κ × Option BackgroundSyncOutcome × Option (List String) :=
  if deps.isVaultUnlocked then
    match deps.runFullSync, deps.routeTagsHex with
    | true, some tags => (RouteTagCacheCore.writeTags keystore storage tags, some .full, none)
    | _, _ => (storage, none, none)
  else
    let probed := lockedProbe deps (RouteTagCacheCore.read keystore storage)
    match probed.written with
    | none => (storage, some probed.outcome, probed.posted)
    | some cache => (RouteTagCacheCore.write keystore storage cache, some probed.outcome, probed.posted)

def SyncEvent.perform (storage : RouteTagStorage κ) : SyncEvent → RouteTagStorage κ
  | tick deps => (runBackgroundSync keystore deps storage).1
  | refresh tags => RouteTagCacheCore.writeTags keystore storage tags

/-- The outpoints that an event's notification counted. -/
def SyncEvent.posted (storage : RouteTagStorage κ) : SyncEvent → Option (List String)
  | tick deps => (runBackgroundSync keystore deps storage).2.2
  | refresh _ => none

/-- The notifications of events that follow one another. -/
def notifications (storage : RouteTagStorage κ) : List SyncEvent → List (Option (List String))
  | [] => []
  | event :: events =>
    event.posted keystore storage :: notifications (event.perform keystore storage) events

/-- How many notifications counted an outpoint. -/
def timesCounted (outpoint : String) (storage : RouteTagStorage κ) (events : List SyncEvent) : Nat :=
  (notifications keystore storage events).countP fun posted => outpoint ∈ posted.getD []

def cachedTags (storage : RouteTagStorage κ) : List String :=
  ((RouteTagCacheCore.read keystore storage).map (·.tags)).getD []

def recorded (storage : RouteTagStorage κ) : List String :=
  ((RouteTagCacheCore.read keystore storage).map (·.lastSeen)).getD []

/-- Whenever a query of the tag is answered, the outpoint is in the answer. -/
def SyncEvent.Returns (tag outpoint : String) : SyncEvent → Prop
  | tick deps => ∀ index outpoints, deps.listOutpointsForTag index tag = some outpoints →
      outpoint ∈ outpoints
  | refresh _ => True

/-- A locked tick in which each of the cached tags answers. -/
def SyncEvent.Complete (tags : List String) : SyncEvent → Prop
  | tick deps => deps.isVaultUnlocked = false ∧
      (probe deps.listOutpointsForTag 0 tags).2 = tags.length
  | refresh _ => False

/-- Where every tag answers after the outpoint was recorded, its own is among them. -/
def Covers (tag outpoint : String) (storage : RouteTagStorage κ) : List SyncEvent → Prop
  | [] => True
  | event :: events =>
    (outpoint ∈ recorded keystore storage → event.Complete (cachedTags keystore storage) →
        tag ∈ cachedTags keystore storage ∨ cachedTags keystore storage = []) ∧
      Covers tag outpoint (event.perform keystore storage) events

/-! ### The cache through the events -/

/-- What an event makes of the cache that is read before it. -/
def SyncEvent.cacheAfter (cache : Option TagCache) : SyncEvent → Option TagCache
  | tick deps =>
    if deps.isVaultUnlocked then
      match deps.runFullSync, deps.routeTagsHex with
      | true, some tags => some (RouteTagCacheCore.withTags cache tags)
      | _, _ => cache
    else (lockedProbe deps cache).written.or cache
  | refresh tags => some (RouteTagCacheCore.withTags cache tags)

def SyncEvent.postedFrom (cache : Option TagCache) : SyncEvent → Option (List String)
  | tick deps => if deps.isVaultUnlocked then none else (lockedProbe deps cache).posted
  | refresh _ => none

def notificationsFrom (cache : Option TagCache) : List SyncEvent → List (Option (List String))
  | [] => []
  | event :: events => event.postedFrom cache :: notificationsFrom (event.cacheAfter cache) events

variable {keystore} {storage : RouteTagStorage κ} {event : SyncEvent}

theorem read_perform (hkeystore : keystore.Unwraps) (storage : RouteTagStorage κ)
    (event : SyncEvent) : RouteTagCacheCore.read keystore (event.perform keystore storage) =
      event.cacheAfter (RouteTagCacheCore.read keystore storage) := by
  cases event with
  | refresh tags => exact RouteTagCacheCore.read_write hkeystore storage _
  | tick deps =>
    unfold SyncEvent.perform runBackgroundSync SyncEvent.cacheAfter
    dsimp only
    by_cases hunlocked : deps.isVaultUnlocked = true
    · rw [if_pos hunlocked, if_pos hunlocked]
      split
      · exact RouteTagCacheCore.read_write hkeystore storage _
      · rfl
    · rw [if_neg hunlocked, if_neg hunlocked]
      cases hwritten : (lockedProbe deps (RouteTagCacheCore.read keystore storage)).written with
      | none => rfl
      | some cache => exact RouteTagCacheCore.read_write hkeystore storage cache

theorem posted_eq (storage : RouteTagStorage κ) (event : SyncEvent) :
    event.posted keystore storage = event.postedFrom (RouteTagCacheCore.read keystore storage) := by
  cases event with
  | refresh tags => rfl
  | tick deps =>
    unfold SyncEvent.posted runBackgroundSync SyncEvent.postedFrom
    dsimp only
    by_cases hunlocked : deps.isVaultUnlocked = true
    · rw [if_pos hunlocked, if_pos hunlocked]
      split <;> rfl
    · rw [if_neg hunlocked, if_neg hunlocked]
      split <;> rfl

theorem notifications_eq (hkeystore : keystore.Unwraps) (storage : RouteTagStorage κ)
    (events : List SyncEvent) : notifications keystore storage events =
      notificationsFrom (RouteTagCacheCore.read keystore storage) events := by
  induction events generalizing storage with
  | nil => rfl
  | cons event events ih =>
    rw [notifications, notificationsFrom, ih, read_perform hkeystore, posted_eq]

/-! ### One probe -/

theorem probe_le (query : Nat → String → Option (List String)) (index : Nat) (tags : List String) :
    (probe query index tags).2 ≤ tags.length := by
  induction tags generalizing index with
  | nil => exact Nat.le_refl 0
  | cons tag tags ih =>
    have hrest := ih (index + 1)
    cases hquery : query index tag with
    | none =>
      simp only [probe, hquery]
      exact Nat.le_succ_of_le hrest
    | some outpoints =>
      simp only [probe, hquery]
      exact Nat.succ_le_succ hrest

/-- Where as many answered as there are tags, each tag's answer is among what was found. -/
theorem mem_probe {query : Nat → String → Option (List String)} {index : Nat} {tags : List String}
    (hall : (probe query index tags).2 = tags.length) {tag : String} (htag : tag ∈ tags) :
    ∃ number outpoints, query number tag = some outpoints ∧ outpoints ⊆ (probe query index tags).1 := by
  induction tags generalizing index with
  | nil => cases htag
  | cons first tags ih =>
    have hle := probe_le query (index + 1) tags
    unfold probe at hall ⊢
    cases hquery : query index first with
    | none =>
      rw [hquery] at hall
      simp only [List.length_cons] at hall
      omega
    | some outpoints =>
      rw [hquery] at hall
      simp only [List.length_cons, Nat.add_right_cancel_iff] at hall ⊢
      rcases List.mem_cons.1 htag with rfl | hrest
      · exact ⟨index, outpoints, hquery, List.subset_append_left _ _⟩
      · obtain ⟨number, answer, hanswer, hsub⟩ := ih hall hrest
        exact ⟨number, answer, hanswer, List.Subset.trans hsub (List.subset_append_right _ _)⟩

/-- A probe writes nothing and posts nothing, or it records what it found, with what it knew where a
    tag failed, and has counted what of it is new. -/
theorem lockedProbe_spec (deps : BackgroundSyncDeps) (cache : TagCache) :
    (lockedProbe deps (some cache)).written = none ∧ (lockedProbe deps (some cache)).posted = none ∨
      cache.tags ≠ [] ∧ ∃ lastSeen,
        (lockedProbe deps (some cache)).written = some ⟨cache.tags, lastSeen⟩ ∧
        (∀ outpoint, outpoint ∈ lastSeen ↔
          outpoint ∈ (probe deps.listOutpointsForTag 0 cache.tags).1 ∨
            outpoint ∈ cache.lastSeen ∧
              (probe deps.listOutpointsForTag 0 cache.tags).2 ≠ cache.tags.length) ∧
        (lockedProbe deps (some cache)).posted.getD [] =
          newOutpoints cache.lastSeen (probe deps.listOutpointsForTag 0 cache.tags).1 := by
  unfold lockedProbe
  dsimp only
  by_cases htags : cache.tags = []
  · rw [if_pos htags]
    exact .inl ⟨rfl, rfl⟩
  rw [if_neg htags]
  by_cases hanswered : (probe deps.listOutpointsForTag 0 cache.tags).2 = 0
  · rw [if_pos hanswered]
    exact .inl ⟨rfl, rfl⟩
  rw [if_neg hanswered]
  generalize (probe deps.listOutpointsForTag 0 cache.tags).1 = current
  generalize (probe deps.listOutpointsForTag 0 cache.tags).2 = answered
  have hmem : ∀ outpoint, outpoint ∈ (if answered = cache.tags.length then current
      else (cache.lastSeen ++ current).eraseDups) ↔
        outpoint ∈ current ∨ outpoint ∈ cache.lastSeen ∧ answered ≠ cache.tags.length := by
    intro outpoint
    by_cases hall : answered = cache.tags.length
    · simp [hall]
    · simp [hall, or_comm]
  split
  · exact .inl ⟨rfl, rfl⟩
  · by_cases hnew : 0 < (newOutpoints cache.lastSeen current).length
    · rw [if_pos hnew]
      exact .inr ⟨htags, _, rfl, hmem, rfl⟩
    · rw [if_neg hnew]
      have hnone := List.eq_nil_of_length_eq_zero (Nat.eq_zero_of_not_pos hnew)
      exact .inr ⟨htags, _, rfl, hmem, hnone.symm⟩

/-! ### What the events record and count -/

theorem recorded_eq (cache : TagCache) (hread : RouteTagCacheCore.read keystore storage = some cache) :
    recorded keystore storage = cache.lastSeen := by
  rw [recorded, hread]
  rfl

/-- The tags of the cache may change, and nothing else. -/
theorem recorded_of_withTags {storage' : RouteTagStorage κ} {tags : List String}
    (hread : RouteTagCacheCore.read keystore storage' =
      some (RouteTagCacheCore.withTags (RouteTagCacheCore.read keystore storage) tags)) :
    recorded keystore storage' = recorded keystore storage :=
  recorded_eq _ hread

/-- An event records and counts nothing new, or it is a locked tick that goes by its probe. -/
theorem perform_cases (hkeystore : keystore.Unwraps) (storage : RouteTagStorage κ)
    (event : SyncEvent) :
    recorded keystore (event.perform keystore storage) = recorded keystore storage ∧
        event.posted keystore storage = none ∨
      ∃ deps cache lastSeen, event = .tick deps ∧ deps.isVaultUnlocked = false ∧
        RouteTagCacheCore.read keystore storage = some cache ∧ cache.tags ≠ [] ∧
        recorded keystore (event.perform keystore storage) = lastSeen ∧
        (∀ outpoint, outpoint ∈ lastSeen ↔
          outpoint ∈ (probe deps.listOutpointsForTag 0 cache.tags).1 ∨
            outpoint ∈ cache.lastSeen ∧
              (probe deps.listOutpointsForTag 0 cache.tags).2 ≠ cache.tags.length) ∧
        (event.posted keystore storage).getD [] =
          newOutpoints cache.lastSeen (probe deps.listOutpointsForTag 0 cache.tags).1 := by
  have hread := read_perform hkeystore storage event
  have hposted := @posted_eq κ keystore storage event
  have hsame (hkept : RouteTagCacheCore.read keystore (event.perform keystore storage) =
      RouteTagCacheCore.read keystore storage) :
      recorded keystore (event.perform keystore storage) = recorded keystore storage := by
    rw [recorded, hkept, recorded]
  cases event with
  | refresh tags => exact .inl ⟨recorded_of_withTags hread, rfl⟩
  | tick deps =>
    by_cases hunlocked : deps.isVaultUnlocked = true
    · simp only [SyncEvent.cacheAfter, SyncEvent.postedFrom, if_pos hunlocked] at hread hposted
      refine .inl ⟨?_, hposted⟩
      split at hread
      · exact recorded_of_withTags hread
      · exact hsame hread
    · simp only [SyncEvent.cacheAfter, SyncEvent.postedFrom, if_neg hunlocked] at hread hposted
      cases hcache : RouteTagCacheCore.read keystore storage with
      | none =>
        rw [hcache] at hread hposted
        exact .inl ⟨hsame (hread.trans hcache.symm), hposted⟩
      | some cache =>
        rw [hcache] at hread hposted
        rcases lockedProbe_spec deps cache with ⟨hwritten, hquiet⟩ |
          ⟨htags, lastSeen, hwritten, hmem, hcounted⟩
        · rw [hwritten] at hread
          exact .inl ⟨hsame (hread.trans hcache.symm), hposted.trans hquiet⟩
        · rw [hwritten] at hread
          refine .inr ⟨deps, cache, lastSeen, rfl, Bool.eq_false_of_not_eq_true hunlocked, rfl, htags,
            recorded_eq _ hread, hmem, ?_⟩
          rw [hposted, hcounted]

/-- What is recorded was recorded before, or a notification of the event has counted it. -/
theorem recorded_perform (hkeystore : keystore.Unwraps) {outpoint : String}
    (h : outpoint ∈ recorded keystore (event.perform keystore storage)) :
    outpoint ∈ recorded keystore storage ∨
      ∃ counted, event.posted keystore storage = some counted ∧ outpoint ∈ counted := by
  rcases perform_cases hkeystore storage event with ⟨hsame, -⟩ |
    ⟨deps, cache, lastSeen, rfl, -, hcache, -, hrecorded, hmem, hcounted⟩
  · exact .inl (hsame ▸ h)
  · rw [recorded_eq cache hcache]
    by_cases hold : outpoint ∈ cache.lastSeen
    · exact .inl hold
    · rw [hrecorded, hmem] at h
      have hcurrent := h.resolve_right fun hkept => hold hkept.1
      have hnew : outpoint ∈ ((SyncEvent.tick deps).posted keystore storage).getD [] := by
        rw [hcounted]
        exact List.mem_filter.2 ⟨hcurrent, decide_eq_true hold⟩
      cases hposted : (SyncEvent.tick deps).posted keystore storage with
      | none =>
        rw [hposted] at hnew
        cases hnew
      | some counted =>
        rw [hposted] at hnew
        exact .inr ⟨counted, rfl, hnew⟩

/-- What a notification has counted is recorded with it, and was not before. -/
theorem recorded_of_posted (hkeystore : keystore.Unwraps) {outpoint : String}
    (h : outpoint ∈ (event.posted keystore storage).getD []) :
    outpoint ∉ recorded keystore storage ∧
      outpoint ∈ recorded keystore (event.perform keystore storage) := by
  rcases perform_cases hkeystore storage event with ⟨-, hquiet⟩ |
    ⟨deps, cache, lastSeen, rfl, -, hcache, -, hrecorded, hmem, hcounted⟩
  · rw [hquiet] at h
    cases h
  · rw [hcounted] at h
    obtain ⟨hcurrent, hnew⟩ := List.mem_filter.1 h
    rw [recorded_eq cache hcache, hrecorded, hmem]
    exact ⟨of_decide_eq_true hnew, .inl hcurrent⟩

/-- An outpoint that is recorded stays so where its tag, if every tag answers, is among them. -/
theorem recorded_stays (hkeystore : keystore.Unwraps) {tag outpoint : String}
    (hreturns : event.Returns tag outpoint) (hrecorded : outpoint ∈ recorded keystore storage)
    (hcovers : event.Complete (cachedTags keystore storage) →
      tag ∈ cachedTags keystore storage ∨ cachedTags keystore storage = []) :
    outpoint ∈ recorded keystore (event.perform keystore storage) := by
  rcases perform_cases hkeystore storage event with ⟨hsame, -⟩ |
    ⟨deps, cache, lastSeen, rfl, hlocked, hcache, htags, hafter, hmem, -⟩
  · exact hsame ▸ hrecorded
  · rw [recorded_eq cache hcache] at hrecorded
    have hcached : cachedTags keystore storage = cache.tags := by
      rw [cachedTags, hcache]
      rfl
    rw [hcached] at hcovers
    rw [hafter, hmem]
    by_cases hall : (probe deps.listOutpointsForTag 0 cache.tags).2 = cache.tags.length
    · obtain ⟨number, outpoints, hquery, hsub⟩ :=
        mem_probe hall ((hcovers ⟨hlocked, hall⟩).resolve_right htags)
      exact .inl (hsub (hreturns number outpoints hquery))
    · exact .inr ⟨hrecorded, hall⟩

theorem timesCounted_cons (outpoint : String) (storage : RouteTagStorage κ) (event : SyncEvent)
    (events : List SyncEvent) : timesCounted keystore outpoint storage (event :: events) =
      timesCounted keystore outpoint (event.perform keystore storage) events +
        if outpoint ∈ (event.posted keystore storage).getD [] then 1 else 0 := by
  rw [timesCounted, notifications, List.countP_cons, timesCounted]
  simp only [decide_eq_true_eq]

theorem timesCounted_of_recorded (hkeystore : keystore.Unwraps) {tag outpoint : String}
    {events : List SyncEvent} (hreturns : ∀ event ∈ events, event.Returns tag outpoint)
    (hcovers : Covers keystore tag outpoint storage events)
    (hrecorded : outpoint ∈ recorded keystore storage) :
    timesCounted keystore outpoint storage events = 0 := by
  induction events generalizing storage with
  | nil => rfl
  | cons event events ih =>
    obtain ⟨hcover, hrest⟩ := hcovers
    have hstays := recorded_stays hkeystore (hreturns event List.mem_cons_self) hrecorded
      (hcover hrecorded)
    have hnot : outpoint ∉ (event.posted keystore storage).getD [] := fun hposted =>
      (recorded_of_posted hkeystore hposted).1 hrecorded
    rw [timesCounted_cons, if_neg hnot,
      ih (fun later hlater => hreturns later (List.mem_cons_of_mem _ hlater)) hrest hstays]

theorem timesCounted_le_one (hkeystore : keystore.Unwraps) {tag outpoint : String}
    {events : List SyncEvent} (hreturns : ∀ event ∈ events, event.Returns tag outpoint)
    (hcovers : Covers keystore tag outpoint storage events) :
    timesCounted keystore outpoint storage events ≤ 1 := by
  induction events generalizing storage with
  | nil => exact Nat.zero_le 1
  | cons event events ih =>
    have hlater : ∀ later ∈ events, later.Returns tag outpoint := fun later hlater =>
      hreturns later (List.mem_cons_of_mem _ hlater)
    rw [timesCounted_cons]
    by_cases hposted : outpoint ∈ (event.posted keystore storage).getD []
    · have hrecorded := (recorded_of_posted hkeystore hposted).2
      rw [if_pos hposted, timesCounted_of_recorded hkeystore hlater hcovers.2 hrecorded]
    · rw [if_neg hposted]
      exact ih hlater hcovers.2

/-- The keystore that keeps the last value under one entry. -/
def entryKeyStore : RouteTagKeyStore Bytes where
  wrap value _ := ([0x72, 0x74, 0x31], value)
  unwrap blob kept := if blob = [0x72, 0x74, 0x31] then some kept else none

theorem entryKeyStore_unwraps : entryKeyStore.Unwraps := by
  intro value kept
  simp [entryKeyStore]

/-- A locked tick, with the outpoint of one tag waiting. -/
def lockedTick (tag outpoint : String) : SyncEvent :=
  .tick ⟨false, true, none, fun _ asked => some (if asked = tag then [outpoint] else []), fun _ => true⟩

theorem lockedTick_returns (tag outpoint : String) :
    (lockedTick tag outpoint).Returns tag outpoint := by
  intro index outpoints hanswer
  have hfound : some [outpoint] = some outpoints := (congrArg some (if_pos rfl)).symm.trans hanswer
  rw [← Option.some.inj hfound]
  exact List.mem_singleton.2 rfl

/-- The tag of a waiting outpoint leaves the cache and comes back, and the outpoint is counted twice:
    the tick in between has overwritten what was recorded. -/
theorem counted_twice : ¬ ∀ (keystore : RouteTagKeyStore Bytes), keystore.Unwraps →
    ∀ (storage : RouteTagStorage Bytes) tag outpoint (events : List SyncEvent),
      (∀ event ∈ events, event.Returns tag outpoint) →
        timesCounted keystore outpoint storage events ≤ 1 := by
  intro h
  let events : List SyncEvent := [.refresh ["aa"], lockedTick "aa" "x:0", .refresh ["bb"],
    lockedTick "aa" "x:0", .refresh ["aa"], lockedTick "aa" "x:0"]
  have hreturns : ∀ event ∈ events, event.Returns "aa" "x:0" := by
    simp only [events, List.forall_mem_cons]
    exact ⟨trivial, lockedTick_returns _ _, trivial, lockedTick_returns _ _, trivial,
      lockedTick_returns _ _, fun _ hevent => absurd hevent List.not_mem_nil⟩
  have hle := h entryKeyStore entryKeyStore_unwraps ⟨none, []⟩ "aa" "x:0" events hreturns
  rw [timesCounted, notifications_eq entryKeyStore_unwraps] at hle
  exact absurd hle (by decide +kernel)

/-- Nothing is recorded that was not counted by a notification posted in its tick, and an outpoint
    is counted once, as long as its tag is in the cache when every tag answers. -/
theorem notified_once (hkeystore : keystore.Unwraps) :
    (∀ (storage : RouteTagStorage κ) (event : SyncEvent) outpoint,
      outpoint ∈ recorded keystore (event.perform keystore storage) →
        outpoint ∈ recorded keystore storage ∨
          ∃ counted, event.posted keystore storage = some counted ∧ outpoint ∈ counted) ∧
    ∀ (storage : RouteTagStorage κ) tag outpoint (events : List SyncEvent),
      (∀ event ∈ events, event.Returns tag outpoint) →
        Covers keystore tag outpoint storage events →
          timesCounted keystore outpoint storage events ≤ 1 :=
  ⟨fun _ _ _ => recorded_perform hkeystore,
    fun _ _ _ _ => timesCounted_le_one hkeystore⟩

/-- Two ticks see the outpoint of a tag that stays in the cache. -/
theorem notified_once_sample : timesCounted entryKeyStore "x:0" ⟨none, []⟩
    [.refresh ["aa"], lockedTick "aa" "x:0", lockedTick "aa" "x:0"] ≤ 1 := by
  have hrefreshed := read_perform entryKeyStore_unwraps ⟨none, []⟩ (.refresh ["aa"])
  have hticked := read_perform entryKeyStore_unwraps
    (SyncEvent.perform entryKeyStore ⟨none, []⟩ (.refresh ["aa"])) (lockedTick "aa" "x:0")
  rw [hrefreshed] at hticked
  refine (notified_once entryKeyStore_unwraps).2 _ "aa" "x:0" _ ?_ ⟨?_, ?_, ?_, trivial⟩
  · simp only [List.forall_mem_cons]
    exact ⟨trivial, lockedTick_returns _ _, lockedTick_returns _ _,
      fun _ hevent => absurd hevent List.not_mem_nil⟩
  · exact fun _ hcomplete => hcomplete.elim
  · refine fun _ _ => .inl ?_
    rw [cachedTags, hrefreshed]
    decide +kernel
  · refine fun _ _ => .inl ?_
    rw [cachedTags, hticked]
    decide +kernel

end cemp.app
