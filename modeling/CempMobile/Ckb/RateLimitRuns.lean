import CempMobile.Ckb.Local
import CempMobile.Ckb.RateLimit

open Program TokenBucket cemp.core cemp.database

namespace cemp.ckb.limiter

/-- A call that stopped has charged all its buckets if it was accepted, and none if refused. -/
def Settled (call : Call) (h : History) : Except Error Bool → Prop
  | .ok true => ∀ bucket ∈ call.buckets, bucket ∈ h.charged
  | .ok false => h.charged = []
  | .error _ => True

/-- The accesses a call makes: it writes a bucket only where it has seen none, to make it full, or
    over a row it has seen with a token to take from it. -/
def accesses (config : HourlyRates) (call : Call) : Automaton BucketOp Error History where
  allowed
    | _, _, .get _ => True
    | _, h, .set bucket state =>
      (h.seen bucket = some none ∧ state = ⟨config.perHour bucket, call.now⟩) ∨
        ∃ old, h.seen bucket = some (some old) ∧ bucket ∉ h.charged ∧
          1 ≤ refilled HOUR_MS (config.perHour bucket) old call.now ∧
            state = ⟨refilled HOUR_MS (config.perHour bucket) old call.now - 1, call.now⟩
  next β h op answer := h.next β op answer

section Calls

variable {config : HourlyRates} {call : Call} {h : History} {bucket : BucketName} {β : Type}

@[simp] theorem History.next_error (op : BucketOp β) (e : Error) :
    h.next β op (.error e) = h := by
  cases op <;> rfl

theorem hour_pos : 0 < HOUR_MS := by norm_num [HOUR_MS]

theorem perHour_nonneg (config : HourlyRates) (bucket : BucketName) :
    0 ≤ config.perHour bucket := by
  unfold HourlyRates.perHour
  split
  · exact config.global_nonneg
  · exact config.perContact_nonneg

/-- What a call knows of a bucket it has refilled. -/
def Knows (config : HourlyRates) (call : Call) (h : History) (bucket : BucketName) (tokens : ℚ) :
    Prop :=
  ∃ old, h.seen bucket = some (some old) ∧
    tokens = refilled HOUR_MS (config.perHour bucket) old call.now

/-- A refill charges nothing, keeps what is known of other buckets and makes its own known. -/
theorem refill_conforms (config : HourlyRates) (call : Call) (h : History) (bucket : BucketName) :
    Conforms (accesses config call) h (refill bucket (config.perHour bucket) call.now)
      fun h' out =>
        (∀ other ≠ bucket, h'.seen other = h.seen other) ∧ h'.charged = h.charged ∧
          ∀ tokens, out = .ok tokens → Knows config call h' bucket tokens := by
  unfold refill
  refine Conforms.step trivial (fun e => ⟨fun _ _ => rfl, rfl, fun _ hok => by cases hok⟩) ?_
  intro existing
  cases existing with
  | some existing =>
    refine ⟨fun other hne => Function.update_of_ne hne _ _, rfl, ?_⟩
    rintro tokens hok
    obtain rfl := Except.ok.inj hok
    exact ⟨existing, Function.update_self .., rfl⟩
  | none =>
    have hseen : ((accesses config call).next _ h (.get bucket) (.ok none)).seen bucket =
        some none := Function.update_self ..
    refine Conforms.step (.inl ⟨hseen, rfl⟩)
      (fun e => ⟨fun other hne => Function.update_of_ne hne _ _, rfl, fun _ hok => by cases hok⟩) ?_
    intro _
    refine ⟨fun other hne => ?_, if_pos hseen, ?_⟩
    · exact (Function.update_of_ne hne _ _).trans (Function.update_of_ne hne _ _)
    · rintro tokens hok
      obtain rfl := Except.ok.inj hok
      exact ⟨_, Function.update_self .., (refilled_full hour_pos (perHour_nonneg config bucket) _).symm⟩

/-- A charge of a bucket that is known to have a token. -/
theorem Knows.allowed {tokens : ℚ} (hknows : Knows config call h bucket tokens)
    (htoken : ¬tokens < 1) (hnew : bucket ∉ h.charged) :
    (accesses config call).allowed _ h (.set bucket ⟨tokens - 1, call.now⟩) := by
  obtain ⟨old, hseen, rfl⟩ := hknows
  exact .inr ⟨old, hseen, hnew, not_lt.1 htoken, rfl⟩

/-- A charge is noted. -/
theorem Knows.charged {tokens : ℚ} (hknows : Knows config call h bucket tokens)
    (state : RateLimitBucketState) (answer : Unit) :
    (h.next _ (.set bucket state) (.ok answer)).charged = bucket :: h.charged := by
  obtain ⟨old, hseen, -⟩ := hknows
  exact if_neg (by simp [hseen])

theorem consume_conforms (config : HourlyRates) (call : Call) :
    Conforms (accesses config call) .empty (call.body config.toRateLimiterConfig)
      (Settled call) := by
  obtain ⟨scope, profileId, now⟩ := call
  refine (refill_conforms config _ .empty ⟨scope, none⟩).bind ?_ fun _ _ _ => trivial
  rintro h global ⟨-, hcharged, hglobal⟩
  have hglobal := hglobal global rfl
  cases profileId with
  | none =>
    by_cases hfew : global < 1
    · simp only [hfew, if_true]
      exact hcharged
    · simp only [hfew, if_false]
      have hnew : ⟨scope, none⟩ ∉ h.charged := by simp [hcharged, History.empty]
      refine Conforms.step (hglobal.allowed hfew hnew) (fun _ => trivial) fun answer => ?_
      intro bucket hbucket
      rw [List.mem_singleton.1 hbucket]
      exact (hglobal.charged _ answer) ▸ List.mem_cons_self
  | some profileId =>
    refine (refill_conforms config _ h ⟨scope, some profileId⟩).bind ?_ fun _ _ _ => trivial
    rintro h' contact ⟨hother, hcharged', hcontact⟩
    have hcontact := hcontact contact rfl
    have hglobal : Knows config ⟨scope, some profileId, now⟩ h' ⟨scope, none⟩ global := by
      obtain ⟨old, hseen, htokens⟩ := hglobal
      exact ⟨old, (hother _ (by simp)).trans hseen, htokens⟩
    by_cases hfew : contact < 1 ∨ global < 1
    · simp only [hfew, if_true]
      exact hcharged'.trans hcharged
    · simp only [hfew, if_false]
      rw [not_or] at hfew
      have hnone : h'.charged = [] := hcharged'.trans hcharged
      refine Conforms.step (hcontact.allowed hfew.1 (by simp [hnone])) (fun _ => trivial) fun answer => ?_
      have hglobal' : Knows config ⟨scope, some profileId, now⟩
          (h'.next _ (.set ⟨scope, some profileId⟩ ⟨contact - 1, now⟩) (.ok answer))
          ⟨scope, none⟩ global := by
        obtain ⟨old, hseen, htokens⟩ := hglobal
        exact ⟨old, (Function.update_of_ne (by simp) _ _).trans hseen, htokens⟩
      have hone := hcontact.charged ⟨contact - 1, now⟩ answer
      rw [hnone] at hone
      refine Conforms.step (hglobal'.allowed hfew.2 (hone ▸ by simp)) (fun _ => trivial) fun answer' => ?_
      intro bucket hbucket
      have hall := (hglobal'.charged ⟨global - 1, now⟩ answer').trans (congrArg _ hone)
      obtain rfl | hbucket := List.mem_cons.1 hbucket
      · exact hall ▸ List.mem_cons_of_mem _ List.mem_cons_self
      · obtain rfl := List.mem_singleton.1 hbucket
        exact hall ▸ List.mem_cons_self

end Calls

/-- The times at which a bucket was charged. -/
def chargeTimes (calls : List Running) (bucket : BucketName) : List ℚ :=
  (calls.filter fun c => bucket ∈ c.history.charged).map (·.call.now)

/-- Each call still makes the accesses of `consume` and no others. -/
def Accessing (config : HourlyRates) (calls : List Running) : Prop :=
  ∀ c ∈ calls, Conforms (accesses config c.call) c.history c.rest (Settled c.call)

/-- Each bucket is what its charges have made of it. -/
def Accounted (config : HourlyRates) (store : RateLimitStore) (calls : List Running) : Prop :=
  ∀ bucket, Charged HOUR_MS (config.perHour bucket) (store bucket) (chargeTimes calls bucket)

section Runs

variable {config : HourlyRates} {discipline : Discipline} {store₀ store store' : RateLimitStore}
  {calls front back : List Running} {c : Running} {bucket : BucketName} {β : Type}
  {op : BucketOp β} {k : Except Error β → Prog Bool} {answer : Except Error β}

theorem chargeTimes_append (front back : List Running) :
    chargeTimes (front ++ back) bucket = chargeTimes front bucket ++ chargeTimes back bucket := by
  simp [chargeTimes]

theorem chargeTimes_cons_of_mem (h : bucket ∈ c.history.charged) (back : List Running) :
    chargeTimes (c :: back) bucket = c.call.now :: chargeTimes back bucket := by
  simp [chargeTimes, h]

theorem chargeTimes_cons_of_notMem (h : bucket ∉ c.history.charged) (back : List Running) :
    chargeTimes (c :: back) bucket = chargeTimes back bucket := by
  simp [chargeTimes, h]

theorem mem_chargeTimes {time : ℚ} (h : time ∈ chargeTimes calls bucket) :
    ∃ other ∈ calls, bucket ∈ other.history.charged ∧ other.call.now = time := by
  obtain ⟨other, hmem, rfl⟩ := List.mem_map.1 h
  rw [List.mem_filter, decide_eq_true_eq] at hmem
  exact ⟨other, hmem.1, hmem.2, rfl⟩

theorem chargeTimes_answered {h : History}
    (hcharged : bucket ∈ h.charged ↔ bucket ∈ c.history.charged) (rest : Prog Bool) :
    chargeTimes (front ++ ⟨c.call, h, rest⟩ :: back) bucket =
      chargeTimes (front ++ c :: back) bucket := by
  simp only [chargeTimes_append]
  congr 1
  by_cases hmem : bucket ∈ c.history.charged
  · rw [chargeTimes_cons_of_mem hmem, chargeTimes_cons_of_mem (hcharged.2 hmem)]
  · rw [chargeTimes_cons_of_notMem hmem, chargeTimes_cons_of_notMem (mt hcharged.1 hmem)]

theorem Run.accessing (run : Run config.toRateLimiterConfig discipline store₀ store calls) :
    Accessing config calls := by
  induction run with
  | start =>
    intro c hc
    cases hc
  | begins _ call _ _ ih =>
    intro c hc
    obtain hc | hc := List.mem_append.1 hc
    · exact ih c hc
    · obtain rfl := List.mem_singleton.1 hc
      exact consume_conforms config call
  | @access _ _ front back c _ _ _ answer _ next _ _ ih =>
    intro c' hc'
    obtain hc' | hc' := List.mem_append.1 hc'
    · exact ih c' (List.mem_append_left _ hc')
    obtain rfl | hc' := List.mem_cons.1 hc'
    · have hc := ih c (by simp)
      rw [next] at hc
      exact hc.2 answer
    · exact ih c' (List.mem_append_right _ (List.mem_cons_of_mem _ hc'))

/-- An undisturbed access leaves every bucket accounted for. -/
theorem Accounted.access (haccounted : Accounted config store (front ++ c :: back))
    (hallowed : (accesses config c.call).allowed β c.history op)
    (hmet : ∀ bucket, op.writes = some bucket →
      Discipline.undisturbed.writes store (front ++ back) c bucket)
    (answered : Answers β op store answer store') (rest : Prog Bool) :
    Accounted config store' (front ++ ⟨c.call, c.history.next β op answer, rest⟩ :: back) := by
  intro bucket
  have hbefore := haccounted bucket
  cases answered with
  | fails e =>
    rw [History.next_error]
    have hsame := @chargeTimes_answered front back c bucket c.history Iff.rfl rest
    exact hsame ▸ hbefore
  | get read =>
    have hsame := @chargeTimes_answered front back c bucket
      (c.history.next _ (.get read) (.ok (store read))) Iff.rfl rest
    exact hsame ▸ hbefore
  | set written state =>
    obtain ⟨hseen, hlater⟩ := hmet written rfl
    by_cases hsame : bucket = written
    · subst hsame
      rw [Function.update_self]
      obtain ⟨hnone, -⟩ | ⟨old, hold, hnew, htoken, rfl⟩ := hallowed
      · have hempty := hseen.symm.trans hnone
        rw [Option.some.inj hempty] at hbefore
        rw [chargeTimes_answered (by simp [History.next, hnone]), hbefore.eq_nil]
        exact .nil hour_pos (perHour_nonneg config bucket) _
      · have hstore := hseen.symm.trans hold
        rw [Option.some.inj hstore, chargeTimes_append, chargeTimes_cons_of_notMem hnew] at hbefore
        have hcharged : bucket ∈ (c.history.next _ (.set bucket ⟨refilled HOUR_MS
            (config.perHour bucket) old c.call.now - 1, c.call.now⟩) (.ok ())).charged := by
          simp [History.next, hold]
        rw [chargeTimes_append, chargeTimes_cons_of_mem hcharged]
        refine hbefore.insert hour_pos (perHour_nonneg config bucket) ?_ htoken
        intro time htime
        rw [← chargeTimes_append] at htime
        obtain ⟨other, hmem, hcharged, rfl⟩ := mem_chargeTimes htime
        exact hlater other hmem hcharged
    · rw [Function.update_of_ne hsame, chargeTimes_answered]
      · exact hbefore
      · by_cases hnone : c.history.seen written = some none <;>
          simp [History.next, hnone, hsame]

theorem Run.accounted (run : Run config.toRateLimiterConfig .undisturbed store₀ store calls) :
    Accounted config store calls := by
  induction run with
  | start => exact fun bucket => .nil hour_pos (perHour_nonneg config bucket) _
  | begins _ call _ _ ih =>
    intro bucket
    have hbefore := ih bucket
    have hnil : chargeTimes [] bucket = [] := rfl
    rwa [chargeTimes_append, chargeTimes_cons_of_notMem List.not_mem_nil, hnil, List.append_nil]
  | access run next met answered ih =>
    have hconforms := run.accessing _ (List.mem_append_right _ List.mem_cons_self)
    rw [next] at hconforms
    exact ih.access hconforms.1 met answered _

/-- A call that was accepted has charged its buckets. -/
theorem charged_of_accepted (haccessing : Accessing config calls) (hc : c ∈ calls)
    (haccepted : c.outcome = some true) (hbucket : bucket ∈ c.call.buckets) :
    bucket ∈ c.history.charged := by
  have hsettled := haccessing c hc
  unfold Running.outcome at haccepted
  split at haccepted
  · next accepted hrest =>
    rw [hrest, Option.some.inj haccepted] at hsettled
    exact hsettled bucket hbucket
  · cases haccepted

/-- No more calls are accepted in a window than charge a bucket they share. -/
theorem acceptedWithin_le (haccessing : Accessing config calls) {p : Call → Bool}
    (hp : ∀ call, p call = true → bucket ∈ call.buckets) (first last : ℚ) :
    acceptedWithin calls p first last ≤ within first last (chargeTimes calls bucket) := by
  unfold acceptedWithin within chargeTimes
  rw [List.countP_map, List.countP_filter]
  refine List.countP_mono_left fun c hc haccepted => ?_
  simp only [Bool.and_eq_true, beq_iff_eq] at haccepted
  have hcharged := charged_of_accepted haccessing hc haccepted.1.1 (hp _ haccepted.1.2)
  simpa [hcharged] using haccepted.2

theorem Run.bounded (run : Run config.toRateLimiterConfig .undisturbed store₀ store calls) :
    Bounded config.toRateLimiterConfig calls := by
  have bound (bucket : BucketName) (p : Call → Bool)
      (hp : ∀ call, p call = true → bucket ∈ call.buckets) (first d : ℚ) (hd : 0 ≤ d) :
      (acceptedWithin calls p first (first + d) : ℚ) ≤
        config.perHour bucket * (1 + d / HOUR_MS) := by
    have hwindow := (run.accounted bucket).window first (first + d) (le_add_of_nonneg_right hd)
    rw [add_sub_cancel_left] at hwindow
    refine le_trans ?_ hwindow
    exact_mod_cast acceptedWithin_le run.accessing hp first (first + d)
  constructor
  · intro scope profileId first d hd
    refine bound ⟨scope, some profileId⟩ _ ?_ first d hd
    intro call hcall
    obtain ⟨rfl, hprofile⟩ := of_decide_eq_true hcall
    simp [Call.buckets, hprofile]
  · intro scope first d hd
    refine bound ⟨scope, none⟩ _ ?_ first d hd
    intro call hcall
    obtain rfl := of_decide_eq_true hcall
    unfold Call.buckets
    split <;> simp

end Runs

/-- All the rows a history has seen are still there. -/
def History.Current (h : History) (store : RateLimitStore) : Prop :=
  ∀ bucket row, h.seen bucket = some row → store bucket = row

/-- Of calls that do not overlap all but the last are done, and the last knows the store. -/
def OneAtATime (store : RateLimitStore) (calls : List Running) : Prop :=
  calls = [] ∨ ∃ front c, calls = front ++ [c] ∧ c.history.Current store ∧
    ∀ other ∈ front, other.finished = true ∧ other.call.now ≤ c.call.now

section Serial

variable {config : HourlyRates} {store₀ store store' : RateLimitStore} {calls : List Running}
  {call : Call} {h : History} {bucket : BucketName} {β : Type} {op : BucketOp β}
  {answer : Except Error β}

theorem History.Current.next (hcurrent : h.Current store) (answered : Answers β op store answer store') :
    (h.next β op answer).Current store' := by
  intro bucket row hseen
  cases answered with
  | fails e => exact hcurrent bucket row (by simpa using hseen)
  | get read =>
    by_cases hsame : bucket = read
    · subst hsame
      simpa [History.next] using hseen
    · simp only [History.next, Function.update_of_ne hsame] at hseen
      exact hcurrent bucket row hseen
  | set written state =>
    by_cases hsame : bucket = written
    · subst hsame
      rw [Function.update_self]
      simpa [History.next] using hseen
    · simp only [History.next, Function.update_of_ne hsame] at hseen
      rw [Function.update_of_ne hsame]
      exact hcurrent bucket row hseen

theorem History.mem_charged_next (h : History) (hmem : bucket ∈ h.charged) (op : BucketOp β)
    (answer : Except Error β) : bucket ∈ (h.next β op answer).charged := by
  cases answer with
  | error e => simpa using hmem
  | ok value =>
    cases op with
    | get read => exact hmem
    | set written state =>
      by_cases hnone : h.seen written = some none
      · simpa [History.next, hnone] using hmem
      · simp [History.next, hnone, hmem]

/-- A bucket that a call may write is one it has seen. -/
theorem seen_of_allowed (hallowed : (accesses config call).allowed β h op)
    (hwrites : op.writes = some bucket) : ∃ row, h.seen bucket = some row := by
  cases op with
  | get read => cases hwrites
  | set written state =>
    obtain rfl := Option.some.inj hwrites
    obtain ⟨hnone, -⟩ | ⟨old, hold, -⟩ := hallowed
    · exact ⟨none, hnone⟩
    · exact ⟨some old, hold⟩

/-- Calls that do not overlap do not disturb each other. -/
theorem Run.undisturbed (run : Run config.toRateLimiterConfig .serial store₀ store calls) :
    Run config.toRateLimiterConfig .undisturbed store₀ store calls ∧ OneAtATime store calls := by
  induction run with
  | start => exact ⟨.start, .inl rfl⟩
  | begins run call clock met ih =>
    refine ⟨ih.1.begins call clock trivial, .inr ⟨_, _, rfl, ?_, fun other hother =>
      ⟨met other hother, clock other hother⟩⟩⟩
    intro bucket row hseen
    cases hseen
  | @access _ _ front back c _ op k answer run next met answered ih =>
    obtain ⟨hrun, hnone | ⟨done, last, hcalls, hcurrent, hdone⟩⟩ := ih
    · simp at hnone
    -- The call that makes the access is not done, so it is the last one.
    have hback : back = [] := by
      by_contra hne
      obtain ⟨between, final, rfl⟩ := (List.eq_nil_or_concat' back).resolve_left hne
      rw [← List.cons_append, ← List.append_assoc] at hcalls
      obtain ⟨rfl, -⟩ := List.append_inj' hcalls rfl
      have hfinished := (hdone c (by simp)).1
      rw [Running.finished, next] at hfinished
      cases hfinished
    subst hback
    obtain ⟨rfl, hlast⟩ := List.append_inj' hcalls rfl
    obtain rfl := List.singleton_inj.1 hlast
    have hconforms := run.accessing _ (List.mem_append_right _ List.mem_cons_self)
    rw [next] at hconforms
    refine ⟨hrun.access next ?_ answered, .inr ⟨front, _, rfl, hcurrent.next answered, hdone⟩⟩
    intro bucket hwrites
    obtain ⟨row, hseen⟩ := seen_of_allowed hconforms.1 hwrites
    refine ⟨hseen.trans (congrArg some (hcurrent bucket row hseen).symm), ?_⟩
    intro other hother _
    exact (hdone other (by simpa using hother)).2

/-- An access that charges nothing leaves every token level. -/
theorem level_of_not_charged (hallowed : (accesses config call).allowed β h op)
    (hcurrent : h.Current store) (answered : Answers β op store answer store')
    (hcharged : (h.next β op answer).charged = h.charged) (bucket : BucketName) (time : ℚ) :
    level config store' bucket time = level config store bucket time := by
  cases answered with
  | fails => rfl
  | get => rfl
  | set written state =>
    by_cases hsame : bucket = written
    · subst hsame
      obtain ⟨hnone, rfl⟩ | ⟨old, hold, -⟩ := hallowed
      · rw [level, level, Function.update_self, hcurrent bucket none hnone]
        exact refilled_full hour_pos (perHour_nonneg config bucket) _
      · rw [History.next, hold] at hcharged
        simp at hcharged
    · rw [level, level, Function.update_of_ne hsame]

/-- A call that runs alone and has charged nothing at its end has left every token level. -/
theorem Runs.level_eq {p : Prog Bool} {out : Except Error Bool}
    (hconforms : Conforms (accesses config call) h p (Settled call)) (hcurrent : h.Current store)
    (hruns : Runs Answers p store out store') :
    ∃ h', Settled call h' out ∧ (h'.charged = [] → h.charged = [] ∧ ∀ bucket time,
      level config store' bucket time = level config store bucket time) := by
  induction p generalizing h store with
  | ret accepted =>
    obtain ⟨rfl, rfl⟩ := hruns
    exact ⟨h, hconforms, fun hnone => ⟨hnone, fun _ _ => rfl⟩⟩
  | throw e =>
    obtain ⟨rfl, rfl⟩ := hruns
    exact ⟨h, hconforms, fun hnone => ⟨hnone, fun _ _ => rfl⟩⟩
  | call op k ih =>
    obtain ⟨answer, mid, answered, hrest⟩ := hruns
    obtain ⟨h', hsettled, hlevel⟩ :=
      ih answer (hconforms.2 answer) (hcurrent.next answered) hrest
    refine ⟨h', hsettled, fun hnone => ?_⟩
    obtain ⟨hnext, hsame⟩ := hlevel hnone
    have hbefore : h.charged = [] := by
      rw [List.eq_nil_iff_forall_not_mem] at hnext ⊢
      exact fun bucket hmem => hnext bucket (h.mem_charged_next hmem op answer)
    refine ⟨hbefore, fun bucket time => (hsame bucket time).trans ?_⟩
    exact level_of_not_charged hconforms.1 hcurrent answered (hnext.trans hbefore.symm) bucket time

/-- A call that runs alone and is refused leaves every token level. -/
theorem refused_level (hruns : Runs Answers (call.body config.toRateLimiterConfig) store
    (.ok false) store') (bucket : BucketName) (time : ℚ) :
    level config store' bucket time = level config store bucket time := by
  have hcurrent : History.empty.Current store := fun bucket row hseen => by cases hseen
  obtain ⟨h', hrefused, hlevel⟩ := Runs.level_eq (consume_conforms config call) hcurrent hruns
  exact (hlevel hrefused).2 bucket time

end Serial

/-- However calls overlap, as long as each writes over the rows it has seen and not behind a call
    that began later, no window has more accepted than the hourly rates allow. Calls made one after
    another always do, and a refused one changes no token level. -/
theorem consume_bounded (config : HourlyRates) (store₀ : RateLimitStore) :
    (∀ store calls, Run config.toRateLimiterConfig .undisturbed store₀ store calls →
        Bounded config.toRateLimiterConfig calls) ∧
      (∀ store calls, Run config.toRateLimiterConfig .serial store₀ store calls →
        Run config.toRateLimiterConfig .undisturbed store₀ store calls ∧
          Bounded config.toRateLimiterConfig calls) ∧
      ∀ store (call : Call) store', Runs Answers (call.body config.toRateLimiterConfig) store (.ok false) store' →
        ∀ bucket time, level config store' bucket time = level config store bucket time :=
  ⟨fun _ _ run => run.bounded, fun _ _ run => ⟨run.undisturbed.1, run.undisturbed.1.bounded⟩,
    fun _ _ _ hruns => refused_level hruns⟩

section Overlap

/-- Every bucket full. -/
def full (config : HourlyRates) (now : ℚ) : RateLimitStore := fun bucket =>
  some ⟨config.perHour bucket, now⟩

/-- A call that has read both its buckets and found a token in each. -/
def Ready (call : Call) (c : Running) : Prop :=
  c.call = call ∧ ∃ contact global state state' k k',
    c.rest = .call (.set contact state) k ∧ k (.ok ()) = .call (.set global state') k' ∧
      k' (.ok ()) = .ret true

variable {config : HourlyRates} {scope : RateLimitScope} {profileId : ProfileId} {now : ℚ}
  {store₀ store : RateLimitStore} {calls done ready : List Running} {call : Call}

/-- One more call reads the full buckets. -/
theorem exists_run_ready (hcontact : 1 ≤ config.perContactPerHour) (hglobal : 1 ≤ config.globalPerHour)
    (run : Run config.toRateLimiterConfig .any (full config now) (full config now) calls)
    (hcalls : ∀ c ∈ calls, Ready ⟨scope, some profileId, now⟩ c) :
    ∃ c, Ready ⟨scope, some profileId, now⟩ c ∧
      Run config.toRateLimiterConfig .any (full config now) (full config now) (calls ++ [c]) := by
  let call : Call := ⟨scope, some profileId, now⟩
  have hbegun := run.begins call (fun c hc => (hcalls c hc).1 ▸ le_rfl) trivial
  obtain ⟨k, k', hnext, hnext', hready⟩ : ∃ k k',
      call.body config.toRateLimiterConfig = .call (.get ⟨scope, none⟩) k ∧
        k (.ok (full config now ⟨scope, none⟩)) = .call (.get ⟨scope, some profileId⟩) k' ∧
          ∃ contact global state state' l l',
            k' (.ok (full config now ⟨scope, some profileId⟩)) = .call (.set contact state) l ∧
              l (.ok ()) = .call (.set global state') l' ∧ l' (.ok ()) = .ret true := by
    have htokens : ¬(refilled HOUR_MS config.perContactPerHour ⟨config.perContactPerHour, now⟩ now < 1 ∨
        refilled HOUR_MS config.globalPerHour ⟨config.globalPerHour, now⟩ now < 1) := by
      rw [refilled_full hour_pos config.perContact_nonneg, refilled_full hour_pos config.global_nonneg,
        not_or, not_lt, not_lt]
      exact ⟨hcontact, hglobal⟩
    exact ⟨_, _, rfl, rfl, _, _, _, _, _, _, if_neg htokens, rfl, rfl⟩
  have hread := hbegun.access hnext (fun _ hwrites => trivial) (.get _ _)
  have hread' := hread.access hnext' (fun _ hwrites => trivial) (.get _ _)
  exact ⟨_, ⟨rfl, hready⟩, hread'⟩

/-- Calls that are ready are accepted, whatever has been written in the meantime. -/
theorem exists_run_accepted (hready : ∀ c ∈ ready, Ready call c)
    (run : Run config.toRateLimiterConfig .any store₀ store (done ++ ready)) :
    ∃ store' accepted, Run config.toRateLimiterConfig .any store₀ store' (done ++ accepted) ∧
      accepted.length = ready.length ∧ ∀ c ∈ accepted, c.call = call ∧ c.outcome = some true := by
  induction ready generalizing done store with
  | nil => exact ⟨store, [], run, rfl, fun c hc => by cases hc⟩
  | cons c ready ih =>
    obtain ⟨hcall, contact, global, state, state', k, k', hnext, hnext', hlast⟩ :=
      hready c List.mem_cons_self
    have hcharged := run.access hnext (fun _ hwrites => trivial) (.set _ _ _)
    have hcharged' := hcharged.access hnext' (fun _ hwrites => trivial) (.set _ _ _)
    rw [List.append_cons] at hcharged'
    obtain ⟨store', accepted, hrun, hlength, haccepted⟩ :=
      ih (fun c' hc' => hready c' (List.mem_cons_of_mem _ hc')) hcharged'
    rw [← List.append_cons] at hrun
    refine ⟨store', _, hrun, by simp [hlength], fun c' hc' => ?_⟩
    obtain rfl | hc' := List.mem_cons.1 hc'
    · exact ⟨hcall, by rw [Running.outcome, hlast]⟩
    · exact haccepted c' hc'

/-- Of calls that overlap any number is accepted at one instant for one contact. -/
theorem overlapping_unbounded (hcontact : 1 ≤ config.perContactPerHour)
    (hglobal : 1 ≤ config.globalPerHour) (scope : RateLimitScope) (profileId : ProfileId) (now : ℚ)
    (n : Nat) : ∃ store calls,
      Run config.toRateLimiterConfig .any (full config now) store calls ∧
        acceptedWithin calls (fun call => call.scope = scope ∧ call.profileId = some profileId)
          now now = n := by
  have hready : ∃ calls, Run config.toRateLimiterConfig .any (full config now) (full config now) calls ∧
      calls.length = n ∧ ∀ c ∈ calls, Ready ⟨scope, some profileId, now⟩ c := by
    induction n with
    | zero => exact ⟨[], .start, rfl, fun c hc => by cases hc⟩
    | succ n ih =>
      obtain ⟨calls, run, hlength, hcalls⟩ := ih
      obtain ⟨c, hc, hrun⟩ := exists_run_ready hcontact hglobal run hcalls
      refine ⟨_, hrun, by simp [hlength], fun c' hc' => ?_⟩
      obtain hc' | hc' := List.mem_append.1 hc'
      · exact hcalls c' hc'
      · exact List.mem_singleton.1 hc' ▸ hc
  obtain ⟨calls, run, rfl, hcalls⟩ := hready
  obtain ⟨store, accepted, hrun, hlength, haccepted⟩ :=
    @exists_run_accepted _ _ _ [] _ _ hcalls run
  refine ⟨store, accepted, hrun, ?_⟩
  rw [acceptedWithin, ← hlength, List.countP_eq_length]
  intro c hc
  obtain ⟨hcall, houtcome⟩ := haccepted c hc
  simp [hcall, houtcome]

/-- The rates the app ships with. -/
def shipped : HourlyRates where
  toRateLimiterConfig := DEFAULT_RATE_LIMITS
  perContact_nonneg := by norm_num [DEFAULT_RATE_LIMITS]
  global_nonneg := by norm_num [DEFAULT_RATE_LIMITS]

/-- Sixty-one overlapping calls of one sender, all accepted at once. -/
theorem overlapping_not_bounded : ¬∀ store calls,
    Run shipped.toRateLimiterConfig .any (full shipped 0) store calls →
      Bounded shipped.toRateLimiterConfig calls := by
  intro h
  have hcontact : 1 ≤ shipped.perContactPerHour := by norm_num [shipped, DEFAULT_RATE_LIMITS]
  have hglobal : 1 ≤ shipped.globalPerHour := by norm_num [shipped, DEFAULT_RATE_LIMITS]
  obtain ⟨store, calls, run, haccepted⟩ :=
    overlapping_unbounded hcontact hglobal .incoming (sampleProfile 7) 0 61
  have hbound := (h store calls run).contact .incoming (sampleProfile 7) 0 0 le_rfl
  rw [add_zero, haccepted] at hbound
  norm_num [shipped, DEFAULT_RATE_LIMITS] at hbound

end Overlap

/-- The buckets that the app's database holds. -/
def bucketsOf (db : Db) : RateLimitStore := fun bucket =>
  (RateLimitRepository.byBucket db bucket).map fun state => ⟨state.tokens, state.updatedAtMs⟩

section Database

variable {db db' : Db} {bucket : BucketName} {perHour tokens : ℚ} {now : Nat}

theorem bucketsOf_withBucket (db : Db) (bucket : BucketName) (tokens : ℚ) (now : Nat) :
    bucketsOf (RateLimitRepository.withBucket db ⟨bucket, tokens, now⟩) =
      Function.update (bucketsOf db) bucket (some ⟨tokens, now⟩) := by
  funext other
  by_cases hsame : other = bucket
  · subst hsame
    rw [Function.update_self, bucketsOf, RateLimitRepository.byBucket_withBucket_self db ⟨other, tokens, now⟩]
    rfl
  · rw [Function.update_of_ne hsame, bucketsOf, bucketsOf,
      RateLimitRepository.byBucket_withBucket_of_ne (Ne.symm hsame)]

/-- A write of the app's limiter is a write of its buckets. -/
theorem runs_set (db : Db) (bucket : BucketName) (tokens : ℚ) (now : Nat) :
    ∃ db', runLocal (store (.setRateLimit ⟨bucket, tokens, now⟩)) db = (.ok (), db') ∧
      Runs Answers (perform (.set bucket ⟨tokens, now⟩)) (bucketsOf db) (.ok ()) (bucketsOf db') := by
  refine ⟨_, runLocal_store _ db, runs_perform.2 ?_⟩
  have hset := Answers.set bucket ⟨tokens, now⟩ (bucketsOf db)
  rw [← bucketsOf_withBucket] at hset
  exact hset

/-- A refill in the app's database is a refill of its buckets. -/
theorem runs_refill (db : Db) (bucket : BucketName) (perHour : ℚ) (now : Nat) :
    ∃ tokens db', runLocal (cemp.ckb.refill bucket perHour now) db = (.ok tokens, db') ∧
      Runs Answers (refill bucket perHour now) (bucketsOf db) (.ok tokens) (bucketsOf db') := by
  have hread := runLocal_store (.getRateLimit bucket) db
  simp only [StoreOp.exec, RateLimitRepository.get, Method.read] at hread
  unfold cemp.ckb.refill refill
  rw [Program.bind_eq_bind, runLocal_bind_ok hread, Program.bind_eq_bind]
  have hget := runs_perform.2 (Answers.get bucket (bucketsOf db))
  cases hrow : RateLimitRepository.byBucket db bucket with
  | none =>
    have hnone : bucketsOf db bucket = none := by rw [bucketsOf, hrow, Option.map_none]
    obtain ⟨db', hset, hwritten⟩ := runs_set db bucket perHour now
    refine ⟨perHour, db', runLocal_bind_ok hset, runs_bind.2 (.inl ⟨_, _, hget, ?_⟩)⟩
    rw [hnone]
    exact runs_bind.2 (.inl ⟨(), _, hwritten, rfl, rfl⟩)
  | some state =>
    have hsome : bucketsOf db bucket = some ⟨state.tokens, state.updatedAtMs⟩ := by
      rw [bucketsOf, hrow, Option.map_some]
    have helapsed : ((now - state.updatedAtMs : Nat) : ℚ) = max 0 ((now : ℚ) - state.updatedAtMs) := by
      obtain hle | hle := le_total state.updatedAtMs now
      · rw [Nat.cast_sub hle, max_eq_right (sub_nonneg.2 (Nat.cast_le.2 hle))]
      · rw [Nat.sub_eq_zero_of_le hle, Nat.cast_zero,
          max_eq_left (sub_nonpos.2 (Nat.cast_le.2 hle))]
    refine ⟨_, db, rfl, runs_bind.2 (.inl ⟨_, _, hget, ?_⟩)⟩
    rw [hsome, helapsed]
    exact ⟨rfl, rfl⟩

/-- What the app's limiter does for a sender with a profile is a call of `consume` on its
    buckets. -/
theorem runs_consumeAt (config : RateLimiterConfig) (scope : RateLimitScope)
    (profileId : ProfileId) (now : Nat) (db : Db) :
    ∃ accepted db', runLocal (consumeAt config scope profileId now) db = (.ok accepted, db') ∧
      Runs Answers (consume config scope (some profileId) now) (bucketsOf db) (.ok accepted)
        (bucketsOf db') := by
  obtain ⟨global, db₁, hglobal, hruns₁⟩ := runs_refill db ⟨scope, none⟩ config.globalPerHour now
  obtain ⟨contact, db₂, hcontact, hruns₂⟩ :=
    runs_refill db₁ ⟨scope, some profileId⟩ config.perContactPerHour now
  obtain ⟨db₃, hset, hruns₃⟩ := runs_set db₂ ⟨scope, some profileId⟩ (contact - 1) now
  obtain ⟨db₄, hset', hruns₄⟩ := runs_set db₃ ⟨scope, none⟩ (global - 1) now
  unfold consumeAt consume
  rw [Program.bind_eq_bind, runLocal_bind_ok hglobal, Program.bind_eq_bind,
    runLocal_bind_ok hcontact, Program.bind_eq_bind]
  by_cases hfew : contact < 1 ∨ global < 1
  · rw [if_pos hfew]
    refine ⟨false, db₂, rfl, runs_bind.2 (.inl ⟨_, _, hruns₁, runs_bind.2 (.inl ⟨_, _, hruns₂, ?_⟩)⟩)⟩
    rw [if_pos hfew]
    exact ⟨rfl, rfl⟩
  · rw [if_neg hfew, Program.bind_eq_bind, runLocal_bind_ok hset, Program.bind_eq_bind,
      runLocal_bind_ok hset']
    refine ⟨true, db₄, rfl, runs_bind.2 (.inl ⟨_, _, hruns₁, runs_bind.2 (.inl ⟨_, _, hruns₂, ?_⟩)⟩)⟩
    rw [if_neg hfew]
    exact runs_bind.2 (.inl ⟨(), _, hruns₃, runs_bind.2 (.inl ⟨(), _, hruns₄, rfl, rfl⟩)⟩)

end Database

end cemp.ckb.limiter
