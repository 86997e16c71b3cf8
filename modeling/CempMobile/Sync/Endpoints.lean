import CempMobile.Core.Error
import CempMobile.Lib.Rotation
import CempMobile.Vault.FormatText

open cemp.core cemp.secureVault

/-! The endpoints of the network, and the failures after which a client goes on to the next. -/

namespace cemp.sync

variable {α : Type}

/-- `endpoints[index]`: undefined where the index is no place of the array. -/
def elementAt (endpoints : List α) (index : ℚ) : Option α :=
  if index.den = 1 ∧ 0 ≤ index then endpoints[index.num.toNat]? else none

/-- `#index` is a number of the runtime, whatever the cursor held. -/
structure EndpointRotator (α : Type) where
  endpoints : List α
  threshold : Nat
  index : ℚ
  consecutiveFailures : Nat
  loaded : Bool

/-- The elements an array of the runtime can have. -/
def MAX_ARRAY_LENGTH : Nat := 2 ^ 32 - 1

/-- The constructor. -/
def EndpointRotator.create (endpoints : List α) (failureThreshold : Nat) :
    Except Error (EndpointRotator α) :=
  if endpoints.length = 0 then
    .error (.other "EndpointRotator: at least one endpoint is required")
  else .ok ⟨endpoints, failureThreshold, 0, 0, false⟩

/-- The index a stored cursor is accepted for. A text that does not parse, and a value without
    properties, have none. -/
def storedIndex (count : Nat) (raw : String) : Option ℚ :=
  match (JSON.parse raw.toList).bind (Json.property "index") with
  | some (.number index) => if 0 ≤ index ∧ index < count then some index else none
  | _ => none

/-- `(index + 1) % count`. -/
def nextIndex (index : ℚ) (count : Nat) : ℚ :=
  let next := Binary64.fl (index + 1)
  next - count * ⌊next / count⌋

/-- A rotator and the stored cursor. -/
structure EndpointWorld (α : Type) where
  rotator : EndpointRotator α
  cursor : Option String

namespace EndpointWorld

def load (world : EndpointWorld α) : EndpointWorld α :=
  if world.rotator.loaded then world
  else
    let stored := world.cursor.bind (storedIndex world.rotator.endpoints.length)
    { world with rotator :=
      { world.rotator with index := stored.getD world.rotator.index, loaded := true } }

def persist (otherNumberText : ℚ → List Char) (world : EndpointWorld α) : EndpointWorld α :=
  let text := stringify otherNumberText (.object [("index", .number world.rotator.index)])
  { world with cursor := some (String.ofList text) }

def current (world : EndpointWorld α) : Option α × EndpointWorld α :=
  let world := world.load
  (elementAt world.rotator.endpoints world.rotator.index, world)

def reportSuccess (world : EndpointWorld α) : EndpointWorld α :=
  let world := world.load
  { world with rotator := { world.rotator with consecutiveFailures := 0 } }

def reportFailure (otherNumberText : ℚ → List Char) (world : EndpointWorld α) :
    Bool × EndpointWorld α :=
  let world := world.load
  let rotator := world.rotator
  let failures := rotator.consecutiveFailures + 1
  if failures < rotator.threshold ∨ rotator.endpoints.length = 1 then
    (false, { world with rotator := { rotator with consecutiveFailures := failures } })
  else
    let index := nextIndex rotator.index rotator.endpoints.length
    let world : EndpointWorld α :=
      { world with rotator := { rotator with index := index, consecutiveFailures := 0 } }
    (true, world.persist otherNumberText)

/-- Another rotator is made of the same endpoints, over the same cursor. -/
def reload (world : EndpointWorld α) : EndpointWorld α :=
  { world with rotator := ⟨world.rotator.endpoints, world.rotator.threshold, 0, 0, false⟩ }

/-- What is called of a rotator, and restarts. -/
inductive Event where
  | current | success | failure | reload
  deriving DecidableEq, Repr

def step (otherNumberText : ℚ → List Char) (world : EndpointWorld α) : Event → EndpointWorld α
  | .current => world.current.2
  | .success => world.reportSuccess
  | .failure => (world.reportFailure otherNumberText).2
  | .reload => world.reload

def run (otherNumberText : ℚ → List Char) (world : EndpointWorld α) (events : List Event) :
    EndpointWorld α :=
  events.foldl (step otherNumberText) world

/-- The place of the current endpoint. -/
def place (world : EndpointWorld α) : ℚ := world.load.rotator.index

end EndpointWorld

open EndpointWorld

/-- Failures in a row: a success or a restart ends them, and so does the one that completes a
    threshold. -/
def streakAfter (threshold streak : Nat) : Event → Nat
  | .current => streak
  | .success => 0
  | .failure => if streak + 1 = threshold then 0 else streak + 1
  | .reload => 0

/-- The failures in a row at the end of some events. -/
def failureStreak (threshold : Nat) (events : List Event) : Nat :=
  events.foldl (streakAfter threshold) 0

/-- What a rotation is for, over every sequence of events. -/
structure Rotates (otherNumberText : ℚ → List Char) (world : EndpointWorld α) : Prop where
  /-- There is always a current endpoint. -/
  current_mem : ∀ events,
    ∃ endpoint ∈ world.rotator.endpoints, (run otherNumberText world events).current.1 = some endpoint
  /-- It changes with the failure that completes a threshold, and with nothing else. -/
  changes : 2 ≤ world.rotator.endpoints.length → ∀ events event,
    (run otherNumberText world (events ++ [event])).place ≠ (run otherNumberText world events).place ↔
      event = .failure ∧ failureStreak world.rotator.threshold events + 1 = world.rotator.threshold
  /-- Failures alone make each endpoint current once before the first comes again. -/
  round : 2 ≤ world.rotator.endpoints.length → ∀ events, ∀ place < world.rotator.endpoints.length,
    ∃! m, m < world.rotator.endpoints.length * world.rotator.threshold ∧
      (run otherNumberText world (events ++ List.replicate (m + 1) .failure)).place ≠
        (run otherNumberText world (events ++ List.replicate m .failure)).place ∧
      (run otherNumberText world (events ++ List.replicate (m + 1) .failure)).place = place

/-- A cursor whose index is accepted although it is no integer. -/
def FractionalCursor (count : Nat) (cursor : Option String) : Prop :=
  ∃ index, cursor.bind (storedIndex count) = some index ∧ index.den ≠ 1

/-! ### The wheel of places -/

/-- The place a cursor stands for. -/
def cursorIndex (count : Nat) (cursor : Option String) : ℚ :=
  (cursor.bind (storedIndex count)).getD 0

theorem elementAt_natCast (endpoints : List α) (n : Nat) :
    elementAt endpoints (n : ℚ) = endpoints[n]? := by
  unfold elementAt
  rw [if_pos ⟨Rat.den_natCast n, Nat.cast_nonneg n⟩]
  rfl

theorem max_array_length_le : MAX_ARRAY_LENGTH ≤ 2 ^ 53 := by decide

theorem fl_succ {n count : Nat} (hn : n < count) (hcount : count ≤ MAX_ARRAY_LENGTH) :
    Binary64.fl ((n : ℚ) + 1) = ((n + 1 : Nat) : ℚ) := by
  have hsmall : n + 1 ≤ 2 ^ 53 :=
    (Nat.succ_le_of_lt hn).trans (hcount.trans max_array_length_le)
  rw [← Nat.cast_succ]
  exact Binary64.fl_natCast hsmall

/-- The remainder of natural numbers. -/
theorem sub_mul_floor (n count : Nat) :
    (n : ℚ) - count * ⌊(n : ℚ) / count⌋ = ((n % count : Nat) : ℚ) := by
  have hdiv : (count : ℚ) * ((n / count : Nat) : ℚ) + ((n % count : Nat) : ℚ) = (n : ℚ) := by
    exact_mod_cast Nat.div_add_mod n count
  have hfloor : ((⌊(n : ℚ) / count⌋ : ℤ) : ℚ) = ((n / count : Nat) : ℚ) := by
    rw [Rat.floor_natCast_div_natCast]
    norm_cast
  rw [hfloor]
  linarith only [hdiv]

theorem nextIndex_natCast {n count : Nat} (hn : n < count) (hcount : count ≤ MAX_ARRAY_LENGTH) :
    nextIndex n count = ((n + 1) % count : Nat) := by
  unfold nextIndex
  simp only [fl_succ hn hcount]
  exact sub_mul_floor (n + 1) count

theorem storedIndex_eq_some {count : Nat} {raw : String} {index : ℚ}
    (hparsed : (JSON.parse raw.toList).bind (Json.property "index") = some (.number index))
    (hrange : 0 ≤ index ∧ index < count) : storedIndex count raw = some index := by
  unfold storedIndex
  rw [hparsed]
  exact if_pos hrange

theorem storedIndex_range {count : Nat} {raw : String} {index : ℚ}
    (hstored : storedIndex count raw = some index) : 0 ≤ index ∧ index < count := by
  unfold storedIndex at hstored
  split at hstored
  · split at hstored
    · next hrange =>
      cases hstored
      exact hrange
    · cases hstored
  · cases hstored

/-- A place that was stored is read back. -/
theorem storedIndex_persisted (otherNumberText : ℚ → List Char) {n count : Nat} (hn : n < count)
    (hcount : count ≤ MAX_ARRAY_LENGTH) :
    storedIndex count (String.ofList (stringify otherNumberText
      (.object [("index", .number (n : ℚ))]))) = some (n : ℚ) := by
  have hsmall : n ≤ 2 ^ 53 := hn.le.trans (hcount.trans max_array_length_le)
  have hreadable : Readable (.object [("index", .number (n : ℚ))]) :=
    ⟨List.nodup_singleton _, ⟨n, hsmall, rfl⟩, trivial⟩
  have hproperty : Json.property "index" (.object [("index", .number (n : ℚ))]) =
      some (.number (n : ℚ)) := rfl
  have hrange : (0 : ℚ) ≤ n ∧ (n : ℚ) < count := ⟨Nat.cast_nonneg n, Nat.cast_lt.2 hn⟩
  refine storedIndex_eq_some ?_ hrange
  rw [String.toList_ofList, parse_stringify hreadable, Option.bind_some, hproperty]

theorem cursorIndex_persist (otherNumberText : ℚ → List Char) {world : EndpointWorld α}
    {n count : Nat} (hindex : world.rotator.index = n) (hn : n < count)
    (hcount : count ≤ MAX_ARRAY_LENGTH) :
    cursorIndex count (world.persist otherNumberText).cursor = n := by
  unfold EndpointWorld.persist cursorIndex
  rw [hindex, Option.bind_some, storedIndex_persisted otherNumberText hn hcount, Option.getD_some]

/-- The world stands at a wheel's place, and counts its ticks where there is where to turn to. -/
structure Stands (endpoints : List α) (threshold : Nat) (world : EndpointWorld α) (wheel : Wheel) :
    Prop where
  endpoints_eq : world.rotator.endpoints = endpoints
  threshold_eq : world.rotator.threshold = threshold
  cursor : cursorIndex endpoints.length world.cursor = wheel.position
  position : wheel.position < endpoints.length
  loaded : world.rotator.loaded = true → world.rotator.index = wheel.position
  fresh : world.rotator.loaded = false → world.rotator.index = 0
  ticks : 2 ≤ endpoints.length → world.rotator.consecutiveFailures = wheel.ticks
  ticks_lt : wheel.ticks < threshold

/-- What an event does to the wheel. -/
def turn (count threshold : Nat) (wheel : Wheel) : Event → Wheel
  | .current => wheel
  | .success => ⟨wheel.position, 0⟩
  | .failure => wheel.tick count threshold
  | .reload => ⟨wheel.position, 0⟩

variable {endpoints : List α} {threshold : Nat} {world : EndpointWorld α} {wheel : Wheel}

theorem Stands.load (h : Stands endpoints threshold world wheel) :
    Stands endpoints threshold world.load wheel ∧
      world.load.rotator.index = wheel.position ∧ world.load.rotator.loaded = true := by
  unfold EndpointWorld.load
  split
  · next hloaded => exact ⟨h, h.loaded hloaded, hloaded⟩
  · next hfresh =>
    have hindex : (world.cursor.bind (storedIndex world.rotator.endpoints.length)).getD
        world.rotator.index = wheel.position := by
      rw [h.fresh (by simpa using hfresh), h.endpoints_eq]
      exact h.cursor
    exact ⟨{ h with
      loaded := fun _ => hindex
      fresh := fun hnot => nomatch hnot }, hindex, rfl⟩

theorem Stands.success (h : Stands endpoints threshold world wheel) :
    Stands endpoints threshold world.reportSuccess ⟨wheel.position, 0⟩ := by
  obtain ⟨hload, -, -⟩ := h.load
  exact { hload with
    ticks := fun _ => rfl
    ticks_lt := Nat.zero_lt_of_lt h.ticks_lt }

theorem Stands.reload (h : Stands endpoints threshold world wheel) :
    Stands endpoints threshold world.reload ⟨wheel.position, 0⟩ where
  endpoints_eq := h.endpoints_eq
  threshold_eq := h.threshold_eq
  cursor := h.cursor
  position := h.position
  loaded hnot := nomatch hnot
  fresh _ := rfl
  ticks _ := rfl
  ticks_lt := Nat.zero_lt_of_lt h.ticks_lt

theorem Stands.failure (hcount : endpoints.length ≤ MAX_ARRAY_LENGTH) {otherNumberText : ℚ → List Char}
    (h : Stands endpoints threshold world wheel) :
    Stands endpoints threshold (world.reportFailure otherNumberText).2
      (wheel.tick endpoints.length threshold) := by
  obtain ⟨hload, hindex, hloaded⟩ := h.load
  have hticks := @Wheel.tick_ticks_lt endpoints.length threshold (Nat.zero_lt_of_lt h.ticks_lt)
    wheel h.ticks_lt
  have hposition := @Wheel.tick_position_lt endpoints.length threshold
    (Nat.zero_lt_of_lt h.position) wheel h.position
  unfold EndpointWorld.reportFailure
  simp only
  rw [hload.endpoints_eq, hload.threshold_eq, hindex]
  by_cases hone : endpoints.length = 1
  · -- a single endpoint stays, whatever is counted
    have hzero : (wheel.tick endpoints.length threshold).position = wheel.position := by
      have hlast := h.position
      omega
    rw [if_pos (Or.inr hone)]
    exact { hload with
      endpoints_eq := rfl
      threshold_eq := rfl
      cursor := hload.cursor.trans (congrArg Nat.cast hzero.symm)
      position := hposition
      loaded := fun _ => congrArg Nat.cast hzero.symm
      fresh := fun hnot => absurd (hloaded.symm.trans hnot) (by decide)
      ticks := fun htwo => absurd hone (by omega)
      ticks_lt := hticks }
  · have hmany : 2 ≤ endpoints.length := by
      have hlast := h.position
      omega
    have hfailures := hload.ticks hmany
    have hbefore := h.ticks_lt
    rw [hfailures]
    by_cases hturn : wheel.ticks + 1 = threshold
    · have hwheel : wheel.tick endpoints.length threshold =
          ⟨(wheel.position + 1) % endpoints.length, 0⟩ := if_pos hturn
      have hnext := nextIndex_natCast h.position hcount
      rw [hwheel] at hposition hticks ⊢
      rw [if_neg (by omega)]
      exact { hload with
        endpoints_eq := rfl
        threshold_eq := rfl
        cursor := cursorIndex_persist otherNumberText hnext hposition hcount
        position := hposition
        loaded := fun _ => hnext
        fresh := fun hnot => absurd (hloaded.symm.trans hnot) (by decide)
        ticks := fun _ => rfl
        ticks_lt := hticks }
    · have hwheel : wheel.tick endpoints.length threshold =
          ⟨wheel.position, wheel.ticks + 1⟩ := if_neg hturn
      rw [hwheel] at hticks ⊢
      rw [if_pos (Or.inl (by omega))]
      exact { hload with
        endpoints_eq := rfl
        threshold_eq := rfl
        loaded := fun _ => rfl
        fresh := fun hnot => absurd (hloaded.symm.trans hnot) (by decide)
        ticks := fun _ => rfl
        ticks_lt := hticks }

theorem Stands.step (hcount : endpoints.length ≤ MAX_ARRAY_LENGTH)
    {otherNumberText : ℚ → List Char} (h : Stands endpoints threshold world wheel) (event : Event) :
    Stands endpoints threshold (world.step otherNumberText event)
      (turn endpoints.length threshold wheel event) := by
  cases event with
  | current => exact h.load.1
  | success => exact h.success
  | failure => exact h.failure hcount
  | reload => exact h.reload

theorem Stands.run (hcount : endpoints.length ≤ MAX_ARRAY_LENGTH)
    {otherNumberText : ℚ → List Char} (h : Stands endpoints threshold world wheel)
    (events : List Event) :
    Stands endpoints threshold (world.run otherNumberText events)
      (events.foldl (turn endpoints.length threshold) wheel) := by
  induction events generalizing world wheel with
  | nil => exact h
  | cons event events ih => exact ih (h.step hcount event)

theorem Stands.place (h : Stands endpoints threshold world wheel) :
    world.place = wheel.position := h.load.2.1

theorem Stands.current (h : Stands endpoints threshold world wheel) :
    ∃ endpoint ∈ endpoints, world.current.1 = some endpoint := by
  obtain ⟨hload, hindex, -⟩ := h.load
  refine ⟨endpoints.get ⟨wheel.position, h.position⟩, List.get_mem _ _, ?_⟩
  unfold EndpointWorld.current
  simp only [hindex, hload.endpoints_eq, elementAt_natCast]
  exact List.getElem?_eq_getElem h.position

/-- The wheel's ticks are the failures in a row. -/
theorem foldl_turn_ticks (count : Nat) (events : List Event) (hticks : wheel.ticks = 0) :
    (events.foldl (turn count threshold) wheel).ticks = failureStreak threshold events := by
  unfold failureStreak
  rw [← hticks]
  clear hticks
  induction events generalizing wheel with
  | nil => rfl
  | cons event events ih =>
    have hevent : (turn count threshold wheel event).ticks =
        streakAfter threshold wheel.ticks event := by
      cases event with
      | failure =>
        change (wheel.tick count threshold).ticks = if wheel.ticks + 1 = threshold then _ else _
        unfold Wheel.tick
        split <;> rfl
      | _ => rfl
    rw [List.foldl_cons, ih, List.foldl_cons, hevent]

theorem foldl_turn_failures (count m : Nat) (wheel : Wheel) :
    (List.replicate m Event.failure).foldl (turn count threshold) wheel =
      (Wheel.tick count threshold)^[m] wheel := by
  induction m generalizing wheel with
  | zero => rfl
  | succ m ih =>
    rw [List.replicate_succ, List.foldl_cons, ih, Function.iterate_succ_apply]
    rfl

/-- A rotator that stands at a place does what a rotation is for. -/
theorem Stands.rotates (hcount : endpoints.length ≤ MAX_ARRAY_LENGTH)
    {otherNumberText : ℚ → List Char} (h : Stands endpoints threshold world wheel)
    (hticks : wheel.ticks = 0) : Rotates otherNumberText world := by
  have hrun := @Stands.run _ _ _ _ _ hcount otherNumberText h
  have hpositive := Nat.zero_lt_of_lt h.ticks_lt
  constructor
  · intro events
    rw [h.endpoints_eq]
    exact (hrun events).current
  · rw [h.endpoints_eq, h.threshold_eq]
    intro hmany events event
    have hbefore := hrun events
    have hstreak := @foldl_turn_ticks threshold wheel endpoints.length events hticks
    rw [(hrun (events ++ [event])).place, hbefore.place, List.foldl_append, List.foldl_cons,
      List.foldl_nil, ← hstreak, ne_eq, Nat.cast_inj]
    cases event with
    | failure =>
      exact (Wheel.tick_position_ne_iff hmany hbefore.position).trans (by simp)
    | _ => exact iff_of_false (fun hne => hne rfl) (by simp)
  · rw [h.endpoints_eq, h.threshold_eq]
    intro hmany events place hplace
    have hbefore := hrun events
    have hplaces (m : Nat) :
        (world.run otherNumberText (events ++ List.replicate m .failure)).place =
          (((Wheel.tick endpoints.length threshold)^[m]
            (events.foldl (turn endpoints.length threshold) wheel)).position : ℚ) := by
      rw [(hrun _).place, List.foldl_append, foldl_turn_failures]
    have hround := Wheel.existsUnique_turn hmany hpositive hbefore.position hbefore.ticks_lt hplace
    simpa only [hplaces, ne_eq, Nat.cast_inj] using hround

/-- Where the stored cursor names a place, or none, the rotator starts there. -/
theorem Stands.start (hnonempty : endpoints ≠ []) (hthreshold : 1 ≤ threshold)
    {cursor : Option String} (hcursor : ¬FractionalCursor endpoints.length cursor) :
    ∃ position, Stands endpoints threshold ⟨⟨endpoints, threshold, 0, 0, false⟩, cursor⟩
      ⟨position, 0⟩ := by
  have hpositive := List.length_pos_iff.2 hnonempty
  obtain ⟨position, hposition, hindex⟩ : ∃ position, position < endpoints.length ∧
      cursorIndex endpoints.length cursor = (position : ℚ) := by
    unfold cursorIndex
    cases hstored : cursor.bind (storedIndex endpoints.length) with
    | none => exact ⟨0, hpositive, Nat.cast_zero.symm⟩
    | some index =>
      have hinteger : index.den = 1 := by
        by_contra hden
        exact hcursor ⟨index, hstored, hden⟩
      obtain ⟨raw, -, hraw⟩ := Option.bind_eq_some_iff.1 hstored
      obtain ⟨hnonneg, hsmall⟩ := storedIndex_range hraw
      have hnum : ((index.num.toNat : Nat) : ℚ) = index := by
        have hcast : ((index.num.toNat : ℤ) : ℚ) = index := by
          rw [Int.toNat_of_nonneg (Rat.num_nonneg.2 hnonneg)]
          exact Rat.coe_int_num_of_den_eq_one hinteger
        exact_mod_cast hcast
      refine ⟨index.num.toNat, ?_, hnum.symm⟩
      rw [← hnum] at hsmall
      exact_mod_cast hsmall
  exact ⟨position, {
    endpoints_eq := rfl
    threshold_eq := rfl
    cursor := hindex
    position := hposition
    loaded := fun hnot => nomatch hnot
    fresh := fun _ => rfl
    ticks := fun _ => rfl
    ticks_lt := hthreshold }⟩

/-- Of a fractional index there is no endpoint at all. -/
theorem current_fractional {cursor : Option String}
    (hcursor : FractionalCursor endpoints.length cursor) :
    (EndpointWorld.current ⟨⟨endpoints, threshold, 0, 0, false⟩, cursor⟩).1 = none := by
  obtain ⟨index, hstored, hden⟩ := hcursor
  have hnone : elementAt endpoints index = none := if_neg fun hinteger => hden hinteger.1
  simp only [EndpointWorld.current, EndpointWorld.load, hstored, Option.getD_some]
  exact hnone

/-- A rotator does what a rotation is for, whatever happens, exactly where the stored cursor holds
    no fractional index. -/
theorem rotates_iff {rotator : EndpointRotator α}
    (hcreate : EndpointRotator.create endpoints threshold = .ok rotator)
    (hcount : endpoints.length ≤ MAX_ARRAY_LENGTH) (hthreshold : 1 ≤ threshold)
    (otherNumberText : ℚ → List Char) (cursor : Option String) :
    Rotates otherNumberText ⟨rotator, cursor⟩ ↔ ¬FractionalCursor endpoints.length cursor := by
  have hnonempty : endpoints ≠ [] := by
    rintro rfl
    cases hcreate
  obtain rfl : ⟨endpoints, threshold, 0, 0, false⟩ = rotator := by
    unfold EndpointRotator.create at hcreate
    rw [if_neg (fun hzero => hnonempty (List.length_eq_zero_iff.1 hzero))] at hcreate
    exact Except.ok.inj hcreate
  constructor
  · intro hrotates hcursor
    obtain ⟨endpoint, -, hcurrent⟩ := hrotates.current_mem []
    have hnone := @current_fractional _ _ threshold _ hcursor
    exact absurd (hnone.symm.trans hcurrent) (by simp)
  · intro hcursor
    obtain ⟨position, hstands⟩ := Stands.start hnonempty hthreshold hcursor
    exact hstands.rotates hcount rfl

theorem rotates_fresh : Rotates (fun _ => []) ⟨⟨["one", "two"], 3, 0, 0, false⟩, none⟩ ↔
    ¬FractionalCursor (List.length ["one", "two"]) none :=
  rotates_iff rfl (by decide) (by decide) (fun _ => []) none

/-! ### A fractional cursor -/

/-- A cursor whose index is one half. -/
def halfCursor : List Char := '\x7b' :: (quote "index" ++ ':' :: ['0', '.', '5', '\x7d'])

theorem unsigned_half : JSON.unsigned ['0', '.', '5', '\x7d'] = some (1 / 2, ['\x7d']) := by
  have hvalue : ((JSON.digitsValue (['0'] ++ ['5']) : Nat) : ℚ) *
      10 ^ ((0 : ℤ) - ((['5'].length : Nat) : ℤ)) = 1 / 2 := by
    have hdigits : JSON.digitsValue (['0'] ++ ['5']) = 5 := rfl
    rw [hdigits]
    norm_num
  have hwhole : JSON.someDigits ['0', '.', '5', '\x7d'] = some (['0'], ['.', '5', '\x7d']) := rfl
  have hdecimals : JSON.fraction ['.', '5', '\x7d'] = some (['5'], ['\x7d']) := rfl
  have hexponent : JSON.exponent ['\x7d'] = some (0, ['\x7d']) := rfl
  unfold JSON.unsigned
  rw [hwhole]
  simp only [Option.bind_eq_bind, Option.bind_some, hdecimals, hexponent, hvalue]
  rfl

theorem toNumber_half : JSON.toNumber (1 / 2) = .number (1 / 2) := by
  have hlog : Int.log 2 |(1 / 2 : ℚ)| = -1 := by
    have hpow := Int.log_zpow (R := ℚ) (b := 2) (by norm_num) (-1)
    have habs : |(1 / 2 : ℚ)| = ((2 : ℕ) : ℚ) ^ (-1 : ℤ) := by norm_num
    rw [habs, hpow]
  have hunits : (1 / 2 : ℚ) / 2 ^ (max (-1) (-1022) - 52 : ℤ) = ((2 ^ 52 : ℤ) : ℚ) := by norm_num
  have hround : (Binary64.nearestEven ((1 / 2 : ℚ) / 2 ^ (max (-1) (-1022) - 52 : ℤ)) : ℚ) *
      2 ^ (max (-1) (-1022) - 52 : ℤ) = 1 / 2 := by
    rw [hunits, Binary64.nearestEven_intCast]
    norm_num
  have hsmall : ¬(2 : ℚ) ^ (1024 : ℕ) ≤ |1 / 2| := by
    have hone : (1 : ℚ) ≤ 2 ^ (1024 : ℕ) := one_le_pow₀ (by norm_num)
    have hhalf : |(1 / 2 : ℚ)| < 1 := by norm_num
    exact not_le.2 (hhalf.trans_le hone)
  unfold JSON.toNumber
  simp only [hlog, hround, if_neg hsmall]
  norm_num

theorem parse_halfCursor :
    JSON.parse halfCursor = some (.object [("index", .number (1 / 2))]) := by
  have hname := string_quote "index" (':' :: ['0', '.', '5', '\x7d'])
  have hnumber : JSON.number ['0', '.', '5', '\x7d'] = some (.number (1 / 2), ['\x7d']) := by
    rw [JSON.number]
    · simp only [unsigned_half, Option.bind_eq_bind, Option.bind_some, toNumber_half]
    · intro rest heq
      exact absurd (List.cons.inj heq).1 (by decide)
  have hmembers (fuel : Nat) : JSON.members (fuel + 2)
      (quote "index" ++ ':' :: ['0', '.', '5', '\x7d']) =
        some ([("index", .number (1 / 2))], []) := by
    have hvalue := (value_digits (by decide) fuel ['.', '5', '\x7d']).trans hnumber
    rw [quote, List.cons_append, List.append_assoc, JSON.members, skipSpace_cons rfl]
    simp only [List.cons_append, List.nil_append, hname, skipSpace_colon, hvalue,
      Option.bind_eq_bind, Option.bind_some]
    rfl
  obtain ⟨fuel, hfuel⟩ : ∃ fuel, 2 * halfCursor.length + 1 = fuel + 3 := by
    refine ⟨2 * halfCursor.length - 2, ?_⟩
    have hlength : 5 ≤ halfCursor.length := by
      unfold halfCursor
      simp only [List.length_cons, List.length_append, List.length_nil]
      omega
    omega
  have hspace : JSON.skipSpace (quote "index" ++ ':' :: ['0', '.', '5', '\x7d']) =
      quote "index" ++ ':' :: ['0', '.', '5', '\x7d'] := skipSpace_cons rfl _
  unfold JSON.parse
  rw [hfuel, halfCursor, JSON.value, skipSpace_cons rfl]
  simp only [hspace, hmembers, Option.bind_eq_bind, Option.bind_some]
  rfl
/-- A stored index of one half is accepted, and there is no endpoint of that index. -/
theorem not_rotates :
    ¬ ∀ (endpoints : List String) (threshold : Nat) (rotator : EndpointRotator String)
        (otherNumberText : ℚ → List Char) (cursor : Option String),
      EndpointRotator.create endpoints threshold = .ok rotator →
      endpoints.length ≤ MAX_ARRAY_LENGTH → 1 ≤ threshold →
      Rotates otherNumberText ⟨rotator, cursor⟩ := by
  intro hclaim
  have hrotates := hclaim ["one", "two"] 3 ⟨["one", "two"], 3, 0, 0, false⟩ (fun _ => [])
    (some (String.ofList halfCursor)) rfl (by decide) (by decide)
  have hrange : (0 : ℚ) ≤ 1 / 2 ∧ (1 / 2 : ℚ) < ((List.length ["one", "two"] : Nat) : ℚ) := by
    norm_num
  have hproperty : Json.property "index" (.object [("index", .number (1 / 2))]) =
      some (.number (1 / 2)) := rfl
  have hstored : storedIndex (List.length ["one", "two"]) (String.ofList halfCursor) =
      some (1 / 2) := by
    refine storedIndex_eq_some ?_ hrange
    rw [String.toList_ofList, parse_halfCursor, Option.bind_some, hproperty]
  have hden : (1 / 2 : ℚ).den ≠ 1 := by decide +kernel
  have hfractional : FractionalCursor (List.length ["one", "two"])
      (some (String.ofList halfCursor)) := by
    refine ⟨1 / 2, ?_, hden⟩
    rw [Option.bind_some, hstored]
  obtain ⟨endpoint, -, hcurrent⟩ := hrotates.current_mem []
  have hnone := @current_fractional _ _ 3 _ hfractional
  exact absurd (hnone.symm.trans hcurrent) (by simp)

end cemp.sync
