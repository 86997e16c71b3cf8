import CempMobile.Database.Journal

open cemp.core

namespace cemp.database

/-- A message row that is there, in one of some states. -/
def Db.RowAt (db : Db) (rowId : Nat) (states : List MessageState) : Prop :=
  ∃ m, db.messages.get? rowId = some m ∧ m.state ∈ states

def MESSAGE_DIRECTIONS : List MessageDirection := [.outgoing, .incoming]

theorem mem_directions (direction : MessageDirection) : direction ∈ MESSAGE_DIRECTIONS := by
  cases direction <;> decide

section RowAt

variable {β : Type} {db : Db} {rowId : Nat} {states : List MessageState}

theorem Db.RowAt.mono {states' : List MessageState} (h : db.RowAt rowId states)
    (hsub : ∀ state ∈ states, state ∈ states') : db.RowAt rowId states' := by
  obtain ⟨m, hget, hstate⟩ := h
  exact ⟨m, hget, hsub _ hstate⟩

/-- A row stays among some states over an access that does not move it out of them. -/
theorem Db.RowAt.exec (h : db.RowAt rowId states) (access : StoreOp β)
    (hmoves : ∀ target, access.moves = some (rowId, target) → target ∈ states) :
    (access.exec db).2.RowAt rowId states := by
  obtain ⟨m, hget, hstate⟩ := h
  obtain ⟨m', hget', hfollows⟩ := get?_exec access hget
  refine ⟨m', hget', ?_⟩
  obtain hsame | ⟨hmove, -⟩ := hfollows.state
  · rw [hsame]
    exact hstate
  · exact hmoves _ hmove

/-- A move that is legal from each of the states is carried out. -/
theorem Db.RowAt.move (h : db.RowAt rowId states) (target : MessageState)
    (hlegal : ∀ state ∈ states, ∀ direction ∈ MESSAGE_DIRECTIONS, state.Fits direction →
      state ≠ target ∧ canTransitionMessage direction state target) :
    (MessageRepository.transitionState rowId target db).1 = .ok () ∧
      (MessageRepository.transitionState rowId target db).2.RowAt rowId [target] := by
  obtain ⟨m, hget, hstate⟩ := h
  obtain ⟨hne, hcan⟩ := hlegal m.state hstate m.direction (mem_directions _) m.fits
  rw [MessageRepository.transitionState_move hget hne hcan]
  refine ⟨rfl, _, MessageRepository.get?_setMessageState_self hget (canTransitionMessage_fits hcan), ?_⟩
  simp

/-- A move that is illegal from each of the states is refused. -/
theorem Db.RowAt.refused (h : db.RowAt rowId states) (target : MessageState)
    (hillegal : ∀ state ∈ states, ∀ direction ∈ MESSAGE_DIRECTIONS, state.Fits direction →
      state ≠ target ∧ canTransitionMessage direction state target = false) :
    ∃ e, MessageRepository.transitionState rowId target db = (.error e, db) := by
  obtain ⟨m, hget, hstate⟩ := h
  obtain ⟨hne, hcan⟩ := hillegal m.state hstate m.direction (mem_directions _) m.fits
  simp [MessageRepository.transitionState, hget, hne, hcan]

/-- A row is in one state only. -/
theorem Db.RowAt.disjoint {states' : List MessageState} (h : db.RowAt rowId states)
    (h' : db.RowAt rowId states') : ∃ state ∈ states, state ∈ states' := by
  obtain ⟨m, hget, hstate⟩ := h
  obtain ⟨m', hget', hstate'⟩ := h'
  obtain rfl := Option.some.inj (hget.symm.trans hget')
  exact ⟨m.state, hstate, hstate'⟩

end RowAt

/-- The state of a message row, if it is there. -/
def Db.stateOf (db : Db) (rowId : Nat) : Option MessageState :=
  (db.messages.get? rowId).map (·.state)

/-- The rows in a state, in order. -/
def Db.rowsAt (db : Db) (state : MessageState) : List Nat :=
  (db.messages.select fun m => [state].contains m.state).map (·.1)

section StateOf

variable {β : Type} {db : Db} {rowId id : Nat} {state target : MessageState}

theorem mem_rowsAt : rowId ∈ db.rowsAt state ↔ db.stateOf rowId = some state := by
  simp only [Db.rowsAt, Db.stateOf, List.mem_map, Option.map_eq_some_iff, Table.mem_select]
  constructor
  · rintro ⟨⟨id, m⟩, ⟨hmem, hstate⟩, rfl⟩
    exact ⟨m, Table.get?_eq_some.2 hmem, by simpa using hstate⟩
  · rintro ⟨m, hget, hstate⟩
    exact ⟨(rowId, m), ⟨Table.get?_eq_some.1 hget, by simpa using hstate⟩, rfl⟩

theorem rowsAt_sorted (db : Db) (state : MessageState) : (db.rowsAt state).Pairwise (· < ·) :=
  List.pairwise_map.2 (db.messages.sorted.filter _)

/-- An access that neither moves nor inserts a message leaves the states. -/
theorem stateOf_exec {access : StoreOp β} (hmoves : access.moves = none)
    (hinserts : access.inserts = none) (db : Db) (id : Nat) :
    (access.exec db).2.stateOf id = db.stateOf id := by
  cases hget : db.messages.get? id with
  | some m =>
    obtain ⟨m', hget', hfollows⟩ := get?_exec access hget
    rw [Db.stateOf, Db.stateOf, hget, hget', Option.map_some, Option.map_some]
    obtain hsame | ⟨hmove, -⟩ := hfollows.state
    · rw [hsame]
    · rw [hmoves] at hmove
      cases hmove
  | none =>
    cases hget' : (access.exec db).2.messages.get? id with
    | none => rw [Db.stateOf, Db.stateOf, hget, hget']
    | some m =>
      obtain ⟨input, hinsert, -⟩ := get?_exec_new access hget hget'
      rw [hinserts] at hinsert
      cases hinsert

/-- What a move does to the states: it changes that of its row along a legal edge, or nothing. -/
theorem stateOf_transition (rowId : Nat) (target : MessageState) (db : Db) (id : Nat) :
    (MessageRepository.transitionState rowId target db).2.stateOf id = db.stateOf id ∨
      id = rowId ∧ (MessageRepository.transitionState rowId target db).2.stateOf id = some target ∧
        ∃ m, db.messages.get? id = some m ∧ canTransitionMessage m.direction m.state target := by
  cases hget : db.messages.get? id with
  | some m =>
    obtain ⟨m', hget', hfollows⟩ := get?_transitionState rowId target hget
    rw [Db.stateOf, Db.stateOf, hget, hget', Option.map_some, Option.map_some]
    obtain hsame | ⟨hmove, hcan⟩ := hfollows.state
    · rw [hsame]
      exact .inl rfl
    · obtain ⟨rfl, hstate⟩ := Prod.mk.inj (Option.some.inj hmove)
      rw [← hstate] at hcan
      exact .inr ⟨rfl, by rw [hstate], m, rfl, hcan⟩
  | none =>
    left
    obtain hsame | hmoved := MessageRepository.transitionState_frame rowId target db
    · rw [hsame]
    · rw [hmoved, Db.stateOf, Db.stateOf, MessageRepository.get?_setMessageState, hget]
      rfl

end StateOf

namespace MessageRepository

/-- A listed row is stored, in one of the states it was asked for. -/
theorem rowAt_of_selectByState {db : Db} {states : List MessageState} {limit : Nat}
    {row : Nat × Message} (h : row ∈ selectByState db states limit) :
    db.messages.get? row.1 = some row.2 ∧ row.2.state ∈ states := by
  obtain ⟨hmem, hstate⟩ := Table.mem_select.1 (List.mem_of_mem_take h)
  exact ⟨Table.get?_eq_some.2 hmem, by simpa using hstate⟩

/-- No row is listed twice. -/
theorem selectByState_sorted (db : Db) (states : List MessageState) (limit : Nat) :
    (selectByState db states limit).Pairwise fun r r' => r.1 < r'.1 :=
  (db.messages.sorted.filter _).take

end MessageRepository

end cemp.database
