import Mathlib.Tactic.Common

namespace cemp.database

/-- The states of a message: the sixteen of the sender's path, then the ten of the
    recipient's. -/
inductive MessageState where
  | draft | queued | encrypting | building_transaction | awaiting_signature | submitting
  | pending | committed | available_on_chain | downloaded_by_recipient | acknowledged
  | reclaim_queued | reclaim_pending | reclaimed | expired | failed
  | discovered | downloading | decrypting | received | displayed | response_queued
  | response_sent | awaiting_remote_reclaim | remote_reclaimed | invalid
  deriving DecidableEq, Repr

inductive MessageDirection where
  | outgoing | incoming
  deriving DecidableEq, Repr

open MessageState MessageDirection

/-- The string a state is stored as. -/
def MessageState.text : MessageState → String
  | draft => "draft"
  | queued => "queued"
  | encrypting => "encrypting"
  | building_transaction => "building_transaction"
  | awaiting_signature => "awaiting_signature"
  | submitting => "submitting"
  | pending => "pending"
  | committed => "committed"
  | available_on_chain => "available_on_chain"
  | downloaded_by_recipient => "downloaded_by_recipient"
  | acknowledged => "acknowledged"
  | reclaim_queued => "reclaim_queued"
  | reclaim_pending => "reclaim_pending"
  | reclaimed => "reclaimed"
  | expired => "expired"
  | failed => "failed"
  | discovered => "discovered"
  | downloading => "downloading"
  | decrypting => "decrypting"
  | received => "received"
  | displayed => "displayed"
  | response_queued => "response_queued"
  | response_sent => "response_sent"
  | awaiting_remote_reclaim => "awaiting_remote_reclaim"
  | remote_reclaimed => "remote_reclaimed"
  | invalid => "invalid"

def MessageDirection.text : MessageDirection → String
  | outgoing => "outgoing"
  | incoming => "incoming"

def outgoingMessageStates : List MessageState :=
  [draft, queued, encrypting, building_transaction, awaiting_signature, submitting, pending,
    committed, available_on_chain, downloaded_by_recipient, acknowledged, reclaim_queued,
    reclaim_pending, reclaimed, expired, failed]

def incomingMessageStates : List MessageState :=
  [discovered, downloading, decrypting, received, displayed, response_queued, response_sent,
    awaiting_remote_reclaim, remote_reclaimed, invalid]

/-- The legal moves of an outgoing message. `failed` can be reached from every state before
    `reclaimed`, and left only by the retry edge to `queued`. -/
def outgoingTransitions : MessageState → List MessageState
  | draft => [queued, failed]
  | queued => [encrypting, failed, expired]
  | encrypting => [building_transaction, failed]
  | building_transaction => [awaiting_signature, failed]
  | awaiting_signature => [submitting, failed]
  | submitting => [pending, failed]
  | pending => [committed, failed, expired]
  | committed => [available_on_chain, failed]
  | available_on_chain => [downloaded_by_recipient, failed]
  | downloaded_by_recipient => [acknowledged, failed]
  | acknowledged => [reclaim_queued, failed]
  | reclaim_queued => [reclaim_pending, failed]
  | reclaim_pending => [reclaimed, reclaim_queued, failed]
  | failed => [queued]
  | _ => []

def incomingTransitions : MessageState → List MessageState
  | discovered => [downloading, invalid]
  | downloading => [decrypting, invalid]
  | decrypting => [received, invalid]
  | received => [displayed, invalid]
  | displayed => [response_queued, invalid]
  | response_queued => [response_sent, invalid]
  | response_sent => [awaiting_remote_reclaim, invalid]
  | awaiting_remote_reclaim => [remote_reclaimed, invalid]
  | _ => []

def isOutgoingState (state : MessageState) : Bool := outgoingMessageStates.contains state

def isIncomingState (state : MessageState) : Bool := incomingMessageStates.contains state

/-- The state of a message inserted without one. -/
def initialMessageState : MessageDirection → MessageState
  | outgoing => draft
  | incoming => discovered

/-- Whether a message may move between two different states. Staying in a state is not a
    transition: callers treat it as a no-op. -/
def canTransitionMessage (direction : MessageDirection) (source target : MessageState) : Bool :=
  match direction with
  | outgoing =>
    isOutgoingState source && isOutgoingState target && (outgoingTransitions source).contains target
  | incoming =>
    isIncomingState source && isIncomingState target && (incomingTransitions source).contains target

/-- The states a message of each direction can be in. -/
def MessageState.Fits (state : MessageState) : MessageDirection → Prop
  | outgoing => isOutgoingState state
  | incoming => isIncomingState state

instance (state : MessageState) (direction : MessageDirection) :
    Decidable (state.Fits direction) :=
  match direction with
  | outgoing => inferInstanceAs (Decidable (isOutgoingState state = true))
  | incoming => inferInstanceAs (Decidable (isIncomingState state = true))

theorem initialMessageState_fits (direction : MessageDirection) :
    (initialMessageState direction).Fits direction := by
  cases direction <;> decide

/-- A legal transition stays within the states of its direction. -/
theorem canTransitionMessage_fits {direction : MessageDirection} {source target : MessageState}
    (h : canTransitionMessage direction source target) : target.Fits direction := by
  cases direction <;> simp only [canTransitionMessage, Bool.and_eq_true] at h <;> exact h.1.2

/-- A path of legal moves from a state, each to another state. -/
def LegalPath (direction : MessageDirection) : MessageState → List MessageState → Prop
  | _, [] => True
  | source, target :: path =>
    source ≠ target ∧ canTransitionMessage direction source target ∧
      LegalPath direction target path

instance (direction : MessageDirection) : (source : MessageState) → (path : List MessageState) →
    Decidable (LegalPath direction source path)
  | _, [] => inferInstanceAs (Decidable True)
  | source, target :: path =>
    have := instDecidableLegalPath direction target path
    inferInstanceAs (Decidable (source ≠ target ∧ canTransitionMessage direction source target ∧
      LegalPath direction target path))

/-- A legal path ends within the states of its direction. -/
theorem LegalPath.fits {direction : MessageDirection} {source : MessageState}
    {path : List MessageState} (h : LegalPath direction source path)
    (hsource : source.Fits direction) : (path.getLastD source).Fits direction := by
  induction path generalizing source with
  | nil => exact hsource
  | cons target path ih =>
    rw [List.getLastD_cons]
    exact ih h.2.2 (canTransitionMessage_fits h.2.1)

/-- The states at which a published message's cell is known to be on chain: available, or
    moved on by a receipt or a reclaim. -/
def MessageState.Landed : MessageState → Bool
  | available_on_chain | downloaded_by_recipient | acknowledged | reclaim_queued
  | reclaim_pending | reclaimed => true
  | _ => false

end cemp.database
