import Mathlib.Tactic.Common

namespace cemp

/-- What really went wrong when a node refused a transaction. The program never sees it: it
    only reads the text of the error. -/
inductive SendFault where
  | inputsConsumed | alreadyKnown | refused | transport
  deriving DecidableEq, Repr

inductive DatabaseErrorCode where
  | not_found | illegal_state_transition | migration_error | constraint_violation | adapter_error
  deriving DecidableEq, Repr

inductive PublicationErrorCode where
  | profile_not_found | insufficient_capacity | rejected_by_node | network_unavailable
  | commit_timeout | internal
  deriving DecidableEq, Repr

/-- The errors the packages throw, each with the data its class carries. -/
inductive Error where
  /-- `CempCkbError`. -/
  | ckb (context detail : String)
  /-- `DatabaseError`. -/
  | database (code : DatabaseErrorCode) (message : String)
  /-- `JournaledAbandonedError`. -/
  | journaledAbandoned (message : String) (inputsSpentElsewhere : Bool)
  /-- `PublicationError`. -/
  | publication (code : PublicationErrorCode) (userMessage : String) (broadcast : Bool)
  /-- `LoraTransportError`, with the HTTP status when it came from a response. -/
  | lora (message : String) (status : Option Nat)
  /-- `ImageTooLargeError`. -/
  | imageTooLarge (smallestBytes maxBytes : Nat)
  /-- `AttachmentUnavailableError`: retrying cannot help. -/
  | attachmentUnavailable (message : String)
  /-- The error of an RPC call, with what caused it. -/
  | rpc (fault : SendFault) (message : String)
  /-- Any other `Error`. -/
  | other (message : String)
  deriving DecidableEq, Repr

def PublicationErrorCode.text : PublicationErrorCode → String
  | profile_not_found => "profile-not-found"
  | insufficient_capacity => "insufficient-capacity"
  | rejected_by_node => "rejected-by-node"
  | network_unavailable => "network-unavailable"
  | commit_timeout => "commit-timeout"
  | internal => "internal"

/-- The `message` property of an error. -/
def Error.message : Error → String
  | ckb context detail => context ++ ": " ++ detail
  | database _ message => message
  | journaledAbandoned message _ => message
  | publication code userMessage _ => code.text ++ ": " ++ userMessage
  | lora message _ => message
  | imageTooLarge smallestBytes maxBytes =>
    "image cannot be compressed below the " ++ toString maxBytes ++
      "-byte protocol maximum (smallest achieved: " ++ toString smallestBytes ++ " bytes)"
  | attachmentUnavailable message => message
  | rpc _ message => message
  | other message => message

/-- `text.includes(part)`. -/
def includes (text part : String) : Bool :=
  text.toList.tails.any fun rest => part.toList.isPrefixOf rest

/-- `includes` on lower-cased text: a literal alternative of a case-insensitive pattern. -/
def includesIgnoreCase (text part : String) : Bool :=
  (text.toList.map Char.toLower).tails.any fun rest => part.toList.isPrefixOf rest

end cemp
