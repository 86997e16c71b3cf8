import Mathlib.Algebra.Order.Field.Rat

namespace cemp.core

/-- A parsed JSON value. A number too large to represent is read as infinite. -/
inductive Json where
  | null
  | bool (value : Bool)
  | number (value : ℚ)
  | infinite
  | string (value : String)
  | array (items : List Json)
  | object (fields : List (String × Json))

/-- A property of a value, `undefined` when the value is no object or has none of that name. -/
def Json.property (name : String) : Json → Option Json
  | .object fields => fields.lookup name
  | _ => none

/-- An HTTP response. Its body is nothing when it is not JSON. -/
structure HttpResponse where
  status : Nat
  body : Option Json

/-- `response.ok`. -/
def HttpResponse.ok (response : HttpResponse) : Bool := 200 ≤ response.status && response.status < 300

end cemp.core
