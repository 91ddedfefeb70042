/-!
JSON values, as far as reports need them: natural numbers, strings, arrays, and objects whose
members keep their order.
-/

namespace TicksAndWidths.Json

/-- A JSON value. -/
inductive Value where
  /-- A natural number. -/
  | number (n : Nat)
  /-- A string. -/
  | text (s : String)
  /-- An array. -/
  | array (items : List Value)
  /-- An object, with its members in order. -/
  | object (members : List (String × Value))

end TicksAndWidths.Json
