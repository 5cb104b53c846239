import Proceedings.Outcome

/-! # Memory sink

Keeps every delivery in the order in which they came. Several may have one name; the first of them
is the one that is found.
-/

namespace Proceedings

/-- Deliveries by the names of their artifacts, oldest first. -/
abbrev Deliveries := List (Text × Value)

namespace Deliveries

variable (d : Deliveries)

def persist (id : Text) (payload : Value) : Outcome Deliveries Unit :=
  .done (d ++ [(id, payload)]) ()

def get (id : Text) : Except Failure Value :=
  match d.find? (·.1 == id) with
  | some (_, payload) => .ok payload
  | none => .error (.notDelivered id)

end Deliveries

end Proceedings
