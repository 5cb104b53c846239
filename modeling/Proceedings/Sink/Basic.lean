import Proceedings.Sink.Directory
import Proceedings.Sink.Memory

/-! # Sinks

Where the artifacts of a session go: into memory, into a directory, or to a place that turns some of
them away. All directories lie in one file store.
-/

namespace Proceedings

inductive Sink where
  | memory (deliveries : Deliveries)
  | directory (path : Path)
  /-- Turns a delivery away for the reason that stands at its number, if one does. -/
  | failing (reasons : List (Option Text)) (calls : Nat)

namespace Sink

def persist (id : Text) (payload : Value) : Sink → FileStore → Outcome (Sink × FileStore) Unit
  | .memory deliveries, files =>
    (deliveries.persist id payload).within fun d => (.memory d, files)
  | .directory path, files =>
    (Directory.persist path id payload files).within fun files => (.directory path, files)
  | .failing reasons calls, files =>
    let s := (.failing reasons (calls + 1), files)
    match reasons[calls]?.join with
    | some reason => .failed s (.undelivered id reason none)
    | none => .done s ()

/-- Delivers an artifact to the sink with a number. -/
def persistAt (number : Nat) (id : Text) (payload : Value) (s : List Sink × FileStore) :
    Outcome (List Sink × FileStore) Unit :=
  match s.1[number]? with
  | some sink => (sink.persist id payload s.2).within fun (sink, files) =>
    (s.1.set number sink, files)
  | none => .failed s .indexRange

end Sink

end Proceedings
