import DevicePoll.Failure

/-! Sources tried in order. The first value wins and the first failure of a kind that does not yield
ends the search; when no source decides, the result tells whether one of them implements the
property. -/
namespace DevicePoll

universe u

/-- The failure of a search in which no source decided. -/
def undecided (property : String) (foundNothing : Bool) : Failure :=
  .because (if foundNothing then .nothingFound property else .noSource property)

/-- Tries sources one after another. `foundNothing` tells that an earlier source found no value. -/
def tryFrom {m : Type → Type u} [Monad m] {α : Type} (property : String) (foundNothing : Bool) :
    List (m (Outcome α)) → m (Outcome α)
  | [] => pure (.error (undecided property foundNothing))
  | source :: rest => do
    match ← source with
    | .ok value => pure (.ok value)
    | .error failure =>
      match failure.kind with
      | .notImplemented => tryFrom property foundNothing rest
      | .notFound => tryFrom property true rest
      | _ => pure (.error failure)

/-- The value of the first source that decides; missing sources are skipped. -/
def inOrder {m : Type → Type u} [Monad m] {α : Type} (property : String)
    (sources : List (Option (m (Outcome α)))) : m (Outcome α) :=
  tryFrom property false (sources.filterMap id)

/-- A value, or nothing when the source yields; any other failure is kept, within the given
scope. -/
def optional {α : Type} (property : String) : Outcome α → Outcome (Option α)
  | .ok value => .ok (some value)
  | .error failure =>
    if failure.yields then .ok none
    else .error (.within ("error occurred during get " ++ property) failure)

end DevicePoll
