import DevicePoll.Reading.Schedule

/-! Several programs run at once, each against its own device and within its own limits. They share
nothing but their rounds: a round that one of them needs looks at the others as well. -/
namespace DevicePoll.Reading

/-- A program with the client and the limits of its run. -/
structure Job (α : Type) : Type 1 where
  client : Client
  limits : Limits
  program : Reading α

/-- A job under way. -/
structure Track (α : Type) : Type 1 where
  job : Job α
  running : Running α
  moment : Moment

namespace Track
variable {α : Type}

def start (job : Job α) : Track α :=
  let launched := launch job.client job.limits job.program (begin job.limits Meter.zero)
  ⟨job, launched.1, launched.2⟩

/-- The instant of the next event, unless the job has ended. -/
def due? (t : Track α) : Option Nat :=
  match t.running.value? with
  | some _ => none
  | none => some (nextEvent t.job.limits t.running t.moment).2

/-- A round at an instant. A job with an event at that instant goes on with it; any other job is
looked at and nothing else. -/
def round (instant : Nat) (t : Track α) : Track α :=
  match t.due? with
  | none => t
  | some due =>
    let next := if due = instant then step t.job.client t.job.limits t.running t.moment
      else resume t.job.client t.job.limits .woken t.running t.moment
    { t with running := next.1, moment := next.2 }

/-- What a job ends in; what is left of its requests is answered one after another. -/
def value (t : Track α) : α := t.running.settle t.job.client.answer

end Track

/-- Rounds until every job has ended; `fuel` bounds their number. -/
def runRounds {α : Type} : Nat → List (Track α) → List (Track α)
  | 0, tracks => tracks
  | fuel + 1, tracks =>
    match (tracks.filterMap Track.due?).min? with
    | none => tracks
    | some instant => runRounds fuel (tracks.map (Track.round instant))

/-- The values of jobs that are started at the same instant. Too many jobs run each in rounds of its
own. -/
def runTogether {α : Type} (jobs : List (Job α)) : List α :=
  let fuel := jobs.foldl (fun n job => n + roundsOf job.client job.program) 0
  if jobs.length ≤ mostTogether then
    (runRounds fuel (jobs.map Track.start)).map Track.value
  else jobs.map fun job => (run job.client job.limits job.program Meter.zero).1

end DevicePoll.Reading
