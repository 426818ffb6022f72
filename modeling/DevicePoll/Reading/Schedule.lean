import DevicePoll.Reading.Basic

/-! Running a program against a device in time. At most `permits` reads are in flight at once; the
others wait for a permit, first come first served. Every read takes the time that the client needs to
answer it. Cancellation and the deadline refuse reads that have not started and cut off all others. A run
is a sequence of rounds; in each of them the whole program is looked at once, and the members of a
gathering are looked at from the one whose turn it is. -/
namespace DevicePoll

/-- Limits of one call. Instants are milliseconds from its start, so a deadline that is over before the
call cannot be told from one that is over when it starts. Reads are refused from the instant of the
deadline on, also where a permit that is free at that instant might as well be taken. -/
structure Limits where
  permits : Nat
  permits_pos : 0 < permits
  cancelAt : Option Nat
  deadline : Option Nat

namespace Limits

/-- Reads in flight when nothing else is asked for. -/
def defaultPermits : Nat := 16

/-- No cancellation, no deadline. -/
def unhurried (permits : Nat) : Limits := ⟨max permits 1, by omega, none, none⟩

/-- What has stopped the reads at an instant. -/
def stop? (limits : Limits) (now : Nat) : Option Failure.Stop :=
  if limits.cancelAt.any (· ≤ now) then some .cancelled
  else if limits.deadline.any (· ≤ now) then some .deadline
  else none

/-- The first instant at which reads are stopped. -/
def stopAt? (limits : Limits) : Option Nat :=
  match limits.cancelAt, limits.deadline with
  | some c, some d => some (min c d)
  | some c, none => some c
  | none, d => d

/-- Refuses a read that is asked for after the reads were stopped. -/
def refusal? (limits : Limits) (now : Nat) (request : Request) : Option Failure :=
  match limits.stop? now with
  | none => none
  | some .cancelled => some (.because (.cutOff .cancelled .before request.oid.absolute))
  | some .deadline => some (.because (.cutOff .deadline .waiting request.oid.absolute))

end Limits

/-- What a client has seen: the requests that were issued, the latest first and each with its
instant; the reads in flight and the most there ever were; and how many reads were refused or cut
off. -/
structure Meter where
  issued : List (Nat × Request)
  inFlight : Nat
  peak : Nat
  cutOff : Nat

namespace Meter

def zero : Meter := ⟨[], 0, 0, 0⟩

def reads (meter : Meter) : Nat := meter.issued.length

def count (meter : Meter) (p : Request → Bool) : Nat := (meter.issued.filter fun e => p e.2).length

end Meter

namespace Reading

/-- The state of a run at an instant. Tickets number the reads that wait: those in `queue` wait for
a permit, and those in `granted` hold one and start when they are next looked at. `woken` tells that
a ticket was granted, which asks for one more round at the same instant, even if the ticket is used
in this one. -/
structure Moment where
  now : Nat
  free : Nat
  queue : List Nat
  granted : List Nat
  woken : Bool
  nextTicket : Nat
  meter : Meter

namespace Moment

def countCutOff (m : Moment) : Moment :=
  { m with meter := { m.meter with cutOff := m.meter.cutOff + 1 } }

/-- A read is issued; its permit is taken already. -/
def issue (m : Moment) (request : Request) : Moment :=
  { m with
    meter := { m.meter with
      issued := (m.now, request) :: m.meter.issued
      inFlight := m.meter.inFlight + 1
      peak := max m.meter.peak (m.meter.inFlight + 1) } }

def take (m : Moment) : Moment := { m with free := m.free - 1 }

/-- A permit goes to the first ticket that waits. -/
def release (m : Moment) : Moment :=
  match m.queue with
  | [] => { m with free := m.free + 1 }
  | ticket :: queue => { m with queue, granted := m.granted ++ [ticket], woken := true }

/-- A read in flight ends. -/
def finish (m : Moment) : Moment :=
  { m with meter := { m.meter with inFlight := m.meter.inFlight - 1 } }.release

def enqueue (m : Moment) : Moment :=
  { m with queue := m.queue ++ [m.nextTicket], nextTicket := m.nextTicket + 1 }

/-- A granted ticket is used. -/
def redeem (m : Moment) (ticket : Nat) : Moment := { m with granted := m.granted.erase ticket }

/-- A ticket is given back unused. -/
def withdraw (m : Moment) (ticket : Nat) : Moment :=
  if ticket ∈ m.granted then (m.redeem ticket).release
  else { m with queue := m.queue.erase ticket }

end Moment

/-- A program under way: its reads wait with a ticket or are in flight. In a gathering it is the
turn of the member at place `turn`, counted around. A read in flight has the instant at which it
ends. -/
inductive Running : Type → Type 1 where
  | done {α : Type} (value : α) : Running α
  | paused {α : Type} (rest : Reading α) : Running α
  | waiting {α : Type} (ticket : Nat) (request : Request)
      (next : Outcome request.Reply → Reading α) : Running α
  | inFlight {α : Type} (ends : Nat) (request : Request)
      (next : Outcome request.Reply → Reading α) : Running α
  | fork {ε α β γ : Type} (held : Bool) (left : Running (Except ε β)) (right : Running (Except ε γ))
      (next : Except ε (β × γ) → Reading α) : Running α
  | gather {α : Type} {n : Nat} {β : Fin n → Type} (turn : Nat)
      (members : (i : Fin n) → Running (β i)) (next : ((i : Fin n) → β i) → Reading α) : Running α

namespace Running

def value? {α : Type} : Running α → Option α
  | done value => some value
  | _ => none

/-- The error of a side of a fork that has ended in one. -/
def error? {ε β : Type} (side : Running (Except ε β)) : Option ε :=
  match side.value? with
  | some (.error e) => some e
  | _ => none

/-- What a fork has come to, unless the left side has failed: the end of both sides, or the error of the
right one if it is not held back. -/
def decided? {ε β γ : Type} (held : Bool) (left : Running (Except ε β))
    (right : Running (Except ε γ)) : Option (Except ε (β × γ)) :=
  match left.value?, right.value? with
  | some b, some c => some (joined b c)
  | none, some (.error e) => if held then none else some (.error e)
  | _, _ => none

/-- The values of all members of a gathering, if all have ended. -/
def allValues? {n : Nat} {β : Fin n → Type} (members : (i : Fin n) → Running (β i)) :
    Option ((i : Fin n) → β i) :=
  if h : ∀ i, (members i).value?.isSome then some fun i => (members i).value?.get (h i) else none

/-- The instants at which the reads in flight end. -/
def flights {α : Type} : Running α → List Nat
  | done _ => []
  | paused _ => []
  | waiting _ _ _ => []
  | inFlight ends _ _ => [ends]
  | fork _ left right _ => left.flights ++ right.flights
  | gather (n := n) _ members _ => (List.finRange n).flatMap fun i => (members i).flights

/-- The instant at which the first reads in flight end. -/
def landing {α : Type} (running : Running α) (m : Moment) : Nat := running.flights.min?.getD m.now

/-- Gives back the tickets and permits of a program that is dropped. -/
def drop {α : Type} : Running α → Moment → Moment
  | done _, m => m
  | paused _, m => m
  | waiting ticket _ _, m => m.withdraw ticket
  | inFlight _ _ _, m => m.finish
  | fork _ left right _, m => right.drop (left.drop m)
  | gather (n := n) _ members _, m => (List.finRange n).foldl (fun m i => (members i).drop m) m

/-- The program's value when its requests are answered one after another from here on. -/
def settle {α : Type} (answer : (request : Request) → Outcome request.Reply) : Running α → α
  | done value => value
  | paused rest => rest.eval answer
  | waiting _ request next => (next (answer request)).eval answer
  | inFlight _ request next => (next (answer request)).eval answer
  | fork _ left right next => (next (joined (left.settle answer) (right.settle answer))).eval answer
  | gather _ members next => (next fun i => (members i).settle answer).eval answer

end Running

/-- Some programs under way, after those at the given places were visited in their order. -/
def sweep {n : Nat} {β : Fin n → Type}
    (visit : (i : Fin n) → Moment → Running (β i) × Moment) :
    List (Fin n) → ((i : Fin n) → Running (β i)) → Moment → ((i : Fin n) → Running (β i)) × Moment
  | [], members, m => (members, m)
  | i :: places, members, m =>
    let visited := visit i m
    sweep visit places (fun j => if h : i = j then h ▸ visited.1 else members j) visited.2

/-- The places of a gathering from a turn on, counted around. -/
def placesFrom (n turn : Nat) : List (Fin n) :=
  (List.finRange n).drop turn ++ (List.finRange n).take turn

/-- What happens in a round: permits that were granted are used and pauses end, and besides that nothing,
or the reads in flight whose time has come finish, or all reads are cut off. -/
inductive Event where
  | woken
  | finished
  | stopped (stop : Failure.Stop)
  deriving DecidableEq, Repr

section Run
variable (client : Client) (limits : Limits)

/-- Starts a program. It runs on until its reads are in flight or wait. A pause asks for one more round,
unless no read holds a permit that it could let go first, or reads are stopped and all that follow are
refused. -/
def launch {α : Type} : Reading α → Moment → Running α × Moment
  | done value, m => (.done value, m)
  | read request next, m =>
    match limits.refusal? m.now request with
    | some failure => launch (next (.error failure)) m.countCutOff
    | none =>
      if m.free = 0 then (.waiting m.nextTicket request next, m.enqueue)
      else if client.latency request = 0 then
        launch (next (client.answer request)) (m.take.issue request).finish
      else (.inFlight (m.now + client.latency request) request next, m.take.issue request)
  | fork held left right next, m =>
    let l := launch left m
    match l.1.error? with
    | some e => launch (next (.error e)) l.2
    | none =>
      let r := launch right l.2
      match l.1.decided? held r.1 with
      | some result => launch (next result) (l.1.drop r.2)
      | none => (.fork held l.1 r.1 next, r.2)
  | gather (n := n) members next, m =>
    let swept := sweep (fun i m => launch (members i) m) (placesFrom n 0)
      (fun i => (launch (members i) m).1) m
    match Running.allValues? swept.1 with
    | some values => launch (next values) swept.2
    | none => (.gather (1 % n) swept.1 next, swept.2)
  | pause rest, m =>
    if m.free = limits.permits ∨ (limits.stop? m.now).isSome then launch rest m
    else (.paused rest, { m with woken := true })

/-- Carries a program through a round. -/
def resume (event : Event) {α : Type} : Running α → Moment → Running α × Moment
  | .done value, m => (.done value, m)
  | .paused rest, m => launch client limits rest m
  | .waiting ticket request next, m =>
    match event with
    | .stopped stop =>
      launch client limits (next (Outcome.fails (.cutOff stop .waiting request.oid.absolute)))
        (m.withdraw ticket).countCutOff
    | _ =>
      if ticket ∈ m.granted then
        (.inFlight (m.now + client.latency request) request next, (m.redeem ticket).issue request)
      else (.waiting ticket request next, m)
  | .inFlight ends request next, m =>
    match event with
    | .woken => (.inFlight ends request next, m)
    | .finished =>
      if ends ≤ m.now then launch client limits (next (client.answer request)) m.finish
      else (.inFlight ends request next, m)
    | .stopped stop =>
      launch client limits (next (Outcome.fails (.cutOff stop .reading request.oid.absolute)))
        m.finish.countCutOff
  | .fork held left right next, m =>
    let l := resume event left m
    match l.1.error? with
    | some e => launch client limits (next (.error e)) (right.drop l.2)
    | none =>
      let r := resume event right l.2
      match l.1.decided? held r.1 with
      | some result => launch client limits (next result) (l.1.drop r.2)
      | none => (.fork held l.1 r.1 next, r.2)
  | .gather (n := n) turn members next, m =>
    let swept := sweep (fun i m => resume event (members i) m) (placesFrom n turn) members m
    match Running.allValues? swept.1 with
    | some values => launch client limits (next values) swept.2
    | none => (.gather ((turn + 1) % n) swept.1 next, swept.2)

/-- What happens next, and when: the first reads in flight finish, unless the reads are stopped by
then. -/
def nextEvent {α : Type} (running : Running α) (m : Moment) : Event × Nat :=
  if m.woken then (.woken, m.now)
  else
    let finish := running.landing m
    match limits.stopAt? with
    | none => (.finished, finish)
    | some stop =>
      if stop ≤ finish then (.stopped ((limits.stop? stop).getD .cancelled), stop)
      else (.finished, finish)

/-- One round of a run. -/
def step {α : Type} (running : Running α) (m : Moment) : Running α × Moment :=
  let next := nextEvent limits running m
  resume client limits next.1 running { m with now := next.2, woken := false }

/-- Rounds until the program has ended. `fuel` bounds their number; what is left without it is
answered one after another. -/
def runSteps {α : Type} : Nat → Running α → Moment → α × Moment
  | _, .done value, m => (value, m)
  | 0, running, m => (running.settle client.answer, m)
  | fuel + 1, running, m =>
    let next := step client limits running m
    runSteps fuel next.1 next.2

/-- The first moment of a run. -/
def begin (meter : Meter) : Moment := ⟨0, limits.permits, [], [], false, 0, meter⟩

/-- The value of a program in a run of its own with so many rounds, and what the client has seen
after it. -/
def runWithin (rounds : Nat) {α : Type} (program : Reading α) (meter : Meter) : α × Meter :=
  let start := launch client limits program (begin limits meter)
  let ended := runSteps client limits rounds start.1 start.2
  (ended.1, ended.2.meter)

/-- The rounds of a run in which everything is carried to its end. -/
def roundsOf {α : Type} (program : Reading α) : Nat := (program.tally client.answer).2 + 2

/-- The value of a program in a run of its own, and what the client has seen after it. -/
def run {α : Type} (program : Reading α) (meter : Meter) : α × Meter :=
  runWithin client limits (roundsOf client program) program meter

end Run
end Reading
end DevicePoll
