import DevicePoll.Proofs.Poll.Stopped
import DevicePoll.Proofs.Reading.Progress

/-! Permits of a call. Whatever becomes of its reads, each that is in flight holds one permit, and none is
held once the call has ended. -/
namespace DevicePoll.Communicator

open Reading

/-- After every round of every call, each permit is free, granted to a read that is about to start, or
held by one of the reads that the call has in flight; and at no instant were more reads in flight than
there are permits. The call comes to its end, and then every permit is free again: also when reads fail,
when others are dropped for it, and when the call is cancelled or its deadline passes. -/
theorem every_permit_comes_back (c : Communicator) (known : Identity) (call : Call) (client : Client)
    (limits : Limits) (meter : Meter) :
    (∀ rounds,
      let state := stateAfter client limits (c.call known call).run meter rounds
      state.2.meter.inFlight = meter.inFlight + state.1.flights.length ∧
        state.2.free + state.2.granted.length + state.1.flights.length = limits.permits ∧
        state.2.meter.peak ≤ max meter.peak (meter.inFlight + limits.permits)) ∧
      ∃ rounds value last,
        stateAfter client limits (c.call known call).run meter rounds = (.done value, last) ∧
          last.free = limits.permits ∧ last.granted = [] ∧ last.queue = [] ∧
          last.meter.inFlight = meter.inFlight := by
  have hcarries : ∀ rounds, (stateAfter client limits (c.call known call).run meter rounds).2.Carries
      limits meter (stateAfter client limits (c.call known call).run meter rounds).1.load 0 0 :=
    fun rounds => stateAfter_carries _ meter rounds
  constructor
  · intro rounds state
    rw [state.1.length_flights]
    exact ⟨(hcarries rounds).inFlight, (hcarries rounds).permits, (hcarries rounds).peak⟩
  obtain ⟨rounds, hended⟩ := exists_ended client limits (c.call known call).run meter
  obtain ⟨value, hdone⟩ := hended rounds (Nat.le_refl _)
  have hlast := hcarries rounds
  rw [hdone] at hlast
  exact ⟨rounds, value, _, Prod.ext hdone rfl, hlast.idle⟩

/-- The table and the first counter are read one after the other, and the second counter is cut off. -/
example :
    let ran := run slowRouter.client (.cancelledAt 25)
      (access.call IdentityField.schema.blank .interfaces).run Meter.zero
    (ran.2.peak, ran.2.inFlight, ran.2.cutOff) = (1, 0, 1) := by decide +kernel

end DevicePoll.Communicator
