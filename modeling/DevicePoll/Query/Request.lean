import DevicePoll.Oid
import DevicePoll.Scalar

/-! What is asked of a device, and what it answers with. -/
namespace DevicePoll

/-- One value of a walk, with the full identifier as the device writes it. -/
structure Response where
  oid : String
  value : Scalar

/-- A walk asks for every value at or below an identifier, and a get for the one value at it. -/
inductive Request where
  | walk (root : Oid)
  | get (oid : Oid)
  deriving DecidableEq

namespace Request

def oid : Request → Oid
  | walk root => root
  | get oid => oid

@[reducible] def Reply : Request → Type
  | walk _ => List Response
  | get _ => Scalar

end Request

/-- A device as the other end of a poll: its answer to each request, and the milliseconds that the
answer takes. -/
structure Client where
  answer : (request : Request) → Outcome request.Reply
  latency : Request → Nat

end DevicePoll
