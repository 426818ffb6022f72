import DevicePoll.LabelTree
import DevicePoll.Oid
import DevicePoll.Operator

/-! Query trees: labels that say where the values of a device are found, and what is done with each
raw answer. -/
namespace DevicePoll

/-- Where a value is found, and the operators for its raw answers. A pipeline has room for operators
of a caller's own; here it holds those a class definition can name, which are all there are, and none
of them reads anything. -/
structure Leaf where
  oid : Oid
  operators : List Operator

abbrev QueryNode : Type := LabelNode Leaf

abbrev QueryTree : Type := LabelTree Leaf

end DevicePoll
