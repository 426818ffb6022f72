import DevicePoll.Source.Declared

/-! Class steps. What a class answers for a property is determined by the node that it finds at the
path of the property: a node of the form that the property has is read, and without such a node the
class fails before it asks anything. -/
namespace DevicePoll

/-- The program asks nothing and ends in a failure of the kind. -/
def Reading.FailsAtOnce {α : Type} (kind : Failure.Kind) (x : Reading (Outcome α)) : Prop :=
  ∃ failure, x = .done (.error failure) ∧ failure.kind = kind

def LabelNode.isGroup {α : Type} : LabelNode α → Bool
  | leaf _ => false
  | group _ _ => true

/-- Records are read from groups, and scalars and lists of scalars from leaves. -/
def Form.isGroup : Form → Bool
  | scalar _ | reals => false
  | interfaces | table _ => true

/-- The node has the form that the property is read from. -/
def Property.Fits (p : Property) (node : QueryNode) : Prop := node.isGroup = p.form.isGroup

namespace Poll
variable {α β : Type}

theorem ofOutcome_error_bind (failure : Failure) (f : α → Poll β) :
    ofOutcome (.error failure) >>= f = ofOutcome (.error failure) := rfl

theorem failsAtOnce_fails (cause : Failure.Cause) :
    (fails cause : Poll α).run.FailsAtOnce cause.kind := ⟨_, rfl, rfl⟩

end Poll

namespace Tier
variable {tier other : Tier} {path : String} {form : Form} {failure : Failure}

theorem node?_of_declares (h : tier.declares path = true) :
    tier.node? path = tier.tree.lookup path := by simp [node?, h]

theorem node?_of_not_declares (h : tier.declares path = false) : tier.node? path = none := by
  simp [node?, h]

theorem readForm_of_leafAt_error (hform : form.isGroup = false)
    (h : tier.leafAt path = .error failure) :
    tier.readForm path form = Poll.ofOutcome (.error failure) := by
  have hcolumn : tier.column path = Poll.ofOutcome (.error failure) := by
    rw [column, h, Poll.ofOutcome_error_bind]
  cases form with
  | scalar type => rw [readForm, scalar, hcolumn, Poll.ofOutcome_error_bind]
  | reals => rw [readForm, reals, hcolumn, Poll.ofOutcome_error_bind]
  | interfaces => cases hform
  | table schema => cases hform

theorem readForm_of_groupAt_error (hform : form.isGroup = true)
    (h : tier.groupAt path = .error failure) :
    tier.readForm path form = Poll.ofOutcome (.error failure) := by
  have hrows : tier.rows path = Poll.ofOutcome (.error failure) := by
    rw [rows, h, Poll.ofOutcome_error_bind]
  cases form with
  | scalar type => cases hform
  | reals => cases hform
  | interfaces => rw [readForm, interfaces, hrows, Poll.ofOutcome_error_bind]
  | table schema => rw [readForm, table, hrows, Poll.ofOutcome_error_bind]

theorem readForm_congr (hleaf : tier.leafAt path = other.leafAt path)
    (hgroup : tier.groupAt path = other.groupAt path) (form : Form) :
    tier.readForm path form = other.readForm path form := by
  have hcolumn : tier.column path = other.column path := by rw [column, column, hleaf]
  have hrows : tier.rows path = other.rows path := by rw [rows, rows, hgroup]
  cases form with
  | scalar type => rw [readForm, readForm, scalar, scalar, hcolumn]
  | reals => rw [readForm, readForm, reals, reals, hcolumn]
  | interfaces => rw [readForm, readForm, interfaces, interfaces, hrows]
  | table schema => rw [readForm, readForm, table, table, hrows]

/-- A class step is a function of the node that the class finds, whichever class it is. -/
theorem property_eq_of_node {p : Property} {node : QueryNode} (h : tier.node? p.path = some node)
    (h' : other.node? p.path = some node) : tier.property p = other.property p := by
  apply readForm_congr
  · rw [leafAt, leafAt, h, h']
    cases node <;> rfl
  · rw [groupAt, groupAt, h, h']
    cases node <;> rfl

theorem property_congr {p : Property} (hname : tier.name = other.name)
    (h : tier.node? p.path = other.node? p.path) : tier.property p = other.property p := by
  apply readForm_congr
  · rw [leafAt, leafAt, h, hname]
  · rw [groupAt, groupAt, h, hname]

/-- A class that finds nothing does not implement the property. -/
theorem property_of_absent {p : Property} (h : tier.node? p.path = none) :
    tier.property p = Poll.fails (.undeclared p.path tier.name) := by
  cases hform : p.form.isGroup with
  | false =>
    apply readForm_of_leafAt_error hform
    rw [leafAt, h]
    rfl
  | true =>
    apply readForm_of_groupAt_error hform
    rw [groupAt, h]
    rfl

/-- A class that finds a node of the other form is an invalid one. -/
theorem property_of_unfit {p : Property} {node : QueryNode} (h : tier.node? p.path = some node)
    (hunfit : ¬p.Fits node) : ∃ shape, tier.property p = Poll.fails (.wrongShape p.path shape) := by
  unfold Property.Fits at hunfit
  cases hform : p.form.isGroup with
  | false =>
    cases node with
    | leaf leaf => exact absurd hform.symm hunfit
    | group labels child =>
      refine ⟨"leaf", readForm_of_leafAt_error hform ?_⟩
      rw [leafAt, h]
      rfl
  | true =>
    cases node with
    | leaf leaf =>
      refine ⟨"group", readForm_of_groupAt_error hform ?_⟩
      rw [groupAt, h]
      rfl
    | group labels child => exact absurd hform.symm hunfit

end Tier
end DevicePoll
