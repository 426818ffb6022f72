import DevicePoll.Class.Overlay

/-! Device classes. A class has a lineage of tiers, itself first and the root last. Each tier keeps
the tree of its own definition beside the tree that is merged over those of all its ancestors. -/
namespace DevicePoll

/-- One class within a lineage. -/
structure Tier where
  name : String
  own : QueryTree
  tree : QueryTree
  components : Component → Bool

namespace Tier

/-- The definition of the class itself holds a node at the path. -/
def declares (tier : Tier) (path : String) : Bool := (tier.own.lookup path).isSome

end Tier

/-- A class with its ancestors, the parent first. -/
structure DeviceClass where
  head : Tier
  ancestors : List Tier

namespace DeviceClass

def name (c : DeviceClass) : String := c.head.name

/-- The tiers from the class up to the root. -/
def tiers (c : DeviceClass) : List Tier := c.head :: c.ancestors

def lineage (c : DeviceClass) : List String := c.tiers.map Tier.name

/-- The tree of the class merged over the trees of its ancestors. -/
def tree (c : DeviceClass) : QueryTree := c.head.tree

def declares (c : DeviceClass) (path : String) : Bool := c.head.declares path

def hasComponent (c : DeviceClass) (component : Component) : Bool := c.head.components component

/-- The advertised components, in order. -/
def components (c : DeviceClass) : List Component := Component.all.filter c.hasComponent

/-- A class without a parent; it advertises what is enabled. -/
def root (name : String) (own : QueryTree) (flags : Component → Option Bool) : DeviceClass :=
  ⟨⟨name, own, own, fun component => (flags component).getD false⟩, []⟩

/-- A class below a parent; a component without a flag is as in the parent. -/
def derive (parent : DeviceClass) (name : String) (own : QueryTree)
    (flags : Component → Option Bool) : DeviceClass where
  head :=
    { name
      own
      tree := parent.tree.merge own
      components := fun component => (flags component).getD (parent.hasComponent component) }
  ancestors := parent.tiers

/-- The class of a definition, with the class of its parent. -/
def ofOverlay (parent : Option DeviceClass) (overlay : ClassOverlay) : Outcome DeviceClass :=
  overlay.queryTree.map fun own =>
    match parent with
    | none => root overlay.name own overlay.flags
    | some parent => parent.derive overlay.name own overlay.flags

end DeviceClass
end DevicePoll
