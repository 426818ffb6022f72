import DevicePoll.Class.Basic

/-! Catalogs of device classes, built from definitions in any order. Every round builds the
definitions whose parents are built and defers the others; a round that only defers ends in a
failure. -/
namespace DevicePoll

/-- Classes by name. -/
abbrev Catalog : Type := SortedMap String DeviceClass

namespace Catalog

/-- One round over definitions: the classes built, and the definitions deferred. -/
def round : List ClassOverlay → Catalog → Outcome (Catalog × List ClassOverlay)
  | [], catalog => .ok (catalog, [])
  | overlay :: rest, catalog =>
    if catalog.contains overlay.name then Outcome.fails (.duplicateClass overlay.name)
    else
      match overlay.parent with
      | none =>
        match DeviceClass.ofOverlay none overlay with
        | .error failure => .error failure
        | .ok built => round rest (catalog.insert overlay.name built)
      | some name =>
        match catalog.get? name with
        | none =>
          match round rest catalog with
          | .error failure => .error failure
          | .ok (catalog, deferred) => .ok (catalog, overlay :: deferred)
        | some parent =>
          match DeviceClass.ofOverlay (some parent) overlay with
          | .error failure => .error failure
          | .ok built => round rest (catalog.insert overlay.name built)

/-- Rounds until no definition is pending. -/
def rounds (pending : List ClassOverlay) (catalog : Catalog) : Outcome Catalog :=
  match pending with
  | [] => .ok catalog
  | first :: rest =>
    match round (first :: rest) catalog with
    | .error failure => .error failure
    | .ok (catalog, deferred) =>
      if _fewer : deferred.length < (first :: rest).length then rounds deferred catalog
      else Outcome.fails (.unresolvedParents (deferred.map ClassOverlay.name))
termination_by pending.length
decreasing_by
  simp only [List.length_cons] at _fewer ⊢
  omega

/-- The catalog of some definitions. -/
def ofOverlays (overlays : List ClassOverlay) : Outcome Catalog := rounds overlays SortedMap.empty

def find (catalog : Catalog) (name : String) : Outcome DeviceClass :=
  match catalog.get? name with
  | some found => .ok found
  | none => Outcome.fails (.unknownClass name)

end Catalog
end DevicePoll
