import DevicePoll.Document.Reader

/-! Documents in layers. The entries of an upper object join those of the object below it, and every
other document hides what is below. -/
namespace DevicePoll.Document

mutual

/-- The document with the entries of every object in order, the last one of each label. -/
def canonical : Document → Document
  | list items => list (canonicalItems items)
  | object entries => object (canonicalEntries (canonicalValues entries))
  | other => other

def canonicalItems : List Document → List Document
  | [] => []
  | item :: items => canonical item :: canonicalItems items

def canonicalValues : List (String × Document) → List (String × Document)
  | [] => []
  | (label, value) :: entries => (label, canonical value) :: canonicalValues entries

end

mutual

/-- A document over another one. -/
def overlay (lower : Document) : Document → Document
  | object entries =>
    match lower with
    | object base => object (overlayEntries base entries)
    | _ => object entries
  | other => other

def overlayEntries (base : List (String × Document)) :
    List (String × Document) → List (String × Document)
  | [] => base
  | (label, value) :: entries =>
    let layered := match lookup? label base with
      | some old => overlay old value
      | none => value
    overlayEntries (canonicalEntries.insertEntry label layered base) entries

end

end DevicePoll.Document
