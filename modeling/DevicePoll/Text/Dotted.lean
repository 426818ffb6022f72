/-! Dotted texts: parts that are joined by single dots. Splitting a text at every dot and joining
the parts again gives the text back, and joining parts without dots and splitting gives the
parts. -/
namespace DevicePoll.Text

/-- The parts of a list of characters between its dots; there is always at least one. -/
def splitDots : List Char → List (List Char)
  | [] => [[]]
  | c :: rest =>
    if c = '.' then [] :: splitDots rest
    else match splitDots rest with
      | [] => [[c]]
      | part :: parts => (c :: part) :: parts

/-- Parts joined by single dots. -/
def joinDots : List (List Char) → List Char
  | [] => []
  | [part] => part
  | part :: parts => part ++ '.' :: joinDots parts

@[simp] theorem splitDots_ne_nil (cs : List Char) : splitDots cs ≠ [] := by
  cases cs with
  | nil => simp [splitDots]
  | cons c rest =>
    unfold splitDots
    split
    · simp
    · split <;> simp

@[simp] theorem joinDots_splitDots (cs : List Char) : joinDots (splitDots cs) = cs := by
  induction cs with
  | nil => rfl
  | cons c rest ih =>
    unfold splitDots
    cases h : splitDots rest with
    | nil => exact absurd h (splitDots_ne_nil rest)
    | cons part parts =>
      rw [h] at ih
      split
      · next hc => subst hc; simp [joinDots, ih]
      · cases parts with
        | nil => simpa [joinDots] using ih
        | cons next parts => simpa [joinDots] using ih

/-- The dotted parts of a text. -/
def parts (s : String) : List String :=
  (splitDots s.toList).map String.ofList

/-- Parts joined into a dotted text. -/
def dotted (labels : List String) : String :=
  String.ofList (joinDots (labels.map String.toList))

/-- The characters after a given start. -/
def afterStart? : List Char → List Char → Option (List Char)
  | [], cs => some cs
  | _ :: _, [] => none
  | c :: start, d :: cs => if c = d then afterStart? start cs else none

/-- A dotted text lies at another one or below it: the rest after the other one is empty or goes on
with a dot. -/
def isUnder (text root : List Char) : Bool :=
  match afterStart? root text with
  | none => false
  | some [] => true
  | some (c :: _) => c = '.'

/-- A label can stand between two dots of a path without being lost in it. -/
def isLabel (label : String) : Bool :=
  !label.isEmpty && !label.toList.contains '.'

/-- A path with one more label at its end; the empty path is the label alone. -/
def extend (path label : String) : String :=
  if path.isEmpty then label else path ++ "." ++ label

@[simp] theorem dotted_parts (s : String) : dotted (parts s) = s := by
  simp [dotted, parts, Function.comp_def]

end DevicePoll.Text
