import DevicePoll.Document.Reader
import DevicePoll.Failure
import DevicePoll.Text.Blank
import DevicePoll.Text.Dotted

/-! Object identifiers: the dotted numbers that address values on a device. An identifier holds its
parts, so that two identifiers are equal exactly when their texts are. -/
namespace DevicePoll

/-- Characters of a part: one or more decimal digits. -/
def isNumeral (cs : List Char) : Bool := !cs.isEmpty && cs.all Char.isDigit

/-- An identifier: at least one part, each of decimal digits. -/
structure Oid where
  parts : List (List Char)
  nonempty : parts ≠ []
  numerals : ∀ part ∈ parts, isNumeral part = true
  deriving DecidableEq

namespace Oid

/-- The dotted form without a leading dot. -/
def core (oid : Oid) : List Char := Text.joinDots oid.parts

def text (oid : Oid) : String := String.ofList oid.core

/-- The dotted form with a leading dot. -/
def absolute (oid : Oid) : String := "." ++ oid.text

instance : Repr Oid := ⟨fun oid _ => oid.absolute⟩

/-- Characters without the dots at their start. -/
def dropDots (cs : List Char) : List Char := cs.dropWhile (· = '.')

/-- The identifier whose dotted form is given exactly. -/
def ofCore? (cs : List Char) : Option Oid :=
  if h : ∀ part ∈ Text.splitDots cs, isNumeral part = true then
    some ⟨Text.splitDots cs, Text.splitDots_ne_nil cs, h⟩
  else none

/-- Reads an identifier between blanks, with any number of leading dots. -/
def ofText (s : String) : Outcome Oid :=
  let core := dropDots (Text.trimmed s.toList)
  if core.isEmpty then Outcome.fails .emptyOid
  else match ofCore? core with
    | some oid => .ok oid
    | none => Outcome.fails (.malformedOid s)

/-- The identifier below another one, by the text of the further parts. -/
def child (oid : Oid) (suffix : String) : Outcome Oid :=
  ofText (String.ofList (oid.core ++ '.' :: dropDots suffix.toList))

/-- The parts of a text below an identifier, if the text lies below it. -/
def suffixOf (oid : Oid) (s : String) : Option (List String) :=
  match Text.afterStart? (oid.core ++ ['.']) (dropDots s.toList) with
  | none => none
  | some rest => some ((Text.splitDots rest).map String.ofList)

/-- An identifier is written as its text without a leading dot. -/
def toDocument (oid : Oid) : Document := .text oid.text

/-- Reads an identifier from a text; what is wrong with the text is told in its own words. -/
def ofDocument (document : Document) : Document.Read Oid := do
  match ofText (← document.asText) with
  | .ok oid => .ok oid
  | .error failure => .error (.refused failure.message)

end Oid

/-- The last dotted part of an answered identifier, as the index of its row. -/
def rowIndex (s : String) : Outcome UInt64 :=
  match (Text.splitDots s.toList).getLast? with
  | none => Outcome.fails (.badIndex s)
  | some last =>
    match Decimal.readNat last with
    | .ok n => .ok (UInt64.ofNat n)
    | .error _ => Outcome.fails (.badIndex s)

end DevicePoll
