import DevicePoll.Yaml.Character

/-! Places in a YAML text: what is left to read, and where it stands. -/
namespace DevicePoll.Yaml

structure Cursor where
  rest : List Char
  line : Nat
  column : Nat
  index : Nat

namespace Cursor

/-- The place after one character. -/
def pass (c : Cursor) (x : Char) : Cursor :=
  if isBreak x then { c with line := c.line + 1, column := 0, index := c.index + 1 }
  else { c with column := c.column + 1, index := c.index + 1 }

/-- The place where only `rest` is left, which is an end of what is left here. -/
def moveTo (c : Cursor) (rest : List Char) : Cursor :=
  { (c.rest.take (c.rest.length - rest.length)).foldl pass c with rest }

/-- The place after some characters. -/
def after (c : Cursor) (n : Nat) : Cursor := c.moveTo (c.rest.drop n)

/-- The place after blanks, comments and line ends, and whether a key may start there. Outside of
brackets a line end allows it, and a tab is a blank only where no key may start. -/
def skip (inFlow keyAllowed : Bool) (c : Cursor) : Cursor × Bool :=
  go keyAllowed false c.rest c
where
  go : Bool → Bool → List Char → Cursor → Cursor × Bool
    | keyAllowed, _, [], c => ({ c with rest := [] }, keyAllowed)
    | keyAllowed, inComment, x :: xs, c =>
      if isBreak x then go (keyAllowed || !inFlow) false xs (c.pass x)
      else if inComment || x = ' ' || (x = '\t' && (inFlow || !keyAllowed))
          || (x = byteOrderMark && c.column = 0) then go keyAllowed inComment xs (c.pass x)
      else if x = '#' then go keyAllowed true xs (c.pass x)
      else ({ c with rest := x :: xs }, keyAllowed)

/-- The start of a text, if all of its characters are printable. -/
def ofText? (s : String) : Option Cursor :=
  if s.toList.all isPrintable then some ⟨unifyLines s.toList, 0, 0, 0⟩ else none

end Cursor
end DevicePoll.Yaml
