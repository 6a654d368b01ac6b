import Flowmeter.Yaml.Cursor

/-!
# Plain scalars

A plain scalar stands without marks and ends where something else could begin. It may go on
over lines that are indented far enough; line ends are folded as between marks. A scalar that
spans a line end allows a simple key after it.
-/

set_option autoImplicit false

namespace Flowmeter.Yaml

/-- The length of the stretch at the cursor that holds no blank and nothing that ends a plain
    scalar. -/
def plainLength (inFlow : Bool) (c : Cursor) : Except Fault Nat :=
  go c.rest 0
where
  /-- The length, given what is left of the text after so many characters. -/
  go : List Char → Nat → Except Fault Nat
    | [], length => c.atEnd length
    | [ch], length => do
        if ends ch then return length
        else if ch = ':' then c.atEnd length
        else c.atEnd (length + 1)
    | ch :: next :: rest, length =>
        if ends ch || (ch == ':' && endsAfterColon next) then .ok length
        else go (next :: rest) (length + 1)
  /-- Whether a character ends a plain scalar by itself. -/
  ends (ch : Char) : Bool :=
    Cursor.isGap ch || (inFlow && ",?[]\x7b\x7d".toList.contains ch)
  /-- Whether a character ends a plain scalar together with a colon before it. -/
  endsAfterColon (ch : Char) : Bool :=
    Cursor.isGap ch || (inFlow && ",[]\x7b\x7d".toList.contains ch)

/-- The line ends and spaces at the cursor, unless documents are separated among them. -/
def plainBreaks : Nat → Cursor → Except Fault (Option (List Char) × Cursor)
  | 0, c => .ok (some [], c)
  | fuel + 1, c => do
      let ch ← c.peek 0
      if ch = ' ' then plainBreaks fuel (← c.forward 1)
      else if Cursor.isBreak ch then
        let (first, c) ← c.takeBreak
        if ← c.atSeparator then return (none, c)
        else
          let (more, c) ← plainBreaks fuel c
          return (more.map (first ++ ·), c)
      else return (some [], c)

/-- The blanks at the cursor as they read inside a scalar; none if the scalar cannot go on
    after them. Also whether there was a line end among them. -/
def plainSpaces (c : Cursor) : Except Fault (Option (List Char) × Bool × Cursor) := do
  let (blanks, c) ← c.takeWhile (· == ' ')
  if Cursor.isBreak (← c.peek 0) then
    let (first, c) ← c.takeBreak
    if ← c.atSeparator then return (none, true, c)
    else
      match ← plainBreaks (c.size + 1) c with
      | (none, c) => return (none, true, c)
      | (some more, c) =>
          let first := if first ≠ ['\n'] then first else if more.isEmpty then [' '] else []
          return (some (first ++ more), true, c)
  else return (if blanks.isEmpty then none else some blanks, false, c)

/-- The stretches from the cursor on, `before` being the blanks before the next one. Also
    whether a simple key may follow: after a line end, unless another stretch comes. -/
def plainChars (inFlow : Bool) (indent : Int) :
    Nat → List Char → Bool → Cursor → Except Fault (List Char × Bool × Cursor)
  | 0, _, keyAllowed, c => .ok ([], keyAllowed, c)
  | fuel + 1, before, keyAllowed, c => do
      let length ← if (← c.peek 0) = '#' then pure 0 else plainLength inFlow c
      if length = 0 then return ([], keyAllowed, c)
      else
        let text := before ++ (← c.ahead length)
        match ← plainSpaces (← c.forward length) with
        | (none, broke, c) => return (text, broke, c)
        | (some spaces, broke, c) =>
            if (← c.peek 0) = '#' ∨ (!inFlow ∧ (c.column : Int) < indent) then
              return (text, broke, c)
            else
              let (more, keyAllowed, c) ← plainChars inFlow indent fuel spaces broke c
              return (text ++ more, keyAllowed, c)

/-- A plain scalar at the cursor, below a node indented by `parent`. Also whether a simple key
    may follow. -/
def plainScalar (inFlow : Bool) (parent : Int) (c : Cursor) :
    Except Fault (List Char × Bool × Cursor) :=
  plainChars inFlow (parent + 1) (c.size + 1) [] false c

end Flowmeter.Yaml
