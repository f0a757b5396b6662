import LogRouting.Level
import LogRouting.Text.Search
import LogRouting.Tracing.Pattern

/-!
Directives: how verbose the records of an origin, of a span or with some fields may be, as in
`origin[span]=level`. A directive is read without the blanks at its ends, and where its parts begin and end is
counted in that text; the parts themselves are cut at these places out of the whole text, blanks included.
-/

namespace LogRouting

/-- One about a span never lets a record through, as no record here lies in a span. -/
structure Directive where
  /-- The highest verbosity let through; nothing is at 0. -/
  verbosity : Nat := 5
  origin : Option (List Char) := none
  span : Option (List Char) := none
  fields : List (List Char × Option (List Char)) := []
deriving DecidableEq

namespace Directive

/-- Why a text is no directive; a cut within a character breaks the program. -/
inductive Fault
  | refused
  | broken
deriving DecidableEq

def splitAtByte? : List Char → Nat → Option (List Char × List Char)
  | cs, 0 => some ([], cs)
  | [], _ + 1 => none
  | c :: cs, n + 1 =>
    if c.utf8Size ≤ n + 1 then
      (splitAtByte? cs (n + 1 - c.utf8Size)).map fun (before, after) => (c :: before, after)
    else none

def cut (whole : List Char) (start stop : Nat) : Except Fault (List Char) :=
  match (splitAtByte? whole stop).bind fun (front, _) => splitAtByte? front start with
  | some (_, part) => .ok part
  | none => .error .broken

def cutFrom (whole : List Char) (start : Nat) : Except Fault (List Char) :=
  match splitAtByte? whole start with
  | some (_, part) => .ok part
  | none => .error .broken

def names : List (String × Nat) :=
  [("off", 0), ("error", 1), ("warn", 2), ("info", 3), ("debug", 4), ("trace", 5)]

def verbosity? (cs : List Char) : Option Nat :=
  match names.find? fun (name, _) => Level.sameName name.toList cs with
  | some (_, n) => some n
  | none =>
    let digits := match cs with
      | '+' :: ds => ds
      | ds => ds
    if digits ≠ [] ∧ digits.all (Text.isDigitIn 10) ∧ Text.digitsValue 10 digits ≤ 5 then
      some (Text.digitsValue 10 digits)
    else none

def setVerbosity (d : Directive) (cs : List Char) : Except Fault Directive :=
  if cs = [] then .ok { d with verbosity := 5 }
  else
    match verbosity? cs with
    | some n => .ok { d with verbosity := n }
    | none => .error .refused

def setAlone (d : Directive) (cs : List Char) : Directive :=
  match verbosity? cs with
  | some n => { d with verbosity := n }
  | none => { d with origin := some cs }

def addField (d : Directive) (cs : List Char) : Except Fault Directive :=
  match Text.splitOn '=' cs with
  | [] | [[]] => .error .refused
  | [name] => .ok { d with fields := d.fields ++ [(name, none)] }
  | name :: value :: _ =>
    if Pattern.isValue value then .ok { d with fields := d.fields ++ [(name, some value)] }
    else .error .refused

inductive Part
  | start
  | alone
  | span (start : Nat)
  | field (start : Nat)
  | fields
  | afterSpan
  | level (start : Nat)

def begins (c : Char) : Bool := c ∈ ['-', ':', '_'] || Text.isAlphanumeric c

def step (whole : List Char) (part : Part) (d : Directive) (place : Nat) (c : Char) :
    Except Fault (Part × Directive) := do
  match part with
  | .start =>
    if c = '[' then return (.span (place + 1), d)
    else if begins c then return (.alone, d)
    else throw .refused
  | .alone =>
    if c = '=' then return (.level (place + 1), { d with origin := some (← cut whole 0 place) })
    else if c = '[' then return (.span (place + 1), { d with origin := some (← cut whole 0 place) })
    else return (.alone, d)
  | .span start =>
    if c = ']' then return (.afterSpan, { d with span := some (← cut whole start place) })
    else if c = '\x7b' then
      let name ← cut whole start place
      return (.field (place + 1), { d with span := if name = [] then none else some name })
    else return (.span start, d)
  | .field start =>
    if c = '\x7d' then return (.fields, ← d.addField (← cut whole start place))
    else return (.field start, d)
  | .fields => if c = ']' then return (.afterSpan, d) else throw .refused
  | .afterSpan => if c = '=' then return (.level (place + 1), d) else throw .refused
  | .level start => return (.level start, d)

def finish (whole : List Char) (part : Part) (d : Directive) : Except Fault Directive := do
  match part with
  | .alone => return d.setAlone (← cutFrom whole 0)
  | .level start => d.setVerbosity (← cutFrom whole start)
  | .afterSpan => return d
  | .start | .span _ | .field _ | .fields => throw .refused

def readFrom (whole : List Char) (part : Part) (d : Directive) (place : Nat) :
    List Char → Except Fault Directive
  | [] => finish whole part d
  | c :: cs =>
    match step whole part d place c with
    | .ok (part, d) => readFrom whole part d (place + c.utf8Size) cs
    | .error e => .error e

def read (cs : List Char) : Except Fault Directive := readFrom cs .start {} 0 (Text.trim cs)

def isStatic (d : Directive) : Bool := d.span.isNone && d.fields.all (·.2.isNone)

end Directive
end LogRouting
