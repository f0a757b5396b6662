import LogRouting.Text.Alphanumeric
import LogRouting.Text.Blank
import LogRouting.Text.Numeral

/-!
The values that a directive may ask of a field: numbers and regular expressions. Nothing is ever matched with
them, so all that counts is whether a text is such a value. A directive ends a value at a closing brace, so no
repetition by count and no name in braces is ever complete.
-/

namespace LogRouting.Pattern

structure Mode where
  unicode : Bool := true
  folded : Bool := false
  spaced : Bool := false

namespace Mode

/-- Skips blanks and comments where they do not count; the first flag tells of a comment that has begun. -/
def skipBlanks : Bool → List Char → List Char
  | _, [] => []
  | true, c :: cs => skipBlanks (c ≠ '\n') cs
  | false, c :: cs =>
    if Text.isBlank c then skipBlanks false cs else if c = '#' then skipBlanks true cs else c :: cs

def skip (m : Mode) (cs : List Char) : List Char := if m.spaced then skipBlanks false cs else cs

/-- Without regard to case no letter of Unicode can be told apart, as its case is not known. -/
def tellsLetters (m : Mode) : Bool := !(m.unicode && m.folded)

def set? (m : Mode) (on : Bool) : Char → Option Mode
  | 'u' => some { m with unicode := on }
  | 'i' => some { m with folded := on }
  | 'x' => some { m with spaced := on }
  | 'm' | 's' | 'U' | 'R' => some m
  | _ => none

end Mode

inductive Escape
  | literal (c : Char) (byte : Bool)
  | group
  | assertion

def hexWidth? : Char → Option Nat
  | 'x' => some 2
  | 'u' => some 4
  | 'U' => some 8
  | _ => none

def control? : Char → Option Char
  | 'a' => some '\x07'
  | 'f' => some '\x0c'
  | 't' => some '\t'
  | 'n' => some '\n'
  | 'r' => some '\r'
  | 'v' => some '\x0b'
  | _ => none

def hexDigits? (m : Mode) : Nat → List Char → Option (List Char × List Char)
  | 0, cs => some ([], cs)
  | n + 1, cs =>
    match m.skip cs with
    | d :: cs =>
      if Text.isDigitIn 16 d then (hexDigits? m n cs).map fun (ds, rest) => (d :: ds, rest) else none
    | [] => none

def escape? (m : Mode) : List Char → Option (Escape × List Char)
  | [] => none
  | c :: cs =>
    match hexWidth? c with
    | some width => do
      let (ds, rest) ← hexDigits? m width cs
      let n := Text.digitsValue 16 ds
      if n.isValidChar then some (.literal (Char.ofNat n) (c = 'x'), rest) else none
    | none =>
      if c ∈ ['d', 's', 'w'] then (if m.unicode then none else some (.group, cs))
      else if c ∈ ['b', 'B', '<', '>'] then (if m.unicode then none else some (.assertion, cs))
      else if c ∈ ['A', 'z'] then some (.assertion, cs)
      else
        match control? c with
        | some control => some (.literal control false, cs)
        | none => if c.isAlphanum ∨ 0x80 ≤ c.toNat then none else some (.literal c false, cs)

def classNames : List String :=
  ["alnum", "alpha", "ascii", "blank", "cntrl", "digit", "graph", "lower", "print", "punct", "space", "upper",
   "word", "xdigit"]

def namedClass? : List Char → Option (List Char)
  | ':' :: cs =>
    let name := match cs with
      | '^' :: cs => cs
      | cs => cs
    match name.dropWhile (· ≠ ':') with
    | ':' :: ']' :: rest => if String.ofList (name.takeWhile (· ≠ ':')) ∈ classNames then some rest else none
    | _ => none
  | _ => none

def dashes (m : Mode) : Nat → List Char → Nat × List Char
  | 0, cs => (0, cs)
  | fuel + 1, cs =>
    match m.skip cs with
    | '-' :: cs =>
      let (n, rest) := dashes m fuel cs
      (n + 1, rest)
    | cs => (0, cs)

def openClass? (m : Mode) (cs : List Char) : Option (List Char) :=
  let (negated, cs) := match m.skip cs with
    | '^' :: cs => (true, cs)
    | cs => (false, cs)
  let (n, cs) := dashes m cs.length cs
  let rest := match n, cs with
    | 0, ']' :: cs => m.skip cs
    | _, cs => cs
  if rest = [] ∨ (negated ∧ !m.unicode) then none else some rest

def classItem? (m : Mode) : List Char → Option (Option Char × List Char)
  | [] => none
  | '\\' :: cs =>
    match escape? m cs with
    | some (.literal c _, rest) => if m.unicode ∨ c.toNat < 0x80 then some (some c, rest) else none
    | some (.group, rest) => some (none, rest)
    | _ => none
  | c :: cs => if m.unicode ∨ c.toNat < 0x80 then some (some c, cs) else none

def classRange? (m : Mode) (cs : List Char) : Option (List Char) := do
  let (first, rest) ← classItem? m cs
  match m.skip rest with
  | [] => none
  | '-' :: more =>
    match m.skip more with
    | [] => none
    | c :: after =>
      if c = ']' ∨ c = '-' then some ('-' :: more)
      else
        match first, ← classItem? m (c :: after) with
        | some low, (some high, rest) => if low ≤ high then some rest else none
        | _, _ => none
  | rest => some rest

def class? (m : Mode) : Nat → Nat → List Char → Option (List Char)
  | 0, _, _ => none
  | fuel + 1, depth, cs =>
    match m.skip cs with
    | [] => none
    | '[' :: cs =>
      match namedClass? cs with
      | some rest => class? m fuel depth rest
      | none =>
        match openClass? m cs with
        | some rest => class? m fuel (depth + 1) rest
        | none => none
    | ']' :: cs =>
      match depth with
      | 0 => some cs
      | depth + 1 => class? m fuel depth cs
    | '&' :: '&' :: cs | '-' :: '-' :: cs | '~' :: '~' :: cs => class? m fuel depth cs
    | cs =>
      match classRange? m cs with
      | some rest => class? m fuel depth rest
      | none => none

inductive Opening
  | group (m : Mode) (name : Option (List Char))
  | flags (m : Mode)

def isNamePart (c : Char) : Bool := c ∈ ['_', '.', '[', ']'] || Text.isAlphanumeric c

def groupName? (cs : List Char) : Option (List Char × List Char) :=
  match cs.takeWhile (· ≠ '>'), cs.dropWhile (· ≠ '>') with
  | c :: name, _ :: rest =>
    if (c = '_' ∨ Text.isAlphabetic c) ∧ name.all isNamePart then some (c :: name, rest) else none
  | _, _ => none

def flags? (m : Mode) (seen : List Char) : List Char → Option (Opening × List Char)
  | [] => none
  | ':' :: cs => if seen.head? = some '-' then none else some (.group m none, cs)
  | ')' :: cs => if seen = [] ∨ seen.head? = some '-' then none else some (.flags m, cs)
  | c :: cs =>
    if c ∈ seen then none
    else if c = '-' then flags? m (c :: seen) cs
    else
      match m.set? ('-' ∉ seen) c with
      | some m => flags? m (c :: seen) cs
      | none => none

def open? (m : Mode) (cs : List Char) : Option (Opening × List Char) :=
  match m.skip cs with
  | '?' :: 'P' :: '<' :: cs | '?' :: '<' :: cs =>
    (groupName? cs).map fun (name, rest) => (.group m (some name), rest)
  | '?' :: cs => flags? m [] cs
  | cs => some (.group m none, cs)

def single? (m : Mode) : List Char → Option (List Char)
  | [] => none
  | '\\' :: cs =>
    match escape? m cs with
    | some (.literal c byte, rest) =>
      if m.tellsLetters ∧ (m.unicode ∨ !byte ∨ c.toNat < 0x80) then some rest else none
    | some (_, rest) => some rest
    | none => none
  | '.' :: cs => if m.unicode then some cs else none
  | c :: cs => if c = '^' ∨ c = '$' ∨ m.tellsLetters then some cs else none

/-- Whether the rest of an expression is well formed, given the modes of the groups around the open one, the
names of groups so far, and whether there is something to repeat. -/
def rest (outer : List Mode) (names : List (List Char)) (m : Mode) (item : Bool) : Nat → List Char → Bool
  | 0, _ => false
  | fuel + 1, cs =>
    match m.skip cs with
    | [] => outer.isEmpty
    | '(' :: cs =>
      match open? m cs with
      | some (.group inner (some name), cs) =>
        name ∉ names && rest (m :: outer) (name :: names) inner false fuel cs
      | some (.group inner none, cs) => rest (m :: outer) names inner false fuel cs
      | some (.flags m, cs) => rest outer names m false fuel cs
      | none => false
    | ')' :: cs =>
      match outer with
      | [] => false
      | m :: outer => rest outer names m true fuel cs
    | '|' :: cs => rest outer names m false fuel cs
    | '[' :: cs =>
      match openClass? m cs with
      | some cs =>
        match class? m (cs.length + 1) 0 cs with
        | some cs => m.tellsLetters && rest outer names m true fuel cs
        | none => false
      | none => false
    | '{' :: _ => false
    | c :: cs =>
      if c ∈ ['?', '*', '+'] then
        item && rest outer names m true fuel (if cs.head? = some '?' then cs.tail else cs)
      else
        match single? m (c :: cs) with
        | some cs => rest outer names m true fuel cs
        | none => false

def isRegular (cs : List Char) : Bool := rest [] [] {} false (cs.length + 1) cs

def isSigned : List Char → Bool
  | '+' :: cs =>
    let whole := cs.takeWhile Char.isDigit
    let afterWhole := cs.dropWhile Char.isDigit
    let (decimals, afterDecimals) := match afterWhole with
      | '.' :: cs => (cs.takeWhile Char.isDigit, cs.dropWhile Char.isDigit)
      | cs => ([], cs)
    let exponent := match afterDecimals with
      | [] => true
      | e :: cs =>
        let ds := match cs with
          | '+' :: ds | '-' :: ds => ds
          | ds => ds
        (e = 'e' ∨ e = 'E') && !ds.isEmpty && ds.all Char.isDigit
    ((whole ≠ [] ∨ decimals ≠ []) && exponent) ||
      ["inf", "infinity", "nan"].any fun name => cs.map Char.toLower = name.toList
  | _ => false

def isValue (cs : List Char) : Bool := isSigned cs || isRegular cs

end LogRouting.Pattern
