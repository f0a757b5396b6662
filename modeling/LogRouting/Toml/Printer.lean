import LogRouting.Toml.Quoted

namespace LogRouting.Toml

def longestRun (c : Char) : List Char → Nat
  | [] => 0
  | d :: cs => max ((d :: cs).takeWhile (· = c)).length (longestRun c cs)

def isControl (c : Char) : Bool := !isPrinted c && c ≠ '\n'

namespace Quoting

def allows (q : Quoting) (s : List Char) : Bool :=
  !s.any isControl &&
  (q.isBlock || '\n' ∉ s) &&
  (!q.escapes || '\\' ∉ s) &&
  longestRun q.mark s ≤ (if q.isBlock then 2 else 0)

def choose (s : List Char) : Quoting :=
  match [basic, literal, basicBlock, literalBlock].find? (·.allows s) with
  | some q => q
  | none => if '\n' ∈ s then .basicBlock else .basic

def writeChar (q : Quoting) (run : Nat) (c : Char) : List Char :=
  match c with
  | '\x08' => ['\\', 'b']
  | '\t' => ['\\', 't']
  | '\x0c' => ['\\', 'f']
  | '\r' => ['\\', 'r']
  | '\\' => ['\\', '\\']
  | '\n' => if q.isBlock then ['\n'] else ['\\', 'n']
  | '"' => if run < (if q.isBlock then 2 else 0) then ['"'] else ['\\', '"']
  | c => if isControl c then '\\' :: 'u' :: (Text.hex 4 c.toNat).map Char.toUpper else [c]

def writeFrom (q : Quoting) : Nat → List Char → List Char
  | _, [] => []
  | run, c :: cs =>
    let next :=
      if c ≠ '"' then 0 else if q.writeChar run c = ['"'] then run + 1 else 0
    q.writeChar run c ++ q.writeFrom next cs

def marks (q : Quoting) : List Char := List.replicate (if q.isBlock then 3 else 1) q.mark

/-- A block with a line end begins on a line of its own. -/
def write (q : Quoting) (s : List Char) : List Char :=
  q.marks ++ (if q.isBlock ∧ '\n' ∈ s then ['\n'] else []) ++
    (if q.escapes then q.writeFrom 0 s else s) ++ q.marks

end Quoting

def printString (s : String) : List Char := (Quoting.choose s.toList).write s.toList

end LogRouting.Toml
