import LogRouting.Text.Numeral

namespace LogRouting.Toml

def isWhite (c : Char) : Bool := c = ' ' || c = '\t'

def isPrinted (c : Char) : Bool := c = '\t' || (0x20 ≤ c.toNat && c.toNat ≠ 0x7F)

/-- Something read at the head of a text: what it means and how many characters it takes. -/
structure Element where
  means : List Char
  width : Nat

def codePoint? (digits : List Char) (count : Nat) : Option Char :=
  let n := Text.digitsValue 16 digits
  if digits.length = count ∧ digits.all (Text.isDigitIn 16) ∧ n.isValidChar then some (Char.ofNat n) else none

def escape? : List Char → Option Element
  | 'b' :: _ => some ⟨['\x08'], 2⟩
  | 't' :: _ => some ⟨['\t'], 2⟩
  | 'n' :: _ => some ⟨['\n'], 2⟩
  | 'f' :: _ => some ⟨['\x0c'], 2⟩
  | 'r' :: _ => some ⟨['\r'], 2⟩
  | '"' :: _ => some ⟨['"'], 2⟩
  | '\\' :: _ => some ⟨['\\'], 2⟩
  | 'u' :: cs => (codePoint? (cs.take 4) 4).map fun c => ⟨[c], 6⟩
  | 'U' :: cs => (codePoint? (cs.take 8) 8).map fun c => ⟨[c], 10⟩
  | _ => none

def whiteWidth : List Char → Nat
  | '\r' :: '\n' :: cs => whiteWidth cs + 2
  | c :: cs => if isWhite c ∨ c = '\n' then whiteWidth cs + 1 else 0
  | [] => 0

def lineEndWidth? : List Char → Option Nat
  | '\n' :: _ => some 1
  | '\r' :: '\n' :: _ => some 2
  | c :: cs => if isWhite c then (lineEndWidth? cs).map (· + 1) else none
  | [] => none

inductive Quoting
  | basic
  | literal
  | basicBlock
  | literalBlock
deriving DecidableEq

namespace Quoting

def mark : Quoting → Char
  | .basic | .basicBlock => '"'
  | .literal | .literalBlock => '\''

def isBlock : Quoting → Bool
  | .basic | .literal => false
  | .basicBlock | .literalBlock => true

def escapes : Quoting → Bool
  | .basic | .basicBlock => true
  | .literal | .literalBlock => false

/-- The marks at the end of a string and how many characters they take with it. Up to two marks may stand
before the three that end a block. -/
def close? (q : Quoting) (cs : List Char) : Option Element :=
  let run := (cs.takeWhile (· = q.mark)).length
  if q.isBlock then
    if 3 ≤ run then some ⟨List.replicate (min run 5 - 3) q.mark, min run 5⟩ else none
  else if 1 ≤ run then some ⟨[], 1⟩ else none

def escaped? (q : Quoting) (cs : List Char) : Option Element :=
  if q.isBlock then
    match lineEndWidth? cs with
    | some w => some ⟨[], 1 + w + whiteWidth (cs.drop w)⟩
    | none => escape? cs
  else escape? cs

def element? (q : Quoting) : List Char → Option Element
  | '\r' :: '\n' :: _ => if q.isBlock then some ⟨['\n'], 2⟩ else none
  | c :: cs =>
    if c = '\n' then (if q.isBlock then some ⟨['\n'], 1⟩ else none)
    else if c = '\\' ∧ q.escapes then q.escaped? cs
    else if isPrinted c then some ⟨[c], 1⟩ else none
  | [] => none

/-- `q.body? n cs` drops `n` characters and reads up to the end of the string; what follows it comes second. -/
def body? (q : Quoting) : Nat → List Char → Option (List Char × List Char)
  | _, [] => none
  | n + 1, _ :: cs => body? q n cs
  | 0, c :: cs =>
    match q.close? (c :: cs) with
    | some last => some (last.means, (c :: cs).drop last.width)
    | none =>
      match q.element? (c :: cs) with
      | some e => (body? q (e.width - 1) cs).map fun (s, rest) => (e.means ++ s, rest)
      | none => none

/-- The line end right after the opening marks of a block does not count. -/
def open? (q : Quoting) (cs : List Char) : Option (List Char × List Char) :=
  match q.isBlock, cs with
  | true, '\n' :: rest => q.body? 0 rest
  | true, '\r' :: '\n' :: rest => q.body? 0 rest
  | _, cs => q.body? 0 cs

end Quoting

def string? : List Char → Option (List Char × List Char)
  | '"' :: '"' :: '"' :: cs => Quoting.basicBlock.open? cs
  | '"' :: cs => Quoting.basic.open? cs
  | '\'' :: '\'' :: '\'' :: cs => Quoting.literalBlock.open? cs
  | '\'' :: cs => Quoting.literal.open? cs
  | _ => none

end LogRouting.Toml
