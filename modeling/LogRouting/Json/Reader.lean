import LogRouting.Json.Number

namespace LogRouting.Json

inductive Piece
  | char (c : Char)
  | high (n : Nat)
  | low (n : Nat)

def Piece.ofUnit (n : Nat) : Piece :=
  if 0xD800 ≤ n ∧ n < 0xDC00 then .high n
  else if 0xDC00 ≤ n ∧ n < 0xE000 then .low n
  else .char (Char.ofNat n)

def Piece.join? : List Piece → Option (List Char)
  | [] => some []
  | .char c :: rest => (join? rest).map (c :: ·)
  | .high h :: .low l :: rest =>
    (join? rest).map (Char.ofNat (0x10000 + (h - 0xD800) * 0x400 + (l - 0xDC00)) :: ·)
  | _ => none

def unescape? : Char → Option Char
  | '"' => some '"'
  | '\\' => some '\\'
  | '/' => some '/'
  | 'b' => some '\x08'
  | 'f' => some '\x0c'
  | 'n' => some '\n'
  | 'r' => some '\r'
  | 't' => some '\t'
  | _ => none

def pieces? : List Char → Option (List Piece × List Char)
  | [] => none
  | '"' :: rest => some ([], rest)
  | '\\' :: 'u' :: a :: b :: c :: d :: rest =>
    if [a, b, c, d].all (Text.isDigitIn 16) then
      (pieces? rest).map fun (ps, after) => (.ofUnit (Text.digitsValue 16 [a, b, c, d]) :: ps, after)
    else none
  | '\\' :: c :: rest =>
    match unescape? c with
    | some e => (pieces? rest).map fun (ps, after) => (.char e :: ps, after)
    | none => none
  | c :: rest =>
    if c.toNat < 0x20 ∨ c = '\\' then none
    else (pieces? rest).map fun (ps, after) => (.char c :: ps, after)

def string? (cs : List Char) : Option (String × List Char) := do
  let (ps, rest) ← pieces? cs
  let s ← Piece.join? ps
  return (String.ofList s, rest)

def isSpace (c : Char) : Bool := c = ' ' || c = '\t' || c = '\n' || c = '\r'

def skipSpace (cs : List Char) : List Char := cs.dropWhile isSpace

mutual
/-- `value? fuel depth cs` reads a value with at most `depth` arrays and objects within each other. -/
def value? : Nat → Nat → List Char → Option (Value × List Char)
  | 0, _, _ => none
  | fuel + 1, depth, cs =>
    match skipSpace cs with
    | 'n' :: 'u' :: 'l' :: 'l' :: rest => some (.null, rest)
    | 't' :: 'r' :: 'u' :: 'e' :: rest => some (.bool true, rest)
    | 'f' :: 'a' :: 'l' :: 's' :: 'e' :: rest => some (.bool false, rest)
    | '"' :: rest => (string? rest).map fun (s, after) => (.string s, after)
    | '[' :: rest =>
      match depth, skipSpace rest with
      | 0, _ => none
      | _ + 1, ']' :: after => some (.array [], after)
      | depth + 1, rest => (items? fuel depth rest).map fun (vs, after) => (.array vs, after)
    | '\x7b' :: rest =>
      match depth, skipSpace rest with
      | 0, _ => none
      | _ + 1, '\x7d' :: after => some (.object [], after)
      | depth + 1, rest => (members? fuel depth rest).map fun (ms, after) => (.ofMembers ms, after)
    | rest => number? rest

def items? : Nat → Nat → List Char → Option (List Value × List Char)
  | 0, _, _ => none
  | fuel + 1, depth, cs =>
    match value? fuel depth cs with
    | none => none
    | some (v, rest) =>
      match skipSpace rest with
      | ']' :: after => some ([v], after)
      | ',' :: rest => (items? fuel depth rest).map fun (vs, after) => (v :: vs, after)
      | _ => none

def members? : Nat → Nat → List Char → Option (List (String × Value) × List Char)
  | 0, _, _ => none
  | fuel + 1, depth, cs =>
    match member? fuel depth cs with
    | none => none
    | some (m, rest) =>
      match skipSpace rest with
      | '\x7d' :: after => some ([m], after)
      | ',' :: rest => (members? fuel depth rest).map fun (ms, after) => (m :: ms, after)
      | _ => none

def member? : Nat → Nat → List Char → Option ((String × Value) × List Char)
  | 0, _, _ => none
  | fuel + 1, depth, cs =>
    match skipSpace cs with
    | '"' :: rest =>
      match string? rest with
      | none => none
      | some (key, rest) =>
        match skipSpace rest with
        | ':' :: rest => (value? fuel depth rest).map fun (v, after) => ((key, v), after)
        | _ => none
    | _ => none
end

def deepest : Nat := 127

/-- The value of a whole text. Each level of the grammar takes at most three steps a character. -/
def read? (s : String) : Option Value :=
  let cs := s.toList
  match value? (3 * cs.length + 3) deepest cs with
  | some (v, rest) => if skipSpace rest = [] then some v else none
  | none => none

end LogRouting.Json
