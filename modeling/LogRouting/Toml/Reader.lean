import LogRouting.Toml.Node
import LogRouting.Toml.Quoted
import LogRouting.Toml.Scalar

namespace LogRouting.Toml

def skipWhite (cs : List Char) : List Char := cs.dropWhile isWhite

def skipComment : List Char → List Char
  | '#' :: cs => cs.dropWhile isPrinted
  | cs => cs

def lineEnd? (cs : List Char) : Option (List Char) :=
  match skipComment (skipWhite cs) with
  | [] => some []
  | '\n' :: rest => some rest
  | '\r' :: '\n' :: rest => some rest
  | _ => none

/-- Skips white space, line ends and comments; the flag tells whether the text begins within a comment. -/
def skipLines : Bool → List Char → List Char
  | _, '\r' :: '\n' :: cs => skipLines false cs
  | inComment, c :: cs =>
    if c = '\n' then skipLines false cs
    else if inComment ∧ isPrinted c then skipLines true cs
    else if isWhite c then skipLines false cs
    else if c = '#' then skipLines true cs
    else c :: cs
  | _, [] => []

def isBare (c : Char) : Bool := c.isAlphanum || c = '_' || c = '-'

def part? : List Char → Option (String × List Char)
  | '"' :: cs => (Quoting.basic.open? cs).map fun (s, rest) => (String.ofList s, rest)
  | '\'' :: cs => (Quoting.literal.open? cs).map fun (s, rest) => (String.ofList s, rest)
  | cs =>
    match cs.takeWhile isBare with
    | [] => none
    | name => some (String.ofList name, cs.dropWhile isBare)

def parts? : Nat → List Char → Option (List String × List Char)
  | 0, _ => none
  | fuel + 1, cs =>
    match part? (skipWhite cs) with
    | none => none
    | some (name, rest) =>
      match skipWhite rest with
      | '.' :: rest => (parts? fuel rest).map fun (names, after) => (name :: names, after)
      | rest => some ([name], rest)

def deepest : Nat := 79

def key? (cs : List Char) : Option ((List String × String) × List Char) :=
  match parts? (cs.length + 1) cs with
  | none => none
  | some (names, rest) =>
    match names.getLast? with
    | some last => if names.length ≤ deepest then some ((names.dropLast, last), rest) else none
    | none => none

def inlineTable? (pairs : List ((List String × String) × Value)) : Option Value :=
  (pairs.foldlM (fun entries ((path, key), v) => Entries.assign? key v path entries) []).map
    fun entries => .object (Entries.members entries)

mutual
/-- `value? fuel depth cs` reads a value with at most `depth` arrays and tables within each other. -/
def value? : Nat → Nat → List Char → Option (Value × List Char)
  | 0, _, _ => none
  | fuel + 1, depth, cs =>
    match cs with
    | '[' :: cs =>
      match depth with
      | 0 => none
      | depth + 1 => (items? fuel depth cs).map fun (vs, rest) => (.array vs, rest)
    | '\x7b' :: cs =>
      match depth, skipWhite cs with
      | 0, _ => none
      | _ + 1, '\x7d' :: rest => some (.object [], rest)
      | depth + 1, cs =>
        match pairs? fuel depth cs with
        | some (pairs, rest) => (inlineTable? pairs).map fun v => (v, rest)
        | none => none
    | '"' :: _ | '\'' :: _ => (string? cs).map fun (s, rest) => (.string (String.ofList s), rest)
    | cs => scalar? cs

def items? : Nat → Nat → List Char → Option (List Value × List Char)
  | 0, _, _ => none
  | fuel + 1, depth, cs =>
    match skipLines false cs with
    | ']' :: rest => some ([], rest)
    | cs =>
      match value? fuel depth cs with
      | none => none
      | some (v, rest) =>
        match skipLines false rest with
        | ']' :: rest => some ([v], rest)
        | ',' :: rest => (items? fuel depth rest).map fun (vs, after) => (v :: vs, after)
        | _ => none

def pairs? : Nat → Nat → List Char → Option (List ((List String × String) × Value) × List Char)
  | 0, _, _ => none
  | fuel + 1, depth, cs =>
    match pair? fuel depth cs with
    | none => none
    | some (pair, rest) =>
      match skipWhite rest with
      | '\x7d' :: rest => some ([pair], rest)
      | ',' :: rest => (pairs? fuel depth rest).map fun (pairs, after) => (pair :: pairs, after)
      | _ => none

def pair? : Nat → Nat → List Char → Option (((List String × String) × Value) × List Char)
  | 0, _, _ => none
  | fuel + 1, depth, cs =>
    match key? cs with
    | some (key, '=' :: rest) =>
      (value? fuel depth (skipWhite rest)).map fun (v, after) => ((key, v), after)
    | _ => none
end

inductive Statement
  | assign (path : List String) (key : String) (v : Value)
  | table (path : List String) (key : String)
  | element (path : List String) (key : String)

def statement? (cs : List Char) : Option (Statement × List Char) :=
  match cs with
  | '[' :: '[' :: cs =>
    match key? cs with
    | some ((path, key), ']' :: ']' :: rest) => some (.element path key, rest)
    | _ => none
  | '[' :: cs =>
    match key? cs with
    | some ((path, key), ']' :: rest) => some (.table path key, rest)
    | _ => none
  | cs => (pair? (3 * cs.length + 3) deepest cs).map fun (((path, key), v), rest) => (.assign path key v, rest)

def statements? : Nat → List Char → Option (List Statement)
  | 0, _ => none
  | fuel + 1, cs =>
    match skipWhite cs with
    | [] => some []
    | cs =>
      if cs.head?.any (fun c => c = '#' || c = '\n' || c = '\r') then
        match lineEnd? cs with
        | some rest => statements? fuel rest
        | none => none
      else
        match statement? cs with
        | none => none
        | some (s, rest) =>
          match lineEnd? rest with
          | some rest => (statements? fuel rest).map (s :: ·)
          | none => none

structure Draft where
  header : List String
  entries : Entries

def Draft.add? (d : Draft) : Statement → Option Draft
  | .assign path key v => (d.entries.updateAt? (Entries.assign? key v path) d.header).map (⟨d.header, ·⟩)
  | .table path key => (d.entries.updateAt? (Entries.beginTable? key) path).map (⟨path ++ [key], ·⟩)
  | .element path key => (d.entries.updateAt? (Entries.beginElement? key) path).map (⟨path ++ [key], ·⟩)

def read? (s : String) : Option Value := do
  let cs := match s.toList with
    | '\uFEFF' :: cs => cs
    | cs => cs
  let lines ← statements? (cs.length + 1) cs
  let draft ← lines.foldlM Draft.add? ⟨[], []⟩
  return .object (Entries.members draft.entries)

end LogRouting.Toml
