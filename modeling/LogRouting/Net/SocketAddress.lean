import LogRouting.Text.Numeral
import LogRouting.Text.Search

namespace LogRouting.Net

inductive SocketAddress
  | v4 (octets : List Nat) (port : Nat)
  | v6 (groups : List Nat) (scope : Nat) (port : Nat)
deriving DecidableEq

def skip? (c : Char) : List Char → Option (List Char)
  | d :: cs => if c = d then some cs else none
  | [] => none

def number? (radix bound : Nat) (cs : List Char) : Option (Nat × List Char) :=
  match Text.spanDigits radix cs with
  | ([], _) => none
  | (ds, rest) => if Text.digitsValue radix ds < bound then some (Text.digitsValue radix ds, rest) else none

def octet? (cs : List Char) : Option (Nat × List Char) :=
  match Text.spanDigits 10 cs with
  | ('0' :: _ :: _, _) => none
  | _ => number? 10 256 cs

def octets? (cs : List Char) : Option (List Nat × List Char) := do
  let (a, cs) ← octet? cs
  let cs ← skip? '.' cs
  let (b, cs) ← octet? cs
  let cs ← skip? '.' cs
  let (c, cs) ← octet? cs
  let cs ← skip? '.' cs
  let (d, cs) ← octet? cs
  return ([a, b, c, d], cs)

def group? (cs : List Char) : Option (Nat × List Char) :=
  match Text.spanDigits 16 cs with
  | ([], _) => none
  | (ds, rest) => if ds.length ≤ 4 then some (Text.digitsValue 16 ds, rest) else none

structure Groups where
  numbers : List Nat
  octets : Bool
  rest : List Char

/-- `groups? n first cs` reads at most `n` groups with colons between them; two groups may be written as
four octets, which end the list. -/
def groups? : Nat → Bool → List Char → Groups
  | 0, _, cs => ⟨[], false, cs⟩
  | n + 1, first, cs =>
    match if first then some cs else skip? ':' cs with
    | none => ⟨[], false, cs⟩
    | some body =>
      match n, octets? body with
      | _ + 1, some ([a, b, c, d], rest) => ⟨[a * 256 + b, c * 256 + d], true, rest⟩
      | _, _ =>
        match group? body with
        | none => ⟨[], false, cs⟩
        | some (g, rest) =>
          let more := groups? n false rest
          ⟨g :: more.numbers, more.octets, more.rest⟩

/-- Eight groups, of which a pair of colons may stand for zeros, one at least. -/
def address6? (cs : List Char) : Option (List Nat × List Char) :=
  let front := groups? 8 true cs
  if front.numbers.length = 8 then some (front.numbers, front.rest)
  else if front.octets then none
  else
    match front.rest with
    | ':' :: ':' :: rest =>
      let back := groups? (7 - front.numbers.length) true rest
      let zeros := 8 - front.numbers.length - back.numbers.length
      some (front.numbers ++ List.replicate zeros 0 ++ back.numbers, back.rest)
    | _ => none

def port? (cs : List Char) : Option (Nat × List Char) := do
  let cs ← skip? ':' cs
  number? 10 65536 cs

def scope? (cs : List Char) : Option (Nat × List Char) := do
  let cs ← skip? '%' cs
  number? 10 (Nat.pow 2 32) cs

def socket4? (cs : List Char) : Option (SocketAddress × List Char) := do
  let (octets, cs) ← octets? cs
  let (port, cs) ← port? cs
  return (.v4 octets port, cs)

def socket6? (cs : List Char) : Option (SocketAddress × List Char) := do
  let cs ← skip? '[' cs
  let (groups, cs) ← address6? cs
  let (scope, cs) := (scope? cs).getD (0, cs)
  let cs ← skip? ']' cs
  let (port, cs) ← port? cs
  return (.v6 groups scope port, cs)

def SocketAddress.parse? (s : String) : Option SocketAddress :=
  match (socket4? s.toList).or (socket6? s.toList) with
  | some (a, []) => some a
  | _ => none

def joined (separator : Char) (write : Nat → List Char) : List Nat → List Char
  | [] => []
  | [n] => write n
  | n :: ns => write n ++ separator :: joined separator write ns

def zeros (groups : List Nat) : Nat := (groups.takeWhile (· = 0)).length

def longestZeros : List Nat → Nat × Nat
  | [] => (0, 0)
  | g :: gs =>
    let here := zeros (g :: gs)
    let (start, length) := longestZeros gs
    if length ≤ here then (0, here) else (start + 1, length)

def groupText (n : Nat) : List Char := Nat.toDigits 16 n

def address6Text (groups : List Nat) : List Char :=
  match groups with
  | [0, 0, 0, 0, 0, 0xFFFF, a, b] =>
    "::ffff:".toList ++ joined '.' Text.decimal [a / 256, a % 256, b / 256, b % 256]
  | _ =>
    let (start, length) := longestZeros groups
    if 1 < length then
      joined ':' groupText (groups.take start) ++ ':' :: ':' ::
        joined ':' groupText (groups.drop (start + length))
    else joined ':' groupText groups

def SocketAddress.text : SocketAddress → String
  | .v4 octets port => String.ofList (joined '.' Text.decimal octets ++ ':' :: Text.decimal port)
  | .v6 groups scope port =>
    let scope := if scope = 0 then [] else '%' :: Text.decimal scope
    String.ofList ('[' :: (address6Text groups ++ scope ++ ']' :: ':' :: Text.decimal port))

end LogRouting.Net
