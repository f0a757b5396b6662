import LogRouting.Value
import LogRouting.Text.Numeral

namespace LogRouting.Toml

def grouped (radix : Nat) : List Char → List Char × List Char
  | [] => ([], [])
  | '_' :: d :: cs =>
    if Text.isDigitIn radix d then
      let (ds, rest) := grouped radix cs
      (d :: ds, rest)
    else ([], '_' :: d :: cs)
  | c :: cs =>
    if Text.isDigitIn radix c then
      let (ds, rest) := grouped radix cs
      (c :: ds, rest)
    else ([], c :: cs)

def digits? (radix : Nat) (cs : List Char) : Option (List Char × List Char) :=
  if cs.head?.any (Text.isDigitIn radix) then some (grouped radix cs) else none

def whole? : List Char → Option (List Char × List Char)
  | '0' :: cs => some (['0'], cs)
  | cs => digits? 10 cs

def sign : List Char → Bool × List Char
  | '-' :: cs => (true, cs)
  | '+' :: cs => (false, cs)
  | cs => (false, cs)

def exponent? : List Char → Option (Int × List Char)
  | c :: cs =>
    if c = 'e' ∨ c = 'E' then
      let (negative, cs) := sign cs
      (digits? 10 cs).map fun (ds, rest) =>
        let n : Int := Text.digitsValue 10 ds
        (if negative then -n else n, rest)
    else none
  | [] => none

/-- A float of the range; only the negative end may be left. -/
def float? (cs : List Char) : Option (Value × List Char) := do
  let (negative, cs) := sign cs
  let (whole, cs) ← whole? cs
  let (decimals, e, rest) ← match cs with
    | '.' :: cs => do
      let (decimals, cs) ← digits? 10 cs
      match exponent? cs with
      | some (e, rest) => some (decimals, e, rest)
      | none => some (decimals, 0, cs)
    | cs => (exponent? cs).map fun (e, rest) => ([], e, rest)
  let x := Binary64.ofDecimal negative (Text.digitsValue 10 (whole ++ decimals)) (e - decimals.length)
  if x.isFinite ∨ negative then some (.float x, rest) else none

def special? (cs : List Char) : Option (Value × List Char) :=
  let (negative, cs) := sign cs
  match cs with
  | 'i' :: 'n' :: 'f' :: rest => some (.float (.infinity negative), rest)
  | 'n' :: 'a' :: 'n' :: rest => some (.float .notANumber, rest)
  | _ => none

def inRange? (n : Int) (rest : List Char) : Option (Value × List Char) :=
  if -Int.pow 2 63 ≤ n ∧ n < Int.pow 2 63 then some (.int n, rest) else none

def radixInteger? (radix : Nat) (cs : List Char) : Option (Value × List Char) := do
  let (ds, rest) ← digits? radix cs
  inRange? (Text.digitsValue radix ds) rest

def integer? : List Char → Option (Value × List Char)
  | '0' :: 'x' :: cs => radixInteger? 16 cs
  | '0' :: 'o' :: cs => radixInteger? 8 cs
  | '0' :: 'b' :: cs => radixInteger? 2 cs
  | cs => do
    let (negative, cs) := sign cs
    let (ds, rest) ← whole? cs
    let n : Int := Text.digitsValue 10 ds
    inRange? (if negative then -n else n) rest

def field? (width least greatest : Nat) (cs : List Char) : Option (Nat × List Char) :=
  let ds := cs.take width
  let n := Text.digitsValue 10 ds
  if ds.length = width ∧ ds.all (Text.isDigitIn 10) ∧ least ≤ n ∧ n ≤ greatest then some (n, cs.drop width)
  else none

def skip? (c : Char) : List Char → Option (List Char)
  | d :: cs => if c = d then some cs else none
  | [] => none

def daysOfMonth (year month : Nat) : Nat :=
  if month = 2 then (if year % 4 = 0 ∧ (year % 100 ≠ 0 ∨ year % 400 = 0) then 29 else 28)
  else if month ∈ [4, 6, 9, 11] then 30
  else 31

def date? (cs : List Char) : Option (List Char) := do
  let (year, cs) ← field? 4 0 9999 cs
  let cs ← skip? '-' cs
  let (month, cs) ← field? 2 1 12 cs
  let cs ← skip? '-' cs
  let (_, cs) ← field? 2 1 (daysOfMonth year month) cs
  return cs

def time? (cs : List Char) : Option (List Char) := do
  let (_, cs) ← field? 2 0 23 cs
  let cs ← skip? ':' cs
  let (_, cs) ← field? 2 0 59 cs
  let cs ← skip? ':' cs
  let (_, cs) ← field? 2 0 60 cs
  match cs with
  | '.' :: ds =>
    match Text.spanDigits 10 ds with
    | ([], _) => return cs
    | (_, rest) => return rest
  | cs => return cs

def zone? : List Char → Option (List Char)
  | c :: cs =>
    if c = 'Z' ∨ c = 'z' then some cs
    else if c = '+' ∨ c = '-' then do
      let (_, cs) ← field? 2 0 23 cs
      let cs ← skip? ':' cs
      let (_, cs) ← field? 2 0 59 cs
      return cs
    else none
  | [] => none

def moment? (cs : List Char) : Option (List Char) :=
  match date? cs with
  | none => time? cs
  | some rest =>
    match rest with
    | c :: after =>
      if c = 'T' ∨ c = 't' ∨ c = ' ' then
        match time? after with
        | some after => some ((zone? after).getD after)
        | none => some rest
      else some rest
    | [] => some []

/-- A date or time is a table with its text: no setting is a date, and a table is what one is taken for. -/
def momentValue (text : List Char) : Value := .object [("moment", .string (String.ofList text))]

def scalar? (cs : List Char) : Option (Value × List Char) :=
  match cs with
  | 't' :: 'r' :: 'u' :: 'e' :: rest => some (.bool true, rest)
  | 'f' :: 'a' :: 'l' :: 's' :: 'e' :: rest => some (.bool false, rest)
  | cs =>
    match moment? cs with
    | some rest => some (momentValue (cs.take (cs.length - rest.length)), rest)
    | none => (float? cs).or ((special? cs).or (integer? cs))

end LogRouting.Toml
