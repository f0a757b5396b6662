import LogRouting.Value
import LogRouting.Text.Numeral

/-!
The number that a JSON literal stands for. Integers that fit 64 bits stay integers; other literals become
the product of their leading digits, as many as fit 64 bits, and a power of ten, rounded at each step.
-/

namespace LogRouting.Json

structure Literal where
  negative : Bool
  whole : List Char
  decimals : Option (List Char)
  /-- The sign of the exponent and its digits. -/
  exponent : Option (Bool × List Char)

/-- Appends digits to a number while it stays below `2 ^ 64`; the digits left over come second. -/
def absorb (n : Nat) : List Char → Nat × List Char
  | [] => (n, [])
  | d :: ds =>
    let m := n * 10 + (Text.digitValue? d).getD 0
    if m < Nat.pow 2 64 then absorb m ds else (n, d :: ds)

/-- `f * 10 ^ e` for a number that is not negative; nothing when it is too large. -/
def scaleByTen? (f : Binary64) (e : Int) : Option Binary64 :=
  let power (n : Nat) := (Binary64.ofFraction false ⟨Nat.pow 10 n, 1⟩).magnitude
  if e < -308 then
    if f.isZero then some f
    else scaleByTen? (.ofFraction false (f.magnitude.div (power 308))) (e + 308)
  else if e < 0 then some (.ofFraction false (f.magnitude.div (power e.natAbs)))
  else if 308 < e then if f.isZero then some f else none
  else
    let product := Binary64.ofFraction false (f.magnitude.mul (power e.natAbs))
    if product.isFinite then some product else none
termination_by e.natAbs

def floatOf? (negative : Bool) (n : Nat) (e : Int) : Option Value :=
  (scaleByTen? (.ofFraction false ⟨n, 1⟩) e).map fun f => .float (.assemble negative f.bits.toNat)

def Literal.value? (l : Literal) : Option Value :=
  let (n, dropped) := absorb 0 l.whole
  match l.decimals, l.exponent with
  | none, none =>
    if dropped ≠ [] then floatOf? l.negative n dropped.length
    else if !l.negative then some (.int n)
    else if n = 0 ∨ Nat.pow 2 63 < n then floatOf? true n 0
    else some (.int (-n))
  | decimals, exponent =>
    let decimals := decimals.getD []
    let (n, ignored) := absorb n decimals
    let e : Int := dropped.length + ignored.length - decimals.length
    match exponent with
    | none => floatOf? l.negative n e
    | some (downward, digits) =>
      let shift := Text.digitsValue 10 digits
      if Nat.pow 2 31 ≤ shift then
        if n = 0 ∨ downward then some (.float (.zero l.negative)) else none
      else floatOf? l.negative n (if downward then e - shift else e + shift)

def whole? (cs : List Char) : Option (List Char × List Char) :=
  match Text.spanDigits 10 cs with
  | ([], _) => none
  | ('0' :: _ :: _, _) => none
  | digits => some digits

def digits? (cs : List Char) : Option (List Char × List Char) :=
  match Text.spanDigits 10 cs with
  | ([], _) => none
  | digits => some digits

def decimals? : List Char → Option (Option (List Char) × List Char)
  | '.' :: cs => (digits? cs).map fun (ds, rest) => (some ds, rest)
  | cs => some (none, cs)

def exponent? : List Char → Option (Option (Bool × List Char) × List Char)
  | c :: cs =>
    if c = 'e' ∨ c = 'E' then
      match cs with
      | '+' :: cs => (digits? cs).map fun (ds, rest) => (some (false, ds), rest)
      | '-' :: cs => (digits? cs).map fun (ds, rest) => (some (true, ds), rest)
      | cs => (digits? cs).map fun (ds, rest) => (some (false, ds), rest)
    else some (none, c :: cs)
  | [] => some (none, [])

def Literal.read? (cs : List Char) : Option (Literal × List Char) := do
  let (negative, cs) := match cs with
    | '-' :: cs => (true, cs)
    | cs => (false, cs)
  let (whole, cs) ← whole? cs
  let (decimals, cs) ← decimals? cs
  let (exponent, cs) ← exponent? cs
  return (⟨negative, whole, decimals, exponent⟩, cs)

def number? (cs : List Char) : Option (Value × List Char) := do
  let (literal, rest) ← Literal.read? cs
  let v ← literal.value?
  return (v, rest)

end LogRouting.Json
