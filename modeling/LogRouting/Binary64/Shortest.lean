import LogRouting.Binary64
import LogRouting.Text.Numeral

namespace LogRouting

namespace Binary64

/-- Half the way to the next smaller magnitude and half the way to the next larger one; they round to
the number itself exactly when its significand is even. -/
def roundingInterval (x : Binary64) : Fraction × Fraction :=
  let m := x.significand
  let e := x.exponent - 2
  let below := if m = Nat.pow 2 52 ∧ 1 < x.exponentBits then 1 else 2
  (.scale (4 * m - below) 2 e, .scale (4 * m + 2) 2 e)

def accepts (x : Binary64) (r : Fraction) : Bool :=
  let (low, high) := x.roundingInterval
  if x.significand % 2 = 0 then low.le r && r.le high else low.lt r && r.lt high

def decimalExponent (x : Fraction) : Int :=
  let estimate := ((x.num.log2 : Int) - x.den.log2 - 1) * 30103 / 100000
  let reached (e : Int) : Bool := (Fraction.scale 1 10 e).le x
  if reached (estimate + 2) then estimate + 2
  else if reached (estimate + 1) then estimate + 1
  else if reached estimate then estimate
  else estimate - 1

/-- Of the multiples of `10 ^ e` next to the number, the nearest that rounds to it. -/
def onGrid? (x : Binary64) (e : Int) : Option Nat :=
  let v := x.magnitude
  let low := (v.div (.scale 1 10 e)).floor
  let near (n : Nat) : Fraction := (Fraction.scale n 10 e).gap v
  match x.accepts (.scale low 10 e), x.accepts (.scale (low + 1) 10 e) with
  | false, false => none
  | true, false => some low
  | false, true => some (low + 1)
  | true, true =>
    if (near low).lt (near (low + 1)) then some low
    else if (near (low + 1)).lt (near low) then some (low + 1)
    else some (low + low % 2)

def onGrids (x : Binary64) (e : Int) : Nat → Nat × Int
  | 0 => (x.magnitude.div (.scale 1 10 e) |>.round, e)
  | n + 1 =>
    match x.onGrid? e with
    | some d => (d, e)
    | none => x.onGrids (e - 1) n

/-- The digits and the exponent of the first of them: `d.ddd * 10 ^ e`. Seventeen digits always suffice. -/
def shortest (x : Binary64) : List Char × Int :=
  if x.significand = 0 then (['0'], 0)
  else
    let (d, e) := x.onGrids (decimalExponent x.magnitude) 17
    let ds := Text.decimal d
    let digits := (ds.reverse.dropWhile (· = '0')).reverse
    (digits, e + ds.length - 1)

structure Layout where
  positional : Option (Int × Int)
  infinity : String
  notANumber : String

def positional (digits : List Char) (e : Int) : List Char :=
  if e < 0 then '0' :: '.' :: List.replicate (-e - 1).toNat '0' ++ digits
  else
    let whole := e.toNat + 1
    let filled := digits ++ List.replicate (whole - digits.length) '0'
    let decimals := filled.drop whole
    filled.take whole ++ '.' :: (if decimals = [] then ['0'] else decimals)

def scientific (digits : List Char) (e : Int) : List Char :=
  let mantissa :=
    match digits with
    | d :: r :: rs => d :: '.' :: r :: rs
    | ds => ds
  mantissa ++ 'e' :: (if e < 0 then '-' else '+') :: Text.decimal e.natAbs

def render (layout : Layout) (x : Binary64) : List Char :=
  let sign := if x.negative then ['-'] else []
  if x.isFinite then
    let (digits, e) := x.shortest
    sign ++
      match layout.positional with
      | none => positional digits e
      | some (least, greatest) =>
        if least ≤ e ∧ e ≤ greatest then positional digits e else scientific digits e
  else if x.isInfinite then sign ++ layout.infinity.toList
  else layout.notANumber.toList

end Binary64
end LogRouting
