
namespace LogRouting

structure Binary64 where
  bits : UInt64
deriving DecidableEq, Inhabited

structure Fraction where
  num : Nat
  den : Nat
deriving DecidableEq

namespace Fraction

def mul (x y : Fraction) : Fraction := ⟨x.num * y.num, x.den * y.den⟩

def div (x y : Fraction) : Fraction := ⟨x.num * y.den, x.den * y.num⟩

def scale (m b : Nat) (e : Int) : Fraction :=
  if 0 ≤ e then ⟨m * b.pow e.toNat, 1⟩ else ⟨m, b.pow (-e).toNat⟩

def le (x y : Fraction) : Bool := x.num * y.den ≤ y.num * x.den

def lt (x y : Fraction) : Bool := x.num * y.den < y.num * x.den

def gap (x y : Fraction) : Fraction :=
  ⟨(x.num * y.den - y.num * x.den) + (y.num * x.den - x.num * y.den), x.den * y.den⟩

def floor (x : Fraction) : Nat := x.num / x.den

def round (x : Fraction) : Nat :=
  let n := x.num / x.den
  let twice := 2 * (x.num % x.den)
  if twice < x.den then n else if x.den < twice then n + 1 else n + n % 2

end Fraction

namespace Binary64

def negative (x : Binary64) : Bool := Nat.pow 2 63 ≤ x.bits.toNat

def exponentBits (x : Binary64) : Nat := x.bits.toNat / Nat.pow 2 52 % Nat.pow 2 11

def fractionBits (x : Binary64) : Nat := x.bits.toNat % Nat.pow 2 52

/-- The whole number `m` and the exponent `e` of the magnitude `m * 2 ^ e` of a finite number. -/
def significand (x : Binary64) : Nat :=
  if x.exponentBits = 0 then x.fractionBits else Nat.pow 2 52 + x.fractionBits

@[inherit_doc significand]
def exponent (x : Binary64) : Int :=
  if x.exponentBits = 0 then -1074 else (x.exponentBits : Int) - 1075

def isFinite (x : Binary64) : Bool := x.exponentBits < 2047

def isInfinite (x : Binary64) : Bool := !x.isFinite && x.fractionBits = 0

def isZero (x : Binary64) : Bool := x.bits.toNat % Nat.pow 2 63 = 0

def magnitude (x : Binary64) : Fraction := .scale x.significand 2 x.exponent

def assemble (negative : Bool) (rest : Nat) : Binary64 :=
  ⟨UInt64.ofNat (rest + if negative then Nat.pow 2 63 else 0)⟩

def infinity (negative : Bool) : Binary64 := assemble negative (2047 * Nat.pow 2 52)

def notANumber : Binary64 := assemble false (2047 * Nat.pow 2 52 + Nat.pow 2 51)

def zero (negative : Bool) : Binary64 := assemble negative 0

def roundingExponent (x : Fraction) : Int :=
  let e : Int := x.num.log2 - x.den.log2 - 52
  let e := if (x.div (.scale 1 2 e)).lt ⟨Nat.pow 2 52, 1⟩ then e - 1 else e
  max e (-1074)

/-- The number nearest to a fraction, a tie going to the even significand; too large a fraction gives
infinity. -/
def ofFraction (negative : Bool) (x : Fraction) : Binary64 :=
  if x.num = 0 then zero negative
  else
    let e := roundingExponent x
    let m := (x.div (.scale 1 2 e)).round
    let word := m + (e + 1074).toNat * Nat.pow 2 52
    if 2047 * Nat.pow 2 52 ≤ word then infinity negative else assemble negative word

/-- The number nearest to `m * 10 ^ e`. Far outside the range the answer is known from the length of `m`. -/
def ofDecimal (negative : Bool) (m : Nat) (e : Int) : Binary64 :=
  let places : Int := (Nat.toDigits 10 m).length
  if m = 0 ∨ places + e < -400 then zero negative
  else if 400 < places + e then infinity negative
  else ofFraction negative (.scale m 10 e)

end Binary64
end LogRouting
