/-!
Binary numbers with 53 significant bits, kept as an exact integer significand and
exponent so that nothing about them depends on machine arithmetic.

`Double.ofRatio` rounds a quotient of naturals to the nearest such number, a half
going to the even significand; `Double.ofDecimal` reads a decimal with it.
-/

namespace Subgraph

/-- `finite n m e` is `m · 2^e`, negated when `n`; either `2^52 ≤ m < 2^53` or `e = -1074`. -/
inductive Double where
  | finite (negative : Bool) (significand : Nat) (exponent : Int)
  | infinite (negative : Bool)
  | nan
  deriving DecidableEq, Repr, Inhabited

namespace Double

def leastExponent : Int := -1074
def greatestExponent : Int := 971
def hiddenBit : Nat := Nat.pow 2 52

def zero (negative : Bool) : Double := .finite negative 0 leastExponent

/-- Numerator and denominator of `num / den / 2^e`. -/
def scaled (num den : Nat) (e : Int) : Nat × Nat :=
  if 0 ≤ e then (num, den * Nat.pow 2 e.toNat) else (num * Nat.pow 2 (-e).toNat, den)

/-- The natural nearest to `num / den`, the even one of two. -/
def roundHalfEven (num den : Nat) : Nat :=
  let q := num / den
  let r := num % den
  if 2 * r < den then q
  else if den < 2 * r then q + 1
  else if q % 2 = 0 then q else q + 1

/-- The exponent at which the quotient of a positive `num / den` has 53 bits,
or the least one. -/
def fittingExponent (num den : Nat) : Int :=
  let guess : Int := (Nat.log2 num : Int) - (Nat.log2 den : Int) - 52
  let s := scaled num den guess
  max leastExponent (if s.1 / s.2 < hiddenBit then guess - 1 else guess)

def ofRatio (negative : Bool) (num den : Nat) : Double :=
  if num = 0 then zero negative
  else
    let e := fittingExponent num den
    let s := scaled num den e
    let m := roundHalfEven s.1 s.2
    let fitted := if m = 2 * hiddenBit then (hiddenBit, e + 1) else (m, e)
    if greatestExponent < fitted.2 then .infinite negative
    else .finite negative fitted.1 fitted.2

/-- The number nearest to `digits · 10^exponent`. Far outside the range the answer is known
without the powers of ten. -/
def ofDecimal (negative : Bool) (digits : Nat) (exponent : Int) : Double :=
  let magnitude : Int := (Nat.toDigits 10 digits).length + exponent
  if digits = 0 ∨ magnitude < -330 then zero negative
  else if 330 < magnitude then .infinite negative
  else if 0 ≤ exponent then ofRatio negative (digits * Nat.pow 10 exponent.toNat) 1
  else ofRatio negative digits (Nat.pow 10 (-exponent).toNat)

def ofInt (n : Int) : Double := ofRatio (n < 0) n.natAbs 1

def isFinite : Double → Bool
  | .finite .. => true
  | _ => false

def isZero : Double → Bool
  | .finite _ m _ => m = 0
  | _ => false

/-- The integer that a number equals, if it equals one. -/
def toInt? : Double → Option Int
  | .finite n m e =>
    let sign : Int := if n then -1 else 1
    if 0 ≤ e then some (sign * (m * Nat.pow 2 e.toNat : Nat))
    else
      let d := Nat.pow 2 (-e).toNat
      if m % d = 0 then some (sign * (m / d : Nat)) else none
  | _ => none

end Double
end Subgraph
