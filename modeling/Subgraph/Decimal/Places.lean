import Subgraph.Decimal.Arithmetic
import Subgraph.Decimal.Shortest

/-!
Decimals of a given length: with so many places behind the point, or with so many digits. What is
left over is rounded to the nearest, a half to the even neighbour.
-/

namespace Subgraph

/-- The decimal with a last place that is nearest to the positive quotient `num / den`. -/
def Decimal.nearest (num den : Nat) (exponent : Int) : Decimal :=
  let s := Decimal.scaled num den exponent
  ⟨Double.roundHalfEven s.1 s.2, exponent⟩

namespace Double

/-- `m · 2^e` with some places behind the point. -/
def withPlaces (m : Nat) (e : Int) (places : Nat) : Decimal :=
  let v := scaled m 1 (-e)
  Decimal.nearest v.1 v.2 (-(places : Int))

/-- `m · 2^e` with some digits, or one at least. -/
def withDigits (m : Nat) (e : Int) (digits : Nat) : Decimal :=
  if m = 0 then ⟨0, 0⟩
  else
    let v := scaled m 1 (-e)
    let k := Decimal.pointPosition v.1 v.2
    let d := Decimal.nearest v.1 v.2 (k - max digits 1)
    if Decimal.width d.digits ≤ max digits 1 then d else ⟨d.digits / 10, d.exponent + 1⟩

end Double

/-- How decimals are written: with or without an exponent, and with how many digits behind the point
at least. The point itself is left out before nothing, unless it is kept. -/
structure DecimalForm where
  hasExponent : Bool
  places : Nat
  keepsPoint : Bool

namespace DecimalForm

/-- Digits, and digits behind a point. -/
def joined (f : DecimalForm) (whole fraction : List Char) : List Char :=
  let fraction := fraction ++ List.replicate (f.places - fraction.length) '0'
  whole ++ (if fraction.isEmpty && !f.keepsPoint then [] else '.' :: fraction)

/-- The text of a decimal. -/
def text (f : DecimalForm) (d : Decimal) : List Char :=
  let ds := Nat.toDigits 10 d.digits
  let point : Int := ds.length + d.exponent
  if f.hasExponent then
    let e : Int := if d.digits = 0 then 0 else point - 1
    f.joined (ds.take 1) (ds.drop 1) ++ 'e' :: (if e < 0 then '-' else '+')
      :: (Double.padded 2 e.natAbs).toList
  else if point ≤ 0 then
    f.joined ['0'] (if d.digits = 0 then [] else List.replicate (-point).toNat '0' ++ ds)
  else
    let ds := ds ++ List.replicate (point.toNat - ds.length) '0'
    f.joined (ds.take point.toNat) (ds.drop point.toNat)

end DecimalForm
end Subgraph
