import Subgraph.Decimal.Binary

/-!
The decimal with the fewest digits that reads back as a given number, and its layout.

`Double.shortest` searches the decimal grids of one, two, … digits. If a point of a grid
reads back, one of the two neighbours of the exact value on that grid does, so the first
grid with a hit gives the fewest digits, and of two hits the nearer one is taken.
-/

namespace Subgraph

/-- `digits · 10^exponent`. -/
structure Decimal where
  digits : Nat
  exponent : Int
  deriving DecidableEq, Repr, Inhabited

namespace Decimal

/-- How many digits a natural is written with. -/
def width (n : Nat) : Nat := (Nat.toDigits 10 n).length

/-- The `k` with `10^(k-1) ≤ num / den < 10^k`, for a positive quotient. -/
def pointPosition (num den : Nat) : Int :=
  if den ≤ num then width (num / den) else 1 - (width ((den - 1) / num) : Int)

/-- `num / den / 10^e` as a quotient of naturals. -/
def scaled (num den : Nat) (e : Int) : Nat × Nat :=
  if 0 ≤ e then (num, den * Nat.pow 10 e.toNat) else (num * Nat.pow 10 (-e).toNat, den)

/-- Drops zeros at the end, raising the exponent. -/
def trimmed : Nat → Decimal → Decimal
  | 0, d => d
  | fuel + 1, d =>
    if d.digits ≠ 0 ∧ d.digits % 10 = 0 then trimmed fuel ⟨d.digits / 10, d.exponent + 1⟩ else d

end Decimal

namespace Double

/-- The numbers that round to `m · 2^e`, in quarters of `2^e`: the ends, and whether they
belong. Below a power of two the numbers lie twice as close. -/
def roundingInterval (m : Nat) (e : Int) : Nat × Nat × Bool :=
  let below := if m = hiddenBit ∧ leastExponent < e then 1 else 2
  (4 * m - below, 4 * m + 2, m % 2 = 0)

/-- Whether `c · 10^g` rounds to `m · 2^e`. -/
def readsBack (m : Nat) (e : Int) (c : Nat) (g : Int) : Bool :=
  let (low, high, closed) := roundingInterval m e
  let point := Decimal.scaled (c * 4) 1 (-g)
  let unit := scaled 1 1 (-e)
  let lhs := point.1 * unit.2
  let scale := point.2 * unit.1
  (low * scale < lhs && lhs < high * scale) ||
    (closed && (lhs == low * scale || lhs == high * scale))

/-- The first hit on the grids of `n`, `n + 1`, … digits. -/
def searchGrids (m : Nat) (e : Int) (num den : Nat) (k : Int) : Nat → Nat → Decimal
  | 0, n => ⟨num / den, n⟩
  | fuel + 1, n =>
    let g := k - n
    let s := Decimal.scaled num den g
    let c := s.1 / s.2
    let r := s.1 % s.2
    match readsBack m e c g, readsBack m e (c + 1) g with
    | true, true => if 2 * r ≤ s.2 then ⟨c, g⟩ else ⟨c + 1, g⟩
    | true, false => ⟨c, g⟩
    | false, true => ⟨c + 1, g⟩
    | false, false => searchGrids m e num den k fuel (n + 1)

def shortest (m : Nat) (e : Int) : Decimal :=
  let v := scaled m 1 (-e)
  let d := searchGrids m e v.1 v.2 (Decimal.pointPosition v.1 v.2) 17 1
  Decimal.trimmed 400 d

/-- When decimals are written with an exponent, and how. -/
structure Layout where
  leastPoint : Int
  greatestPoint : Int
  exponentWidth : Nat

/-- Positional from `10^-4` up to `10^16`; otherwise a signed exponent of two digits or more. -/
def layout : Layout := ⟨-3, 16, 2⟩

def padded (width n : Nat) : String :=
  let s := toString n
  String.ofList (List.replicate (width - s.length) '0') ++ s

def Layout.text (l : Layout) (d : Decimal) : String :=
  let ds := (Nat.toDigits 10 d.digits)
  let point : Int := ds.length + d.exponent
  if point < l.leastPoint ∨ l.greatestPoint < point then
    let fraction := ds.drop 1
    let e := point - 1
    String.ofList (ds.take 1) ++ (if fraction.isEmpty then "" else "." ++ String.ofList fraction)
      ++ "e" ++ (if e < 0 then "-" else "+") ++ padded l.exponentWidth e.natAbs
  else if point ≤ 0 then
    "0." ++ String.ofList (List.replicate (-point).toNat '0') ++ String.ofList ds
  else if ds.length ≤ point.toNat then
    String.ofList ds ++ String.ofList (List.replicate (point.toNat - ds.length) '0') ++ ".0"
  else String.ofList (ds.take point.toNat) ++ "." ++ String.ofList (ds.drop point.toNat)

def text : Double → String
  | .nan => "nan"
  | .infinite n => if n then "-inf" else "inf"
  | .finite n m e =>
    (if n then "-" else "") ++ if m = 0 then "0.0" else layout.text (shortest m e)

end Double
end Subgraph
