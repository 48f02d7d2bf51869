import Subgraph.Decimal.Binary

/-!
Sums and products of binary numbers, each the number nearest to the exact result.
-/

namespace Subgraph.Double

/-- The number nearest to `n · 2^e`; zero has the given sign. -/
def ofScaled (negativeZero : Bool) (n : Int) (e : Int) : Double :=
  if n = 0 then zero negativeZero
  else
    let s := scaled n.natAbs 1 (-e)
    ofRatio (n < 0) s.1 s.2

def signedSignificand (negative : Bool) (m : Nat) : Int := if negative then -(m : Int) else m

def isNegative : Double → Bool
  | .finite n .. => n
  | .infinite n => n
  | .nan => false

def neg : Double → Double
  | .finite n m e => .finite (!n) m e
  | .infinite n => .infinite (!n)
  | .nan => .nan

def mul (a b : Double) : Double :=
  let negative := a.isNegative != b.isNegative
  match a, b with
  | .finite _ m e, .finite _ n f =>
    ofScaled negative (signedSignificand negative (m * n)) (e + f)
  | .nan, _ => .nan
  | _, .nan => .nan
  | a, b => if a.isZero || b.isZero then .nan else .infinite negative

def add (a b : Double) : Double :=
  match a, b with
  | .finite s m e, .finite t n f =>
    let g := min e f
    let up := fun (k : Int) (h : Int) => k * (Nat.pow 2 (h - g).toNat : Nat)
    ofScaled (s && t) (up (signedSignificand s m) e + up (signedSignificand t n) f) g
  | .nan, _ => .nan
  | _, .nan => .nan
  | .infinite s, .infinite t => if s = t then .infinite s else .nan
  | .infinite s, _ => .infinite s
  | _, .infinite t => .infinite t

/-- An integer as a number, unless it is out of range. -/
def ofInt? (n : Int) : Option Double :=
  match ofInt n with
  | .infinite _ => none
  | d => some d

end Subgraph.Double
