/-! Finite binary64 numbers in exact arithmetic on naturals: rounding of a quotient to the nearest
number, ties to the even mantissa, and products and quotients rounded in the same way. -/
namespace FleetRollout

/-- The size of a finite binary64 number, `mantissa * 2 ^ exponent`. Zero has the least exponent. -/
structure Magnitude where
  mantissa : Nat
  exponent : Int
deriving DecidableEq, Repr

/-- A finite binary64 number; zero has two signs. -/
structure Binary64 where
  negative : Bool
  magnitude : Magnitude
deriving DecidableEq, Repr

namespace Magnitude

def leastExponent : Int := -1074

def greatestExponent : Int := 971

def zero : Magnitude := ⟨0, leastExponent⟩

/-- The natural number nearest to `num / den`, of two the even one. -/
def roundEven (num den : Nat) : Nat :=
  let q := num / den
  let r := num % den
  if 2 * r < den then q else if den < 2 * r then q + 1 else q + q % 2

def unscale (num den : Nat) (e : Int) : Nat × Nat :=
  if 0 ≤ e then (num, den * Nat.pow 2 e.toNat) else (num * Nat.pow 2 (-e).toNat, den)

/-- The exponent that gives `num / den` a mantissa of 53 bits, or the least one if it is larger. -/
def exponentFor (num den : Nat) : Int :=
  let guess : Int := num.log2 - den.log2 - 52
  let (n, d) := unscale num den guess
  max leastExponent (if n < d * Nat.pow 2 52 then guess - 1 else guess)

/-- The number nearest to `num / den`, unless that is past the largest one. -/
def ofRatio? (num den : Nat) : Option Magnitude :=
  if num = 0 then some zero
  else
    let e := exponentFor num den
    let (n, d) := unscale num den e
    let m := roundEven n d
    let rounded : Magnitude := if m = Nat.pow 2 53 then ⟨Nat.pow 2 52, e + 1⟩ else ⟨m, e⟩
    if greatestExponent < rounded.exponent then none else some rounded

def ratio (x : Magnitude) : Nat × Nat := unscale x.mantissa 1 (-x.exponent)

def mul? (x y : Magnitude) : Option Magnitude :=
  ofRatio? (x.ratio.1 * y.ratio.1) (x.ratio.2 * y.ratio.2)

/-- The rounded quotient by a number other than zero. -/
def div? (x y : Magnitude) : Option Magnitude :=
  ofRatio? (x.ratio.1 * y.ratio.2) (x.ratio.2 * y.ratio.1)

def greatestTen : Nat := 308

/-- The number nearest to `10 ^ k`, for `k` up to `greatestTen`. -/
def powerOfTen (k : Nat) : Magnitude := (ofRatio? (Nat.pow 10 k) 1).getD zero

/-- The number times `10 ^ k`, in steps of at most `10 ^ 308`, each of them rounded. -/
def scaleTen? : Nat → Magnitude → Int → Option Magnitude
  | steps, x, k =>
    if k.natAbs ≤ greatestTen then
      if 0 ≤ k then x.mul? (powerOfTen k.natAbs) else x.div? (powerOfTen k.natAbs)
    else if x.mantissa = 0 then some x
    else if 0 ≤ k then none
    else match steps with
      | 0 => some zero
      | steps + 1 => do
        let y ← x.div? (powerOfTen greatestTen)
        scaleTen? steps y (k + greatestTen)

/-- Reads `significand * 10 ^ k`: the significand is rounded first, then the scaled number. -/
def ofDecimal? (significand : Nat) (k : Int) : Option Magnitude := do
  let x ← ofRatio? significand 1
  x.scaleTen? (k.natAbs / greatestTen + 1) k

end Magnitude
end FleetRollout
