import FleetRollout.Binary64
import FleetRollout.Text.Numeral

/-! The shortest decimal that reads back as a binary64 number, and its written form. Among the
decimals of the fewest digits the one nearest to the number is taken. -/
namespace FleetRollout

structure Decimal where
  coefficient : Nat
  exponent : Int
deriving DecidableEq, Repr

namespace Decimal

def unscale (num den : Nat) (k : Int) : Nat × Nat :=
  if 0 ≤ k then (num, den * Nat.pow 10 k.toNat) else (num * Nat.pow 10 (-k).toNat, den)

def round? (d : Decimal) : Option Magnitude :=
  let (num, den) := unscale d.coefficient 1 (-d.exponent)
  Magnitude.ofRatio? num den

/-- The number of leading zeros after the point of `num / den`, for a quotient below one. -/
def leadingZeros (num den : Nat) : Nat → Nat
  | 0 => 0
  | fuel + 1 => if den ≤ 10 * num then 0 else leadingZeros (10 * num) den fuel + 1

/-- The place of the point relative to the first digit other than zero of `num / den`. -/
def pointPlace (num den : Nat) : Int :=
  if den ≤ num then (Text.digits (num / den)).length else -(leadingZeros num den 400)

/-- A decimal of `n` digits or fewer that reads back as `x`: the nearer neighbour of `x` on the
grid if both do. -/
def onGrid? (x : Magnitude) (place : Int) (n : Nat) : Option Decimal :=
  let k := place - n
  let (num, den) := unscale x.ratio.1 x.ratio.2 k
  let low : Decimal := ⟨num / den, k⟩
  let high : Decimal := ⟨num / den + 1, k⟩
  match decide (low.round? = some x), decide (high.round? = some x) with
  | true, true => some (if 2 * (num % den) ≤ den then low else high)
  | true, false => some low
  | false, true => some high
  | false, false => none

def shortest (x : Magnitude) : Decimal :=
  let place := pointPlace x.ratio.1 x.ratio.2
  ((List.range 17).findSome? fun n => onGrid? x place (n + 1)).getD ⟨x.mantissa, x.exponent⟩

/-- Moves the zeros at the end of the coefficient into the exponent. -/
def normalize (d : Decimal) : Decimal :=
  let ds := Text.digits d.coefficient
  let kept := (ds.reverse.dropWhile (· = '0')).reverse
  ⟨Text.digitsValue kept, d.exponent + (ds.length - kept.length : Nat)⟩

end Decimal

def signedDigits (n : Int) : List Char :=
  if n < 0 then '-' :: Text.digits n.natAbs else Text.digits n.natAbs

/-- Places up to which a number is written without an exponent. -/
def positionalPlaces : Int := 16

/-- The written form of a decimal other than zero: positional from `1e-5` up to sixteen places
before the point, always with a point or an exponent. -/
def Decimal.write (d : Decimal) : List Char :=
  let ds := Text.digits d.coefficient
  let place : Int := ds.length + d.exponent
  if 0 ≤ d.exponent && place ≤ positionalPlaces then
    ds ++ List.replicate d.exponent.toNat '0' ++ ['.', '0']
  else if 0 < place && place ≤ positionalPlaces then
    ds.take place.toNat ++ '.' :: ds.drop place.toNat
  else if -5 < place && place ≤ 0 then
    '0' :: '.' :: List.replicate (-place).toNat '0' ++ ds
  else
    let fraction := ds.drop 1
    ds.take 1 ++ (if fraction.isEmpty then [] else '.' :: fraction) ++ 'e' :: signedDigits (place - 1)

/-- The written form of a number: the shortest decimal that reads back. -/
def Binary64.write (x : Binary64) : List Char :=
  let size :=
    if x.magnitude.mantissa = 0 then ['0', '.', '0']
    else (Decimal.shortest x.magnitude).normalize.write
  if x.negative then '-' :: size else size

end FleetRollout
