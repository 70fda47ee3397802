/-! The parts of a 64-bit floating-point number, and the fewest decimal digits that still identify
it. A decimal identifies the number when it lies in the interval of reals that round to it; among
the decimals of least length in that interval the nearest one is taken. -/
namespace LiveConsole.Number

structure Binary where
  significand : Nat
  exponent : Int
  deriving DecidableEq, Repr

inductive FloatParts where
  | notANumber
  | infinite (negative : Bool)
  | finite (negative : Bool) (magnitude : Binary)
  deriving DecidableEq, Repr

def FloatParts.ofBits (bits : UInt64) : FloatParts :=
  let negative : Bool := bits.toNat / Nat.pow 2 63 = 1
  let field : Nat := bits.toNat / Nat.pow 2 52 % Nat.pow 2 11
  let fraction : Nat := bits.toNat % Nat.pow 2 52
  if field = 2047 then
    if fraction = 0 then .infinite negative else .notANumber
  else if field = 0 then .finite negative ⟨fraction, -1074⟩
  else .finite negative ⟨Nat.pow 2 52 + fraction, (field : Int) - 1075⟩

def FloatParts.of (x : Float) : FloatParts := ofBits x.toBits

structure Decimal where
  digits : Nat
  exponent : Int
  deriving DecidableEq, Repr

inductive Tie where
  | larger
  | even
  deriving DecidableEq, Repr

namespace Binary

def quarters (b : Binary) : Nat := 4 * b.significand

/- Half of the gap to the neighbour below, in quarters: that gap is halved at a power of two,
except among the subnormal numbers. -/
def gapBelow (b : Binary) : Nat :=
  if b.significand = Nat.pow 2 52 ∧ -1074 < b.exponent then 1 else 2

/- `a * 10 ^ k` and `c` quarters compare as `a * tens k` and `c * twos k` do. -/
def tens (b : Binary) (k : Int) : Nat := Nat.pow 10 k.toNat * Nat.pow 2 (2 - b.exponent).toNat

def twos (b : Binary) (k : Int) : Nat := Nat.pow 10 (-k).toNat * Nat.pow 2 (b.exponent - 2).toNat

def rounds (b : Binary) (k : Int) (a : Nat) : Bool :=
  let point := a * b.tens k
  let low := (b.quarters - b.gapBelow) * b.twos k
  let high := (b.quarters + 2) * b.twos k
  if b.significand % 2 = 0 then low ≤ point && point ≤ high else low < point && point < high

def magnitude (b : Binary) : Int :=
  let estimate := (((Nat.log2 b.significand : Int) + b.exponent) * 30103).fdiv 100000
  if b.tens (estimate + 1) ≤ b.quarters * b.twos (estimate + 1) then estimate + 1
  else if b.quarters * b.twos estimate < b.tens estimate then estimate - 1
  else estimate

def onGrid (tie : Tie) (b : Binary) (k : Int) : Option Nat :=
  let below := b.quarters * b.twos k / b.tens k
  let toBelow := b.quarters * b.twos k - below * b.tens k
  let toAbove := (below + 1) * b.tens k - b.quarters * b.twos k
  match b.rounds k below, b.rounds k (below + 1) with
  | false, false => none
  | true, false => some below
  | false, true => some (below + 1)
  | true, true =>
      if toBelow < toAbove then some below
      else if toAbove < toBelow then some (below + 1)
      else match tie with
        | .larger => some (below + 1)
        | .even => some (if below % 2 = 0 then below else below + 1)

def shortest (tie : Tie) (b : Binary) : Decimal :=
  let places := (List.range 17).map fun (i : Nat) => b.magnitude - (i : Int)
  match places.findSome? fun k => (b.onGrid tie k).map fun a => Decimal.mk a k with
  | some decimal => decimal
  | none => ⟨0, 0⟩

end Binary

def Decimal.trimmed (d : Decimal) : Decimal :=
  if h : d.digits ≠ 0 ∧ d.digits % 10 = 0 then
    Decimal.trimmed ⟨d.digits / 10, d.exponent + 1⟩
  else d
termination_by d.digits
decreasing_by exact Nat.div_lt_self (Nat.pos_of_ne_zero h.1) (by decide)

end LiveConsole.Number
