import ConstructorPlanning.Decimal.Binary64
import ConstructorPlanning.Json.Token
/-!
The value of a number. Without a point and an exponent it is an integer if it fits into 64 bits,
except for a negative zero; every other number is a binary64 one.

A binary64 value is computed from the first digits that fit into 64 bits, scaled by one power of ten
(by several where it is very small) and rounded after each of these steps, so its last place may
differ from that of the nearest number.
-/
namespace ConstructorPlanning.Json

open Decimal

inductive Numeric where
  | natural (n : Nat)
  /-- The opposite of a positive number. -/
  | negative (n : Nat)
  | real (negative : Bool) (magnitude : Binary64)
  deriving DecidableEq, Repr

namespace Numeric

/-- Appends digits to a significand as long as it stays below 2^64; the digits left over are the
second part. -/
def accumulate (significand : Nat) : List Char → Nat × List Char
  | [] => (significand, [])
  | c :: rest =>
    let next := 10 * significand + (c.toNat - '0'.toNat)
    if next < UInt64.size then accumulate next rest else (significand, c :: rest)

/-- The greatest power of ten that a scaling step uses. -/
def maxStep : Nat := 308

/-- A number times a power of ten, rounded after each step; nothing if it is too large. -/
def scaledBy (x : Binary64) (exponent : Int) : (steps : Nat) → Option Binary64
  | 0 => some x
  | steps + 1 =>
    if exponent.natAbs ≤ maxStep then do
      let power ← Binary64.powerOfTen exponent.natAbs
      if 0 ≤ exponent then x.mul power else x.div power
    else if x.significand = 0 then
      some x
    else if 0 ≤ exponent then
      none
    else do
      let power ← Binary64.powerOfTen maxStep
      let x ← x.div power
      scaledBy x (exponent + maxStep) steps

/-- The steps after which every significand below 2^64 is scaled to zero. -/
def maxSteps : Nat := 4

/-- The binary64 value of the digits of a number, without its sign; nothing if it is too large. -/
def magnitude (n : NumberText) : Option Binary64 := do
  let (whole, overflow) := accumulate 0 n.whole
  let fraction := n.fraction.getD []
  let (significand, dropped) := accumulate whole fraction
  let exponent : Int := match n.exponent with
    | none => 0
    | some (below, digits) =>
      let e : Int := Nat.ofDigitChars 10 digits 0
      if below then -e else e
  let x ← Binary64.ofRatio significand 1
  scaledBy x (overflow.length - (fraction.length - dropped.length : Nat) + exponent) maxSteps

def ofText? (n : NumberText) : Option Numeric :=
  let whole := Nat.ofDigitChars 10 n.whole 0
  let isInteger := n.fraction.isNone && n.exponent.isNone
  if isInteger ∧ !n.negative ∧ whole < UInt64.size then
    some (.natural whole)
  else if isInteger ∧ n.negative ∧ 0 < whole ∧ 2 * whole ≤ UInt64.size then
    some (.negative whole)
  else
    (magnitude n).map (.real n.negative)

end Numeric

end ConstructorPlanning.Json
