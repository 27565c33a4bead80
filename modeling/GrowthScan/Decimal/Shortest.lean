/-!
# Shortest decimals

The fewest decimal digits that still single out a binary number among its neighbours. Each binary
number is the nearest one to a whole interval of reals; a grid of decimals is fine enough when one
of the two decimals around the number lies in that interval.
-/

namespace GrowthScan

/-- The number `digits · 10 ^ exponent`. -/
structure Decimal where
  digits : Nat
  exponent : Int
  deriving DecidableEq, Repr

/-- A number `m · 2 ^ q` together with the reals that are nearer to it than to its neighbours: those
from `low` to `high`, counted in quarters of `2 ^ q`, with both ends if `closed`. -/
structure Binary where
  m : Nat
  q : Int
  low : Nat
  high : Nat
  closed : Bool

namespace Binary

/-- The leading bit of a fraction, which is not written. -/
def hiddenBit : Nat := Nat.pow 2 52

/-- The positive number with these bits. At a power of two the neighbour below is half as far away
as the one above. -/
def ofBits (bits : Nat) : Binary :=
  let fraction := bits % hiddenBit
  let power := bits / hiddenBit % 2048
  let m := if power = 0 then fraction else fraction + hiddenBit
  let q : Int := (if power = 0 then 1 else power : Nat) - (1075 : Int)
  let low := if fraction = 0 && 1 < power then 4 * m - 1 else 4 * m - 2
  ⟨m, q, low, 4 * m + 2, m % 2 = 0⟩

/-- The scale on which quarters of `2 ^ q` and steps of `10 ^ e` are both whole numbers. -/
def scales (b : Binary) (e : Int) : Nat × Nat :=
  (Nat.pow 2 (b.q - 2).toNat * Nat.pow 10 (-e).toNat,
    Nat.pow 10 e.toNat * Nat.pow 2 (2 - b.q).toNat)

/-- Whether `d · 10 ^ e` is nearest to the number. -/
def admits (b : Binary) (e : Int) (d : Nat) : Bool :=
  let (quarter, step) := b.scales e
  if b.closed then b.low * quarter ≤ d * step && d * step ≤ b.high * quarter
  else b.low * quarter < d * step && d * step < b.high * quarter

/-- The multiple of `10 ^ e` that the number rounds down to. -/
def floor (b : Binary) (e : Int) : Nat :=
  let (quarter, step) := b.scales e
  4 * b.m * quarter / step

/-- How the middle between `d · 10 ^ e` and the next multiple compares with the number. -/
def compareMiddle (b : Binary) (e : Int) (d : Nat) : Ordering :=
  let (quarter, step) := b.scales e
  compare ((2 * d + 1) * step) (8 * b.m * quarter)

/-- The multiple of `10 ^ e` nearest to the number among those that are nearest to no other; a tie
goes to the even one. -/
def onGrid? (b : Binary) (e : Int) : Option Decimal :=
  let d := b.floor e
  match b.admits e d, b.admits e (d + 1) with
  | false, false => none
  | true, false => some ⟨d, e⟩
  | false, true => some ⟨d + 1, e⟩
  | true, true =>
    match b.compareMiddle e d with
    | .lt => some ⟨d + 1, e⟩
    | .gt => some ⟨d, e⟩
    | .eq => some ⟨d + d % 2, e⟩

end Binary

namespace Decimal

/-- The number of decimal digits of a positive number. -/
def width (n : Nat) : Nat := (Nat.toDigits 10 n).length

/-- The same number without zeros at the end of its digits. -/
def trimmed : Nat → Decimal → Decimal
  | 0, d => d
  | fuel + 1, d =>
    if d.digits ≠ 0 && d.digits % 10 = 0 then trimmed fuel ⟨d.digits / 10, d.exponent + 1⟩ else d

/-- The place of the first digit: `0` for units, `1` for tens, `-1` for tenths. -/
def leading (d : Decimal) : Int := d.exponent + (width d.digits - 1 : Nat)

/-- The shortest decimal nearest to a positive number with these bits. -/
def shortest (bits : Nat) : Decimal :=
  let b := Binary.ofBits bits
  let first : Int := width (b.floor (-400)) - (401 : Int)
  let found := (List.range 17).findSome? fun n => b.onGrid? (first - (n : Nat))
  (found.getD ⟨b.m, 0⟩).trimmed 20

end Decimal

end GrowthScan
