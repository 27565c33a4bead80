import GrowthScan.Decimal.Shortest

/-!
# JSON values

Objects keep their members in the order they are written in. A number with a fraction or an
exponent is turned into a float. Reading keeps as many leading digits as fit 64 bits and scales them
by one exact power of ten; the scaling rounds once more, so the last bit of a long number may differ
from the nearest float.
-/

namespace GrowthScan

/-- A JSON value. A number with a fraction, an exponent or too many digits is a float. -/
inductive Json where
  | null
  | bool (b : Bool)
  | integer (n : Int)
  | float (x : Float)
  | string (s : String)
  | array (items : List Json)
  | object (members : List (String × Json))
  deriving Inhabited

namespace Json

/-- An array of strings. -/
def strings (ss : List String) : Json := array (ss.map string)

/-- The value of the first member with this name. -/
def member? (name : String) : Json → Option Json
  | object members => members.lookup name
  | _ => none

/-! ## Numbers -/

/-- The decimal digits with a point after the first `n` of them. -/
def pointAfter (n : Nat) (digits : List Char) : List Char :=
  digits.take n ++ ['.'] ++ digits.drop n

/-- A positive decimal, in positions when its first digit stands between the fifth decimal place
and the sixteenth place before the point, with an exponent of two digits or more otherwise. -/
def decimalText (d : Decimal) : List Char :=
  let digits := Nat.toDigits 10 d.digits
  let first := d.leading
  if -5 ≤ first && first < 0 then
    ['0', '.'] ++ List.replicate (-first - 1).toNat '0' ++ digits
  else if 0 ≤ first && first ≤ 15 then
    if 0 ≤ d.exponent then digits ++ List.replicate d.exponent.toNat '0' ++ ['.', '0']
    else pointAfter (first.toNat + 1) digits
  else
    let size := Nat.toDigits 10 first.natAbs
    (if digits.length = 1 then digits else pointAfter 1 digits) ++
      ['e', if first < 0 then '-' else '+'] ++ List.replicate (2 - size.length) '0' ++ size

/-- The bit that makes a float negative. -/
def signBit : Nat := Nat.pow 2 63

/-- A finite float with the fewest digits that read back. -/
def floatText (x : Float) : List Char :=
  let bits := x.toBits.toNat
  let size := bits % signBit
  (if size < bits then ['-'] else []) ++
    if size = 0 then ['0', '.', '0'] else decimalText (.shortest size)

/-- The greatest power of ten that one step scales by. -/
def greatestPower : Nat := 308

/-- The float `10 ^ n` for small `n`. -/
def powerOfTen (n : Nat) : Float := Float.ofScientific 1 false n

/-- The float divided by `10 ^ n`, in two steps where one power of ten does not reach; what two
steps do not reach is zero. -/
def scaleDown (x : Float) (n : Nat) : Float :=
  if n ≤ greatestPower then x / powerOfTen n
  else if n ≤ 2 * greatestPower then x / powerOfTen greatestPower / powerOfTen (n - greatestPower)
  else 0

/-- The float `digits · 10 ^ exponent`, unless it is too large. -/
def scaled? (digits : Nat) (exponent : Int) : Option Float :=
  let x := Float.ofNat digits
  if exponent < 0 then some (scaleDown x (-exponent).toNat)
  else if digits = 0 then some x
  else if exponent.toNat ≤ greatestPower then
    let y := x * powerOfTen exponent.toNat
    if y.isInf then none else some y
  else none

end Json

end GrowthScan
