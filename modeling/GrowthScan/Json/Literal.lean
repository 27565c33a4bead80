import GrowthScan.Json.Basic
import GrowthScan.Json.Reader

/-!
# Strings and numbers in JSON texts

Each can be read or skipped. Skipping is more lenient: half a pair of surrogates and a number out
of range are passed over.
-/

namespace GrowthScan.Json

/-- The outcome of reading. -/
abbrev Outcome := EStateM.Result Failure (List Char)

namespace Reader

/-- The character that a backslash and this letter stand for. -/
def shortEscape? : Char → Option Char
  | '"' => some '"'
  | '\\' => some '\\'
  | '/' => some '/'
  | 'b' => some '\x08'
  | 'f' => some '\x0c'
  | 'n' => some '\n'
  | 'r' => some '\r'
  | 't' => some '\t'
  | _ => none

/-- The value of a hexadecimal digit. -/
def hexDigit? (c : Char) : Option Nat :=
  if c.isDigit then some (c.toNat - '0'.toNat)
  else if 'a' ≤ c && c ≤ 'f' then some (c.toNat - 'a'.toNat + 10)
  else if 'A' ≤ c && c ≤ 'F' then some (c.toNat - 'A'.toNat + 10)
  else none

/-- The number that four hexadecimal digits write. -/
def hexNumber? (a b c d : Char) : Option Nat := do
  return (((← hexDigit? a) * 16 + (← hexDigit? b)) * 16 + (← hexDigit? c)) * 16 + (← hexDigit? d)

/-- Whether the number is the first half of a pair of surrogates. -/
def isHighSurrogate (n : Nat) : Bool := 0xD800 ≤ n && n ≤ 0xDBFF

/-- Whether the number is the second half of a pair of surrogates. -/
def isLowSurrogate (n : Nat) : Bool := 0xDC00 ≤ n && n ≤ 0xDFFF

/-- The character that a pair of surrogates stands for. -/
def pairedChar (high low : Nat) : Char :=
  Char.ofNat (0x10000 + (high - 0xD800) * 0x400 + (low - 0xDC00))

/-- What is wrong with an escape by number that has fewer than four characters left. -/
def numberedFault (s : List Char) : Fault :=
  if (bytes (s.take 4)).length < 4 then .endsInside .string else .invalidEscape

/-- The characters of a string, up to its closing quote. -/
def stringBody : List Char → Outcome (List Char)
  | [] => fail (.endsInside .string) []
  | c :: s =>
    if c = '"' then .ok [] s
    else if c.toNat < 0x20 then fail .controlCharacter s
    else if c ≠ '\\' then consTo c (stringBody s)
    else
      match s with
      | [] => fail (.endsInside .string) []
      | e :: s =>
        match shortEscape? e with
        | some x => consTo x (stringBody s)
        | none =>
          if e ≠ 'u' then fail .invalidEscape s
          else
            match s with
            | a :: b :: c :: d :: s =>
              match hexNumber? a b c d with
              | none => fail .invalidEscape s
              | some n =>
                if isLowSurrogate n then fail .loneSurrogate s
                else if !isHighSurrogate n then consTo (Char.ofNat n) (stringBody s)
                else
                  match s with
                  | [] => fail (.endsInside .string) []
                  | ['\\'] => fail (.endsInside .string) []
                  | '\\' :: 'u' :: s =>
                    match s with
                    | a :: b :: c :: d :: s =>
                      match hexNumber? a b c d with
                      | none => fail .invalidEscape s
                      | some m =>
                        if isLowSurrogate m then consTo (pairedChar n m) (stringBody s)
                        else fail .loneSurrogate s
                    | s => fail (numberedFault s) []
                  | s => fail .endOfEscape s
            | s => fail (numberedFault s) []
where
  /-- Puts a character in front of those that were read. -/
  consTo (c : Char) : Outcome (List Char) → Outcome (List Char)
    | .ok cs rest => .ok (c :: cs) rest
    | .error failure rest => .error failure rest

/-- Passes over a string, up to its closing quote. -/
def skipString : List Char → Outcome Unit
  | [] => fail (.endsInside .string) []
  | c :: s =>
    if c = '"' then .ok () s
    else if c.toNat < 0x20 then fail .controlCharacter (c :: s)
    else if c ≠ '\\' then skipString s
    else
      match s with
      | [] => fail (.endsInside .string) []
      | e :: s =>
        if (shortEscape? e).isSome then skipString s
        else if e ≠ 'u' then fail .invalidEscape s
        else
          match s with
          | a :: b :: c :: d :: s =>
            match hexNumber? a b c d with
            | none => fail .invalidEscape s
            | some _ => skipString s
          | s => fail (numberedFault s) []

/-- Whether a decimal digit comes next. -/
def startsWithDigit (s : List Char) : Bool := s.head?.any Char.isDigit

/-- Appends decimal digits to `n` as long as the number fits 64 bits, and tells what is left. -/
def fittingDigits (n : Nat) : List Char → Nat × List Char
  | [] => (n, [])
  | c :: s =>
    let longer := 10 * n + (c.toNat - '0'.toNat)
    if c.isDigit && longer < UInt64.size then fittingDigits longer s else (n, c :: s)

/-- Drops the decimal digits that come next and tells how many they are. -/
def dropDigits : Reader Nat := fun s =>
  .ok (s.takeWhile Char.isDigit).length (s.dropWhile Char.isDigit)

/-- The float that the digits and the exponent write. -/
def floatOf (negative : Bool) (digits : Nat) (exponent : Int) : Reader Json := do
  match scaled? digits exponent with
  | some x => return .float (if negative then -x else x)
  | none => fail .numberOutOfRange

/-- Reads a decimal exponent, from its letter on, which shifts the one so far. -/
def exponentOf (exponent : Int) : Reader Int := do
  advance
  let sign := (← get).head?
  if sign = some '+' || sign = some '-' then advance
  let s ← get
  if s.isEmpty then fail (.endsInside .value)
  if !startsWithDigit s then advance; fail .invalidNumber
  set (s.dropWhile Char.isDigit)
  let size : Int := Nat.ofDigitChars 10 (s.takeWhile Char.isDigit) 0
  return if sign = some '-' then exponent - size else exponent + size

/-- Reads the exponent, if one comes next, and gives the float. -/
def scaledBy (negative : Bool) (digits : Nat) (exponent : Int) : Reader Json := do
  let next := (← get).head?
  if next = some 'e' || next = some 'E' then
    floatOf negative digits (← exponentOf exponent)
  else floatOf negative digits exponent

/-- Reads the decimal places, from their point on. -/
def placesOf (negative : Bool) (digits : Nat) (exponent : Int) : Reader Json := do
  advance
  let s ← get
  if s.isEmpty then failAhead (.endsInside .value)
  if !startsWithDigit s then failAhead .invalidNumber
  let (digits, rest) := fittingDigits digits s
  set rest
  let _ ← dropDigits
  scaledBy negative digits (exponent - (s.length - rest.length : Nat))

/-- Reads a number, from its first digit on. Digits that do not fit are dropped and only scale. -/
def number (negative : Bool) : Reader Json := do
  let s ← get
  if s.isEmpty then fail (.endsInside .value)
  if !startsWithDigit s then advance; fail .invalidNumber
  if s.head? = some '0' && startsWithDigit s.tail then advance; failAhead .invalidNumber
  let (digits, rest) := fittingDigits 0 s
  set rest
  let dropped ← dropDigits
  let next := (← get).head?
  if next = some '.' then placesOf negative digits dropped
  else if dropped ≠ 0 || next = some 'e' || next = some 'E' then scaledBy negative digits dropped
  else if !negative then return .integer digits
  else if 0 < digits && digits ≤ signBit then return .integer (-digits)
  else return .float (-Float.ofNat digits)

/-- Passes over an exponent, from its letter on. -/
def skipExponent : Reader Unit := do
  advance
  let sign := (← get).head?
  if sign = some '+' || sign = some '-' then advance
  if startsWithDigit (← get) then let _ ← dropDigits
  else advance; fail .invalidNumber

/-- Passes over a number, from its first digit on. -/
def skipNumber : Reader Unit := do
  let s ← get
  if !startsWithDigit s then advance; fail .invalidNumber
  if s.head? = some '0' && startsWithDigit s.tail then advance; failAhead .invalidNumber
  let _ ← dropDigits
  if (← get).head? = some '.' then
    advance
    if startsWithDigit (← get) then let _ ← dropDigits
    else failAhead .invalidNumber
  let next := (← get).head?
  if next = some 'e' || next = some 'E' then skipExponent

end Reader

end GrowthScan.Json
