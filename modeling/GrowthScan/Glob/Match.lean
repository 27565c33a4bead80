import GrowthScan.Glob.Basic
import GrowthScan.Path

/-!
# Matching paths against glob patterns

A path matches when the whole of it is described by the pattern. While the tokens are read, a mask
tells for each place of the path, from before its first byte to behind its last, whether the
tokens so far describe what stands in front of it.
-/

namespace GrowthScan.Glob

/-- For each place of a path, whether it is reached. -/
abbrev Mask := List Bool

namespace Mask

/-- Before the first of `n` bytes. -/
def start (n : Nat) : Mask := true :: List.replicate n false

/-- One byte further on, over bytes with the property. -/
def step (p : UInt8 → Bool) (bytes : List UInt8) (m : Mask) : Mask :=
  false :: List.zipWith (fun reached b => reached && p b) m bytes

/-- Any number of bytes further on; `seen` tells whether a place in front is reached. -/
def spread (seen : Bool) : Mask → Mask
  | [] => []
  | reached :: m => (seen || reached) :: spread (seen || reached) m

/-- The places that either mask reaches. -/
def union (m n : Mask) : Mask := List.zipWith (· || ·) m n

/-- Whether the end is reached. -/
def reachesEnd (m : Mask) : Bool := m.getLast?.getD false

end Mask

/-- The bytes of a character. -/
def charBytes (c : Char) : List UInt8 := String.utf8EncodeChar c

/-- The ranges of bytes that a range of characters stands for: the last byte of its first
character up to the first byte of its last one, and the other bytes by themselves. -/
def byteRanges (r : Char × Char) : List (UInt8 × UInt8) :=
  let alone (bs : List UInt8) := bs.map fun b => (b, b)
  let first := charBytes r.1
  let last := charBytes r.2
  if r.1 = r.2 then alone first
  else alone first.dropLast ++ [(first.getLast?.getD 0, last.head?.getD 0)] ++ alone last.tail

/-- Whether a class holds the byte. -/
def classHolds (negated : Bool) (ranges : List (Char × Char)) (b : UInt8) : Bool :=
  negated != (ranges.flatMap byteRanges).any fun r => r.1 ≤ b && b ≤ r.2

mutual

/-- Whether nothing is left of a token when the empty branches of groups are dropped. -/
def vanishes : Token → Bool
  | .either branches => vanishAll branches
  | _ => false

/-- Whether nothing is left of any branch. -/
def vanishAll : List (List Token) → Bool
  | [] => true
  | b :: bs => vanishTokens b && vanishAll bs

/-- Whether nothing is left of the tokens. -/
def vanishTokens : List Token → Bool
  | [] => true
  | t :: ts => vanishes t && vanishTokens ts

end

/-- Over a slash. -/
def overSlash (bytes : List UInt8) (m : Mask) : Mask := m.step (· == 47) bytes

mutual

/-- The places reached behind a token. -/
def advance (bytes : List UInt8) (m : Mask) : Token → Mask
  | .literal c => (charBytes c).foldl (fun m b => m.step (· == b) bytes) m
  | .any => m.step (fun _ => true) bytes
  | .star => m.spread false
  | .deepFront => m.union (overSlash bytes (m.spread false))
  | .deepBack => (overSlash bytes m).spread false
  | .deep =>
    let m := overSlash bytes m
    m.union (overSlash bytes (m.spread false))
  | .oneOf negated ranges => m.step (classHolds negated ranges) bytes
  | .either branches => if vanishAll branches then m else advanceAny bytes m branches

/-- The places reached behind the branches of a group that are not empty. -/
def advanceAny (bytes : List UInt8) (m : Mask) : List (List Token) → Mask
  | [] => m.map fun _ => false
  | b :: bs =>
    let others := advanceAny bytes m bs
    if vanishTokens b then others else (advanceAll bytes m b).union others

/-- The places reached behind all of the tokens. -/
def advanceAll (bytes : List UInt8) (m : Mask) : List Token → Mask
  | [] => m
  | t :: ts => advanceAll bytes (advance bytes m t) ts

end

/-- The literal text at the end of a pattern that starts with its last dot, if no slash and nothing
but literals stands behind that dot. -/
def literalExtension? (tokens : List Token) : Option (List Char) :=
  go [] tokens.reverse
where
  /-- Collects literals from the back, up to a dot. -/
  go (found : List Char) : List Token → Option (List Char)
    | .literal '/' :: _ => none
    | .literal '.' :: _ => some ('.' :: found)
    | .literal c :: ts => go (c :: found) ts
    | _ => none

/-- Whether the token is a literal that is none of these. -/
def isLiteralBut (excluded : List Char) : Token → Bool
  | .literal c => !excluded.contains c
  | _ => false

/-- Whether the tokens are a dot and a literal without further dots or slashes. -/
def isExtension : List Token → Bool
  | .literal '.' :: ts => ts.all (isLiteralBut ['.', '/'])
  | _ => false

/-- Whether the pattern looks at the file name by itself: for a literal name in any directory,
or for a literal extension that stands after more than literals. -/
def isByName (g : Glob) : Bool :=
  let (anywhere, tokens) := match g.tokens with
    | .deepFront :: ts => (true, ts)
    | ts => (false, ts)
  match tokens with
  | .star :: ts =>
    if ts.all (isLiteralBut []) then isExtension ts
    else (literalExtension? ts).isSome
  | ts =>
    if ts.all (isLiteralBut []) then anywhere && !ts.isEmpty && ts.all (isLiteralBut ['/'])
    else (literalExtension? ts).isSome

/-- Whether the path goes up in the end, and so has no file name. -/
def goesUp (path : String) : Bool := (path.toList.splitOn '/').getLast? = some ['.', '.']

/-- Whether the pattern describes the path. One that looks at the name describes no path without a
name, and `**` alone describes every path. -/
def isMatch (g : Glob) (path : String) : Bool :=
  match g.tokens with
  | [.deepFront] => true
  | ts =>
    let bytes := path.toUTF8.toList
    !(g.isByName && goesUp path) && (advanceAll bytes (.start bytes.length) ts).reachesEnd

end GrowthScan.Glob
