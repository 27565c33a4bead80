import GrowthScan.Text.CharWidth
import GrowthScan.Text.Emoji

/-!
# The columns of a text

A text is measured from its end: how much a character adds depends on what follows it. Sequences
that are shown as one sign, such as emoji with joiners and a few ligatures, take the columns of that
sign.
-/

namespace GrowthScan.Text

/-- The scripts in which two letters may share one sign. -/
inductive Ligature where
  | arabic
  | hebrew
  | khmer
  | buginese
  /-- The vowel between the two letters was met. -/
  | bugineseVowel
  | tifinagh
  /-- The joiner between the two letters was met. -/
  | tifinaghJoiner
  | lisu
  | oldTurkic
  deriving DecidableEq

/-- What follows a character, as far as it counts for the width. -/
inductive Follower where
  | other
  | lineFeed
  | picture
  | skinTone
  | flagLetter
  | flagLetters
  /-- A joiner in front of a picture. -/
  | joined
  /-- A keycap in front of a joined picture. -/
  | joinedKeycap
  /-- Letters of flags in front of a joined picture; the last one may be without a partner. -/
  | joinedFlag (single : Bool) (first : Bool)
  /-- The end of a tagged flag in front of a joined picture, with the tags met so far. -/
  | joinedTags (letters digits : Nat)
  /-- The last letter of a ligature, and whether a joiner stands in front of it. -/
  | ligature (l : Ligature) (joiner : Bool)
  deriving DecidableEq

/-- The selectors that change how the character in front of them is shown. -/
inductive Selector where
  | none
  | asPicture
  | asText
  deriving DecidableEq

/-- What follows a character: a selector, if any, and what stands behind it. -/
structure Following where
  selector : Selector
  follower : Follower

namespace Following

/-- Nothing that counts. -/
def nothing : Following := ⟨.none, .other⟩

/-- Whether marks may stand in between without a change. -/
def isLigature (f : Following) : Bool :=
  match f.follower with
  | .ligature .. => true
  | _ => false

/-- With a picture selector in front. -/
def asPicture (f : Following) : Following :=
  match f.follower with
  | .ligature .. | .joined | .joinedKeycap => ⟨.asPicture, f.follower⟩
  | _ => ⟨.asPicture, .other⟩

/-- With a text selector in front. -/
def asText (f : Following) : Following :=
  match f.follower with
  | .ligature .. => ⟨.asText, f.follower⟩
  | _ => ⟨.asText, .other⟩

/-- Without the selector, which did not apply. -/
def withoutSelector (f : Following) : Following :=
  if f.selector = .none then f else if f.isLigature then ⟨.none, f.follower⟩ else nothing

end Following

/-- The characters without a column that an Arabic letter does not join across. -/
def opaqueRanges : List (Nat × Nat) :=
  [(0x605, 0x605), (0x890, 0x891), (0x8E2, 0x8E2), (0x9BE, 0x9BE), (0x9D7, 0x9D7), (0xB3E, 0xB3E),
   (0xB57, 0xB57), (0xBBE, 0xBBE), (0xBD7, 0xBD7), (0xCC0, 0xCC0), (0xCC2, 0xCC2), (0xCC7, 0xCC8),
   (0xCCA, 0xCCB), (0xCD5, 0xCD6), (0xD3E, 0xD3E), (0xD57, 0xD57), (0xDCF, 0xDCF), (0xDDF, 0xDDF),
   (0x1160, 0x11FF), (0x180E, 0x180E), (0x1B35, 0x1B35), (0x1B3B, 0x1B3B), (0x1B3D, 0x1B3D),
   (0x1B43, 0x1B43), (0x200C, 0x200D), (0x2065, 0x2069), (0x302E, 0x302F), (0x3164, 0x3164),
   (0xA8FA, 0xA8FA), (0xD7B0, 0xD7C6), (0xD7CB, 0xD7FB), (0xFF9E, 0xFFA0), (0xFFF0, 0xFFF8),
   (0x1133E, 0x1133E), (0x11357, 0x11357), (0x113B8, 0x113B8), (0x113C2, 0x113C2),
   (0x113C5, 0x113C5), (0x113C7, 0x113C9), (0x113CF, 0x113CF), (0x114B0, 0x114B0),
   (0x114BD, 0x114BD), (0x115AF, 0x115AF), (0x11930, 0x11930), (0x1D165, 0x1D165),
   (0x1D16E, 0x1D172), (0xE0000, 0xE0000), (0xE0002, 0xE001F), (0xE0080, 0xE00FF),
   (0xE01F0, 0xE0FFF)]

/-- Whether an Arabic letter joins across the character. -/
def isTransparent (c : Char) : Bool := isZeroWidth c && !inRanges opaqueRanges c.toNat

/-- Whether the character is a mark that no ligature minds. -/
def isIgnorableMark (c : Char) : Bool :=
  inRanges [(0x34F, 0x34F), (0x17B4, 0x17B5), (0x180B, 0x180D), (0x180F, 0x180F), (0xFE00, 0xFE0F),
    (0xE0100, 0xE01EF)] c.toNat

/-- The Arabic letters that end a ligature. -/
def isAlef (c : Char) : Bool :=
  inRanges [(0x622, 0x623), (0x625, 0x625), (0x627, 0x627), (0x671, 0x673), (0x675, 0x675),
    (0x773, 0x774), (0x870, 0x882)] c.toNat

/-- The Arabic letters that begin a ligature. -/
def isLam (c : Char) : Bool :=
  inRanges [(0x644, 0x644), (0x6B5, 0x6B8), (0x76A, 0x76A), (0x8A6, 0x8A6), (0x8C7, 0x8C7)] c.toNat

/-- The Khmer letters that may stand below another. -/
def isKhmerLetter (c : Char) : Bool :=
  inRanges [(0x1780, 0x1782), (0x1784, 0x1787), (0x1789, 0x178C), (0x178E, 0x1793),
    (0x1795, 0x1798), (0x179B, 0x179D), (0x17A0, 0x17A0), (0x17A2, 0x17A2), (0x17A7, 0x17A7),
    (0x17AB, 0x17AC), (0x17AF, 0x17AF)] c.toNat

def isTifinagh (c : Char) : Bool := inRanges [(0x2D31, 0x2D65), (0x2D6F, 0x2D6F)] c.toNat

/-- The ligature that a character may end. -/
def ligatureOf? (c : Char) : Option Ligature :=
  if isAlef c then some .arabic
  else if c = '\u05DC' then some .hebrew
  else if isKhmerLetter c then some .khmer
  else if c = '\u1A10' then some .buginese
  else if isTifinagh c then some .tifinagh
  else if c = '\uA4FC' || c = '\uA4FD' then some .lisu
  else if c = Char.ofNat 0x10C03 then some .oldTurkic
  else none

/-- The columns of a character by itself, and what it is to the one in front. -/
def alone (c : Char) : Int × Following :=
  if c.toNat ≤ 0xA0 then (1, if c = '\n' then ⟨.none, .lineFeed⟩ else .nothing)
  else if c = '\uFE0F' then (0, ⟨.asPicture, .other⟩)
  else if c = '\uFE0E' then (0, ⟨.asText, .other⟩)
  else if isPicture c then (2, ⟨.none, .picture⟩)
  else if isSkinTone c then (2, ⟨.none, .skinTone⟩)
  else if isFlagLetter c then (1, ⟨.none, .flagLetter⟩)
  else
    match ligatureOf? c with
    | some l => (1, ⟨.none, .ligature l false⟩)
    | none =>
      (if c = '\u2E3B' then 3 else if isZeroWidth c then 0 else if isWide c then 2 else 1, .nothing)

/-- The columns that the first letter of a ligature adds, if it is one. -/
def inLigature? (c : Char) (l : Ligature) (joiner : Bool) : Option (Int × Following) :=
  match l with
  | .arabic =>
    if joiner then none
    else if isLam c then some (0, .nothing)
    else if isTransparent c then some (0, ⟨.none, .ligature .arabic false⟩)
    else none
  | .hebrew => if joiner && c = '\u05D0' then some (0, .nothing) else none
  | .khmer => if !joiner && c = '\u17D2' then some (-1, .nothing) else none
  | .buginese =>
    if joiner && c = '\u1A17' then some (0, ⟨.none, .ligature .bugineseVowel false⟩) else none
  | .bugineseVowel => if !joiner && c = '\u1A15' then some (0, .nothing) else none
  | .tifinagh =>
    if c = '\u2D7F' then some (1, ⟨.none, .ligature .tifinaghJoiner false⟩)
    else if joiner && isTifinagh c then some (0, .nothing)
    else none
  | .tifinaghJoiner => if !joiner && isTifinagh c then some (-1, .nothing) else none
  | .lisu => if 0xA4F8 ≤ c.toNat && c.toNat ≤ 0xA4FB then some (0, .nothing) else none
  | .oldTurkic => if joiner && c = Char.ofNat 0x10C32 then some (0, .nothing) else none

/-- A letter of the tags that make a flag. -/
def isTagLetter (c : Char) : Bool := 0xE0061 ≤ c.toNat && c.toNat ≤ 0xE007A

/-- A digit of the tags that make a flag. -/
def isTagDigit (c : Char) : Bool := 0xE0030 ≤ c.toNat && c.toNat ≤ 0xE0039

/-- The columns that a character adds to a picture it is part of, if it is. -/
def inPicture? (c : Char) (f : Follower) : Option (Int × Follower) :=
  match f with
  | .skinTone =>
    if takesSkinTone c then some (0, .picture) else if c = '\u200D' then some (0, .joined) else none
  | .flagLetter => if isFlagLetter c then some (1, .flagLetters) else none
  | .flagLetters =>
    if isFlagLetter c then some (1, .flagLetters)
    else if c = '\u200D' then some (0, .joined)
    else none
  | .picture => if c = '\u200D' then some (0, .joined) else none
  | .joined =>
    if c = '\u20E3' then some (0, .joinedKeycap)
    else if isFlagLetter c then some (1, .joinedFlag true true)
    else if isSkinTone c then some (0, .skinTone)
    else if c = Char.ofNat 0xE007F then some (0, .joinedTags 0 0)
    else if isPicture c then some (0, .picture)
    else none
  | .joinedFlag single first =>
    if isFlagLetter c then some (if single then -1 else 3, .joinedFlag (!single) false)
    else if c = '\u200D' && !first then some (0, .joined)
    else none
  | .joinedTags letters digits =>
    if isTagLetter c && digits = 0 && letters < 6 then some (0, .joinedTags (letters + 1) 0)
    else if isTagDigit c && digits < 3 && letters < 5 then
      some (0, .joinedTags letters (digits + 1))
    else if c = Char.ofNat 0x1F3F4 && (digits = 3 || digits = 0 && 3 ≤ letters) then
      some (0, .picture)
    else none
  | _ => none

/-- The columns that a character adds, and what it is to the one in front, given what follows. -/
def widthBefore (c : Char) (f : Following) : Int × Following :=
  if f.selector = .asPicture && isSelectable c then
    (if f.follower = .joined || f.follower = .joinedKeycap then 0 else 2, ⟨.none, .picture⟩)
  else if c.toNat ≤ 0xA0 then
    if c = '\r' && f.follower = .lineFeed then (0, .nothing) else alone c
  else
    let f := if f.selector = .asPicture then f.withoutSelector else f
    if c = '\uFE0F' then (0, f.asPicture)
    else if c = '\uFE0E' then (0, f.asText)
    else if f.selector = .asText && isTextable c then (1, .nothing)
    else
      let f := f.withoutSelector
      match f.follower with
      | .ligature l joiner =>
        if c = '\u200D' then (0, ⟨.none, .ligature l true⟩)
        else if isIgnorableMark c then (0, f)
        else (inLigature? c l joiner).getD (alone c)
      | follower =>
        match inPicture? c follower with
        | some (n, next) => (n, ⟨.none, next⟩)
        | none => alone c

/-- The columns of a text without escape sequences. -/
def plainWidth (s : List Char) : Nat :=
  (s.foldr (fun c (n, f) =>
    let (added, f) := widthBefore c f
    (n + added, f)) ((0 : Int), Following.nothing)).1.toNat

end GrowthScan.Text
