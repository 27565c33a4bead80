import GrowthScan.Glob.Basic

/-!
# Reading glob patterns

The pattern is read from the front, one character at a time. Groups that are open are kept with
what stands in front of them. A `**` counts as a part of its own only next to slashes or the ends
of the pattern or group; it takes the slashes around it with it.
-/

namespace GrowthScan.Glob

/-- A sequence of tokens that is being read, its last token first. -/
abbrev Branch := List Token

/-- An open group: the tokens in front of it and the branches that are finished, last one first. -/
structure Group where
  before : Branch
  branches : List Branch

/-- What has been read: the open groups, innermost first, and the tokens of the current branch. -/
structure Progress where
  groups : List Group
  branch : Branch

namespace Progress

def start : Progress := ⟨[], []⟩

def push (p : Progress) (t : Token) : Progress := { p with branch := t :: p.branch }

/-- Opens a group. -/
def openGroup (p : Progress) : Progress := ⟨⟨p.branch, []⟩ :: p.groups, []⟩

/-- Starts the next branch of the innermost group. Outside of groups a comma is only a comma. -/
def nextBranch (p : Progress) : Progress :=
  match p.groups with
  | [] => p.push (.literal ',')
  | g :: gs => ⟨{ g with branches := p.branch :: g.branches } :: gs, []⟩

/-- Closes the innermost group. -/
def closeGroup (p : Progress) : Except Fault Progress :=
  match p.groups with
  | [] => .error .unopenedGroup
  | g :: gs =>
    .ok ⟨gs, .either ((p.branch :: g.branches).map List.reverse).reverse :: g.before⟩

/-- The `**` between slashes or at the end, in place of the token before it. One that follows
another joins it. -/
def pushDeep (p : Progress) (atEnd : Bool) : Progress :=
  let part := if atEnd then Token.deepBack else .deep
  match p.branch with
  | .deepFront :: _ => p
  | .deepBack :: _ => p
  | _ :: before => { p with branch := part :: before }
  | [] => { p with branch := [part] }

/-- The tokens of the whole pattern. -/
def finish (p : Progress) : Except Fault Glob :=
  if p.groups.isEmpty then .ok ⟨p.branch.reverse⟩ else .error .unclosedGroup

end Progress

/-- A class that is being read: its ranges, last one first, whether it is still empty, and whether
the last range waits for its end. -/
structure ClassProgress where
  negated : Bool
  ranges : List (Char × Char)
  first : Bool
  inRange : Bool

namespace ClassProgress

/-- Ends the last range at `c`. -/
def extend (p : ClassProgress) (c : Char) : Except Fault ClassProgress :=
  match p.ranges with
  | (first, _) :: rs =>
    if c < first then .error (.invalidRange first c)
    else .ok { p with ranges := (first, c) :: rs, first := false, inRange := false }
  | [] => .ok { p with ranges := [(c, c)], first := false, inRange := false }

/-- The next character of the class. -/
def add (p : ClassProgress) (c : Char) : Except Fault ClassProgress :=
  if p.inRange then p.extend c
  else if c = '-' && !p.first then .ok { p with inRange := true }
  else .ok { p with ranges := (c, c) :: p.ranges, first := false }

/-- The class, in which a hyphen at the end stands for itself. -/
def token (p : ClassProgress) : Token :=
  .oneOf p.negated ((if p.inRange then ('-', '-') :: p.ranges else p.ranges).reverse)

end ClassProgress

/-- What the reader is inside of. -/
inductive Mode where
  | plain
  | escape
  | classStart
  | inClass (p : ClassProgress)

/-- Whether `**` may be a part of its own after the character in front of it. -/
def opensPart (p : Progress) (before : Option Char) : Bool :=
  before = some '/' || !p.groups.isEmpty && (before = some ',' || before = some '{')

/-- Reads what is left of a pattern, where `before` is the character in front of it. -/
def readFrom (p : Progress) (before : Option Char) : Mode → List Char → Except Fault Glob
  | .plain, [] => p.finish
  | .plain, '*' :: '*' :: s =>
    if p.branch.isEmpty then
      match s with
      | [] => readFrom (p.push .deepFront) (some '*') .plain []
      | '/' :: s => readFrom (p.push .deepFront) (some '/') .plain s
      | s => readFrom ((p.push .star).push .star) (some '*') .plain s
    else if opensPart p before then
      match s with
      | [] => readFrom (p.pushDeep true) (some '*') .plain []
      | '/' :: s => readFrom (p.pushDeep false) (some '/') .plain s
      | c :: s =>
        if (c = ',' || c = '}') && !p.groups.isEmpty then
          readFrom (p.pushDeep true) (some '*') .plain (c :: s)
        else readFrom ((p.push .star).push .star) (some '*') .plain (c :: s)
    else readFrom ((p.push .star).push .star) (some '*') .plain s
  | .plain, c :: s =>
    if c = '*' then readFrom (p.push .star) (some c) .plain s
    else if c = '?' then readFrom (p.push .any) (some c) .plain s
    else if c = '[' then readFrom p (some c) .classStart s
    else if c = '{' then readFrom p.openGroup (some c) .plain s
    else if c = '}' then
      match p.closeGroup with
      | .error fault => .error fault
      | .ok p => readFrom p (some c) .plain s
    else if c = ',' then readFrom p.nextBranch (some c) .plain s
    else if c = '\\' then readFrom p (some c) .escape s
    else readFrom (p.push (.literal c)) (some c) .plain s
  | .escape, [] => .error .danglingEscape
  | .escape, c :: s => readFrom (p.push (.literal c)) (some c) .plain s
  | .classStart, [] => .error .unclosedClass
  | .classStart, c :: s =>
    if c = '!' || c = '^' then readFrom p (some c) (.inClass ⟨true, [], true, false⟩) s
    else
      match (⟨false, [], true, false⟩ : ClassProgress).add c with
      | .error fault => .error fault
      | .ok k => readFrom p (some c) (.inClass k) s
  | .inClass _, [] => .error .unclosedClass
  | .inClass k, c :: s =>
    if c = ']' && !k.first then readFrom (p.push k.token) (some c) .plain s
    else
      match k.add c with
      | .error fault => .error fault
      | .ok k => readFrom p (some c) (.inClass k) s

/-- The pattern that a text writes. -/
def ofText (pattern : String) : Except Error Glob :=
  (readFrom .start none .plain pattern.toList).mapError (⟨pattern, ·⟩)

end GrowthScan.Glob
