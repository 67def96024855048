import LayerStencil.Pattern.Basic
import LayerStencil.Text.Basic

/-! # Reading patterns

A pattern is written with literal characters, `.` for any character but a line break, classes in
square brackets, `\d` and `\w`, punctuation after a backslash, groups, alternatives, repetitions
and the anchors `^` and `$`. It is read in two steps: into tokens, and from these into a tree. A
question mark after a repetition changes which match is preferred but not whether there is one.
Patterns that nest too deep or are too large when written out are refused, and so is all other
syntax that patterns may have: classes inside classes and operations on them, other classes and
characters after a backslash, flags and boundaries.
-/

namespace LayerStencil

/-- A token of a written pattern. -/
inductive PatternToken where
  /-- A class of characters and how deep its written form nests. -/
  | char (s : CharClass) (depth : Nat)
  | openGroup
  | closeGroup
  | bar
  | start
  | stop
  | repeated (low : Nat) (high : Option Nat)
deriving DecidableEq, Repr

namespace PatternToken

/-- The class of a single character. -/
def literal (c : Char) : CharClass := ⟨false, [.range c c]⟩

/-- May the character be written after a backslash to stand for itself? -/
def isEscapable (c : Char) : Bool :=
  c.toNat < 0x80 && !Text.isAsciiAlphanumeric c && c ≠ '<' && c ≠ '>'

/-- What the character after a backslash stands for. -/
def escaped? (c : Char) : Option ClassItem :=
  if c = 'd' then some .digit
  else if c = 'w' then some .word
  else if isEscapable c then some (.range c c)
  else none

/-- The text without a question mark at its start. -/
def skipLazy : List Char → List Char
  | '?' :: r => r
  | r => r

/-- The number at the start of a text, if digits start it, and what follows them. It has at most 32
bits. -/
def count? (cs : List Char) : Option (Nat × List Char) :=
  match cs.takeWhile Text.isAsciiDigit with
  | [] => none
  | digits =>
    let n := Text.numberOf digits
    if n < 4294967296 then some (n, cs.dropWhile Text.isAsciiDigit) else none

/-- The bounds of a repetition after the opening brace, and what follows the closing one. -/
def bounds? (cs : List Char) : Option (PatternToken × List Char) :=
  match count? cs with
  | some (low, '}' :: rest) => some (repeated low (some low), rest)
  | some (low, ',' :: '}' :: rest) => some (repeated low none, rest)
  | some (low, ',' :: r) =>
    match count? r with
    | some (high, '}' :: rest) =>
      if low ≤ high then some (repeated low (some high), rest) else none
    | _ => none
  | _ => none

/-- One member of a class, written as it is or after a backslash, and what follows it. -/
def classMember? : List Char → Option (ClassItem × List Char)
  | '\\' :: c :: r => (escaped? c).map fun item => (item, r)
  | '\\' :: [] => none
  | '[' :: _ => none
  | c :: r => some (.range c c, r)
  | [] => none

/-- The range from one member of a class to another, if both are single characters in order. -/
def range? : ClassItem → ClassItem → Option ClassItem
  | .range a _, .range b _ => if a ≤ b then some (.range a b) else none
  | _, _ => none

/-- Does an operation on classes stand here: an intersection or a difference of two? -/
def isClassOperation : List Char → Bool
  | '&' :: '&' :: _ => true
  | '-' :: '-' :: _ => true
  | '~' :: '~' :: _ => true
  | _ => false

/-- One part of a class, a member or a range of members, and what follows it. A hyphen before the
closing bracket is a member, and two hyphens are no part of a class. -/
def classItem? (cs : List Char) : Option (ClassItem × List Char) :=
  if isClassOperation cs then none
  else match classMember? cs with
  | none => none
  | some (item, '-' :: ']' :: rest) => some (item, '-' :: ']' :: rest)
  | some (_, '-' :: '-' :: _) => none
  | some (item, '-' :: r) =>
    match classMember? r with
    | none => none
    | some (item', rest) => (range? item item').map fun range => (range, rest)
  | some (item, rest) => some (item, rest)

/-- The parts of a class up to the closing bracket, and what follows it, where `n` bounds the number
of parts. -/
def classItems? : Nat → List Char → Option (List ClassItem × List Char)
  | 0, _ => none
  | _ + 1, ']' :: rest => some ([], rest)
  | n + 1, cs =>
    match classItem? cs with
    | none => none
    | some (item, r) => (classItems? n r).map fun (items, rest) => (item :: items, rest)

/-- The hyphens at the start of a class, which are members, and a closing bracket after none of
them, which is a member as well. -/
def classStart (cs : List Char) : List ClassItem × List Char :=
  match cs.takeWhile (· = '-'), cs.dropWhile (· = '-') with
  | [], ']' :: rest => ([.range ']' ']'], rest)
  | hyphens, rest => (hyphens.map fun c => .range c c, rest)

/-- The class after the opening bracket, and what follows the closing one. A class of more than one
part nests two deep. -/
def class? (cs : List Char) : Option (PatternToken × List Char) :=
  let (isNegated, cs) := match cs with
    | '^' :: r => (true, r)
    | _ => (false, cs)
  let (first, r) := classStart cs
  (classItems? (r.length + 1) r).map fun (items, rest) =>
    let items := first ++ items
    (char ⟨isNegated, items⟩ (if items.length ≤ 1 then 1 else 2), rest)

/-- The first token of a written pattern, and what follows it. -/
def next? : List Char → Option (PatternToken × List Char)
  | [] => none
  | '(' :: '?' :: ':' :: r => some (openGroup, r)
  | '(' :: '?' :: _ => none
  | '(' :: r => some (openGroup, r)
  | ')' :: r => some (closeGroup, r)
  | '|' :: r => some (bar, r)
  | '^' :: r => some (start, r)
  | '$' :: r => some (stop, r)
  | '.' :: r => some (char ⟨true, [.range '\n' '\n']⟩ 0, r)
  | '*' :: r => some (repeated 0 none, skipLazy r)
  | '+' :: r => some (repeated 1 none, skipLazy r)
  | '?' :: r => some (repeated 0 (some 1), skipLazy r)
  | '{' :: r => (bounds? r).map fun (t, rest) => (t, skipLazy rest)
  | '[' :: r => class? r
  | '\\' :: c :: r => (escaped? c).map fun item => (char ⟨false, [item]⟩ 0, r)
  | '\\' :: [] => none
  | c :: r => some (char (literal c) 0, r)

/-- All tokens of a written pattern, where `n` bounds their number. -/
def scanUpTo? : Nat → List Char → Option (List PatternToken)
  | _, [] => some []
  | 0, _ :: _ => none
  | n + 1, c :: r =>
    match next? (c :: r) with
    | none => none
    | some (t, rest) => (scanUpTo? n rest).map (t :: ·)

/-- All tokens of a written pattern; every token takes at least one character. -/
def scan? (cs : List Char) : Option (List PatternToken) := scanUpTo? cs.length cs

end PatternToken

namespace Pattern

/-- A pattern and how deep its written form nests: in groups, repetitions, sequences, alternatives
and classes. -/
structure Nested where
  pattern : Pattern
  depth : Nat
deriving DecidableEq, Repr

/-- Patterns, given newest first, joined into one by `join`, which nests one deeper than they do
unless there is a single one. -/
def Nested.joined (join : Pattern → Pattern → Pattern) (newest : Nested) (older : List Nested) :
    Nested :=
  match older with
  | [] => newest
  | _ =>
    ⟨older.foldl (fun acc p => join p.pattern acc) newest.pattern,
      older.foldl (fun depth p => max p.depth depth) newest.depth + 1⟩

/-- The alternatives of a group read so far: the finished ones, and the parts of the current one,
both newest first. -/
structure Group where
  finished : List Nested
  parts : List Nested
deriving DecidableEq, Repr

namespace Group

/-- A group of which nothing has been read. -/
def new : Group := ⟨[], []⟩

/-- One part after another, given newest first. -/
def sequence (parts : List Nested) : Nested :=
  match parts with
  | [] => ⟨.empty, 0⟩
  | p :: ps => Nested.joined .seq p ps

/-- The pattern of a group that is closed now. -/
def close (g : Group) : Nested := Nested.joined .alt (sequence g.parts) g.finished

/-- The group with one more part. -/
def push (g : Group) (p : Pattern) (depth : Nat) : Group :=
  { g with parts := ⟨p, depth⟩ :: g.parts }

/-- The group with its current alternative finished. -/
def bar (g : Group) : Group := ⟨sequence g.parts :: g.finished, []⟩

/-- The group with its last part repeated, if there is one. -/
def repeatLast? (g : Group) (low : Nat) (high : Option Nat) : Option Group :=
  match g.parts with
  | [] => none
  | p :: ps => some { g with parts := ⟨.repeated p.pattern low high, p.depth + 1⟩ :: ps }

end Group

/-- The pattern that tokens spell, where `g` is the innermost open group and `outer` the groups
around it, innermost first. -/
def ofTokens? : (g : Group) → (outer : List Group) → List PatternToken → Option Nested
  | g, [], [] => some g.close
  | _, _ :: _, [] => none
  | g, outer, .char s depth :: ts => ofTokens? (g.push (.char s) depth) outer ts
  | g, outer, .start :: ts => ofTokens? (g.push .start 0) outer ts
  | g, outer, .stop :: ts => ofTokens? (g.push .stop 0) outer ts
  | g, outer, .bar :: ts => ofTokens? g.bar outer ts
  | g, outer, .openGroup :: ts => ofTokens? .new (g :: outer) ts
  | _, [], .closeGroup :: _ => none
  | g, f :: outer, .closeGroup :: ts =>
    ofTokens? (f.push g.close.pattern (g.close.depth + 1)) outer ts
  | g, outer, .repeated low high :: ts =>
    match g.repeatLast? low high with
    | none => none
    | some g => ofTokens? g outer ts

/-- How much room a class takes: there are many word characters. -/
def classSize (s : CharClass) : Nat := if s.items.contains .word then 1408 else 1

/-- The room that a pattern takes with its repetitions written out. -/
def size : Pattern → Nat
  | empty => 1
  | char s => classSize s
  | seq a b => size a + size b
  | alt a b => size a + size b
  | repeated a low high => size a * max 1 (high.getD (low + 1))
  | start => 1
  | stop => 1

/-- The deepest nesting of a pattern. -/
def maxDepth : Nat := 250

/-- The largest size of a pattern: as many characters of 32 bytes as there are in ten mebibytes. All
word characters take more than 45000 bytes. -/
def maxSize : Nat := 327680

/-- The pattern that a text spells, if it spells one. -/
def parse? (cs : List Char) : Option Pattern := do
  let tokens ← PatternToken.scan? cs
  let p ← ofTokens? .new [] tokens
  if p.depth ≤ maxDepth ∧ p.pattern.size ≤ maxSize then return p.pattern else none

end Pattern

end LayerStencil
