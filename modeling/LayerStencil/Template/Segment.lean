import LayerStencil.Text.Classes
import LayerStencil.Value

/-! # Segments of a stencil text

A stencil text is a sequence of literal runs and fields. A field is a name between braces, and a
brace that is meant literally is written twice. `segments` reads a text, `encode` writes one, and
`substitute` puts the values of a scope in the places of the fields.
-/

namespace LayerStencil

/-- A literal run or the name of a field. -/
inductive Segment where
  | text (s : List Char)
  | field (name : String)
deriving DecidableEq, Repr, Inhabited

/-- Why a text has no segments: the byte offset of the first brace that cannot be read. -/
inductive SegmentError where
  /-- A closing brace that stands alone. -/
  | strayClose (offset : Nat)
  /-- An opening brace that is neither doubled nor the start of a field. -/
  | malformed (offset : Nat)
deriving DecidableEq, Repr

/-- Why values cannot be put into a text. -/
inductive SubstituteError where
  | unbound (name : String)
  | segment (cause : SegmentError)
deriving DecidableEq, Repr

/-- The message of a text that has no segments. -/
def SegmentError.message : SegmentError → String
  | strayClose offset => "single '\x7d' encountered at offset " ++ Text.decimal offset
  | malformed offset => "malformed placeholder at offset " ++ Text.decimal offset

/-- The message of a failed substitution. -/
def SubstituteError.message : SubstituteError → String
  | unbound name => "unbound placeholder \x7b" ++ name ++ "\x7d"
  | segment cause => cause.message

namespace Segment

/-! ### Reading -/

/-- Is the character no brace? -/
def isPlain (c : Char) : Bool := c ≠ '{' && c ≠ '}'

/-- The first segment of a text and what follows it. -/
def next? : List Char → Option (Segment × List Char)
  | [] => none
  | '{' :: '{' :: r => some (text ['{'], r)
  | '}' :: '}' :: r => some (text ['}'], r)
  | '{' :: r =>
    match r.takeWhile Text.isNameChar, r.dropWhile Text.isNameChar with
    | c :: name, '}' :: rest => some (field (String.ofList (c :: name)), rest)
    | _, _ => none
  | '}' :: _ => none
  | c :: r => some (text (c :: r.takeWhile isPlain), r.dropWhile isPlain)

theorem length_lt_of_next? {cs rest : List Char} {s : Segment} (h : next? cs = some (s, rest)) :
    rest.length < cs.length := by
  have drop_le (p : Char → Bool) (l : List Char) : (l.dropWhile p).length ≤ l.length :=
    (List.dropWhile_sublist p).length_le
  unfold next? at h
  split at h
  · cases h
  · simp only [Option.some.injEq, Prod.mk.injEq] at h
    simp only [← h.2, List.length_cons]; omega
  · simp only [Option.some.injEq, Prod.mk.injEq] at h
    simp only [← h.2, List.length_cons]; omega
  · split at h
    · rename_i r _ _ _ _ _ _ _ hr
      have := drop_le Text.isNameChar r
      simp only [Option.some.injEq, Prod.mk.injEq] at h
      rw [hr] at this
      simp only [← h.2, List.length_cons] at this ⊢; omega
    · cases h
  · cases h
  · rename_i r _ _ _ _
    have := drop_le isPlain r
    simp only [Option.some.injEq, Prod.mk.injEq] at h
    simp only [← h.2, List.length_cons]; omega

/-- The segments at the start of a text, and the text from the first place that cannot be read. -/
def scan (cs : List Char) : List Segment × List Char :=
  match h : next? cs with
  | none => ([], cs)
  | some (s, rest) =>
    have := length_lt_of_next? h
    let (segs, unread) := scan rest
    (s :: segs, unread)
termination_by cs.length

/-- The segments of a text. -/
def segments (cs : List Char) : Except SegmentError (List Segment) :=
  match scan cs with
  | (segs, []) => .ok segs
  | (_, '}' :: rest) => .error (.strayClose (Text.byteLength cs - Text.byteLength ('}' :: rest)))
  | (_, rest) => .error (.malformed (Text.byteLength cs - Text.byteLength rest))

/-! ### Writing -/

/-- A literal run with its braces doubled. -/
def escape (s : List Char) : List Char :=
  s.flatMap fun c => if isPlain c then [c] else [c, c]

/-- The written form of a segment. -/
def written : Segment → List Char
  | text s => escape s
  | field name => '{' :: name.toList ++ ['}']

/-- The text that reads as the given segments. -/
def encode (segs : List Segment) : List Char := segs.flatMap written

/-! ### Substitution -/

/-- The text that a segment stands for in a scope. -/
def fill (values : Values) : Segment → Except SubstituteError (List Char)
  | text s => .ok s
  | field name =>
    match values.get? name with
    | some value => .ok value.render.toList
    | none => .error (.unbound name)

/-- The texts of all segments in order, or the error of the first one that has none. -/
def fillAll (values : Values) : List Segment → Except SubstituteError (List Char)
  | [] => .ok []
  | s :: segs =>
    match fill values s with
    | .error e => .error e
    | .ok head =>
      match fillAll values segs with
      | .error e => .error e
      | .ok tail => .ok (head ++ tail)

/-- A stencil text with the values of a scope in the places of its fields. A text without braces
stays as it is. -/
def substitute (values : Values) (cs : List Char) : Except SubstituteError (List Char) :=
  if cs.all isPlain then .ok cs
  else
    match segments cs with
    | .error e => .error (.segment e)
    | .ok segs => fillAll values segs

end Segment

end LayerStencil
