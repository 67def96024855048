import LayerStencil.Xml.Event

/-! # Elements of XML

The tree of an XML text. An element that is still open where reading ends is closed there. A reader
may *refuse* an element for the place it stands in: it is then not opened, so that what is in it
belongs to the element around it, which its end closes.
-/

namespace LayerStencil.Xml

/-- The attributes of an element, by name. -/
abbrev Attributes := List (String × String)

/-- The value of an attribute, the last one of a name. -/
def Attributes.value? (a : Attributes) (name : String) : Option String := a.reverse.lookup name

/-- Is there no attribute of a name? -/
def Attributes.lacks (a : Attributes) (name : String) : Bool := (a.value? name).isNone

/-- A piece of text, or an element with its attributes and what is in it. -/
inductive Node where
  | text (s : List Char)
  | element (name : String) (attributes : Attributes) (children : List Node)
deriving Repr, Inhabited

namespace Node

/-! ### Trees of events -/

/-- An element whose end has not been read; `children` come newest first. -/
structure Frame where
  name : String
  attributes : Attributes
  children : List Node
deriving Repr, Inhabited

/-- The element of a frame. -/
def Frame.close (f : Frame) : Node := .element f.name f.attributes f.children.reverse

/-- The frame with one more node. -/
def Frame.push (f : Frame) (node : Node) : Frame := { f with children := node :: f.children }

/-- The outermost element of open frames that all end here; `f` is the innermost, and `outer` the
ones around it, innermost first. -/
def closeAll (f : Frame) : (outer : List Frame) → Node
  | [] => f.close
  | g :: outer => closeAll (g.push f.close) outer

/-- The outermost elements of events, where some frames are open, innermost first. Reading ends
where an element ends and none is open. The elements to refuse are told by the names around them,
innermost first, their own name and their attributes. -/
def ofEvents (refuses : List String → String → Attributes → Bool) :
    (opened : List Frame) → List Event → List Node
  | [], [] => []
  | f :: outer, [] => [closeAll f outer]
  | opened, .start name a :: es =>
    if refuses (opened.map (·.name)) name a then ofEvents refuses opened es
    else ofEvents refuses (⟨name, a, []⟩ :: opened) es
  | [], .stop :: _ => []
  | [f], .stop :: es => f.close :: ofEvents refuses [] es
  | f :: g :: outer, .stop :: es => ofEvents refuses (g.push f.close :: outer) es
  | [], .text _ :: es => ofEvents refuses [] es
  | f :: outer, .text s :: es => ofEvents refuses (f.push (.text s) :: outer) es

/-- The outermost elements of a text. -/
def parse (refuses : List String → String → Attributes → Bool) (cs : List Char) : List Node :=
  ofEvents refuses [] (events cs)

/-! ### The text of elements -/

mutual

/-- All the text in a node; a piece that is only white space counts for nothing. -/
def fullText : Node → List Char
  | .text s => if s.all Text.isBlank then [] else s
  | .element _ _ children => fullTexts children

/-- All the text in some nodes. -/
def fullTexts : List Node → List Char
  | [] => []
  | node :: nodes => fullText node ++ fullTexts nodes

end

/-- The text that stands directly in an element, white space and all, with the text of the elements
in it that have one of some names in its place. -/
def markedText (marks : List String) (children : List Node) : List Char :=
  children.flatMap fun
    | .text s => s
    | .element name _ inner => if marks.contains name then fullTexts inner else []

/-- The texts of the elements of a given name. -/
def textsOf (mark : String) (children : List Node) : List String :=
  children.filterMap fun
    | .text _ => none
    | .element name _ inner => if name = mark then some (String.ofList (fullTexts inner)) else none

end Node

end LayerStencil.Xml
