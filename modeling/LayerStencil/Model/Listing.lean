import LayerStencil.Model.Basic

/-! # Listing of a model

A listing names every item that a model lists itself, kind by kind, with all fields of the item, and
then the aliases.
-/

namespace LayerStencil

/-- The line of an item: its name, a tab, and its fields. -/
def Item.listingLine (item : Item) : String :=
  item.name ++ "\t" ++ Text.joined " " (item.values.entries.map fun f => f.1 ++ "=" ++ f.2.render)

namespace Model

/-- The lines of a kind: a header with the count, the items, and an empty line. -/
def kindListing (m : Model) (kind : Kind) : List String :=
  let items := m.items kind
  ("# " ++ kind.tag ++ " (" ++ Text.decimal items.length ++ ")") ::
    items.map Item.listingLine ++ [""]

/-- The lines of the aliases: a header with the count and a line for each, none without aliases. -/
def aliasListing (m : Model) : List String :=
  match m.aliases.entries with
  | [] => []
  | entries =>
    ("# aliases (" ++ Text.decimal entries.length ++ ")") ::
      entries.map fun e => e.1 ++ " -> " ++ e.2

/-- All lines of the listing. -/
def listingLines (m : Model) : List String := Kind.topLevel.flatMap m.kindListing ++ m.aliasListing

/-- The listing as a text, with a line break after each line. -/
def listing (m : Model) : String := String.join (m.listingLines.map fun line => line ++ "\n")

end Model

end LayerStencil
