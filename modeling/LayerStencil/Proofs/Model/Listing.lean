import LayerStencil.Model.Listing
import LayerStencil.Proofs.Text.Lines
import Mathlib.Data.List.Basic

/-! # What a listing lists

A listing names the items that a model lists itself, one on each line, under the header of their
kind, and the aliases. The line of an item holds its name and its fields, so a line break in one of
them breaks the line; and the parts of the items (parameters, members, choices and options) have no
lines.

* `Model.completeLines`: the lines of a listing with the parts of every item behind it.
* `Model.forall_listingLines_iff`: which texts have to be free of line breaks.
* `Model.lines_listing_iff`: when a listing consists of its lines, and when of the complete ones. -/

namespace LayerStencil

/-- The line of an item, and a line for each of its parts. -/
def Item.ownLines (item : Item) : List String :=
  item.listingLine :: item.parts.map Item.listingLine

namespace Model

/-- The header of a kind, with the number of its items. -/
def kindHeader (m : Model) (kind : Kind) : String :=
  "# " ++ kind.tag ++ " (" ++ Text.decimal (m.items kind).length ++ ")"

/-- The lines of a listing of all items and of all their parts. -/
def completeLines (m : Model) : List String :=
  (Kind.topLevel.flatMap fun kind =>
    m.kindHeader kind :: (m.items kind).flatMap Item.ownLines ++ [""]) ++ m.aliasListing

/-- No name, no field and no alias that is listed holds a line break. -/
structure HasPlainText (m : Model) : Prop where
  items : ∀ kind ∈ Kind.topLevel, ∀ item ∈ m.items kind,
    '\n' ∉ item.name.toList ∧ ∀ field ∈ item.fields, '\n' ∉ field.2.render.toList
  aliases : ∀ entry ∈ m.aliases.entries, '\n' ∉ entry.1.toList ∧ '\n' ∉ entry.2.toList

end Model

/-! ### Line breaks -/

theorem newline_not_mem_decimal (n : Nat) : '\n' ∉ (Text.decimal n).toList := by
  have htext : (Text.decimal n).toList = Nat.toDigits 10 n := Nat.toList_repr
  rw [htext]
  intro h
  exact absurd (Nat.isDigit_of_mem_toDigits (by decide) (by decide) h) (by decide)

theorem Kind.newline_not_mem_tag (kind : Kind) : '\n' ∉ kind.tag.toList := by
  cases kind <;> decide

theorem Kind.newline_not_mem_vocabulary (kind : Kind) :
    ∀ name ∈ kind.vocabulary, '\n' ∉ name.toList := by
  cases kind <;> decide

theorem Item.newline_not_mem_field (item : Item) :
    ∀ field ∈ item.fields, '\n' ∉ field.1.toList := by
  intro field hfield
  have hname : field.1 ∈ item.vocabulary := item.map_fst_fields ▸ List.mem_map_of_mem hfield
  rw [Item.vocabulary] at hname
  cases hkind : item.kind? with
  | none => simp [hkind] at hname
  | some kind =>
    rw [hkind] at hname
    exact kind.newline_not_mem_vocabulary _ hname

/-- A line break in the line of an item comes from its name or from the value of a field. -/
theorem Item.newline_not_mem_listingLine_iff (item : Item) :
    '\n' ∉ item.listingLine.toList ↔
      '\n' ∉ item.name.toList ∧ ∀ field ∈ item.fields, '\n' ∉ field.2.render.toList := by
  have htab : '\n' ∉ ("\t" : String).toList := by decide
  have hequals : '\n' ∉ ("=" : String).toList := by decide
  have hfields : '\n' ∉ (Text.joined " "
      (item.values.entries.map fun f => f.1 ++ "=" ++ f.2.render)).toList ↔
        ∀ field ∈ item.fields, '\n' ∉ field.2.render.toList := by
    rw [Text.mem_joined_iff (by decide), not_exists]
    simp only [List.mem_map, not_and, forall_exists_index, and_imp]
    constructor
    · intro h field hfield hbreak
      refine h _ field hfield rfl ?_
      rw [String.toList_append]
      exact List.mem_append_right _ hbreak
    · rintro h _ field hfield rfl
      simp only [String.toList_append, List.mem_append, not_or]
      exact ⟨⟨item.newline_not_mem_field field hfield, hequals⟩, h field hfield⟩
  rw [Item.listingLine, String.toList_append, String.toList_append, List.mem_append,
    List.mem_append, not_or, not_or, hfields]
  exact ⟨fun h => ⟨h.1.1, h.2⟩, fun h => ⟨⟨h.1, htab⟩, h.2⟩⟩

namespace Model

variable (m : Model)

theorem newline_not_mem_header (n : Nat) {lead : String} (hlead : '\n' ∉ lead.toList) :
    '\n' ∉ (lead ++ Text.decimal n ++ ")").toList := by
  have h := newline_not_mem_decimal n
  simp [hlead, h]

/-- The lines of the aliases are free of line breaks if the aliases and their targets are. -/
theorem forall_aliasListing_iff : (∀ line ∈ m.aliasListing, '\n' ∉ line.toList) ↔
    ∀ entry ∈ m.aliases.entries, '\n' ∉ entry.1.toList ∧ '\n' ∉ entry.2.toList := by
  have hline : ∀ entry : String × String, '\n' ∉ (entry.1 ++ " -> " ++ entry.2).toList ↔
      '\n' ∉ entry.1.toList ∧ '\n' ∉ entry.2.toList := by
    intro entry
    simp
  have hlead : '\n' ∉ ("# aliases (" : String).toList := by decide
  have hheader := newline_not_mem_header m.aliases.entries.length hlead
  cases hentries : m.aliases.entries with
  | nil => simp [aliasListing, hentries]
  | cons entry entries =>
    rw [hentries] at hheader
    simp only [aliasListing, hentries]
    rw [List.forall_mem_cons, List.forall_mem_map]
    simp only [hline]
    exact and_iff_right hheader

theorem forall_kindListing_iff (kind : Kind) :
    (∀ line ∈ m.kindListing kind, '\n' ∉ line.toList) ↔ ∀ item ∈ m.items kind,
      '\n' ∉ item.name.toList ∧ ∀ field ∈ item.fields, '\n' ∉ field.2.render.toList := by
  have hlead : '\n' ∉ ("# " ++ kind.tag ++ " (").toList := by
    simp [kind.newline_not_mem_tag]
  have hheader := newline_not_mem_header (m.items kind).length hlead
  have hempty : '\n' ∉ ("" : String).toList := by decide
  rw [kindListing, List.cons_append, List.forall_mem_cons, List.forall_mem_append,
    List.forall_mem_map, List.forall_mem_singleton]
  simp only [Item.newline_not_mem_listingLine_iff]
  exact ⟨fun h => h.2.1, fun h => ⟨hheader, h, hempty⟩⟩

/-- **What has to be free of line breaks** so that the lines of a listing are. -/
theorem forall_listingLines_iff :
    (∀ line ∈ m.listingLines, '\n' ∉ line.toList) ↔ m.HasPlainText := by
  rw [listingLines, List.forall_mem_append, forall_aliasListing_iff, List.forall_mem_flatMap]
  simp only [forall_kindListing_iff]
  exact ⟨fun h => ⟨h.1, h.2⟩, fun h => ⟨h.items, h.aliases⟩⟩

/-! ### Lines of parts -/

/-- The complete lines hold one more line for every part. -/
theorem length_flatMap_ownLines (kinds : List Kind) :
    (kinds.flatMap fun kind =>
      m.kindHeader kind :: (m.items kind).flatMap Item.ownLines ++ [""]).length =
      (kinds.flatMap m.kindListing).length +
        (kinds.flatMap fun kind => (m.items kind).flatMap Item.parts).length := by
  have hitems : ∀ items : List Item, (items.flatMap Item.ownLines).length =
      items.length + (items.flatMap Item.parts).length := by
    intro items
    induction items with
    | nil => rfl
    | cons item items ih =>
      simp only [List.flatMap_cons, List.length_append, ih, Item.ownLines, List.length_cons,
        List.length_map]
      omega
  induction kinds with
  | nil => rfl
  | cons kind kinds ih =>
    simp only [List.flatMap_cons, List.length_append, ih, List.length_cons, hitems, kindListing,
      List.length_map]
    omega

/-- The lines of a listing are the complete ones if and only if no item has parts. -/
theorem listingLines_eq_completeLines_iff : m.listingLines = m.completeLines ↔
    ∀ kind ∈ Kind.topLevel, ∀ item ∈ m.items kind, item.parts = [] := by
  constructor
  · intro h kind hkind item hitem
    have hlength := congrArg List.length h
    rw [listingLines, completeLines, List.length_append, List.length_append,
      length_flatMap_ownLines] at hlength
    have hnil : (Kind.topLevel.flatMap fun kind => (m.items kind).flatMap Item.parts) = [] :=
      List.eq_nil_of_length_eq_zero (by omega)
    exact List.flatMap_eq_nil_iff.mp (List.flatMap_eq_nil_iff.mp hnil kind hkind) item hitem
  · intro h
    have hkind : ∀ kind ∈ Kind.topLevel, m.kindListing kind =
        m.kindHeader kind :: (m.items kind).flatMap Item.ownLines ++ [""] := by
      intro kind hkind
      have hown : ∀ item ∈ m.items kind, item.ownLines = [item.listingLine] := by
        intro item hitem
        rw [Item.ownLines, h kind hkind item hitem, List.map_nil]
      rw [kindListing, List.flatMap_congr hown, ← List.map_eq_flatMap]
      rfl
    rw [listingLines, completeLines, List.flatMap_congr hkind]

/-- The lines of a listing are among the complete ones if these are all without line breaks. -/
theorem hasPlainText_of_completeLines (h : ∀ line ∈ m.completeLines, '\n' ∉ line.toList) :
    m.HasPlainText := by
  rw [completeLines, List.forall_mem_append, List.forall_mem_flatMap] at h
  refine ⟨fun kind hkind item hitem => ?_, m.forall_aliasListing_iff.mp h.2⟩
  refine item.newline_not_mem_listingLine_iff.mp (h.1 kind hkind _ ?_)
  refine List.mem_append_left _ (List.mem_cons_of_mem _ ?_)
  exact List.mem_flatMap.mpr ⟨item, hitem, List.mem_cons_self⟩

theorem fields_listing_eq_listingLines_iff :
    Text.fields '\n' m.listing = m.listingLines ++ [""] ↔ m.HasPlainText :=
  (Text.fields_lines_iff m.listingLines).trans m.forall_listingLines_iff

theorem fields_listing_eq_completeLines_iff :
    Text.fields '\n' m.listing = m.completeLines ++ [""] ↔
      m.HasPlainText ∧ ∀ kind ∈ Kind.topLevel, ∀ item ∈ m.items kind, item.parts = [] := by
  constructor
  · intro h
    have hplain := m.hasPlainText_of_completeLines fun line hline =>
      Text.newline_not_mem_of_mem_fields (h ▸ List.mem_append_left _ hline)
    rw [m.fields_listing_eq_listingLines_iff.mpr hplain] at h
    exact ⟨hplain, m.listingLines_eq_completeLines_iff.mp (List.append_cancel_right h)⟩
  · rintro ⟨hplain, hparts⟩
    rw [m.fields_listing_eq_listingLines_iff.mpr hplain,
      m.listingLines_eq_completeLines_iff.mpr hparts]

/-- **The lines of a listing.** Its text consists of the headers, one line for each item under the
header of its kind, and the aliases, if and only if no listed name, field or alias holds a line
break. It also has a line for each part of every item if and only if, besides, no item has any
parts. -/
theorem lines_listing_iff :
    (Text.fields '\n' m.listing = m.listingLines ++ [""] ↔ m.HasPlainText) ∧
    (Text.fields '\n' m.listing = m.completeLines ++ [""] ↔
      m.HasPlainText ∧ ∀ kind ∈ Kind.topLevel, ∀ item ∈ m.items kind, item.parts = []) :=
  ⟨m.fields_listing_eq_listingLines_iff, m.fields_listing_eq_completeLines_iff⟩

/-- A model with an enum that has one option. -/
def oneOption : Model where
  __ := Model.empty
  enums := [{ name := "VkMode", options := [⟨"FAST", "0", false, false⟩] }]

/-- A model with a command whose call is followed by two lines of code. -/
def twoLines : Model where
  __ := Model.empty
  commands := [{ (default : Command) with name := "vkRun", trackedState := some "if (ok)\nrun();" }]

/-- **An option has no line**, although no text holds a line break; and the line of a command is
broken by a line break in a field that is not its name, its type or a declaration. -/
theorem lines_listing_ne_complete :
    oneOption.HasPlainText ∧
    Text.fields '\n' oneOption.listing ≠ oneOption.completeLines ++ [""] ∧
    Text.fields '\n' twoLines.listing ≠ twoLines.listingLines ++ [""] := by
  refine ⟨⟨by decide +kernel, by decide⟩, fun h => ?_, fun h => ?_⟩
  · have hparts := ((fields_listing_eq_completeLines_iff _).mp h).2 .enum (by decide) _ (.head _)
    cases hparts
  · have hplain := (fields_listing_eq_listingLines_iff _).mp h
    have hfield := (hplain.items .command (by decide) _ (.head _)).2
      ("funcStateTrackingCode", .str "if (ok)\nrun();") (by decide)
    exact hfield (by decide)

end Model

end LayerStencil
