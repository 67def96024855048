import LayerStencil.CommandLine.FileTree
import Mathlib.Order.Defs.Unbundled

/-! # Logs in a tree of files

A line of a log changes one file of a tree at most, and only at its end.

* `FileTree.OnlyLogs`: what a log does to a tree; one line after the other (`OnlyLogs.trans`).
* `FileTree.onlyLogs_log`: a tree as a host does this when it takes a line. -/

namespace LayerStencil.CommandLine.FileTree

/-- The second tree is the first one with lines of a log: in the file to which the path leads, if
there is one, more stands at the end. No other file changes, and none comes or goes. -/
structure OnlyLogs (log : Option String) (t t' : FileTree) : Prop where
  directories : t'.directories = t.directories
  places : t'.files.map Prod.fst = t.files.map Prod.fst
  file? : ∀ p, t'.file? p = t.file? p ∨ ∃ path text lines, log = some path ∧
    t.place? path = some p ∧ t.file? p = some text ∧ t'.file? p = some (text ++ lines)

section Places
variable {t t' : FileTree}

/-- Where directories are depends on the places of files alone. -/
theorem isDirectory_congr (hdirectories : t'.directories = t.directories)
    (hplaces : t'.files.map Prod.fst = t.files.map Prod.fst) (p : Place) :
    t'.isDirectory p = t.isDirectory p := by
  have hany (u : FileTree) : (u.files.any fun e => p.isPrefixOf e.1 && p.length < e.1.length) =
      (u.files.map Prod.fst).any fun q => p.isPrefixOf q && p.length < q.length := by
    rw [List.any_map]; rfl
  rw [isDirectory, isDirectory, hdirectories, hany, hany, hplaces]

theorem placeFrom?_congr (hdirectories : t'.directories = t.directories)
    (hplaces : t'.files.map Prod.fst = t.files.map Prod.fst) (names : List String) :
    ∀ here, t'.placeFrom? here names = t.placeFrom? here names := by
  induction names with
  | nil => exact fun _ => rfl
  | cons name rest ih =>
    intro here
    simp only [placeFrom?, isDirectory_congr hdirectories hplaces, ih]

/-- A path leads to the same place in both trees. -/
theorem OnlyLogs.place?_eq {log : Option String} (h : OnlyLogs log t t') (path : String) :
    t'.place? path = t.place? path :=
  Option.bind_congr fun names _ => placeFrom?_congr h.directories h.places names []

end Places

/-! ### Lines one after the other -/

variable {log : Option String} {t t' t'' : FileTree}

theorem OnlyLogs.refl (t : FileTree) : OnlyLogs log t t := ⟨rfl, rfl, fun _ => .inl rfl⟩

theorem OnlyLogs.trans (h : OnlyLogs log t t') (h' : OnlyLogs log t' t'') :
    OnlyLogs log t t'' := by
  refine ⟨h'.directories.trans h.directories, h'.places.trans h.places, fun p => ?_⟩
  rcases h'.file? p with hsame | ⟨path, text, lines, hlog, hplace, htext, hlines⟩
  · rw [hsame]
    exact h.file? p
  · rw [h.place?_eq] at hplace
    right
    rcases h.file? p with hsame | ⟨-, before, earlier, -, -, hbefore, hearlier⟩
    · exact ⟨path, text, lines, hlog, hplace, hsame ▸ htext, hlines⟩
    · obtain rfl : before ++ earlier = text := Option.some.inj (hearlier.symm.trans htext)
      exact ⟨path, before, earlier ++ lines, hlog, hplace, hbefore,
        by rw [hlines, List.append_assoc]⟩

instance : IsPreorder FileTree (OnlyLogs log) where
  refl := .refl
  trans _ _ _ := .trans

/-! ### One line -/

theorem lookup_cons_eq_ite (q r : Place) (text : List Char) (files : List (Place × List Char)) :
    ((r, text) :: files).lookup q = if q = r then some text else files.lookup q := by
  by_cases h : q = r
  · simp [h]
  · simp [List.lookup_cons, beq_false_of_ne h, h]

/-- A file that is there already gets another text, and the others keep theirs. -/
theorem file?_put {p : Place} (h : (t.file? p).isSome) (text : List Char) (q : Place) :
    (t.put p text).file? q = if q = p then some text else t.file? q := by
  have hlookup (files : List (Place × List Char)) :
      (files.map fun e => if e.1 = p then (p, text) else e).lookup q =
        if q = p then (files.lookup q).map fun _ => text else files.lookup q := by
    induction files with
    | nil => simp
    | cons e files ih =>
      obtain ⟨r, old⟩ := e
      by_cases hr : r = p
      · rw [List.map_cons, if_pos hr, lookup_cons_eq_ite, lookup_cons_eq_ite, ih, hr]
        split <;> rfl
      · rw [List.map_cons, if_neg hr, lookup_cons_eq_ite, lookup_cons_eq_ite, ih]
        by_cases hq : q = r
        · rw [if_pos hq, if_pos hq, if_neg (hq ▸ hr)]
        · rw [if_neg hq, if_neg hq]
  rw [put, if_pos h, FileTree.file?, hlookup]
  split
  · next hq =>
    obtain ⟨old, hold⟩ := Option.isSome_iff_exists.mp h
    rw [hq, ← FileTree.file?, hold, Option.map_some]
  · rfl

/-- A text that is put into a file that is there already makes no new place. -/
theorem places_put {p : Place} (h : (t.file? p).isSome) (text : List Char) :
    (t.put p text).files.map Prod.fst = t.files.map Prod.fst := by
  rw [put, if_pos h, List.map_map]
  refine List.map_congr_left fun e _ => ?_
  by_cases hp : e.1 = p <;> simp [hp]

theorem onlyLogs_addLine (t : FileTree) (path line : String) :
    OnlyLogs (some path) t (t.addLine path line) := by
  unfold addLine
  split
  · next p hplace =>
    split
    · next text htext =>
      have hsome : (t.file? p).isSome := by simp [htext]
      refine ⟨by rw [put, if_pos hsome], places_put hsome _, fun q => ?_⟩
      rw [file?_put hsome]
      by_cases hq : q = p
      · exact .inr ⟨path, text, _, rfl, hq ▸ hplace, hq ▸ htext, if_pos hq⟩
      · exact .inl (if_neg hq)
    · exact .refl t
  · exact .refl t

/-- A line for a log changes nothing but the log. -/
theorem onlyLogs_log (log : Option String) (line : String) (t : FileTree) :
    OnlyLogs log t ((Host.log log line : StateM FileTree Unit).run t).2 := by
  cases log with
  | none => exact .refl t
  | some path => exact onlyLogs_addLine t path line

end LayerStencil.CommandLine.FileTree
