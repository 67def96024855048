import LayerStencil.Proofs.Template.Spacing

/-! # White space around line forms

A line form takes the white space around it, up to the last line break behind it, and what this
white space is does not matter: `render_relaid` replaces it, before the at sign and behind the text
of the marker, and the template has the same forest and expands to the same text or error. It does
matter where the line form, or one that ends where it starts, holds the at sign of another marker in
its condition (`render_relaid_signInCondition`): the other marker ends inside, and the rest, with
the white space, is text of the template. -/

namespace LayerStencil

/-! ### Line forms -/

namespace Marker

/-- The marker is alone on its lines: it begins with a line, and it ends with a line break. -/
def OnLine (text : List Char) (m : Marker) : Prop :=
  WholeLines (text.take m.start) ∧ (text.take m.stop).getLast? = some '\n'

instance (s : List Char) : Decidable (Blank s) := List.decidableBAll _ s

instance (s : List Char) : Decidable (WholeLines s) := Option.decidableForallMem s.getLast?

instance (text : List Char) (m : Marker) : Decidable (m.OnLine text) :=
  inferInstanceAs (Decidable (_ ∧ _))

/-- A marker that ends with a line break is a line form. -/
theorem line?_of_getLast? {text : List Char} {m : Marker} (hm : m ∈ scan text)
    (hbreak : (text.take m.stop).getLast? = some '\n') :
    WholeLines (text.take m.start) ∧
      ∃ family, Family.line? family (text.drop m.sign) = some (m.mark, text.drop m.stop) := by
  obtain ⟨family, hread⟩ := exists_isRead_of_mem_scan hm
  cases hread with
  | line hstart hread => exact ⟨hstart, family, hread⟩
  | inline hstart hread =>
    obtain ⟨used, c, hused, hc⟩ := Family.endsInLine_of_inline? hread
    have htext : text.take m.stop ++ text.drop m.stop =
        text.take m.sign ++ used ++ [c] ++ text.drop m.stop := by
      rw [List.take_append_drop, List.append_assoc, List.append_assoc, List.singleton_append,
        ← hused, List.take_append_drop]
    rw [List.append_cancel_right htext, List.getLast?_concat] at hbreak
    exact absurd (Option.some.inj hbreak) hc

/-! ### Line forms with other white space -/

/-- The text of a marker without the white space that it takes. -/
def core (text : List Char) (m : Marker) : List Char :=
  Text.trim Text.isWhiteSpace (Text.slice text m.start m.stop)

/-- The text in which a marker takes the white space `before` and `after` instead of its own. -/
def relaid (text : List Char) (m : Marker) (before after : List Char) : List Char :=
  text.take m.start ++ (before ++ (m.core text ++ (after ++ text.drop m.stop)))

/-- A marker alone on its lines is its own text between white space, the last of which is a line
break. -/
structure Parts (text : List Char) (m : Marker) (w t w' : List Char) : Prop where
  text_eq : text = text.take m.start ++ (w ++ (m.core text ++ (w' ++ text.drop m.stop)))
  core_eq : m.core text = '@' :: t
  ended : Ended (m.core text)
  blank : Blank w
  blank' : Blank w'
  lines : WholeLines w'
  ne_nil : w' ≠ []
  length_take : (text.take m.start).length = m.start
  sign_eq : m.sign = m.start + w.length
  stop_eq : m.stop = m.sign + (m.core text).length + w'.length

theorem StandsIn.exists_slice {text : List Char} {family : Family} {m : Marker}
    (h : StandsIn text family m) : ∃ t, Text.slice text m.sign m.stop = '@' :: t := by
  obtain ⟨r, hr⟩ := h.lead
  obtain ⟨i, hi⟩ := Nat.exists_eq_add_of_lt h.sign_lt
  have hhead := head?_lead family r
  rw [← hr] at hhead
  obtain ⟨s, hs⟩ := List.head?_eq_some_iff.mp hhead
  exact ⟨s.take i, by rw [Text.slice, hs, hi, Nat.add_assoc, Nat.add_sub_cancel_left]; rfl⟩

/-- From its at sign on, a marker is its own text and white space. -/
theorem StandsIn.exists_core {text : List Char} {family : Family} {m : Marker}
    (h : StandsIn text family m) : ∃ t w', m.core text = '@' :: t ∧ Ended (m.core text) ∧
      Blank w' ∧ Text.slice text m.sign m.stop = m.core text ++ w' := by
  obtain ⟨s, hs⟩ := h.exists_slice
  have hspan := Text.slice_append text h.start_le (Nat.le_of_lt h.sign_lt)
  -- Trimming takes the white space in front of the at sign, and that at the end.
  have hdrop : (Text.slice text m.start m.stop).dropWhile Text.isWhiteSpace = '@' :: s := by
    rw [← hspan, hs, dropWhile_directive h.blank]
  have hcore : m.core text ++ ('@' :: s).rtakeWhile Text.isWhiteSpace = '@' :: s :=
    hdrop ▸ Text.trim_append Text.isWhiteSpace (Text.slice text m.start m.stop)
  have hended : Ended (m.core text) := Text.not_getLast_rdropWhile Text.isWhiteSpace _
  have hblank : Blank (('@' :: s).rtakeWhile Text.isWhiteSpace) :=
    fun c hc => List.mem_rtakeWhile_imp hc
  generalize ('@' :: s).rtakeWhile Text.isWhiteSpace = w' at hcore hblank
  have hat : ∃ t, m.core text = '@' :: t := by
    cases hnil : m.core text with
    | nil =>
      rw [hnil, List.nil_append] at hcore
      exact absurd (hblank '@' (hcore ▸ List.mem_cons_self)) not_isWhiteSpace_at
    | cons c t =>
      rw [hnil, List.cons_append] at hcore
      exact ⟨t, by rw [(List.cons.inj hcore).1]⟩
  obtain ⟨t, ht⟩ := hat
  exact ⟨t, w', ht, hended, hblank, hs.trans hcore.symm⟩

/-- If a text ends with a line break, so does the white space that it ends with. -/
theorem Ended.getLast?_eq {s w : List Char} (hs : Ended s)
    (h : (s ++ w).getLast? = some '\n') : w.getLast? = some '\n' := by
  rw [List.getLast?_append] at h
  cases hw : w.getLast? with
  | some c => rwa [hw] at h
  | none =>
    rw [hw] at h
    exact absurd (by decide) (hs '\n' h)

theorem exists_parts {text : List Char} {m : Marker} (hm : m ∈ scan text)
    (hline : m.OnLine text) : ∃ w t w', Parts text m w t w' := by
  obtain ⟨family, hstands⟩ := mem_scan hm
  obtain ⟨t, w', hcore, hended, hblank', hslice⟩ := hstands.exists_core
  have hstart := hstands.start_le
  have hlt := hstands.sign_lt
  have hle := hstands.stop_le
  have hspan := Text.slice_append text hstart (Nat.le_of_lt hlt)
  have hlast : w'.getLast? = some '\n' := by
    have htake : text.take m.stop = text.take m.sign ++ m.core text ++ w' := by
      obtain ⟨i, hi⟩ := Nat.exists_eq_add_of_le (Nat.le_of_lt hlt)
      rw [List.append_assoc, ← hslice, Text.slice, hi, List.take_add, Nat.add_sub_cancel_left]
    have hne : m.core text ≠ [] := hcore ▸ List.cons_ne_nil '@' t
    exact (hended.append_left _ hne).getLast?_eq (htake ▸ hline.2)
  have hlen := Text.length_slice (x := m.sign) hle
  rw [hslice, List.length_append] at hlen
  refine ⟨Text.slice text m.start m.sign, t, w', ⟨?_, hcore, hended, hstands.blank, hblank', ?_,
    ?_, ?_, ?_, by omega⟩⟩
  · have htext := Text.take_append_slice text (hstart.trans (Nat.le_of_lt hlt))
    rw [← hspan, hslice] at htext
    simpa only [List.append_assoc] using htext.symm
  · intro c hc
    rw [hlast] at hc
    exact (Option.some.inj hc).symm
  · rintro rfl; cases hlast
  · rw [List.length_take]; omega
  · rw [Text.length_slice (by omega)]; omega

theorem Parts.drop_sign {text : List Char} {m : Marker} {w t w' : List Char}
    (h : Parts text m w t w') : text.drop m.sign = m.core text ++ (w' ++ text.drop m.stop) := by
  have hlen : (text.take m.start ++ w).length = m.sign := by
    rw [List.length_append, h.length_take, h.sign_eq]
  conv_lhs => rw [h.text_eq, ← List.append_assoc]
  exact List.drop_left' hlen

theorem holdsNone_of_spares {text : List Char} {m : Marker} (hm : m ∈ scan text)
    (h : ∀ m' ∈ scan text, m ≠ m' → m.Spares m') : HoldsNone text m := by
  intro m' hm' hlt
  have hspares := h m' hm' (by rintro rfl; omega)
  obtain ⟨_, hstands⟩ := mem_scan hm
  have hstart := hstands.start_le
  unfold Spares at hspares
  omega

open Template in
/-- First the white space in front of the line form is replaced, and then that behind it. -/
theorem sameContent_parts {T w t w' C before after : List Char} (hT : WholeLines T)
    (hended : Ended ('@' :: t)) (hw : Blank w) (hw' : Blank w') (hlines : WholeLines w')
    (hne : w' ≠ []) (hbefore : Blank before) (hafter : Blank after) (hbreak : WholeLines after)
    (hafterNe : after ≠ []) {m : Marker} (hm : m ∈ scan (T ++ (w ++ ('@' :: t ++ (w' ++ C)))))
    (hsign : m.sign = T.length + w.length)
    (hstop : m.stop = m.sign + ('@' :: t).length + w'.length) {family : Family}
    {read : Mark × List Char} (hline : family.line? ('@' :: t ++ (w' ++ C)) = some read)
    (hnone : ∀ a ∈ scan (T ++ (w ++ ('@' :: t ++ (w' ++ C)))), a = m ∨ a.stop = m.start →
      HoldsNone (T ++ (w ++ ('@' :: t ++ (w' ++ C)))) a) :
    SameContent (T ++ (w ++ ('@' :: t ++ (w' ++ C))))
      (T ++ (before ++ ('@' :: t ++ (after ++ C)))) := by
  simp only [List.cons_append] at hm hline hnone ⊢
  obtain ⟨hindent, m', hm', hsign', hstop', hfree'⟩ :=
    sameContent_indent hT hw hbefore hm hsign hline fun a ha hstop => hnone a ha (.inr hstop)
  have htext : ∀ s, T ++ (before ++ '@' :: (t ++ (s ++ C))) =
      (T ++ (before ++ '@' :: t)) ++ (s ++ C) := by
    intro s
    simp
  have hlen : (T ++ (before ++ '@' :: t)).length =
      T.length + before.length + ('@' :: t).length := by
    simp only [List.length_append]; omega
  have hendedFront : Ended (T ++ (before ++ '@' :: t)) := by
    rw [← List.append_assoc]
    exact hended.append_left _ (List.cons_ne_nil _ _)
  have hfree'' := hfree' (hnone m hm (.inl rfl))
  refine hindent.trans ?_
  rw [htext] at hm' hfree''
  rw [htext, htext]
  refine sameContent_trail hendedFront hw' hafter hlines hne hbreak hafterNe hm' ?_ ?_ hfree''
  · rw [hsign', hlen]; simp
  · omega

end Marker

namespace Template

open Marker

/-- **The white space around a line form does not matter.** It may take other white space in front
of its at sign, and other white space that ends with a line break behind its text: the forest of the
template is the same, and over every model the text expands to the same, or fails with the same
error up to lines. The line form must not hold the at sign of another marker, nor may a marker that
ends where the line form starts. -/
theorem render_relaid {text : List Char} {m : Marker} (hm : m ∈ scan text) (hline : m.OnLine text)
    (hspares : ∀ a ∈ scan text, a = m ∨ a.stop = m.start → ∀ b ∈ scan text, a ≠ b → a.Spares b)
    {before after : List Char} (hbefore : Blank before) (hafter : Blank after)
    (hbreak : after.getLast? = some '\n') :
    SameOutcome ParseError.unplaced (fun t t' => t.forest = t'.forest) (parse text)
        (parse (m.relaid text before after)) ∧
      ∀ model, SameOutcome GenerationError.unplaced Eq (render model text)
        (render model (m.relaid text before after)) := by
  obtain ⟨w, t, w', hparts⟩ := exists_parts hm hline
  obtain ⟨hT, family, hread⟩ := line?_of_getLast? hm hline.2
  have hnone : ∀ a ∈ scan text, a = m ∨ a.stop = m.start → HoldsNone text a :=
    fun a ha hat => holdsNone_of_spares ha (hspares a ha hat)
  have hsame : SameContent text (m.relaid text before after) := by
    have htext := hparts.text_eq
    have hended := hparts.ended
    have hlen := hparts.length_take
    have hsign := hparts.sign_eq
    have hstop := hparts.stop_eq
    have hdrop := hparts.drop_sign
    unfold relaid
    rw [hparts.core_eq] at htext hended hstop hdrop ⊢
    have hlast : WholeLines after := by
      intro c hc
      rw [hbreak] at hc
      exact (Option.some.inj hc).symm
    have hsame := sameContent_parts (C := text.drop m.stop) hT hended hparts.blank hparts.blank'
      hparts.lines hparts.ne_nil hbefore hafter hlast (by rintro rfl; cases hbreak)
      (by rw [← htext]; exact hm) (by rw [hlen, hsign]) hstop (hdrop ▸ hread)
      (by rw [← htext]; exact hnone)
    rwa [← htext] at hsame
  exact ⟨hsame.parse, hsame.render⟩

/-- Two conditional parts; the white space between them belongs to a marker of each. -/
def twoIfs : List Char := "@if(True)\ny\n@end if\n\n  @if(True)\nz\n@end if\n".toList

/-- The marker that opens the second part. -/
def secondIf : Marker := ⟨20, 33, 23, .opens "if" (some "True".toList)⟩

/-- The second part with a tab in front of it and an empty line behind its opening marker. -/
theorem render_relaid_twoIfs :
    secondIf.relaid twoIfs "\n\t".toList " \n\n".toList =
      "@if(True)\ny\n@end if\n\n\t@if(True) \n\nz\n@end if\n".toList ∧
    SameOutcome ParseError.unplaced (fun t t' => t.forest = t'.forest) (parse twoIfs)
      (parse (secondIf.relaid twoIfs "\n\t".toList " \n\n".toList)) ∧
    ∀ model, SameOutcome GenerationError.unplaced Eq (render model twoIfs)
      (render model (secondIf.relaid twoIfs "\n\t".toList " \n\n".toList)) := by
  have hscan : scan twoIfs = [⟨0, 10, 0, .opens "if" (some "True".toList)⟩,
      ⟨12, 21, 12, .closes "if"⟩, secondIf, ⟨35, 43, 35, .closes "if"⟩] := by cbv
  refine ⟨by decide, render_relaid ?_ (by decide) ?_ (by decide) (by decide) rfl⟩
  · rw [hscan]; decide
  · rw [hscan]; decide

/-- A line form whose condition holds the at sign of a closing marker, and another line form. -/
def signInCondition : List Char := "@if('@end if' == '')\n@if(True)\n@end if\n".toList

/-- The first line form. -/
def quotedEnd : Marker := ⟨0, 21, 0, .opens "if" (some "'@end if' == ''".toList)⟩

/-- The line form behind it. -/
def laterIf : Marker := ⟨21, 31, 21, .opens "if" (some "True".toList)⟩

/-- The same with an empty line between the two line forms. -/
def signInConditionSpread : List Char := "@if('@end if' == '')\n\n@if(True)\n@end if\n".toList

/-- Behind a line form that holds the at sign of another marker, the white space matters, whether it
is added there or in front of the next line form: the text behind the other marker is expanded, up
to the end of the white space that the first one takes. -/
theorem render_relaid_signInCondition :
    quotedEnd ∈ scan signInCondition ∧ quotedEnd.OnLine signInCondition ∧
    laterIf ∈ scan signInCondition ∧ laterIf.OnLine signInCondition ∧
    Blank "\n\n".toList ∧ "\n\n".toList.getLast? = some '\n' ∧
    quotedEnd.relaid signInCondition [] "\n\n".toList = signInConditionSpread ∧
    laterIf.relaid signInCondition "\n".toList "\n".toList = signInConditionSpread ∧
    render Model.empty signInCondition = .ok "' == '')\n".toList ∧
    render Model.empty signInConditionSpread = .ok "' == '')\n\n".toList ∧
    ¬ SameOutcome GenerationError.unplaced Eq (render Model.empty signInCondition)
      (render Model.empty signInConditionSpread) := by
  have hscan : scan signInCondition = [quotedEnd, ⟨5, 12, 5, .closes "if"⟩, laterIf,
      ⟨31, 39, 31, .closes "if"⟩] := by cbv
  have hparse : parse signInCondition = .ok ⟨signInCondition, [.node .cond
      (some ⟨"'@end if' == ''".toList, .compare .eq (.text "@end if".toList) (.text [])⟩)
      quotedEnd ⟨5, 12, 5, .closes "if"⟩ 1 [],
      .node .cond (some ⟨"True".toList, .literal (.bool true)⟩)
      laterIf ⟨31, 39, 31, .closes "if"⟩ 2 []]⟩ := by cbv
  have hparse' : parse signInConditionSpread = .ok ⟨signInConditionSpread, [.node .cond
      (some ⟨"'@end if' == ''".toList, .compare .eq (.text "@end if".toList) (.text [])⟩)
      { quotedEnd with stop := 22 } ⟨5, 12, 5, .closes "if"⟩ 1 [],
      .node .cond (some ⟨"True".toList, .literal (.bool true)⟩)
      { laterIf with start := 22, stop := 32, sign := 22 } ⟨32, 40, 32, .closes "if"⟩ 3 []]⟩ := by
    cbv
  have hrender : render Model.empty signInCondition = .ok "' == '')\n".toList := by
    rw [render, hparse]; rfl
  have hrender' : render Model.empty signInConditionSpread = .ok "' == '')\n\n".toList := by
    rw [render, hparse']; rfl
  refine ⟨?_, by decide, ?_, by decide, by decide, rfl, by decide, by decide, hrender, hrender', ?_⟩
  · rw [hscan]; decide
  · rw [hscan]; decide
  · rw [hrender, hrender']
    rintro ⟨h⟩
    exact absurd h (by decide)

end Template

end LayerStencil
