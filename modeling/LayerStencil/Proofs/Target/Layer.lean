import LayerStencil.Proofs.Target.Loop
import LayerStencil.Target.Notice
import Mathlib.Data.List.Forall2

/-! # Stencils of layers expand

Every part that the stencils of the layers share expands over every model, whatever fragments it is
given, as long as these can be filled where a command is in scope. The directives of a layer are
loops over commands, and it is known which ones.

* `Guards`: the fragments are the condition of a loop.
* `Looped`: the fragments are lines of text and loops over commands.
* `looped_define`: the definition of the commands that a loop selects. All other parts are put
  together of such definitions and of lines of text. -/

namespace LayerStencil.Layer

open Grammar (Phrase Quotable Relates inQuotes)
open Target (AllFit AreWords Enlists Fits Headed IsWord textOf)

/-- The names of the fields in scope in the definition of a command. -/
abbrev fields : List String := namesInside [.each .command]

/-! ### Conditions -/

/-- The fragments are the condition of the loop. Only a loop for the command of a name has the
condition that holds of this command alone. -/
structure Guards (condition : List String) (loop : Loop) : Prop where
  areWords : AreWords loop.words
  phrase : Phrase fields .conjunction .truth (textOf condition) loop.expr
  isNamed_iff : ∀ name, textOf condition = textOf (isNamed name) ↔ loop = .named name

theorem Guards.of_phrase {condition : List String} {loop : Loop} {cs : List Char} {e : Expr}
    (hwords : AreWords loop.words) (hphrase : Phrase fields .conjunction .truth cs e)
    (htext : textOf condition = cs) (hexpr : e = loop.expr)
    (hnamed : ∀ name, textOf condition = textOf (isNamed name) ↔ loop = .named name) :
    Guards condition loop :=
  ⟨hwords, htext ▸ hexpr ▸ hphrase, hnamed⟩

theorem Guards.of_text_eq {fs gs : List String} {loop : Loop} (h : Guards gs loop)
    (htext : textOf fs = textOf gs) : Guards fs loop :=
  ⟨h.areWords, htext ▸ h.phrase, htext ▸ h.isNamed_iff⟩

theorem guards_isNamed {name : String} (hname : IsWord name) :
    Guards (isNamed name) (.named name) := by
  have hfield : Quotable fields "\x7bfuncName\x7d".toList := .of rfl
  have hequal := Phrase.equality (.inl rfl) (.string hfield) Grammar.relates_eq
    (.string (hname.quotable fields))
  refine .of_phrase (.cons hname .nil) hequal.single (by simp [isNamed, textOf, inQuotes]) rfl
    fun other => ?_
  simp [isNamed, textOf, String.toList_inj]

theorem guards_isOfKind {dispatch : Dispatch} {hasResult isListed : Bool}
    {comparison membership : String} {names words : List String}
    (hcomparison : Relates (if hasResult then .ne else .eq) (' ' :: comparison.toList))
    (hmembership : Relates (if isListed then .isIn else .notIn) (' ' :: membership.toList))
    (hnames : Enlists fields names words) :
    Guards (isOfKind dispatch.word comparison membership names)
      (.ofKind dispatch hasResult isListed words) := by
  have hdispatchField : Quotable fields "\x7bfuncDispatchType\x7d".toList := .of rfl
  have hreturnField : Quotable fields "\x7bfuncReturn\x7d".toList := .of rfl
  have hvoid : Quotable fields "void".toList := .of rfl
  have hnameField : Quotable fields "\x7bfuncName\x7d".toList := .of rfl
  have hequality : CompareOp.IsEquality (if hasResult then .ne else .eq) := by
    cases hasResult with
    | true => exact .inr rfl
    | false => exact .inl rfl
  have hisMembership : CompareOp.IsMembership (if isListed then .isIn else .notIn) := by
    cases isListed with
    | true => exact .inl rfl
    | false => exact .inr rfl
  have hfirst := Phrase.equality (.inl rfl) (.string hdispatchField) Grammar.relates_eq
    (.string ((isWord_word dispatch).quotable fields))
  have hsecond := Phrase.equality hequality (.string hreturnField) hcomparison (.string hvoid)
  have hthird := Phrase.membership hisMembership (.string hnameField) hmembership
    (.list hnames.enumerates Grammar.spaces_nil)
  have hlist : (words.map String.toList).map Expr.text = words.map Expr.wordText := by
    rw [List.map_map]; rfl
  rw [hlist] at hthird
  refine .of_phrase hnames.areWords
    ((hfirst.single.and hsecond Grammar.spaces_nil).and hthird Grammar.spaces_nil)
    (by simp [isOfKind, textOf, inQuotes]) rfl fun name => ?_
  simp [isOfKind, isNamed, textOf]

/-! ### Bodies of definitions -/

/-- The fragments can be filled where a command is in scope. -/
abbrev IsBody (fs : List String) : Prop := AllFit fields fs

theorem isBody_signature : IsBody signature := .cons (.of rfl) (.cons (.of rfl) .nil)

theorem isBody_next {table : String} (htable : IsWord table) : IsBody (next table) :=
  .cons htable.fits (.cons (.of rfl) (.cons (.of rfl) .nil))

theorem isBody_call {table : String} (htable : IsWord table) : IsBody (call table) :=
  .append (.cons (.of rfl) .nil) (isBody_next htable)

theorem isBody_declareResult {value : List String} (h : IsBody value) :
    IsBody (declareResult value) :=
  .append (.cons (.of rfl) .nil) h

theorem isBody_returnResult : IsBody returnResult := .cons (.of rfl) .nil

theorem isBody_tellProperties : IsBody tellProperties := .cons (.of rfl) (.cons (.of rfl) .nil)

theorem isBody_tellExtensions : IsBody tellExtensions := .cons (.of rfl) (.cons (.of rfl) .nil)

/-! ### Loops over commands -/

/-- The head opens the loop. -/
def Loop.Opens (loop : Loop) (head : Head) : Prop :=
  ∃ condition, Guards condition loop ∧
    head = .each .command (some ⟨textOf condition, loop.expr⟩)

/-- The fragments are whole lines and the loops, which expand over every model. -/
def Looped (fs : List String) (loops : List Loop) : Prop :=
  ∃ heads, Headed [] fs heads ∧ List.Forall₂ Loop.Opens loops heads

section Looped
variable {fs gs : List String} {loops loops' : List Loop}

theorem Looped.append (h : Looped fs loops) (h' : Looped gs loops') :
    Looped (fs ++ gs) (loops ++ loops') := by
  obtain ⟨heads, hheaded, hopens⟩ := h
  obtain ⟨heads', hheaded', hopens'⟩ := h'
  exact ⟨heads ++ heads', hheaded.append hheaded', List.rel_append hopens hopens'⟩

/-- Text without loops. -/
theorem Looped.of_headed (h : Headed [] fs []) : Looped fs [] := ⟨[], h, .nil⟩

theorem Looped.flatMap {α : Type} {f : α → List String} {loopOf : α → Loop} : ∀ {xs : List α},
    (∀ x ∈ xs, Looped (f x) [loopOf x]) → Looped (xs.flatMap f) (xs.map loopOf)
  | [], _ => .of_headed .nil
  | x :: xs, h => by
    rw [List.forall_mem_cons] at h
    rw [List.flatMap_cons]
    exact h.1.append (Looped.flatMap h.2)

theorem Looped.arranged (h : Looped fs loops) : Target.Arranged [] fs := by
  obtain ⟨heads, hheaded, -⟩ := h
  exact hheaded.arranged

end Looped

/-! ### Definitions of commands -/

theorem headed_emptyLine : Headed [] ["\n"] [] := .lines (.cons (.of rfl) .nil) rfl rfl

theorem looped_define {condition body : List String} {loop : Loop} (hguards : Guards condition loop)
    (hbody : IsBody body) : Looped (define condition body) [loop] := by
  let inside := signature ++ ["\x7b\x7b\n"] ++ body ++ ["\x7d\x7d\n"]
  have hinside : Headed [.each .command] inside [] := by
    have hopen : IsBody ["\x7b\x7b\n"] := .cons (.of rfl) .nil
    have hclose : IsBody ["\x7d\x7d\n"] := .cons (.of rfl) .nil
    exact .lines (((isBody_signature.append hopen).append hbody).append hclose)
      List.getLast?_concat rfl
  have hloop : Headed []
      (["@foreach function where("] ++ condition ++ [")\n"] ++ inside ++ ["@end function\n"])
      [.each .command (some ⟨textOf condition, loop.expr⟩)] :=
    .loop Grammar.spaces_nil Grammar.spaces_nil hguards.phrase nofun hinside
      (by simp [textOf, ControlKind.endWords, ControlKind.tag, Kind.tag, Marker.whereWord])
  have hwhole : Headed [] (define condition body) _ :=
    (hloop.append headed_emptyLine).of_text_eq (by simp [define, inside, textOf])
  exact ⟨_, hwhole, .cons ⟨condition, hguards, rfl⟩ .nil⟩

theorem looped_defineNamed {name : String} {body : List String} (hname : IsWord name)
    (hbody : IsBody body) : Looped (defineNamed name body) [.named name] :=
  looped_define (guards_isNamed hname) hbody

/-! ### Dispatch tables -/

section Tables
variable {before after : List String} (hbefore : IsBody before) (hafter : IsBody after)
include hbefore hafter

/-- A body that declares its result and returns it, with fragments right before and right after the
declaration. -/
theorem isBody_create {start value finish : List String} (hstart : IsBody start)
    (hvalue : IsBody value) (hfinish : IsBody finish) :
    IsBody (start ++ before ++ declareResult value ++ after ++ finish ++ returnResult) :=
  ((((hstart.append hbefore).append (isBody_declareResult hvalue)).append hafter).append
    hfinish).append isBody_returnResult

theorem looped_createInstance : Looped (createInstance before after)
    [.named "vkCreateInstance"] := by
  refine looped_defineNamed (.of rfl)
    (isBody_create hbefore hafter ?_ (.cons (.of rfl) .nil) ?_)
  all_goals
    repeat refine .cons (.of rfl) ?_
    exact .nil

theorem looped_createDevice : Looped (createDevice before after) [.named "vkCreateDevice"] := by
  refine looped_defineNamed (.of rfl)
    (isBody_create hbefore hafter ?_ (.cons (.of rfl) .nil) ?_)
  all_goals
    repeat refine .cons (.of rfl) ?_
    exact .nil

theorem looped_destroy {table object command : String} (htable : IsWord table)
    (hobject : IsWord object) (hcommand : "vkDestroy" ++ object = command)
    {atEnd : List String} (hatEnd : IsBody atEnd) :
    Looped (destroy table object before after atEnd) [.named command] := by
  have hguards : Guards ["'\x7bfuncName\x7d' == 'vkDestroy", object, "'"] (.named command) := by
    have hname : IsWord command := by
      have hlead : IsWord "vkDestroy" := .of rfl
      intro c hc
      rw [← hcommand, String.toList_append, List.mem_append] at hc
      exact hc.elim (hlead c) (hobject c)
    exact (guards_isNamed hname).of_text_eq (by simp [isNamed, textOf, ← hcommand])
  refine looped_define hguards
    (.append (.append (.append (.append (.append ?_ hbefore) ?_) hafter) ?_) hatEnd)
  · exact .cons (.of rfl) (.cons (.of rfl) .nil)
  · exact .cons (.of rfl) (.cons htable.fits (.cons (.of rfl) (.cons hobject.fits
      (.cons (.of rfl) .nil))))
  · exact .cons (.of rfl) (.cons htable.fits (.cons (.of rfl) .nil))

end Tables

/-- The commands that create and destroy the dispatch tables. -/
def tableCommands : List String :=
  ["vkCreateInstance", "vkDestroyInstance", "vkCreateDevice", "vkDestroyDevice"]

theorem looped_tables {beforeInstance before after report gap : List String}
    (hbeforeInstance : IsBody beforeInstance) (hbefore : IsBody before) (hafter : IsBody after)
    (hreport : IsBody report) (hgap : IsBody gap) :
    Looped (tables beforeInstance before after report gap) (tableCommands.map .named) := by
  have hcreated : IsBody (after ++ report ++ gap) := (hafter.append hreport).append hgap
  exact (((looped_createInstance (hbeforeInstance.append hbefore) hcreated).append
    (looped_destroy hbefore hafter (.of rfl) (.of rfl) rfl hreport)).append
      (looped_createDevice hbefore hcreated)).append
        (looped_destroy hbefore hafter (.of rfl) (.of rfl) rfl hreport)

/-! ### Properties of layers -/

theorem isBody_properties {layer specNote implementationNote : String} (hlayer : IsWord layer)
    (hspec : Fits fields specNote) (himplementation : Fits fields implementationNote) :
    IsBody (properties layer specNote implementationNote) := by
  refine .cons (.of rfl) (.cons (.of rfl) (.cons (.of rfl) (.cons hlayer.fits (.cons (.of rfl)
    (.cons (.of rfl) (.cons hspec (.cons (.of rfl) (.cons (.of rfl) (.cons himplementation
      (.cons (.of rfl) (.cons (.of rfl) (.cons hlayer.fits ?_))))))))))))
  repeat refine .cons (.of rfl) ?_
  exact .nil

theorem isBody_instanceProperties {layer : String} (hlayer : IsWord layer) :
    IsBody (instanceProperties layer) :=
  isBody_properties hlayer (.of rfl) (.of rfl)

theorem isBody_deviceProperties {layer : String} (hlayer : IsWord layer) :
    IsBody (deviceProperties layer) :=
  isBody_properties hlayer (.of rfl) (.of rfl)

/-! ### Commands without a definition of their own -/

theorem enlists_quoted {words : List String} (hne : words ≠ []) (hwords : AreWords words) :
    Enlists fields (quoted words) words :=
  Target.enlists_quotedNames (.of rfl) fields hne hwords

theorem relates_differs : Relates .ne (' ' :: "!=".toList) := by simpa using Grammar.relates_ne

theorem relates_equals : Relates .eq (' ' :: "==".toList) := by simpa using Grammar.relates_eq

theorem relates_notAmong : Relates .notIn (' ' :: "not in".toList) := by
  simpa using Grammar.relates_notIn

theorem areWords_specialInstanceCommands : AreWords specialInstanceCommands := by
  repeat refine .cons (.of rfl) ?_
  exact .nil

theorem areWords_specialDeviceCommands : AreWords specialDeviceCommands := by
  repeat refine .cons (.of rfl) ?_
  exact .nil

/-- The commands of a dispatch with a result. -/
theorem guards_withResult (d : Dispatch) {words : List String} (hne : words ≠ [])
    (hwords : AreWords words) :
    Guards (isOfKind d.word "!=" "not in" (quoted words)) (.ofKind d true false words) :=
  guards_isOfKind relates_differs relates_notAmong (enlists_quoted hne hwords)

/-- The commands of a dispatch without a result. -/
theorem guards_withoutResult (d : Dispatch) {words : List String} (hne : words ≠ [])
    (hwords : AreWords words) :
    Guards (isOfKind d.word "==" "not in" (quoted words)) (.ofKind d false false words) :=
  guards_isOfKind relates_equals relates_notAmong (enlists_quoted hne hwords)

/-- The loops for the commands that call the next layer. -/
def forwardLoops : List Loop := [
  .ofKind .viaInstance true false specialInstanceCommands,
  .ofKind .viaInstance false false specialInstanceCommands,
  .ofKind .viaDevice true false
    (specialDeviceCommands ++ ["vkQueuePresentKHR", "vkGetDeviceProcAddr"]),
  .ofKind .viaDevice false false (specialDeviceCommands ++ ["vkGetDeviceProcAddr"])]

theorem looped_forward {before after : List String} (hbefore : IsBody before)
    (hafter : IsBody after) : Looped (forward before after) forwardLoops := by
  have hresult {table : String} (htable : IsWord table) :
      IsBody (before ++ declareResult (next table) ++ after ++ returnResult) :=
    ((hbefore.append (isBody_declareResult (isBody_next htable))).append hafter).append
      isBody_returnResult
  have hnothing {table : String} (htable : IsWord table) : IsBody (before ++ call table ++ after) :=
    (hbefore.append (isBody_call htable)).append hafter
  have hinstance : IsWord "instance" := .of rfl
  have hdevice : IsWord "device" := .of rfl
  have hpresent : AreWords ["vkQueuePresentKHR", "vkGetDeviceProcAddr"] :=
    .cons (.of rfl) (.cons (.of rfl) .nil)
  have hlookup : AreWords ["vkGetDeviceProcAddr"] := .cons (.of rfl) .nil
  have hforInstance : Headed [] ["// Autogen instance functions\n\n"] [] :=
    .lines (.cons (.of rfl) .nil) rfl rfl
  have hforDevice : Headed [] ["// Autogen device functions\n\n"] [] :=
    .lines (.cons (.of rfl) .nil) rfl rfl
  have hinstanceResult := looped_define (guards_withResult .viaInstance (by decide)
    areWords_specialInstanceCommands) (hresult hinstance)
  have hinstanceNothing := looped_define (guards_withoutResult .viaInstance (by decide)
    areWords_specialInstanceCommands) (hnothing hinstance)
  have hdeviceResult := looped_define (guards_withResult .viaDevice (by decide)
    (areWords_specialDeviceCommands.append hpresent)) (hresult hdevice)
  have hdeviceNothing := looped_define (guards_withoutResult .viaDevice (by decide)
    (areWords_specialDeviceCommands.append hlookup)) (hnothing hdevice)
  exact (((((Looped.of_headed hforInstance).append hinstanceResult).append
    hinstanceNothing).append (.of_headed hforDevice)).append hdeviceResult).append hdeviceNothing

/-! ### Looking up commands by name -/

theorem looped_lookup {command table parameter : String} {condition : List String} {loop : Loop}
    (hcommand : IsWord command) (htable : IsWord table) (hparameter : IsWord parameter)
    (hguards : Guards condition loop) :
    Looped (lookup command table parameter condition) [loop] := by
  let head := ["VK_LAYER_EXPORT VKAPI_ATTR ", "PFN_vkVoidFunction VKAPI_CALL vk", command, "(",
    parameter, " ", table, ", const char* pName)\n", "\x7b\x7b\n"]
  let inside := ["    if(strcmp(pName, \"\x7bfuncName\x7d\") == 0)\n",
    "        return reinterpret_cast<PFN_vkVoidFunction>", "(\x7bfuncName\x7d);\n"]
  let tail := ["\n", "    if(", table, "_dispatch_table(", table, ")->", command, " == NULL)\n",
    "        return NULL;\n", "    return ", table, "_dispatch_table(", table, ")->", command, "(",
    table, ", pName);\n", "\x7d\x7d\n"]
  have hhead : Headed [] head [] := by
    refine .lines (.cons (.of rfl) (.cons (.of rfl) (.cons hcommand.fits (.cons (.of rfl)
      (.cons hparameter.fits (.cons (.of rfl) (.cons htable.fits ?_))))))) rfl rfl
    exact .cons (.of rfl) (.cons (.of rfl) .nil)
  have hinside : Headed [.each .command] inside [] :=
    .lines (.cons (.of rfl) (.cons (.of rfl) (.cons (.of rfl) .nil))) rfl rfl
  have htail : Headed [] tail [] := by
    refine .lines (.cons (.of rfl) (.cons (.of rfl) (.cons htable.fits (.cons (.of rfl)
      (.cons htable.fits (.cons (.of rfl) (.cons hcommand.fits (.cons (.of rfl) (.cons (.of rfl)
        (.cons (.of rfl) (.cons htable.fits (.cons (.of rfl) (.cons htable.fits (.cons (.of rfl)
          (.cons hcommand.fits (.cons (.of rfl) (.cons htable.fits ?_))))))))))))))))) rfl rfl
    exact .cons (.of rfl) (.cons (.of rfl) .nil)
  have hloop : Headed [] (["    @foreach function where("] ++ condition ++ [")\n"] ++ inside ++
      ["    @end function\n"]) [.each .command (some ⟨textOf condition, loop.expr⟩)] :=
    .loop Grammar.spaces_four Grammar.spaces_four hguards.phrase nofun hinside
      (by simp [textOf, ControlKind.endWords, ControlKind.tag, Kind.tag, Marker.whereWord])
  have hwhole : Headed [] (lookup command table parameter condition) _ :=
    ((hhead.append hloop).append htail).of_text_eq
      (by simp [lookup, head, inside, tail, textOf])
  exact ⟨_, hwhole, .cons ⟨condition, hguards, rfl⟩ .nil⟩

/-- The loops of the two commands that look up others by name. -/
def lookupLoops : List Loop :=
  [.ofType "instance" ["vkEnumerateDeviceExtensionProperties"], .ofType "device" []]

theorem looped_lookups : Looped lookups lookupLoops := by
  have htype : Quotable fields "\x7bfuncType\x7d".toList := .of rfl
  have hname : Quotable fields "\x7bfuncName\x7d".toList := .of rfl
  have hinstance : IsWord "instance" := .of rfl
  have hdevice : IsWord "device" := .of rfl
  have hexcepted : AreWords ["vkEnumerateDeviceExtensionProperties"] := .cons (.of rfl) .nil
  have hnames := (enlists_quoted (List.cons_ne_nil _ _) hexcepted).enumerates
  have hlist := Phrase.list (hnames.space Grammar.spaces_one) Grammar.spaces_one
  have hofInstance := Phrase.equality (.inl rfl) (.string htype) Grammar.relates_eq
    (.string (hinstance.quotable fields))
  have hofDevice := Phrase.equality (.inl rfl) (.string htype) Grammar.relates_eq
    (.string (hdevice.quotable fields))
  have hnot := Phrase.membership (.inr rfl) (.string hname) Grammar.relates_notIn hlist
  refine .append (.append (looped_lookup (.of rfl) (.of rfl) (.of rfl) ?_)
    (.of_headed headed_emptyLine)) (looped_lookup (.of rfl) (.of rfl) (.of rfl) ?_)
  · exact .of_phrase (.cons hinstance hexcepted) (hofInstance.single.and hnot Grammar.spaces_one)
      (by simp [quoted, Target.quotedNames, textOf, inQuotes]) rfl
      fun name => by simp [isNamed, textOf]
  · exact .of_phrase (.cons hdevice .nil) hofDevice.single (by simp [textOf, inQuotes]) rfl
      fun name => by simp [isNamed, textOf]

/-! ### All loops of a stencil -/

/-- The loops of a stencil: for each command with a definition of its own, for the other commands,
and for the commands that are looked up. -/
def loops (own : List String) (others : List Loop) : List Loop :=
  own.map .named ++ others ++ lookupLoops

/-- The commands that tell the extensions and the properties of the layer. -/
def reportCommands : List String :=
  ["vkEnumerateInstanceExtensionProperties", "vkEnumerateInstanceLayerProperties",
    "vkEnumerateDeviceLayerProperties"]

/-- The commands with a definition of their own in the layers that call the next layer. -/
def ownCommands : List String := tableCommands ++ reportCommands ++ ["vkQueuePresentKHR"]

/-! ### The start of a stencil -/

theorem headed_notice {year : String} (hyear : IsWord year) :
    Headed [] (Target.notice year) [] := by
  refine .lines (.cons (.of rfl) (.cons (.of rfl) (.cons (.of rfl) (.cons hyear.fits ?_)))) rfl rfl
  repeat refine .cons (.of rfl) ?_
  exact .nil

theorem headed_headings : Headed [] headings [] := by
  refine .lines ?_ rfl rfl
  repeat refine .cons (.of rfl) ?_
  exact .nil

theorem headed_includes : ∀ {names : List String}, AllFit [] names → Headed [] (includes names) []
  | [], _ => .nil
  | name :: names, h => by
    obtain ⟨hname, hnames⟩ := List.forall_mem_cons.mp h
    have hline : Headed [] ["#include ", name, "\n"] [] :=
      .lines (.cons (.of rfl) (.cons hname (.cons (.of rfl) .nil))) rfl rfl
    exact hline.append (headed_includes hnames)

theorem allFit_loaderHeaders : AllFit [] loaderHeaders := by
  repeat refine .cons (.of rfl) ?_
  exact .nil

end LayerStencil.Layer
