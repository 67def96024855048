import LayerStencil.CommandLine.Run
import LayerStencil.Proofs.CommandLine.Log
import LayerStencil.Proofs.Failure
import LayerStencil.Proofs.Target.Shipped

/-! # Runs that fail

A run reads the registry and builds the model before it writes, and once it writes it can only fail
because it cannot write. So a run that fails for another reason leaves all files as they were, but
for the file of the log.

* `Runs`: what an action does to the state, and with which errors it ends.
* `runs_loadModel`: on a tree of files, reading the registry and building the model only log.
* `runs_generation`, `runs_writeInto`: generating does not fail, and writing fails only because it
  cannot write.
* `onlyLogs_of_generate_eq_error`: a run that fails for another reason changes nothing but the
  log. -/

namespace LayerStencil.CommandLine

/-! ### Actions that can fail -/

section Action
variable {σ ε α β : Type} {R : σ → σ → Prop} {P : ε → Prop}

/-- Whether it fails or not, the action leads from a state to one that is related to it, and an
error with which it ends satisfies `P`. -/
structure Runs (R : σ → σ → Prop) (P : ε → Prop) (x : ExceptT ε (StateM σ) α) : Prop where
  moves : ∀ s, R s (x.run.run s).2
  failsOnly : ∀ s, FailsOnly P (x.run.run s).1

/-- Any state may follow. -/
instance isPreorder_anywhere : IsPreorder σ fun _ _ => True where
  refl _ := trivial
  trans _ _ _ _ _ := trivial

variable {x : ExceptT ε (StateM σ) α} {f : α → ExceptT ε (StateM σ) β}

/-- Two steps, one after the other, from a given state. -/
theorem run_bind (x : ExceptT ε (StateM σ) α) (f : α → ExceptT ε (StateM σ) β) (s : σ) :
    (x >>= f).run.run s = match x.run.run s with
      | (.ok a, s') => (f a).run.run s'
      | (.error e, s') => (.error e, s') := by
  show (ExceptT.bindCont f (x.run.run s).1).run (x.run.run s).2 = _
  rcases x.run.run s with ⟨e | a, s'⟩ <;> rfl

theorem Runs.mono {R' : σ → σ → Prop} {P' : ε → Prop} (h : Runs R P x)
    (hR : ∀ s s', R s s' → R' s s') (hP : ∀ e, P e → P' e) : Runs R' P' x :=
  ⟨fun s => hR s _ (h.moves s), fun s => (h.failsOnly s).mono hP⟩

/-- An action that ends with no error but those that satisfy `P`, whatever it does. -/
theorem Runs.anywhere (h : Runs R P x) : Runs (fun _ _ => True) P x :=
  h.mono (fun _ _ _ => trivial) fun _ => id

protected theorem Runs.lift {y : StateM σ α} (h : ∀ s, R s (y.run s).2) :
    Runs R P (ExceptT.lift y : ExceptT ε (StateM σ) α) :=
  ⟨h, fun s => FailsOnly.ok (y.run s).1⟩

section Preorder
variable [IsPreorder σ R]

protected theorem Runs.pure (a : α) : Runs R P (pure a : ExceptT ε (StateM σ) α) :=
  ⟨refl_of R, fun _ => FailsOnly.ok a⟩

protected theorem Runs.throw {e : ε} (h : P e) : Runs R P (throw e : ExceptT ε (StateM σ) α) :=
  ⟨refl_of R, fun _ => FailsOnly.error h⟩

protected theorem Runs.bind (hx : Runs R P x) (hf : ∀ a, Runs R P (f a)) :
    Runs R P (x >>= f) := by
  have hrun (s : σ) : R s ((x >>= f).run.run s).2 ∧ FailsOnly P ((x >>= f).run.run s).1 := by
    have hmoves := hx.moves s
    have hfails := hx.failsOnly s
    rw [run_bind]
    generalize x.run.run s = result at hmoves hfails ⊢
    rcases result with ⟨e | a, s'⟩
    · exact ⟨hmoves, FailsOnly.error (hfails e rfl)⟩
    · exact ⟨trans_of R hmoves ((hf a).moves s'), (hf a).failsOnly s'⟩
  exact ⟨fun s => (hrun s).1, fun s => (hrun s).2⟩

/-- A step that is taken under a condition. -/
protected theorem Runs.ite {b : Bool} {x : ExceptT ε (StateM σ) Unit}
    {f : Unit → ExceptT ε (StateM σ) β} (hx : Runs R P x) (hf : ∀ u, Runs R P (f u)) :
    Runs R P (if b = true then x >>= f else f ()) := by
  split
  · exact hx.bind hf
  · exact hf ()

protected theorem Runs.forIn {γ : Type} {step : γ → ExceptT ε (StateM σ) Unit}
    (hstep : ∀ c, Runs R P (step c)) : ∀ l : List γ, Runs R P
      (ForIn.forIn l PUnit.unit fun c _ => do step c; return ForInStep.yield PUnit.unit)
  | [] => .pure _
  | c :: l => by
    rw [List.forIn_cons]
    refine .bind (.bind (hstep c) fun _ => .pure _) fun r => ?_
    cases r with
    | done _ => exact .pure _
    | yield _ => exact Runs.forIn hstep l

end Preorder

/-- An error that the second step does not end with comes from the first one, and so does the state
in which it ends. -/
theorem Runs.of_bind_eq_error {Q : ε → Prop} (hx : Runs R Q x)
    (hf : ∀ a, Runs (fun _ _ => True) P (f a)) {s s' : σ} {e : ε}
    (h : (x >>= f).run.run s = (.error e, s')) (he : ¬ P e) : R s s' := by
  have hs := hx.moves s
  rw [run_bind] at h
  generalize x.run.run s = result at hs h
  rcases result with ⟨e' | a, s''⟩
  · cases h; exact hs
  · exact absurd ((hf a).failsOnly s'' e (congrArg Prod.fst h)) he

end Action

/-! ### Steps that only log -/

section Log
variable {P : RunError → Prop} (a : Arguments)

theorem runs_say (level : Level) (message : String) :
    Runs (FileTree.OnlyLogs (a.setting? .errfile)) P
      (say a level message : ExceptT RunError (StateM FileTree) Unit) := by
  unfold say
  split
  · exact .lift (FileTree.onlyLogs_log _ _)
  · exact .pure ()

theorem runs_endPhase (name : String) :
    Runs (FileTree.OnlyLogs (a.setting? .errfile)) P
      (endPhase a name : ExceptT RunError (StateM FileTree) Unit) := by
  refine .bind (.lift .refl) fun elapsed => ?_
  split
  · exact runs_say a _ _
  · exact .pure ()

theorem runs_reportDangling (model : Model) :
    Runs (FileTree.OnlyLogs (a.setting? .errfile)) P
      (reportDangling a model : ExceptT RunError (StateM FileTree) Unit) :=
  .bind (.forIn (fun _ => runs_say a _ _) _) fun _ => runs_say a _ _

/-- Going on with a result changes nothing. -/
theorem runs_orFail {ε α : Type} (failure : ε → RunError) (result : Except ε α) :
    Runs (FileTree.OnlyLogs (a.setting? .errfile)) (fun _ => True)
      (orFail failure result : ExceptT RunError (StateM FileTree) α) :=
  ⟨.refl, fun _ _ _ => trivial⟩

theorem runs_loadRegistry (reader : RegistryReader) :
    Runs (FileTree.OnlyLogs (a.setting? .errfile)) (fun _ => True)
      (loadRegistry reader a : ExceptT RunError (StateM FileTree) Registry) := by
  refine .bind (.lift .refl) fun text => ?_
  cases text with
  | none => exact .throw trivial
  | some text =>
    dsimp only
    split
    · exact .bind (.forIn (fun _ => runs_say a _ _) _) fun _ => .pure _
    · exact .throw trivial

theorem runs_buildModel (registry : Registry) (selection : Selection) :
    Runs (FileTree.OnlyLogs (a.setting? .errfile)) (fun _ => True)
      (buildModel a registry selection : ExceptT RunError (StateM FileTree) Model) := by
  refine .ite (runs_say a _ _) fun _ => .bind (runs_orFail a _ _) fun model => ?_
  exact .bind (runs_say a _ _) fun _ => .pure _

/-- Reading the registry and building the model change nothing but the log. -/
theorem runs_loadModel (reader : RegistryReader) :
    Runs (FileTree.OnlyLogs (a.setting? .errfile)) (fun _ => True)
      (loadModel reader a : ExceptT RunError (StateM FileTree) Model) := by
  refine .bind (runs_orFail a _ _) fun selection => .bind (runs_loadRegistry a reader) fun r => ?_
  refine .bind (runs_endPhase a _) fun _ => .bind (runs_buildModel a r selection) fun model => ?_
  exact .bind (runs_endPhase a _) fun _ => .pure model

end Log

/-! ### Steps that fail only if they cannot write -/

/-- The error says that a file or directory cannot be written. -/
def RunError.IsUnwritable (e : RunError) : Prop := ∃ path, e = .unwritable path

/-- The generation of a shipped target does not fail. -/
theorem runs_generation {P : RunError → Prop} {target : Target} (ht : target ∈ Target.shipped)
    (model : Model) (isProtected : Bool) :
    Runs (fun _ _ => True) P (orFail .generation (target.generate model isProtected) :
      ExceptT RunError (StateM FileTree) Generated) := by
  obtain ⟨template, hparse, hexpands⟩ := Target.expands_shipped ht
  obtain ⟨events, hexpand⟩ := hexpands model
  simp only [Target.generate, hparse, hexpand]
  exact .pure _

theorem runs_writeInto (a : Arguments) (filename : String) (text : List Char) :
    Runs (fun _ _ => True) RunError.IsUnwritable
      (writeInto a filename text : ExceptT RunError (StateM FileTree) Unit) := by
  refine .bind (.lift fun _ => trivial) fun made => .ite (.throw ⟨_, rfl⟩) fun _ => ?_
  refine .bind (.lift fun _ => trivial) fun written => ?_
  split
  · exact .throw ⟨_, rfl⟩
  · exact .pure _

theorem runs_writeListing (a : Arguments) (model : Model) :
    Runs (fun _ _ => True) RunError.IsUnwritable
      (writeListing a model : ExceptT RunError (StateM FileTree) Unit) :=
  .bind (runs_writeInto _ _ _) fun _ => (runs_say a _ _).anywhere

theorem runs_writeGenerated (a : Arguments) (generated : Generated) :
    Runs (fun _ _ => True) RunError.IsUnwritable
      (writeGenerated a generated : ExceptT RunError (StateM FileTree) Unit) :=
  .bind (runs_writeInto _ _ _) fun _ => (runs_say a _ _).anywhere

/-! ### The run -/

/-- **A run that fails leaves all files as they were**, unless it fails because a file or directory
cannot be written: lines are added to the file of the log, and nothing else changes. -/
theorem onlyLogs_of_generate_eq_error (reader : RegistryReader) (a : Arguments) {target : Target}
    (ht : target ∈ Target.shipped) {before after : FileTree} {e : RunError}
    (h : (generate reader a target : ExceptT RunError (StateM FileTree) Unit).run.run before =
      (.error e, after)) (he : ¬ e.IsUnwritable) :
    FileTree.OnlyLogs (a.setting? .errfile) before after := by
  refine Runs.of_bind_eq_error (runs_loadModel a reader) ?_ h he
  -- The steps after the model is built.
  intro model
  refine .ite (runs_reportDangling a model).anywhere fun _ => ?_
  refine .ite (runs_writeListing a model) fun _ => ?_
  refine .bind (runs_generation ht _ _) fun generated => ?_
  refine .bind (runs_endPhase a _).anywhere fun _ => ?_
  refine .ite (.forIn (fun _ => (runs_say a _ _).anywhere) _) fun _ => ?_
  exact .bind (runs_writeGenerated a _) fun _ => (runs_endPhase a _).anywhere

/-! ### A registry without extensions -/

/-- Arguments that ask for all there is, and for a log in the directory of the target. -/
def askingForAll : Arguments :=
  ⟨some "vk_struct_member.h", [.dump, .validate, .profile, .time],
    [(.directory, "out"), (.errfile, "out/run.log")], []⟩

/-- The files of a registry without extensions, an earlier listing and a log. -/
def withoutExtensions (log : String) : FileTree :=
  ⟨[(["vk.xml"], "<registry></registry>".toList), (["out", "regdump.txt"], []),
    (["out", "run.log"], log.toList)], []⟩

/-- The run fails as it builds the model, with the end of one phase in the log. -/
theorem generate_withoutExtensions :
    (generate .ofXml askingForAll Target.structMembers :
      ExceptT RunError (StateM FileTree) Unit).run.run (withoutExtensions "") =
    (.error (.registry .noExtensions), withoutExtensions "info: load registry: 0.000s\n") :=
  Prod.ext_iff.mpr ⟨by decide +kernel, by decide +kernel⟩

/-- A run over a registry without extensions leaves the listing and makes no file. -/
theorem onlyLogs_withoutExtensions : ∃ after,
    Target.structMembers ∈ Target.shipped ∧
    (generate .ofXml askingForAll Target.structMembers :
      ExceptT RunError (StateM FileTree) Unit).run.run (withoutExtensions "") =
        (.error (.registry .noExtensions), after) ∧
    ¬ (RunError.registry .noExtensions).IsUnwritable ∧
    FileTree.OnlyLogs (some "out/run.log") (withoutExtensions "") after := by
  have hshipped : Target.structMembers ∈ Target.shipped := by simp [Target.shipped]
  have hcause : ¬ (RunError.registry .noExtensions).IsUnwritable := by
    rintro ⟨path, hpath⟩
    cases hpath
  exact ⟨_, hshipped, generate_withoutExtensions, hcause,
    onlyLogs_of_generate_eq_error .ofXml askingForAll hshipped generate_withoutExtensions hcause⟩

/-- The directory of the target is not as it was: the log is in it. -/
theorem generate_eq_error_changes_log : ∃ after,
    (generate .ofXml askingForAll Target.structMembers :
      ExceptT RunError (StateM FileTree) Unit).run.run (withoutExtensions "") =
        (.error (.registry .noExtensions), after) ∧
    after.file? ["out", "run.log"] ≠ (withoutExtensions "").file? ["out", "run.log"] :=
  ⟨_, generate_withoutExtensions, by decide⟩

end LayerStencil.CommandLine
