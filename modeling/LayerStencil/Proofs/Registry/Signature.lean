import LayerStencil.Proofs.Registry.SelfContained

/-! # Signatures of command aliases

A command alias takes its signature from the definition that the index has for its target, and of
several definitions of one name the index has the last. The target itself is built from the first
entry of its name. The two agree if these two definitions declare the same.

* `CommandDefinition.signature?`: what a definition declares, whatever name the command has.
* `Registry.HasFirstDefinition`, `Registry.HasLastDefinition`: the two definitions.
* `Registry.signature_eq_iff_of_build`: when an alias has the signature of its target. -/

namespace LayerStencil

/-! ### Signatures -/

/-- The result of a command and the declarations of its parameters, position by position. -/
def Command.signature (command : Command) : String × List Declaration :=
  (command.returnType, command.parameters.map Parameter.declaration)

/-- The signature that a definition gives to commands, unless a parameter has no declaration. -/
def CommandDefinition.signature? (c : Convention) (d : CommandDefinition) :
    Option (String × List Declaration) :=
  match d.parametersOf c d.proto.name with
  | .ok parameters => some (d.returnType, parameters.map Parameter.declaration)
  | .error _ => none

section Signature
variable {c : Convention} {d : CommandDefinition}

/-- Whose part a declaration is shows in errors only. -/
theorem partDeclaration_of_eq_ok {owner owner' code : String} {length optional : Option String}
    {declaration : Declaration} (h : partDeclaration owner code length optional = .ok declaration) :
    partDeclaration owner' code length optional = .ok declaration := by
  unfold partDeclaration at h ⊢
  split at h
  · cases h
  · exact h

/-- The declarations of the parameters are those of the definition, whatever the command is
called. -/
theorem CommandDefinition.signature?_of_parametersOf {name : String} {parameters : List Parameter}
    (h : d.parametersOf c name = .ok parameters) :
    d.signature? c = some (d.returnType, parameters.map Parameter.declaration) := by
  obtain ⟨declarations, hdeclarations, h⟩ := exists_of_bind_eq_ok h
  cases h
  have hown : (d.parameters.filter fun p => c.applies p.apis).mapM (fun p =>
      partDeclaration d.proto.name p.declaration.code p.length p.optional) = .ok declarations :=
    mapM_of_eq_ok (fun _ _ => partDeclaration_of_eq_ok) hdeclarations
  rw [signature?, parametersOf, hown]
  show some (d.returnType, List.map Parameter.declaration (declarations.zipIdx.map _)) = _
  simp

theorem Command.signature_ofDefinition {extensions : List Extension} {positions : Dict Nat}
    {name : String} {aliasOf : Option String} {command : Command}
    (h : Command.ofDefinition c extensions positions name aliasOf d = .ok command) :
    d.signature? c = some command.signature := by
  obtain ⟨parameters, hparameters, h⟩ := exists_of_bind_eq_ok h
  cases h
  rw [CommandDefinition.signature?_of_parametersOf hparameters, Command.signature]

end Signature

/-! ### Definitions of one name -/

namespace Registry

variable {c : Convention} {s : Selection} {r : Registry} {m : Model} {name : String}
  {d : CommandDefinition}

/-- The definition is the last of a name. -/
def HasLastDefinition (r : Registry) (name : String) (d : CommandDefinition) : Prop :=
  r.namedDefinitions.reverse.lookup name = some d

/-- The first entry of a name is the definition, or an alias of a command of which it is the last
definition. -/
def HasFirstDefinition (r : Registry) (name : String) (d : CommandDefinition) : Prop :=
  r.commands.find? (·.name = name) = some (.definition d) ∨
    ∃ target, r.commands.find? (·.name = name) = some (.aliasOf name target) ∧
      r.HasLastDefinition target d

theorem hasLastDefinition_iff :
    r.HasLastDefinition name d ↔ (r.index c).definitions.get? name = some d := by
  show _ ↔ (Dict.ofList r.namedDefinitions).get? name = some d
  rw [Dict.get?_ofList]; rfl

/-- **Where the signature of a command comes from.** It is that of the first definition of its name,
and if the command is an alias, of the last definition of its target. -/
theorem exists_signature_of_build (h : r.build c s = .ok m) {command : Command}
    (hmem : command ∈ m.commands) : ∃ d, r.HasFirstDefinition command.name d ∧
      d.signature? c = some command.signature ∧
      ∀ target, command.aliasOf = some target → r.HasLastDefinition target d := by
  obtain ⟨ds, types, hassembly⟩ := exists_assembly h
  obtain ⟨extensions, positions, hcommands⟩ := hassembly.commands
  obtain ⟨-, -, -, entry, hentry, d, aliasOf, hresolve, hcommand⟩ :=
    find?_of_mem_buildCommands hcommands hmem
  have halias : command.aliasOf = aliasOf := (Command.name_ofDefinition hcommand).2.1
  have hname : entry.name = command.name := by simpa using List.find?_some hentry
  rw [halias]
  rcases CommandEntry.resolve_eq_ok_iff.mp hresolve with ⟨rfl, rfl⟩ | ⟨name, target, rfl, hget, rfl⟩
  · exact ⟨d, .inl hentry, Command.signature_ofDefinition hcommand, nofun⟩
  · obtain rfl : name = command.name := hname
    have hlast : r.HasLastDefinition target d := hasLastDefinition_iff.mpr hget
    refine ⟨d, .inr ⟨target, hentry, hlast⟩, Command.signature_ofDefinition hcommand, ?_⟩
    rintro _ ⟨⟩
    exact hlast

/-- **Command aliases have the signature of their targets** if and only if the first and the last
definition of the target declare the same. -/
theorem signature_eq_iff_of_build (h : r.build c s = .ok m) {f g : Command} (hf : f ∈ m.commands)
    (hg : g ∈ m.commands) (halias : g.aliasOf = some f.name) :
    ∃ first last, r.HasFirstDefinition f.name first ∧ r.HasLastDefinition f.name last ∧
      ((g.returnType = f.returnType ∧ g.parameters.map Parameter.declaration =
          f.parameters.map Parameter.declaration) ↔ last.signature? c = first.signature? c) := by
  obtain ⟨first, hfirst, hf, -⟩ := exists_signature_of_build h hf
  obtain ⟨last, -, hg, hlast⟩ := exists_signature_of_build h hg
  refine ⟨first, last, hfirst, hlast _ halias, ?_⟩
  rw [hf, hg, Option.some_inj, Command.signature, Command.signature, Prod.mk.injEq]

/-- The definition of `vkRun` with parameters of the given code. -/
def runWith (codes : List String) : CommandDefinition :=
  ⟨⟨"vkRun", some "void", "void vkRun"⟩,
    codes.map fun code => ⟨⟨"value", none, code⟩, none, none, none⟩⟩

/-- A feature with `vkRun`, which has several definitions, and with an alias of it. -/
def repeating (definitions : List CommandDefinition) : Registry where
  parts := [
    .commands (definitions.map .definition ++ [.aliasOf "vkRunKHR" "vkRun"]),
    .feature ⟨"vulkan", "VK_VERSION_1_0", [⟨none, [.command "vkRunKHR", .command "vkRun"]⟩]⟩,
    .extensions []]

/-- The signature of `runWith ["int value"]`. -/
def ofInt : String × List Declaration :=
  ("void", [⟨"value", "int", "int", 0, false, [], none, false⟩])

/-- The commands of a model that has two, by what is known of each. -/
theorem exists_two_commands {α : Type} {key : Command → α} {x y : α}
    (h : (r.build c s).map (fun m => m.commands.map key) = .ok [x, y]) : ∃ m f g,
      r.build c s = .ok m ∧ f ∈ m.commands ∧ g ∈ m.commands ∧ key f = x ∧ key g = y := by
  obtain ⟨m, hm, hcommands⟩ := exists_of_map_eq_ok h
  obtain ⟨f, rest, hmem, hf, hrest⟩ := List.map_eq_cons_iff.mp hcommands
  obtain ⟨g, rest, rfl, hg, -⟩ := List.map_eq_cons_iff.mp hrest
  exact ⟨m, f, g, hm, by rw [hmem]; simp, by rw [hmem]; simp, hf, hg⟩

/-- The alias has the signature of its target, since the first and the last definition agree. -/
theorem signature_eq_iff_of_repeating : ∃ r m f g,
    r = repeating [runWith ["int value"], runWith [], runWith ["int  value"]] ∧
    r.build Vulkan.convention .default = .ok m ∧ f ∈ m.commands ∧ g ∈ m.commands ∧
    g.aliasOf = some f.name ∧ f.signature = ofInt ∧ g.signature = ofInt ∧
    ∃ first last, r.HasFirstDefinition f.name first ∧ r.HasLastDefinition f.name last ∧
      ((g.returnType = f.returnType ∧ g.parameters.map Parameter.declaration =
          f.parameters.map Parameter.declaration) ↔
        last.signature? Vulkan.convention = first.signature? Vulkan.convention) := by
  have hbuilt : ((repeating [runWith ["int value"], runWith [], runWith ["int  value"]]).build
      Vulkan.convention .default).map (fun m =>
        m.commands.map fun command => (command.name, command.aliasOf, command.signature)) =
      .ok [("vkRun", none, ofInt), ("vkRunKHR", some "vkRun", ofInt)] := by
    decide +kernel
  obtain ⟨m, f, g, hm, hf', hg', hf, hg⟩ := exists_two_commands hbuilt
  rw [Prod.mk.injEq, Prod.mk.injEq] at hf hg
  have halias : g.aliasOf = some f.name := by rw [hg.2.1, hf.1]
  exact ⟨_, m, f, g, rfl, hm, hf', hg', halias, hf.2.2, hg.2.2,
    signature_eq_iff_of_build hm hf' hg' halias⟩

/-- **An alias without the signature of its target**: the target has the parameter of its first
definition, and the alias none, as the last one. -/
theorem signature_ne_of_repeated_definition : ∃ m f g,
    (repeating [runWith ["int value"], runWith []]).build Vulkan.convention .default = .ok m ∧
    f ∈ m.commands ∧ g ∈ m.commands ∧ g.aliasOf = some f.name ∧
    g.parameters.map Parameter.declaration ≠ f.parameters.map Parameter.declaration := by
  have hbuilt : ((repeating [runWith ["int value"], runWith []]).build Vulkan.convention
      .default).map (fun m =>
        m.commands.map fun command => (command.name, command.aliasOf, command.signature)) =
      .ok [("vkRun", none, ofInt), ("vkRunKHR", some "vkRun", "void", [])] := by
    decide +kernel
  obtain ⟨m, f, g, hm, hf', hg', hf, hg⟩ := exists_two_commands hbuilt
  rw [Prod.mk.injEq, Prod.mk.injEq] at hf hg
  refine ⟨m, f, g, hm, hf', hg', by rw [hg.2.1, hf.1], fun heq => ?_⟩
  have hnone : f.parameters.map Parameter.declaration = [] := by
    rw [← heq]; exact congrArg Prod.snd hg.2.2
  have hsome := congrArg Prod.snd hf.2.2
  rw [Command.signature, hnone] at hsome
  cases hsome

end Registry

end LayerStencil
