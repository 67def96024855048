import LayerStencil.Registry.Demand

/-! # Closure of the demanded types

A type refers to other types, and a command to the types of its result and its parameters. The
required types are all that can be reached from the demanded types and commands. `reach` visits each
entry of a graph of references at most once: an entry that has been visited is taken out of the
graph, and with it the references that could be added to the queue.
-/

namespace LayerStencil

/-! ### Reaching names in a graph -/

/-- A graph of references: names with the names they refer to. -/
abbrev References := List (String × List String)

/-- How many names a graph can still add to the queue, counting each entry as one more. -/
def References.weight (g : References) : Nat :=
  g.foldr (fun e n => e.2.length + 1 + n) 0

/-- The graph without its first entry of a given name. -/
def References.without (g : References) (name : String) : References :=
  g.eraseP fun e => e.1 = name

theorem References.weight_without {g : References} {name : String} {refs : List String}
    (h : g.lookup name = some refs) : (g.without name).weight + refs.length + 1 = g.weight := by
  induction g with
  | nil => simp at h
  | cons e g ih =>
    rcases e with ⟨a, l⟩
    by_cases ha : name = a
    · subst ha
      simp only [List.lookup_cons, beq_self_eq_true, Option.some.injEq] at h
      subst h
      simp [References.without, References.weight]
      omega
    · have hb : (name == a) = false := by simpa using ha
      have hne : ¬ a = name := fun h => ha h.symm
      simp only [List.lookup_cons, hb] at h
      have := ih h
      simp only [References.without, References.weight, List.eraseP_cons, hne, decide_false,
        List.foldr_cons, cond_false] at this ⊢
      omega

/-- All names that can be reached from a queue of names. -/
def reach (g : References) (queue : List String) : List String :=
  match queue with
  | [] => []
  | name :: rest =>
    match h : g.lookup name with
    | none => name :: reach g rest
    | some refs =>
      have := References.weight_without h
      name :: reach (g.without name) (refs ++ rest)
termination_by g.weight + queue.length
decreasing_by
  · simp
  · simp only [List.length_append, List.length_cons]; omega

/-! ### References of a registry -/

/-- The names that a type refers to: what it requires, stands for or has its bits in, the first type
that each of its members names, and all types that its code names. -/
def TypeEntry.references (c : Convention) (t : TypeEntry) : List String :=
  t.requires.toList ++ t.aliasOf.toList ++ t.bitValues.toList ++
    match t.body with
    | .none => []
    | .code code => code.types
    | .members ms => (ms.filter fun m => c.applies m.apis).filterMap fun m => m.types.head?

/-- The references of all indexed types. -/
def RegistryIndex.references (c : Convention) (x : RegistryIndex) : References :=
  x.types.entries.map fun e => (e.1, e.2.references c)

/-- The types of the result and of the parameters of a command. -/
def CommandDefinition.references (d : CommandDefinition) : List String :=
  d.proto.type.toList ++ d.parameters.filterMap fun p => p.declaration.type

/-- The types that a demanded command refers to; an alias stands for its target. -/
def RegistryIndex.commandReferences (x : RegistryIndex) (name : String) : List String :=
  match x.definitions.get? ((x.commandAliases.get? name).getD name) with
  | some d => d.references
  | none => []

/-- The types that a model needs for what is demanded. -/
def RegistryIndex.requiredTypes (c : Convention) (x : RegistryIndex) (ds : List Demand) :
    List String :=
  reach (x.references c)
    ((Demand.types ds).toList ++ (Demand.commands ds).toList.flatMap x.commandReferences)

end LayerStencil
