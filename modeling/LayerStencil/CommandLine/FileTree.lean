import LayerStencil.CommandLine.Host

/-! # Trees of files

A tree of files is a value: the texts of its files, and the directories that were made in it. A
directory is there if it was made or if there is something in it. Paths lead from the root of the
tree, and none leads out of it. No time goes by in a tree.
-/

namespace LayerStencil.CommandLine

/-- The names that lead from the root of a tree to a file or a directory. -/
abbrev Place := List String

/-- The files of a tree, and the directories that were made in it. -/
structure FileTree where
  files : List (Place × List Char)
  directories : List Place
deriving DecidableEq, Repr

namespace FileTree

/-- The text of the file at a place. -/
def file? (t : FileTree) (p : Place) : Option (List Char) := t.files.lookup p

/-- Is there a directory at a place? -/
def isDirectory (t : FileTree) (p : Place) : Bool :=
  p.isEmpty || t.directories.any (p.isPrefixOf ·) ||
    t.files.any fun e => p.isPrefixOf e.1 && p.length < e.1.length

/-! ### Paths -/

/-- The names in a path, none for a path that does not lead from the root. -/
def names? (path : String) : Option (List String) :=
  match path.toList with
  | [] => none
  | '/' :: _ => none
  | _ => some (Text.fields '/' path)

/-- The place to which names lead from a directory. Every name but the last must lead to a
directory. -/
def placeFrom? (t : FileTree) (here : Place) : List String → Option Place
  | [] => some here
  | name :: rest =>
    if !t.isDirectory here then none
    else if name = "" ∨ name = "." then placeFrom? t here rest
    else if name = ".." then if here.isEmpty then none else placeFrom? t here.dropLast rest
    else placeFrom? t (here ++ [name]) rest

/-- The place to which a path leads. -/
def place? (t : FileTree) (path : String) : Option Place := (names? path).bind (t.placeFrom? [])

/-! ### Reading and writing -/

/-- The text of the file to which a path leads. -/
def read? (t : FileTree) (path : String) : Option (List Char) := (t.place? path).bind t.file?

/-- The tree with a text in the file at a place. -/
def put (t : FileTree) (p : Place) (text : List Char) : FileTree :=
  if (t.file? p).isSome then
    { t with files := t.files.map fun e => if e.1 = p then (p, text) else e }
  else { t with files := t.files ++ [(p, text)] }

/-- May there be a file of this name? -/
def isFileName (name : String) : Bool := !(["", ".", ".."].contains name)

/-- The place of the file that a path leads to or could lead to. -/
def filePlace? (t : FileTree) (path : String) : Option Place :=
  match names? path with
  | none => none
  | some names =>
    match t.place? path with
    | some p => if names.getLast?.any isFileName && !t.isDirectory p then some p else none
    | none => none

/-- The tree with a text in the file to which a path leads, and whether that can be done. -/
def write (t : FileTree) (path : String) (text : List Char) : Bool × FileTree :=
  match t.filePlace? path with
  | some p => (true, t.put p text)
  | none => (false, t)

/-- The tree with a directory to which names lead from another one, and whether that can be done. -/
def makeFrom (t : FileTree) (here : Place) : List String → Bool × FileTree
  | [] => (true, t)
  | name :: rest =>
    if name = "" ∨ name = "." then makeFrom t here rest
    else if name = ".." then if here.isEmpty then (false, t) else makeFrom t here.dropLast rest
    else
      let there := here ++ [name]
      if (t.file? there).isSome then (false, t)
      else if t.isDirectory there then makeFrom t there rest
      else makeFrom { t with directories := t.directories ++ [there] } there rest

/-- The tree with the directory to which a path leads, and whether that can be done. -/
def makeDirectory (t : FileTree) (path : String) : Bool × FileTree :=
  match names? path with
  | some names => t.makeFrom [] names
  | none => (false, t)

/-! ### As a host -/

/-- The tree with a line more at the end of the file to which a path leads, if there is one. -/
def addLine (t : FileTree) (path line : String) : FileTree :=
  match t.place? path with
  | some p =>
    match t.file? p with
    | some text => t.put p (text ++ (line ++ "\n").toList)
    | none => t
  | none => t

/-- A tree of files is a host. A log without a file is not in the tree. -/
instance : Host (StateM FileTree) where
  openLog
    | some path => fun t => t.write path []
    | none => fun t => (true, t)
  log
    | some path, line => fun t => ((), t.addLine path line)
    | none, _ => fun t => ((), t)
  lap := fun t => (0, t)
  read? path := fun t => (t.read? path, t)
  makeDirectory path := fun t => t.makeDirectory path
  write path text := fun t => t.write path text

/-- The files of a tree that are not as they are in another one. -/
def changedFrom (t before : FileTree) : List (Place × List Char) :=
  t.files.filter fun e => before.file? e.1 ≠ some e.2

end FileTree

end LayerStencil.CommandLine
