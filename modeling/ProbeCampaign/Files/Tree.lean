import ProbeCampaign.Files
import ProbeCampaign.Files.Path

/-!
# Trees of files

A `FileTree` is a directory with everything in it, as a value. It is a
`FileSystem` of its own: `StateM FileTree` reads and changes the tree.
-/

namespace ProbeCampaign

/-- What is at a place of a tree. -/
inductive FileNode where
  | directory
  | file (content : ByteArray)
  | store (s : Store)

/-- The places of a tree that are not its top, each with the names that lead to
it. -/
structure FileTree where
  nodes : List (List String × FileNode)

namespace FileTree

/-- A tree with nothing in it but the root of all directories. -/
def empty : FileTree :=
  ⟨[(["/"], .directory)]⟩

/-- What is at a place. -/
def node? (t : FileTree) (place : List String) : Option FileNode :=
  if place.isEmpty then some .directory else t.nodes.lookup place

/-- The tree with something else at a place. -/
def put (t : FileTree) (place : List String) (node : FileNode) : FileTree :=
  ⟨(place, node) :: t.nodes.filter (·.1 ≠ place)⟩

/-- Follows names from a place; all but the last must be directories. The last
need not be there. -/
def follow (t : FileTree) (place : List String) : List String → Except FileError (List String)
  | [] => .ok place
  | name :: rest =>
    let next := if name = ".." then place.dropLast else place ++ [name]
    if Path.tooLong name then .error .nameTooLong
    else
      match rest with
      | [] => .ok next
      | _ :: _ =>
        match t.node? next with
        | some .directory => t.follow next rest
        | some _ => .error .notADirectory
        | none => .error .notFound

/-- The place that a path leads to. -/
def locate (t : FileTree) (path : String) : Except FileError (List String) :=
  if path.isEmpty then .error .notFound
  else if path.contains '\x00' then .error .nulInName
  else t.follow [] (Path.components path)

/-- What a path leads to. -/
def find (t : FileTree) (path : String) : Except FileError FileNode := do
  match t.node? (← t.locate path) with
  | none => .error .notFound
  | some .directory => .ok .directory
  | some node => if Path.namesDirectory path then .error .notADirectory else .ok node

/-- The bytes of a file. A store has none that are a text. -/
def read (t : FileTree) (path : String) : Except FileError ByteArray := do
  match ← t.find path with
  | .directory => .error .isADirectory
  | .file content => .ok content
  | .store _ => .ok ⟨#[0xFF]⟩

/-- The tree with a file in place of what a path leads to. -/
def write (t : FileTree) (path : String) (node : FileNode) : Except FileError FileTree := do
  let place ← t.locate path
  match t.node? place with
  | some .directory => .error .isADirectory
  | some _ =>
    if Path.namesDirectory path then .error .notADirectory else .ok (t.put place node)
  | none => if Path.namesDirectory path then .error .isADirectory else .ok (t.put place node)

/-- The tree with directories along names that start at a place. -/
def makeAlong (t : FileTree) (place : List String) : List String → Except FileError FileTree
  | [] => .ok t
  | name :: rest =>
    let next := if name = ".." then place.dropLast else place ++ [name]
    if Path.tooLong name then .error .nameTooLong
    else
      match t.node? next with
      | some .directory => t.makeAlong next rest
      | some _ => .error (if rest.isEmpty then .exists else .notADirectory)
      | none => (t.put next .directory).makeAlong next rest

/-- The tree with a directory and all above it. -/
def makeDirectories (t : FileTree) (path : String) : Except FileError FileTree :=
  if path.contains '\x00' then .error .nulInName
  else t.makeAlong [] (Path.components path)

/-- The store that a path leads to, and the tree with a file for it. -/
def openStore (t : FileTree) (path : String) : Except Failure Store × FileTree :=
  let opening := fun s : Store => t.write path (.store s.opened)
  let refused := fun e : StoreError => (.error (.database e), t)
  match (path.toList.idxOf? '\x00') with
  | some position => refused (.nulInPath position)
  | none =>
    match t.find path with
    | .ok (.store s) => (s.reopen, (opening s).toOption.getD t)
    | .ok (.file content) =>
      if content.isEmpty then (Store.empty.reopen, (opening .empty).toOption.getD t)
      else refused .notADatabase
    | .ok .directory => refused (.cannotOpen path)
    | .error _ =>
      match opening .empty with
      | .ok t => (Store.empty.reopen, t)
      | .error _ => refused (.cannotOpen path)

/-- Keeps the tree as it is if a change is refused. -/
def changing (f : FileTree → Except FileError FileTree) : StateM FileTree (Except FileError Unit) :=
  modifyGet fun t =>
    match f t with
    | .ok t => (.ok (), t)
    | .error e => (.error e, t)

instance : FileSystem (StateM FileTree) where
  read path := return (← get).read path
  write path text := changing (·.write path (.file text.toUTF8))
  makeDirectories path := changing (·.makeDirectories path)
  fileExists path := return ((← get).find path).toOption.isSome
  openStore path := modifyGet (·.openStore path)
  saveStore path s := modify fun t => (t.write path (.store s)).toOption.getD t
  now := return 0

end FileTree

end ProbeCampaign
