/-!
# Paths

A path is a text with a slash between its parts. `parent?` is the path of the
directory that holds what a path names, as far as the text tells, and
`components` are the names that lead there.
-/

namespace ProbeCampaign.Path

/-- A part that leads nowhere. -/
def isIdle (part : List Char) : Bool :=
  part == [] || part == ['.']

/-- The parts without the idle ones at the end. -/
def dropIdle (parts : List (List Char)) : List (List Char) :=
  (parts.reverse.dropWhile isIdle).reverse

/-- A path split into what comes before its parts, the root or the current
directory, and its parts. -/
def split (cs : List Char) : List Char × List (List Char) :=
  match cs with
  | [] => ([], [])
  | '/' :: rest => (['/'], rest.splitOn '/')
  | ['.'] => (['.'], [])
  | '.' :: '/' :: rest => (['.'], [] :: rest.splitOn '/')
  | cs => ([], cs.splitOn '/')

/-- The path of the directory that a path lies in; empty for a bare name. -/
def parent? (path : String) : Option String :=
  let (start, parts) := split path.toList
  match dropIdle parts with
  | [] => if start = ['.'] then some "" else none
  | named => some (String.ofList (start ++ ['/'].intercalate (dropIdle named.dropLast)))

/-- A path below a directory. -/
def join (directory path : String) : String :=
  if directory.isEmpty || path.startsWith "/" then path
  else if directory.endsWith "/" then directory ++ path
  else directory ++ "/" ++ path

/-- The names from the current directory on, or from the root, which has the
name of a slash. -/
def components (path : String) : List String :=
  let cs := path.toList
  let names := ((cs.splitOn '/').filter fun p => !isIdle p).map String.ofList
  if cs.head? = some '/' then "/" :: names else names

/-- Whether a path can only name a directory. -/
def namesDirectory (path : String) : Bool :=
  path.endsWith "/" || path.endsWith "/."

/-- Whether a name is too long for a directory. -/
def tooLong (name : String) : Bool :=
  255 < name.utf8ByteSize

end ProbeCampaign.Path
