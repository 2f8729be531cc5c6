import SearchBar.Text.Split

/-!
# Paths

A path is kept as the text it was given, because messages show it that way.  Its *segments* are the
pieces between slashes; an empty segment and `.` stay where they are, `..` goes up, every other one
is a name.
-/

namespace SearchBar.Path

/-- The pieces of a path between its slashes. -/
def segments (path : String) : List String := Text.splitAt '/' path

/-- Whether a path starts at the root. -/
def isAbsolute (path : String) : Bool := path.toList.head? == some '/'

/-- Whether a segment stays where it is. -/
def isIdle (segment : String) : Bool := segment == "" || segment == "."

/-- A path with a name added to its end; a slash that is already there is not doubled. -/
def join (path name : String) : String :=
  if path.toList.getLast? == some '/' || path == "" then path ++ name else path ++ "/" ++ name

/-- The segments of a path that lead somewhere, and are not just a slash or a dot. -/
def steps (path : String) : List String := (segments path).filter fun s => !isIdle s

/-- The path made of a list of steps, from the root or from the working directory. -/
def ofSteps (absolute : Bool) (steps : List String) : String :=
  (if absolute then "/" else "") ++ "/".intercalate steps

/-- The paths that end in each of some steps, which are given the last one first. -/
def ofEachStep (absolute : Bool) : List String → List String
  | [] => []
  | s :: above => ofSteps absolute (s :: above).reverse :: ofEachStep absolute above

/-- The paths of the directories in which the last step of a path lies, from the nearest on. -/
def parents (path : String) : List String :=
  ofEachStep (isAbsolute path) (steps path).reverse.tail

end SearchBar.Path
