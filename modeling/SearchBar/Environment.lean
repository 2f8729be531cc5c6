import SearchBar.Failure

/-!
# Environments

The variables a program is started with, what the machine knows of the user, and the places of the
user's own files that follow from them, if they do.
-/

namespace SearchBar

/-- Variables and their values, of which the first one of a name counts, and the home directory that
the machine keeps for the account of the user, if it keeps one. -/
structure Environment where
  bindings : List (String × String)
  accountHome : Option String := none
deriving DecidableEq, Repr, Inhabited

namespace Environment

/-- The value of a variable. -/
def get? (env : Environment) (name : String) : Option String := env.bindings.lookup name

/-- The value of a variable whose name may hold an equals sign.  A program is given each variable as
one text, the name and the value with an equals sign between them, and what is found is the text
behind the wanted name and an equals sign. -/
def valueOf? (env : Environment) (name : String) : Option String :=
  match Text.cutChars '=' name.toList with
  | none => env.get? name
  | some (first, rest) =>
    match env.get? (String.ofList first) with
    | none => none
    | some value =>
      ((rest ++ ['=']).isPrefixOf? value.toList).map String.ofList

/-- The environment with a variable that it did not have; one that is there stays as it is.  A null
character ends the text of a variable, so a value that holds one cannot be added. -/
def addMissing? (env : Environment) (name value : String) : Option Environment :=
  if (env.get? name).isSome then some env
  else if value.toList.contains '\x00' then none
  else some { env with bindings := env.bindings ++ [(name, value)] }

/-- The home directory of the user: the one in the variable for it, or else the one of the account.
An empty text names no directory. -/
def home? (env : Environment) : Option String :=
  ((env.get? "HOME").filter (· ≠ "")).or (env.accountHome.filter (· ≠ ""))

/-- The directory of the user's configuration files: the one in the variable for it, unless that is
a relative path, or else one in the home directory. -/
def configDirectory? (env : Environment) : Option String :=
  ((env.get? "XDG_CONFIG_HOME").filter Path.isAbsolute).or
    (env.home?.map (Path.join · ".config"))

/-- The path of one of this program's own files, which have a directory among the user's
configuration files. -/
def ownPath (env : Environment) (name : String) : Except Failure String :=
  match env.configDirectory? with
  | none => .error (.bare .noConfigDirectory)
  | some directory => .ok (Path.join (Path.join directory "sqp") name)

/-- The configuration file that is read when none is named. -/
def configPath (env : Environment) : Except Failure String := env.ownPath "config.json"

/-- The file that keeps the history. -/
def historyPath (env : Environment) : Except Failure String := env.ownPath "history.json"

end Environment

end SearchBar
