import SearchBar.CommandLine.History
import SearchBar.CommandLine.Parse

/-!
# Reading a command line

The first argument names a command, or asks for help or for the version.
-/

namespace SearchBar.CommandLine

/-- The topic that the name of a command stands for. -/
def topic? (name : String) : Option Topic :=
  match name with
  | "parse" => some .parse
  | "history" => some .history
  | "help" => some .help
  | _ => none

/-- What the words behind the help command lead to. -/
def readHelp : List String → Stop
  | [] => .help .program
  | [name] =>
    match topic? name with
    | some t => .help t
    | none => .invalidSubcommand
  | _ => .invalidSubcommand

/-- What options in front of any command lead to. -/
def readLetters : List Char → Stop
  | 'h' :: _ => .help .program
  | 'V' :: _ => .version
  | _ => .unknownArgument

/-- What a long option in front of any command leads to. -/
def readName (name : String) (value : Option String) : Stop :=
  match name, value with
  | "help", none => .help .program
  | "version", none => .version
  | "help", some _ => .tooManyValues
  | "version", some _ => .tooManyValues
  | _, _ => .unknownArgument

/-- Read a command line, without the name of the program. -/
def read (env : Environment) : List String → Except Stop Command
  | [] => .error .nothingAsked
  | a :: args =>
    match Argument.ofString a with
    | .separator =>
      match args with
      | [] => .error .nothingAsked
      | name :: _ => .error (if (topic? name).isSome then .unknownArgument else .invalidSubcommand)
    | .long name value => .error (readName name value)
    | .cluster letters => .error (readLetters letters)
    | .plain name =>
      match topic? name with
      | some .parse =>
        match readParse env args with
        | .error stop => .error stop
        | .ok arguments => .ok (.parse arguments)
      | some .history =>
        match readHistory args with
        | .error stop => .error stop
        | .ok arguments => .ok (.history arguments)
      | some .help => .error (readHelp args)
      | _ => .error .invalidSubcommand

end SearchBar.CommandLine
