import SearchBar.CommandLine.Grammar
import SearchBar.Environment

/-!
# The arguments of the parse command

Names and the configuration file that the arguments do not give are taken from the environment.
-/

namespace SearchBar.CommandLine

/-- The options of the parse command that have a value. -/
inductive ParseOption where
  | keyword
  | range
  | config
deriving DecidableEq, Repr, Inhabited

/-- The flags of the parse command. -/
inductive ParseFlag where
  | pretty
  | noHistory
  | help
deriving DecidableEq, Repr, Inhabited

/-- What the arguments have said so far; a list of names is missing until one is given. -/
structure ParseDraft where
  query : List String := []
  keywords : Option (List String) := none
  ranges : Option (List String) := none
  config : Option String := none
  pretty : Bool := false
  noHistory : Bool := false
deriving DecidableEq, Repr, Inhabited

namespace ParseDraft

/-- The names in a value: its pieces between commas, empty ones included. -/
def names (value : String) : List String := Text.splitAt ',' value

/-- The draft with the names of one more keyword option. -/
def addKeywords (d : ParseDraft) (value : String) : ParseDraft :=
  { d with keywords := some (d.keywords.getD [] ++ names value) }

/-- The draft with the names of one more range option. -/
def addRanges (d : ParseDraft) (value : String) : ParseDraft :=
  { d with ranges := some (d.ranges.getD [] ++ names value) }

/-- Add one thing to what was said so far. -/
def accept (d : ParseDraft) : Item ParseOption ParseFlag → Except Stop ParseDraft
  | .word w => .ok { d with query := d.query ++ [w] }
  | .option .keyword value => .ok (d.addKeywords value)
  | .option .range value => .ok (d.addRanges value)
  | .option .config value =>
    if d.config.isSome then .error .argumentConflict
    else if value = "" then .error .invalidValue
    else .ok { d with config := some value }
  | .flag .pretty =>
    if d.pretty then .error .argumentConflict else .ok { d with pretty := true }
  | .flag .noHistory =>
    if d.noHistory then .error .argumentConflict else .ok { d with noHistory := true }
  | .flag .help => .error (.help .parse)

/-- The arguments that a draft stands for, with what the environment adds to it. -/
def finish (d : ParseDraft) (env : Environment) : Except Stop ParseArguments :=
  let given (listed : Option (List String)) (source : String) : List String :=
    match listed with
    | some ns => ns
    | none => ((env.get? source).map names).getD []
  let config := d.config.or (env.get? "SQP_CONFIG")
  if config = some "" then .error .invalidValue
  else if d.query.isEmpty then .error .missingRequiredArgument
  else .ok {
    query := d.query
    keywords := given d.keywords "SQP_KEYWORDS"
    ranges := given d.ranges "SQP_RANGES"
    config := config
    pretty := d.pretty
    noHistory := d.noHistory }

end ParseDraft

/-- The options of the parse command. -/
def parseGrammar : Grammar ParseOption ParseFlag ParseDraft where
  short
    | 'k' => some (.option .keyword)
    | 'r' => some (.option .range)
    | 'c' => some (.option .config)
    | 'p' => some (.flag .pretty)
    | 'h' => some (.flag .help)
    | _ => none
  long
    | "keyword" => some (.option .keyword)
    | "range" => some (.option .range)
    | "config" => some (.option .config)
    | "pretty" => some (.flag .pretty)
    | "no-history" => some (.flag .noHistory)
    | "help" => some (.flag .help)
    | _ => none
  takesWords := true
  accept := ParseDraft.accept

/-- Read the arguments of the parse command. -/
def readParse (env : Environment) (args : List String) : Except Stop ParseArguments :=
  match parseGrammar.read {} args with
  | .error stop => .error stop
  | .ok draft => draft.finish env

end SearchBar.CommandLine
