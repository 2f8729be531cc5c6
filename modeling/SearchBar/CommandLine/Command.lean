import SearchBar.Text.Split

/-!
# Commands

The commands that a command line can ask for, and the ways in which a command line can come to
nothing: because it cannot be understood, or because it asks for help or for the version.
-/

namespace SearchBar

/-- What to parse, and how. -/
structure ParseArguments where
  /-- The words of the query; there is at least one. -/
  query : List String
  keywords : List String
  ranges : List String
  /-- A configuration file to read in place of the usual one. -/
  config : Option String
  pretty : Bool
  /-- Do not record the query. -/
  noHistory : Bool
deriving DecidableEq, Repr, Inhabited

/-- The query line: its words, one space apart. -/
def ParseArguments.rawQuery (a : ParseArguments) : String := " ".intercalate a.query

/-- How much of the history to show, or whether to remove it. -/
structure HistoryArguments where
  limit : Nat
  clear : Bool
deriving DecidableEq, Repr, Inhabited

/-- What a command line asks for. -/
inductive Command where
  | parse (arguments : ParseArguments)
  | history (arguments : HistoryArguments)
deriving DecidableEq, Repr, Inhabited

/-- What help can be asked for. -/
inductive Topic where
  | program
  | parse
  | history
  | help
deriving DecidableEq, Repr, Inhabited

/-- The text of a help topic. -/
def Topic.text (t : Topic) : String :=
  "\n".intercalate (lines t) ++ "\n"
where
  lines : Topic → List String
  | .program =>
    ["Parse search-bar query strings into text and field filters",
     "",
     "Usage: sqp <COMMAND>",
     "",
     "Commands:",
     "  parse    Parse a query and print it as JSON",
     "  history  Show or clear previously parsed queries",
     "  help     Print this message or the help of the given subcommand(s)",
     "",
     "Options:",
     "  -h, --help     Print help",
     "  -V, --version  Print version"]
  | .parse =>
    ["Parse a query and print it as JSON",
     "",
     "Usage: sqp parse [OPTIONS] <QUERY>...",
     "",
     "Arguments:",
     "  <QUERY>...  Query words, joined with spaces",
     "",
     "Options:",
     "  -k, --keyword <KEYWORDS>  Field name to treat as a keyword (comma-separated values) " ++
       "[env: SQP_KEYWORDS=]",
     "  -r, --range <RANGES>      Field name to treat as a range (from-to) [env: SQP_RANGES=]",
     "  -c, --config <CONFIG>     JSON config file with \"keywords\" and \"ranges\" lists " ++
       "[env: SQP_CONFIG=]",
     "  -p, --pretty              Pretty-print the JSON output",
     "      --no-history          Don't record this query in the history",
     "  -h, --help                Print help"]
  | .history =>
    ["Show or clear previously parsed queries",
     "",
     "Usage: sqp history [OPTIONS]",
     "",
     "Options:",
     "  -n, --limit <LIMIT>  Number of entries to show [default: 20]",
     "      --clear          Remove all entries",
     "  -h, --help           Print help"]
  | .help =>
    ["Print this message or the help of the given subcommand(s)",
     "",
     "Usage: sqp help [COMMAND]...",
     "",
     "Arguments:",
     "  [COMMAND]...  Print help for the subcommand(s)"]

/-- The text that names the version. -/
def versionText : String := "sqp 0.1.0\n"

/-- Why a command line does not lead to a command. -/
inductive Stop where
  /-- An option that is not known, or a word where none is taken. -/
  | unknownArgument
  | invalidSubcommand
  | missingRequiredArgument
  /-- An option without its value, or with an empty one that may not be empty. -/
  | invalidValue
  /-- A value that is not of the form it should have. -/
  | valueValidation
  /-- A flag with a value. -/
  | tooManyValues
  /-- A second occurrence of what may be given only once. -/
  | argumentConflict
  | help (topic : Topic)
  | version
  /-- A command line that asks for nothing. -/
  | nothingAsked
deriving DecidableEq, Repr, Inhabited

/-- The text that a stop has to show. -/
def Stop.text? : Stop → Option String
  | .help topic => some topic.text
  | .version => some versionText
  | .nothingAsked => some Topic.program.text
  | _ => none

/-- Whether a stop is what was asked for. -/
def Stop.isAnswer : Stop → Bool
  | .help _ => true
  | .version => true
  | _ => false

end SearchBar
