import SearchBar.CommandLine.Read
import SearchBar.Environment.Dotenv
import SearchBar.Parse
import SearchBar.Query.Json
import SearchBar.Store

/-!
# Running commands

Parsing writes the record of a query line and then records the line in the history.  Whether the
recording succeeds has no influence on what is written; that it failed is only told by a warning.
Showing the history writes one query after the other.
-/

namespace SearchBar

/-- What a command has written, why it failed if it did, and what it told. -/
structure Report where
  out : String
  failure : Option Failure := none
  events : List Event := []

variable {m : Type → Type} [Monad m] [Storage m]

/-! ## Parsing -/

/-- The options that the names in the arguments make; empty names are left out. -/
def ParseArguments.givenOptions (a : ParseArguments) : Options :=
  (Options.empty.withKeywords (a.keywords.filter (· ≠ ""))).withRanges (a.ranges.filter (· ≠ ""))

/-- The options of the configuration file, which must be there only if it was named. -/
def loadConfig (env : Environment) (a : ParseArguments) : m (Outcome Options) :=
  match a.config with
  | some path => loadOptions path
  | none => atPath env.configPath loadOptionsIfPresent

/-- The options of the configuration file and of the arguments together. -/
def resolveOptions (env : Environment) (a : ParseArguments) : m (Outcome Options) := do
  let loaded ← loadConfig env a
  match loaded.result with
  | .error failure => return ⟨.error failure, loaded.events⟩
  | .ok options => return ⟨.ok (options.merge a.givenOptions), loaded.events⟩

/-- What is written for a record. -/
def Query.written (q : Query) (pretty : Bool) : String :=
  (if pretty then q.toJson.pretty else q.toJson.compact) ++ "\n"

/-- The warning that tells of a recording that failed. -/
def recordingWarnings (o : Outcome Unit) : List Event :=
  match o.result with
  | .ok () => []
  | .error failure => [.historyNotUpdated failure]

/-- Parse a query line, write its record, and add the line to the history. -/
def runParse (env : Environment) (a : ParseArguments) : m Report := do
  let resolved ← resolveOptions env a
  match resolved.result with
  | .error failure => return ⟨"", some failure, resolved.events⟩
  | .ok options =>
    let line := a.rawQuery
    let out := (parse line options).written a.pretty
    let events := resolved.events ++ parseEvents line options
    if a.noHistory then return ⟨out, none, events⟩
    else
      let recorded ← atPath env.historyPath (recordQuery · line)
      return ⟨out, none, events ++ recorded.events ++ recordingWarnings recorded⟩

/-! ## The history -/

/-- The lines that show queries. -/
def listing (queries : List String) : String := String.join (queries.map (· ++ "\n"))

/-- Show the history, or remove all queries from it. -/
def runHistory (env : Environment) (a : HistoryArguments) : m Report := do
  if a.clear then
    let saved ← atPath env.historyPath (saveHistory · History.empty)
    match saved.result with
    | .error failure => return ⟨"", some failure, saved.events⟩
    | .ok () => return ⟨"", none, saved.events⟩
  else
    let loaded ← atPath env.historyPath loadHistory
    match loaded.result with
    | .error failure => return ⟨"", some failure, loaded.events⟩
    | .ok history => return ⟨listing (history.recent a.limit), none, loaded.events⟩

/-- Run a command. -/
def Command.run (env : Environment) : Command → m Report
  | .parse a => runParse env a
  | .history a => runHistory env a

/-! ## The whole program -/

/-- How a program ended: before its command line was read, because its environment cannot hold what
the file of variables says, or without a command, or with what its command did. -/
inductive Ending where
  | aborted
  | stopped (stop : Stop)
  | ran (report : Report)

/-- What a program wrote to its standard output. -/
def Ending.out : Ending → String
  | .aborted => ""
  | .stopped stop => if stop.isAnswer then stop.text?.getD "" else ""
  | .ran report => report.out

/-- The exit code of a program: zero for success and for help, one for a command that failed, two
for a command line that led to no command. -/
def Ending.code : Ending → Nat
  | .aborted => 101
  | .stopped stop => if stop.isAnswer then 0 else 2
  | .ran report => if report.failure.isSome then 1 else 0

/-- The file of variables that is read before anything else. -/
def dotenvPath : String := ".env"

/-- The environment with the variables of the file of variables, if there is such a file; none if
they cannot be added. -/
def loadEnvironment (env : Environment) : m (Option Environment) := do
  match ← Storage.read dotenvPath with
  | .ok bytes => return Dotenv.load env bytes
  | .error _ => return some env

/-- Run the program: complete the environment, read the command line, run the command. -/
def runProgram (env : Environment) (args : List String) : m Ending := do
  match ← loadEnvironment env with
  | none => return .aborted
  | some env =>
    match CommandLine.read env args with
    | .error stop => return .stopped stop
    | .ok command => return .ran (← command.run env)

end SearchBar
