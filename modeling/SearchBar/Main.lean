import SearchBar.Run

/-!
# The program

The files and variables of the machine as a storage and an environment, and the program run on
them.  The record, the history or the help goes to standard output, everything else to standard
error.
-/

namespace SearchBar

/-- The number of an error of the machine, which may be given with a minus sign. -/
def errorNumber (code : UInt32) : Nat :=
  if code < 0x80000000 then code.toNat else (-code).toNat

/-- The fault behind an error of the machine. -/
def FileFault.ofError (e : IO.Error) : FileFault :=
  match e with
  | .noFileOrDirectory .. => .notFound
  | .alreadyExists .. => .exists
  | .inappropriateType _ code details =>
    match errorNumber code with
    | 20 => .notDirectory
    | 21 => .isDirectory
    | n => .other n details
  | .invalidArgument _ code details =>
    match errorNumber code with
    | 36 => .nameTooLong
    | n => .other n details
  | .permissionDenied _ code details => .other (errorNumber code) details
  | .otherError code details => .other (errorNumber code) details
  | e => .other 0 (toString e)

/-- An action of the machine that may fail. -/
def attemptAction {α : Type} (action : IO α) : IO (Except FileFault α) := do
  match ← action.toBaseIO with
  | .ok a => return .ok a
  | .error e => return .error (.ofError e)

instance : Storage IO where
  pathExists path := return (← attemptAction (IO.FS.realPath path)).isOk
  read path := attemptAction (IO.FS.readBinFile path)
  makeParents path := do
    let parent := Path.ofSteps (Path.isAbsolute path) (Path.steps path).dropLast
    if parent = "" then return .ok () else attemptAction (IO.FS.createDirAll parent)
  write path bytes := attemptAction (IO.FS.writeBinFile path bytes)

/-- The variables that have a meaning here, besides those that a file of variables speaks of. -/
def knownVariables : List String :=
  ["HOME", "XDG_CONFIG_HOME", "SQP_KEYWORDS", "SQP_RANGES", "SQP_CONFIG"]

/-- The variables of the machine that can matter. -/
def readVariables : IO (List (String × String)) := do
  let names ← match ← attemptAction (IO.FS.readBinFile dotenvPath) with
    | .ok bytes => pure (knownVariables ++ Dotenv.mentioned bytes)
    | .error _ => pure knownVariables
  let values ← names.mapM fun name => do return (← IO.getEnv name).map fun value => (name, value)
  return values.reduceOption

/-- The lines of a file of the machine, none if it cannot be read. -/
def readLines (path : String) : IO (List String) := do
  match decodeText (← attemptAction (IO.FS.readBinFile path)) with
  | .ok text => return Text.splitAt '\n' text
  | .error _ => return []

/-- The number of the user, in the lines that tell of a running program. -/
def userIn? (status : List String) : Option String :=
  status.findSome? fun line =>
    match Text.splitAt '\t' line with
    | "Uid:" :: user :: _ => some user
    | _ => none

/-- The home directory of a user, in the lines of the table of accounts. -/
def homeIn? (table : List String) (user : String) : Option String :=
  table.findSome? fun line =>
    match Text.splitAt ':' line with
    | [_, _, account, _, _, home, _] => if account = user then some home else none
    | _ => none

/-- The home directory that the machine keeps for the account of the user. -/
def readAccountHome : IO (Option String) := do
  return (userIn? (← readLines "/proc/self/status")).bind (homeIn? (← readLines "/etc/passwd"))

/-- What the machine tells of the user and of the variables that can matter. -/
def readEnvironment : IO Environment :=
  return { bindings := ← readVariables, accountHome := ← readAccountHome }

/-- Tell on standard error why a program ended as it did, if there is something to tell. -/
def complain (ending : Ending) : IO Unit := do
  match ending with
  | .aborted => IO.eprintln "error: the file of variables holds a null character"
  | .stopped stop =>
    if !stop.isAnswer then IO.eprint (stop.text?.getD "error: the arguments were not understood\n")
  | .ran report =>
    for event in report.events do
      if event.level = .warn then IO.eprintln (event.level.name ++ " " ++ event.message)
    if let some failure := report.failure then IO.eprintln ("error: " ++ failure.message)

end SearchBar

/-- Run the program with its arguments. -/
def main (args : List String) : IO UInt32 := do
  let ending ← SearchBar.runProgram (m := IO) (← SearchBar.readEnvironment) args
  IO.print ending.out
  SearchBar.complain ending
  return ending.code.toUInt32
