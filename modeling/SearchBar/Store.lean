import SearchBar.Event
import SearchBar.History.Json
import SearchBar.Options.Json
import SearchBar.Storage

/-!
# Loading and saving

Options are loaded from configuration files, histories are loaded from and saved to a file.  The
outcome of such an operation is its result together with the events that tell of it.
-/

namespace SearchBar

/-- The result of an operation, and the events that tell of it. -/
structure Outcome (α : Type) where
  result : Except Failure α
  events : List Event := []

namespace Outcome

/-- An operation that succeeded without events. -/
def ok {α : Type} (a : α) : Outcome α := ⟨.ok a, []⟩

/-- An operation that failed. -/
def fail {α : Type} (f : Failure) : Outcome α := ⟨.error f, []⟩

end Outcome

section AtPath

variable {m : Type → Type} [Monad m] {α : Type}

/-- An operation on the file at a path, unless there is no such path. -/
def atPath (path : Except Failure String) (operation : String → m (Outcome α)) :
    m (Outcome α) :=
  match path with
  | .error failure => return .fail failure
  | .ok path => operation path

@[simp]
theorem atPath_ok (path : String) (operation : String → m (Outcome α)) :
    atPath (.ok path) operation = operation path := rfl

end AtPath

/-- The text in a file, or the cause why there is none. -/
def decodeText : Except FileFault ByteArray → Except Cause String
  | .error fault => .error (.file fault)
  | .ok bytes =>
    match String.fromUTF8? bytes with
    | none => .error .notText
    | some text => .ok text

/-! ## Options -/

/-- The options in what was read from a configuration file. -/
def Options.decode (path : String) (bytes : Except FileFault ByteArray) : Outcome Options :=
  match decodeText bytes with
  | .error cause => .fail (.unreadableConfig path cause)
  | .ok text =>
    match Options.ofJson text with
    | .error refusal => .fail (.invalidConfig path (.json refusal))
    | .ok options => ⟨.ok options, [.optionsLoaded path options]⟩

variable {m : Type → Type} [Monad m] [Storage m]

/-- Load the options of a configuration file. -/
def loadOptions (path : String) : m (Outcome Options) := do
  return Options.decode path (← Storage.read path)

/-- Load the options of a configuration file that need not be there. -/
def loadOptionsIfPresent (path : String) : m (Outcome Options) := do
  if ← Storage.pathExists path then loadOptions path else return .ok Options.empty

/-! ## Histories -/

/-- The history in what was read from its file. -/
def History.decode (bytes : Except FileFault ByteArray) : Outcome History :=
  match decodeText bytes with
  | .error cause => .fail (.bare cause)
  | .ok text =>
    match History.ofJson text with
    | .error refusal => .fail (.bare (.json refusal))
    | .ok history => .ok history

/-- The bytes of a history in its file. -/
def History.encode (h : History) : ByteArray := h.toJson.pretty.toUTF8

/-- Load a history; without a file it is empty. -/
def loadHistory (path : String) : m (Outcome History) := do
  if ← Storage.pathExists path then return History.decode (← Storage.read path)
  else return .ok History.empty

/-- Save a history in a file, whose directory is made if it is missing. -/
def saveHistory (path : String) (h : History) : m (Outcome Unit) := do
  match ← Storage.makeParents path with
  | .error fault => return .fail (.bare (.file fault))
  | .ok () =>
    match ← Storage.write path h.encode with
    | .error fault => return .fail (.bare (.file fault))
    | .ok () => return ⟨.ok (), [.historySaved path h.queries.length]⟩

/-- Add a query to the history in a file. -/
def recordQuery (path : String) (query : String) : m (Outcome Unit) := do
  let loaded ← loadHistory path
  match loaded.result with
  | .error failure => return ⟨.error failure, loaded.events⟩
  | .ok history =>
    let saved ← saveHistory path (history.add query)
    return ⟨saved.result, loaded.events ++ saved.events⟩

end SearchBar
