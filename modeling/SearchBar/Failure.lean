import SearchBar.FileSystem.Basic
import SearchBar.Json.Fault

/-!
# Failures

Why options or a history could not be loaded or saved: the cause, and where it lies in a
configuration file also that file.
-/

namespace SearchBar

/-- What lies at the bottom of a failure. -/
inductive Cause where
  | file (fault : FileFault)
  /-- There is no directory in which the user's configuration files could be. -/
  | noConfigDirectory
  /-- The bytes of a file are no text. -/
  | notText
  | json (refusal : Json.Refusal)
deriving DecidableEq, Repr, Inhabited

/-- The message of a cause. -/
def Cause.message : Cause → String
  | .file fault => fault.message
  | .noConfigDirectory => "Could not find config directory"
  | .notText => "stream did not contain valid UTF-8"
  | .json refusal => refusal.message

/-- A failed operation. -/
inductive Failure where
  /-- An operation on the history failed, or there is no place for a file. -/
  | bare (cause : Cause)
  /-- The configuration file could not be read. -/
  | unreadableConfig (path : String) (cause : Cause)
  /-- The configuration file holds no options. -/
  | invalidConfig (path : String) (cause : Cause)
deriving DecidableEq, Repr, Inhabited

/-- What lies at the bottom of a failure. -/
def Failure.cause : Failure → Cause
  | .bare cause => cause
  | .unreadableConfig _ cause => cause
  | .invalidConfig _ cause => cause

/-- The message of a failure, with its cause at the end. -/
def Failure.message : Failure → String
  | .bare cause => cause.message
  | .unreadableConfig path cause => "Could not read config file " ++ path ++ ": " ++ cause.message
  | .invalidConfig path cause => "Invalid config file " ++ path ++ ": " ++ cause.message

end SearchBar
