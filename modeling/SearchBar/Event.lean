import SearchBar.Failure
import SearchBar.Options
import SearchBar.Query

/-!
# Log events

What the library tells about its work, one event at a time.  An event is kept as what happened; its
level, its message and its named fields are read off it.
-/

namespace SearchBar

/-- How much an event matters. -/
inductive Level where
  | trace
  | debug
  | warn
deriving DecidableEq, Repr, Inhabited

/-- The name of a level. -/
def Level.name : Level → String
  | .trace => "TRACE"
  | .debug => "DEBUG"
  | .warn => "WARN"

/-- Something that happened. -/
inductive Event where
  /-- A token without a key was taken as free text. -/
  | freeText (token : String)
  /-- A token with the reserved key was taken as free text. -/
  | reservedKey (token : String)
  /-- A token with an unknown key was taken as free text. -/
  | unregisteredKey (token key : String)
  /-- A token with a keyword but no value was dropped. -/
  | emptyKeyword (key : String)
  /-- A keyword was given a value of some pieces. -/
  | keyword (key value : String) (count : Nat)
  /-- The value of a range is not two parts around one dash. -/
  | undividedRange (key value : String)
  /-- A range was given a value. -/
  | range (key : String) (value : RangeValue)
  /-- Options were loaded from a file. -/
  | optionsLoaded (path : String) (options : Options)
  /-- A history of some length was saved to a file. -/
  | historySaved (path : String) (length : Nat)
  /-- A query could not be recorded in the history. -/
  | historyNotUpdated (failure : Failure)

/-- The value of a named field of an event. -/
inductive EventValue where
  | text (s : String)
  | number (n : Nat)
deriving DecidableEq, Repr, Inhabited

/-! ## Shown values -/

/-- How an event shows a range. -/
def RangeValue.shown (r : RangeValue) : String :=
  let stop := match r.stop with
    | none => "None"
    | some s => "Some(" ++ Text.quoted s ++ ")"
  "RangeValue \x7b from: " ++ Text.quoted r.start ++ ", to: " ++ stop ++ " \x7d"

/-- How an event shows a set of names. -/
def NameSet.shown (s : NameSet) : String :=
  "\x7b" ++ ", ".intercalate (s.toList.map Text.quoted) ++ "\x7d"

/-- How an event shows options. -/
def Options.shown (o : Options) : String :=
  "ParseOptions \x7b keywords: " ++ o.keywords.shown ++ ", ranges: " ++ o.ranges.shown ++ " \x7d"

namespace Event

/-- How much an event matters. -/
def level : Event → Level
  | .freeText _ | .reservedKey _ | .keyword .. | .range .. => .trace
  | .unregisteredKey .. | .emptyKeyword _ | .undividedRange .. | .optionsLoaded ..
  | .historySaved .. => .debug
  | .historyNotUpdated _ => .warn

/-- What an event says. -/
def message : Event → String
  | .freeText _ => "free text"
  | .reservedKey _ => "reserved key, free text"
  | .unregisteredKey .. => "unregistered key, folding into free text"
  | .emptyKeyword _ => "empty keyword value, dropping token"
  | .keyword .. => "keyword"
  | .undividedRange .. => "range without a single dash, keeping whole value"
  | .range .. => "range"
  | .optionsLoaded .. => "loaded parse options"
  | .historySaved .. => "saved history"
  | .historyNotUpdated failure => "Could not update history: " ++ failure.message

/-- The named fields of an event. -/
def fields : Event → List (String × EventValue)
  | .freeText token | .reservedKey token => [("token", .text token)]
  | .unregisteredKey token key => [("token", .text token), ("key", .text key)]
  | .emptyKeyword key => [("key", .text key)]
  | .keyword key value count =>
    [("key", .text key), ("value", .text value), ("count", .number count)]
  | .undividedRange key value => [("key", .text key), ("value", .text value)]
  | .range key value => [("key", .text key), ("range", .text value.shown)]
  | .optionsLoaded path options => [("path", .text path), ("options", .text options.shown)]
  | .historySaved path length => [("path", .text path), ("len", .number length)]
  | .historyNotUpdated _ => []

end Event

end SearchBar
