import SearchBar.Decimal.Shortest
import SearchBar.Text.Quoted

/-!
# What can be wrong with a JSON text

A reader that stops says what was wrong and how many bytes of the text it had left.  Only at the
end, with the whole text at hand, is this turned into a line and a column, so that no reader has to
count lines.
-/

namespace SearchBar.Json

/-- A number as it was read: a whole number that fits in 64 bits, or a binary one. -/
inductive Number where
  | integer (n : Int)
  | binary (negative : Bool) (x : Decimal.Binary64)
deriving DecidableEq, Repr, Inhabited

/-- A value that stands where another kind was wanted. -/
inductive Found where
  | null
  | boolean (b : Bool)
  | number (n : Number)
  | text (s : String)
  | list
  | record
deriving DecidableEq, Repr, Inhabited

/-- The kind of value that was wanted. -/
inductive Wanted where
  | options
  | list
  | text
deriving DecidableEq, Repr, Inhabited

/-- What was wrong. -/
inductive Problem where
  | endInValue
  | endInText
  | endInList
  | endInRecord
  | valueExpected
  | literalExpected
  | colonExpected
  | commaOrListEndExpected
  | commaOrRecordEndExpected
  | nameExpected
  | trailingComma
  | trailingCharacters
  | controlCharacter
  | badEscape
  | halfEscape
  | loneSurrogate
  | badNumber
  | numberTooLarge
  | wrongType (found : Found) (wanted : Wanted)
  | repeatedName (name : String)
deriving DecidableEq, Repr, Inhabited

/-- The text of a number inside a message. -/
def Number.describe : Number → String
  | .integer n => "integer `" ++ toString n ++ "`"
  | .binary negative x => "floating point `" ++ x.text negative ++ "`"

/-- The text of a found value inside a message. -/
def Found.describe : Found → String
  | .null => "null"
  | .boolean b => "boolean `" ++ (if b then "true" else "false") ++ "`"
  | .number n => n.describe
  | .text s => "string " ++ Text.quoted s
  | .list => "sequence"
  | .record => "map"

/-- The text of a wanted kind inside a message. -/
def Wanted.describe : Wanted → String
  | .options => "struct ParseOptions"
  | .list => "a sequence"
  | .text => "a string"

/-- The message of a problem, without its place. -/
def Problem.message : Problem → String
  | .endInValue => "EOF while parsing a value"
  | .endInText => "EOF while parsing a string"
  | .endInList => "EOF while parsing a list"
  | .endInRecord => "EOF while parsing an object"
  | .valueExpected => "expected value"
  | .literalExpected => "expected ident"
  | .colonExpected => "expected `:`"
  | .commaOrListEndExpected => "expected `,` or `]`"
  | .commaOrRecordEndExpected => "expected `,` or `\x7d`"
  | .nameExpected => "key must be a string"
  | .trailingComma => "trailing comma"
  | .trailingCharacters => "trailing characters"
  | .controlCharacter => "control character (\\u0000-\\u001F) found while parsing a string"
  | .badEscape => "invalid escape"
  | .halfEscape => "unexpected end of hex escape"
  | .loneSurrogate => "lone leading surrogate in hex escape"
  | .badNumber => "invalid number"
  | .numberTooLarge => "number out of range"
  | .wrongType found wanted =>
    "invalid type: " ++ found.describe ++ ", expected " ++ wanted.describe
  | .repeatedName name => "duplicate field `" ++ name ++ "`"

/-! ## Places -/

/-- The number of bytes of a text in its stored form. -/
def byteCount : List Char → Nat
  | [] => 0
  | c :: cs => c.utf8Size + byteCount cs

/-- A place in a text: its line, counted from one, and the bytes of that line before it. -/
structure Place where
  line : Nat
  column : Nat
deriving DecidableEq, Repr, Inhabited

/-- The place reached from another one by going on for a number of bytes. -/
def Place.advance (p : Place) (bytes : Nat) : List Char → Place
  | [] => p
  | c :: cs =>
    if bytes < c.utf8Size then ⟨p.line, p.column + bytes⟩
    else if c == '\n' then advance ⟨p.line + 1, 0⟩ (bytes - c.utf8Size) cs
    else advance ⟨p.line, p.column + c.utf8Size⟩ (bytes - c.utf8Size) cs

/-- Why a reader stopped, and how many bytes of the text lie behind the place it names. -/
structure Fault where
  problem : Problem
  bytesLeft : Nat
deriving DecidableEq, Repr, Inhabited

namespace Fault

/-- A problem at the first of the characters left. -/
def before (problem : Problem) (rest : List Char) : Fault := ⟨problem, byteCount rest⟩

/-- A problem just past the first byte left, or at the end of the text if none is left. -/
def past (problem : Problem) (rest : List Char) : Fault := ⟨problem, byteCount rest - 1⟩

end Fault

/-- Why a text was refused, and where. -/
structure Refusal where
  problem : Problem
  place : Place
deriving DecidableEq, Repr, Inhabited

/-- The refusal of a text in which a reader stopped. -/
def Fault.inText (f : Fault) (cs : List Char) : Refusal :=
  ⟨f.problem, Place.advance ⟨1, 0⟩ (byteCount cs - f.bytesLeft) cs⟩

/-- The message of a refusal, with its place. -/
def Refusal.message (r : Refusal) : String :=
  r.problem.message ++ " at line " ++ toString r.place.line ++ " column " ++
    toString r.place.column

end SearchBar.Json
