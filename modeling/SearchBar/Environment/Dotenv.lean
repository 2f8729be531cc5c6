import SearchBar.Environment
import SearchBar.Text.Alphanumeric

/-!
# Variables from a file

A file of lines `NAME=value` adds variables to an environment that does not have them yet.  Quotes
and backslashes keep a line going over line ends, a `#` behind a blank starts a comment, and a value
may hold the values of other variables.  The first line that is malformed ends the reading; what
came before it stays in force.  A value that no environment can hold leaves nothing to go on with.
-/

namespace SearchBar.Dotenv

/-! ## Lines -/

/-- The lines of a file, each with the line feed that ends it. -/
def byteLines : List UInt8 → List (List UInt8)
  | [] => []
  | b :: bs =>
    if b = 10 then [b] :: byteLines bs
    else
      match byteLines bs with
      | [] => [[b]]
      | l :: ls => (b :: l) :: ls

/-- The characters of a line, if its bytes are text. -/
def decodeLine (bytes : List UInt8) : Option (List Char) :=
  (String.fromUTF8? (ByteArray.mk bytes.toArray)).map String.toList

/-- The bytes of a file without the mark that may stand at its start. -/
def dropMark : List UInt8 → List UInt8
  | 0xEF :: 0xBB :: 0xBF :: bytes => bytes
  | bytes => bytes

/-- Where the reading of a line stands. -/
inductive LineState where
  /-- The line may end here. -/
  | complete
  /-- Behind a blank, where a comment may start. -/
  | blank
  | escape
  | double
  | doubleEscape
  | single
  | singleEscape
  /-- Behind the `#` of a comment. -/
  | comment
deriving DecidableEq, Repr, Inhabited

/-- What a character that opens something leads to; otherwise the line may end. -/
def LineState.opened (c : Char) : LineState :=
  match c with
  | '\\' => .escape
  | '"' => .double
  | '\'' => .single
  | _ => .complete

/-- The state behind one more character. -/
def LineState.next (s : LineState) (c : Char) : LineState :=
  match s with
  | .complete =>
    if Text.isBlank c && c != '\n' && c != '\r' then .blank else .opened c
  | .blank => if c == '#' then .comment else .opened c
  | .escape => .complete
  | .double => if c == '\\' then .doubleEscape else if c == '"' then .complete else .double
  | .doubleEscape => .double
  | .single => if c == '\\' then .singleEscape else if c == '\'' then .complete else .single
  | .singleEscape => .single
  | .comment => .comment

/-- Go over one line: the characters before a comment, and the state at its end. -/
def scanLine (s : LineState) : List Char → List Char × LineState
  | [] => ([], s)
  | c :: cs =>
    match s.next c with
    | .comment => ([], .comment)
    | s' =>
      let (kept, last) := scanLine s' cs
      (c :: kept, last)

/-- A line without the line end at its end. -/
def dropLineEnd (cs : List Char) : List Char :=
  match cs.reverse with
  | '\n' :: '\r' :: r => r.reverse
  | '\n' :: r => r.reverse
  | _ => cs

/-- Join lines to whole ones; a line that never becomes whole, or is no text, is missing and the
last.  `begun` holds what was read of the present one. -/
def wholeLines (s : LineState) (begun : List Char) :
    List (Option (List Char)) → List (Option (List Char))
  | [] => if s = .complete then [] else [none]
  | none :: _ => [none]
  | some line :: rest =>
    if ((begun ++ line).dropWhile Text.isBlank).head? == some '#' then
      some [] :: wholeLines .complete [] rest
    else
      match scanLine s line with
      | (_, .complete) => some (dropLineEnd (begun ++ line)) :: wholeLines .complete [] rest
      | (kept, .comment) => some (begun ++ kept) :: wholeLines .complete [] rest
      | (_, s') => wholeLines s' (begun ++ line) rest

/-! ## Values -/

/-- Where the reading of a value stands.  The flag tells whether it is inside double quotes.  A name
without braces is made of letters and digits of any script, a name in braces of any characters. -/
inductive ValueState where
  | text (double : Bool)
  | escape (double : Bool)
  | single
  /-- In the name of a variable, whose characters are held last one first. -/
  | name (double : Bool) (read : List Char)
  /-- In a name in braces. -/
  | braced (double : Bool) (read : List Char)
  /-- Behind the value, where only blanks and a comment may follow. -/
  | ended
  | comment
deriving DecidableEq, Repr, Inhabited

/-- The character that an escape stands for. -/
def escaped? (c : Char) : Option Char :=
  if c == '\\' || c == '\'' || c == '"' || c == '$' || c == ' ' then some c
  else if c == 'n' then some '\n'
  else none

/-- The state behind one more character of a value, and what the character adds to the value.
`value` gives the values of variables. -/
def ValueState.next (value : String → String) (s : ValueState) (c : Char) :
    Option (ValueState × List Char) :=
  let valueOf (read : List Char) : List Char := (value (String.ofList read.reverse)).toList
  match s with
  | .ended =>
    if c == ' ' || c == '\t' then some (.ended, [])
    else if c == '#' then some (.comment, [])
    else none
  | .comment => some (.comment, [])
  | .escape double => (escaped? c).map fun e => (.text double, [e])
  | .single => if c == '\'' then some (.text false, []) else some (.single, [c])
  | .name double read =>
    if Text.isAlphanumeric c then some (.name double (c :: read), [])
    else if c == '{' && read.isEmpty then some (.braced double [], [])
    else if c == '$' then some (.name double [], valueOf read)
    else some (.text double, valueOf read ++ [c])
  | .braced double read =>
    if c == '}' then some (.text double, valueOf read) else some (.braced double (c :: read), [])
  | .text double =>
    if c == '$' then some (.name double [], [])
    else if c == '\\' then some (.escape double, [])
    else if c == '"' then some (.text (!double), [])
    else if double then some (.text true, [c])
    else if c == '\'' then some (.single, [])
    else if c == ' ' || c == '\t' then some (.ended, [])
    else some (.text false, [c])

/-- What the end of a value adds to it, if the value may end. -/
def ValueState.finish (value : String → String) : ValueState → Option (List Char)
  | .text false | .escape false | .ended | .comment => some []
  | .name false read => some (value (String.ofList read.reverse)).toList
  | _ => none

/-- Read a value. -/
def readValue (value : String → String) (s : ValueState) : List Char → Option (List Char)
  | [] => s.finish value
  | c :: cs =>
    match s.next value c with
    | none => none
    | some (s', added) => (readValue value s' cs).map (added ++ ·)

/-! ## Definitions -/

/-- What one line says. -/
inductive Line where
  /-- Nothing: it is empty or a comment. -/
  | nothing
  | define (name value : String)
  | malformed
deriving DecidableEq, Repr, Inhabited

/-- Read the name of a variable: its characters, and what is left behind them. -/
def readName? (cs : List Char) : Option (List Char × List Char) :=
  let isHead (c : Char) : Bool := c.isAlpha || c == '_'
  let isTail (c : Char) : Bool := c.isAlphanum || c == '_' || c == '.'
  match cs with
  | c :: _ => if isHead c then some (cs.takeWhile isTail, cs.dropWhile isTail) else none
  | [] => none

/-- A line from its first character that is no blank. -/
def skipBlanks (cs : List Char) : List Char := cs.dropWhile Text.isBlank

/-- Read the value behind an equals sign. -/
def readDefinition (value : String → String) (name : List Char) (cs : List Char) : Line :=
  match skipBlanks cs with
  | [] => .define (String.ofList name) ""
  | '#' :: _ => .define (String.ofList name) ""
  | cs' =>
    match readValue value (.text false) cs' with
    | some v => .define (String.ofList name) (String.ofList v)
    | none => .malformed

/-- Read a line.  The word `export` may stand in front of the name, unless it is the name. -/
def readLine (value : String → String) (line : List Char) : Line :=
  match Text.trimChars line with
  | [] => .nothing
  | '#' :: _ => .nothing
  | cs =>
    match readName? cs with
    | none => .malformed
    | some (name, rest) =>
      match skipBlanks rest with
      | '=' :: rest' => readDefinition value name rest'
      | rest' =>
        if name = ['e', 'x', 'p', 'o', 'r', 't'] then
          match readName? rest' with
          | none => .malformed
          | some (name', rest'') =>
            match skipBlanks rest'' with
            | '=' :: rest3 => readDefinition value name' rest3
            | _ => .malformed
        else .malformed

/-- The value of a variable in an environment, or the last one that a line gave it. -/
def valueIn (env : Environment) (defined : List (String × String)) (name : String) : String :=
  ((env.valueOf? name).or (defined.lookup name)).getD ""

/-- The environment with the variables of whole lines added, if it can hold them; `defined` holds
what the lines before them defined, the last one first. -/
def loadLines (env : Environment) (defined : List (String × String)) :
    List (Option (List Char)) → Option Environment
  | [] => some env
  | none :: _ => some env
  | some line :: rest =>
    match readLine (valueIn env defined) line with
    | .nothing => loadLines env defined rest
    | .malformed => some env
    | .define name value =>
      match env.addMissing? name value with
      | none => none
      | some env' => loadLines env' ((name, value) :: defined) rest

/-- The environment with the variables of a file added, if it can hold them. -/
def load (env : Environment) (bytes : ByteArray) : Option Environment :=
  let lines := (byteLines (dropMark bytes.data.toList)).map decodeLine
  loadLines env [] (wholeLines .complete [] lines)

/-- All names that the text of a file can speak of: those it may define, and those whose values it
may ask for, with braces or without. -/
def mentioned (bytes : ByteArray) : List String :=
  match String.fromUTF8? bytes with
  | none => []
  | some text =>
    let cs := text.toList
    let defined := cs.splitOnP fun c => !(c.isAlphanum || c == '_' || c == '.')
    let asked := cs.splitOnP fun c => !Text.isAlphanumeric c
    let braced := ((cs.splitOn '{').drop 1).map (·.takeWhile (· != '}'))
    ((defined ++ asked ++ braced).map String.ofList).filter (· ≠ "")

end SearchBar.Dotenv
