import SearchBar.Json.Tree

/-!
# Writing JSON

Two written forms of a document.  The *compact* form has no blank outside its texts.  The *pretty*
form puts every item and member on a line of its own, two spaces deeper than what encloses it, with
a blank after each colon; an empty list or record stays `[]` or `{}`.  Both escape the same
characters: the quote, the backslash and everything below the space.
-/

namespace SearchBar.Json

/-- The lower-case hexadecimal digit of a number below sixteen. -/
def hexDigit (n : Nat) : Char :=
  if n < 10 then Char.ofNat (n + 48) else Char.ofNat (n + 87)

/-- How one character stands between the quotes of a JSON text. -/
def escapeChar (c : Char) : List Char :=
  match c with
  | '"' => ['\\', '"']
  | '\\' => ['\\', '\\']
  | '\x08' => ['\\', 'b']
  | '\x0c' => ['\\', 'f']
  | '\n' => ['\\', 'n']
  | '\r' => ['\\', 'r']
  | '\t' => ['\\', 't']
  | c =>
    if c.toNat < 0x20 then ['\\', 'u', '0', '0', hexDigit (c.toNat / 16), hexDigit (c.toNat % 16)]
    else [c]

/-- A text as JSON writes it, quotes included. -/
def textChars (cs : List Char) : List Char := '"' :: (cs.flatMap escapeChar ++ ['"'])

/-! ## The compact form -/

mutual

/-- A document without blanks. -/
def compactChars : Tree → List Char
  | .text s => textChars s.toList
  | .list items => '[' :: (compactItems items ++ [']'])
  | .record members => '{' :: (compactMembers members ++ ['}'])

/-- The items of a list with a comma between neighbours. -/
def compactItems : List Tree → List Char
  | [] => []
  | [t] => compactChars t
  | t :: ts => compactChars t ++ ',' :: compactItems ts

/-- The members of a record with a comma between neighbours. -/
def compactMembers : List (String × Tree) → List Char
  | [] => []
  | [(name, t)] => textChars name.toList ++ ':' :: compactChars t
  | (name, t) :: ms => textChars name.toList ++ ':' :: (compactChars t ++ ',' :: compactMembers ms)

end

/-- The compact form of a document. -/
def Tree.compact (t : Tree) : String := String.ofList (compactChars t)

/-! ## The pretty form -/

/-- A line break and the blanks that begin a line at the given depth. -/
def lineBreak (depth : Nat) : List Char := '\n' :: List.replicate (2 * depth) ' '

mutual

/-- A document whose first character stands on a line of the given depth. -/
def prettyChars (depth : Nat) : Tree → List Char
  | .text s => textChars s.toList
  | .list [] => ['[', ']']
  | .list (t :: ts) => '[' :: (prettyItems (depth + 1) (t :: ts) ++ lineBreak depth ++ [']'])
  | .record [] => ['{', '}']
  | .record (m :: ms) => '{' :: (prettyMembers (depth + 1) (m :: ms) ++ lineBreak depth ++ ['}'])

/-- The items of a list, each on a line of its own. -/
def prettyItems (depth : Nat) : List Tree → List Char
  | [] => []
  | [t] => lineBreak depth ++ prettyChars depth t
  | t :: ts => lineBreak depth ++ prettyChars depth t ++ ',' :: prettyItems depth ts

/-- The members of a record, each on a line of its own. -/
def prettyMembers (depth : Nat) : List (String × Tree) → List Char
  | [] => []
  | [(name, t)] => lineBreak depth ++ textChars name.toList ++ ':' :: ' ' :: prettyChars depth t
  | (name, t) :: ms =>
    lineBreak depth ++ textChars name.toList ++ ':' :: ' ' :: (prettyChars depth t ++
      ',' :: prettyMembers depth ms)

end

/-- The pretty form of a document. -/
def Tree.pretty (t : Tree) : String := String.ofList (prettyChars 0 t)

end SearchBar.Json
