/-!
# Tokens

A query line is cut into tokens at its spaces.  A double quote opens a span in which spaces are
kept; the quote that closes the span also ends the token, while the one that opens it does not, so
that what stands directly before a span is glued to it.  The quotes themselves belong to no token.
A span that is never closed runs to the end of the line.
-/

namespace SearchBar.Token

/-- Cut a line into tokens.  `quoted` tells whether the reading is inside a quoted span, and `buf`
holds the characters of the token begun so far, last one first.  A space outside quotes and a
closing quote end a token even when it has no characters; the end of the line only ends one that
has. -/
def scan (quoted : Bool) (buf : List Char) : List Char → List (List Char)
  | [] => if buf.isEmpty then [] else [buf.reverse]
  | c :: cs =>
    if c == '"' then
      if quoted then buf.reverse :: scan false [] cs else scan true buf cs
    else if c == ' ' && !quoted then buf.reverse :: scan false [] cs
    else scan quoted (c :: buf) cs

/-- The tokens of a line, in order, empty ones included. -/
def chars (cs : List Char) : List (List Char) := scan false [] cs

end SearchBar.Token

namespace SearchBar

/-- The tokens of a line, in order, empty ones included. -/
def tokenize (s : String) : List String := (Token.chars s.toList).map String.ofList

end SearchBar
