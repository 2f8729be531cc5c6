import SearchBar.Text.Blank
import SearchBar.Text.Inkless
import SearchBar.Text.Marks

/-!
# Quoted text in messages

How log events and error messages show a text inside double quotes.  The quote, the backslash and
the common control characters have two-character escapes; every other character that has no ink of
its own is shown as its code point in braces, in lower-case hexadecimal without padding.
-/

namespace SearchBar.Text

/-- Whether a character is shown as it is: it has ink, and it is not a combining mark. -/
def isPlain (c : Char) : Bool :=
  if c.toNat < 0x80 then 0x20 ≤ c.toNat && c.toNat < 0x7f
  else !inRanges inklessRanges c.toNat && !inRanges markRanges c.toNat

/-- The code point of a character in braces, as in `\u{1b}`. -/
def codePointEscape (c : Char) : List Char :=
  '\\' :: 'u' :: '{' :: (Nat.toDigits 16 c.toNat ++ ['}'])

/-- How one character is shown inside quotes. -/
def quotedChar (c : Char) : List Char :=
  match c with
  | '"' => ['\\', '"']
  | '\\' => ['\\', '\\']
  | '\n' => ['\\', 'n']
  | '\r' => ['\\', 'r']
  | '\t' => ['\\', 't']
  | '\x00' => ['\\', '0']
  | c => if isPlain c then [c] else codePointEscape c

/-- A text in double quotes, with its invisible characters escaped. -/
def quoted (s : String) : String :=
  String.ofList ('"' :: (s.toList.flatMap quotedChar ++ ['"']))

end SearchBar.Text
