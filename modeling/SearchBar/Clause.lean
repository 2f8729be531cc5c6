import SearchBar.Event
import SearchBar.Text.Blank
import SearchBar.Text.Split

/-!
# Clauses

A clause is what one token says under given options.  A token is divided at its first colon into a
key and a value.  A known key makes the token a keyword or a range; without a key, with an unknown
key or with the reserved one it is free text.  From a clause one can read off both what it adds to
a record and which events tell of it.
-/

namespace SearchBar

/-- What one token says. -/
inductive Clause where
  /-- Free text without a key. -/
  | plain (token : String)
  /-- Free text that has the reserved key. -/
  | reserved (token : String)
  /-- Free text that has a key nobody knows. -/
  | unregistered (token key : String)
  /-- A keyword without a value, which says nothing. -/
  | emptyKeyword (key : String)
  /-- A keyword and its value. -/
  | keyword (key value : String)
  /-- A range and its value. -/
  | range (key value : String)
deriving DecidableEq, Repr, Inhabited

/-- The key and the value of a token with a colon. -/
def keyValue? (token : String) : Option (String × String) :=
  (Text.cutChars ':' token.toList).map fun (k, v) => (String.ofList k, String.ofList v)

/-- What a token with a key says. -/
def Clause.ofKeyValue (o : Options) (token key value : String) : Clause :=
  if key = textName then .reserved token
  else if o.isKeyword key then
    if value = "" then .emptyKeyword key else .keyword key value
  else if o.isRange key then .range key value
  else .unregistered token key

/-- What a token says. -/
def Clause.ofToken (o : Options) (token : String) : Clause :=
  match keyValue? token with
  | none => .plain token
  | some (key, value) => .ofKeyValue o token key value

/-! ## Values -/

/-- The pieces of a keyword value. -/
def keywordPieces (value : String) : List String := Text.splitAt ',' value

/-- The value of a keyword that has been given one more value.  The first value is a list if it has
several pieces; a list grows by all pieces of the value; but the second value of a keyword with a
single text is taken whole. -/
def Value.grow : Option Value → String → Value
  | none, value =>
    if 1 < (keywordPieces value).length then .list (keywordPieces value) else .scalar value
  | some (.scalar s), value => .list [s, value]
  | some (.list ss), value => .list (ss ++ keywordPieces value)

/-- The two parts of a value with exactly one dash. -/
def rangeParts? (value : String) : Option (String × String) :=
  match Text.cutChars '-' value.toList with
  | some (a, b) => if '-' ∈ b then none else some (String.ofList a, String.ofList b)
  | none => none

/-- The range that a value stands for: its two parts if it has exactly one dash, and otherwise the
whole value as the start. -/
def RangeValue.ofValue (value : String) : RangeValue :=
  match rangeParts? value with
  | some (a, b) => ⟨a, some b⟩
  | none => ⟨value, none⟩

/-! ## What a clause adds to a record -/

/-- The record with what a clause says added to it. -/
def Query.add (q : Query) : Clause → Query
  | .plain token => q.addText (Text.trim token)
  | .reserved token => q.addText (Text.trim token)
  | .unregistered token _ => q.addText (Text.trim token)
  | .emptyKeyword _ => q
  | .keyword key value => q.set key (.keyword (Value.grow (q.keyword? key) value))
  | .range key value => q.set key (.range (.ofValue value))

/-- The events that tell of a clause. -/
def Clause.events : Clause → List Event
  | .plain token => [.freeText token]
  | .reserved token => [.reservedKey token]
  | .unregistered token key => [.unregisteredKey token key]
  | .emptyKeyword key => [.emptyKeyword key]
  | .keyword key value => [.keyword key value (keywordPieces value).length]
  | .range key value =>
    (if (rangeParts? value).isNone then [.undividedRange key value] else []) ++
      [.range key (.ofValue value)]

end SearchBar
