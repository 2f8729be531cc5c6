import SearchBar.Json.Printer
import SearchBar.Query

/-!
# The JSON form of a query record

A record becomes one JSON record: the free text first, under the name `text`, then the fields in
order.  A value is a text or a list of texts; a range is a record of its ends, without the second
one when it is not known.  What a member holds tells what kind of field it stands for, so a record
can be read from its members again (`Query.ofMembers?`).
-/

namespace SearchBar

open Json (Tree)

/-- A single text stands alone, several stand in a list. -/
def Value.toJson : Value → Tree
  | .scalar s => .text s
  | .list ss => .texts ss

/-- A range as a record of its ends. -/
def RangeValue.toJson (r : RangeValue) : Tree :=
  .record (("from", .text r.start) :: (r.stop.map fun s => ("to", Tree.text s)).toList)

/-- A field as the JSON form of what it holds. -/
def Field.toJson : Field → Tree
  | .keyword v => v.toJson
  | .range r => r.toJson

/-- A record as free text, if there is any, and fields in order. -/
def Query.toJson (q : Query) : Tree :=
  .record ((q.freeText.map fun v => (textName, v.toJson)).toList ++
    q.fields.map fun (name, f) => (name, f.toJson))

/-! ## Reading the members -/

/-- The value that a text or a list of texts stands for. -/
def Value.ofJson? : Tree → Option Value
  | .text s => some (.scalar s)
  | .list items => (Tree.list items).texts?.map .list
  | .record _ => none

/-- The range whose ends some members tell. -/
def RangeValue.ofMembers? (members : List (String × Tree)) : Option RangeValue := do
  let start ← (← members.lookup "from").text?
  match members.lookup "to" with
  | none => return ⟨start, none⟩
  | some t => return ⟨start, some (← t.text?)⟩

/-- The field that a document stands for: a range if it is a record, and otherwise a keyword. -/
def Field.ofJson? : Tree → Option Field
  | .record members => (RangeValue.ofMembers? members).map .range
  | t => (Value.ofJson? t).map .keyword

/-- The free text that a member tells, if there is one. -/
def textOfMember? : Option Tree → Option (List String)
  | none => some []
  | some t => (Value.ofJson? t).map Value.toList

/-- The record that some members tell: free text in the member `text`, and a field in every other
one. -/
def Query.ofMembers? (members : List (String × Tree)) : Option Query := do
  let text ← textOfMember? (members.lookup textName)
  let fields ← (members.filter fun m => m.1 ≠ textName).mapM fun (name, t) => do
    return (name, ← Field.ofJson? t)
  return ⟨text, fields⟩

end SearchBar
