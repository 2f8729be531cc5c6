/-!
# JSON documents

The documents this library writes: texts, lists and records.  A record keeps its members in the
order in which they were written.
-/

namespace SearchBar.Json

/-- A JSON document built from texts, lists and ordered records. -/
inductive Tree where
  | text (s : String)
  | list (items : List Tree)
  | record (members : List (String × Tree))
deriving Repr, Inhabited

/-- The list of some texts. -/
def Tree.texts (ss : List String) : Tree := .list (ss.map .text)

/-- The text of a document that is nothing but a text. -/
def Tree.text? : Tree → Option String
  | .text s => some s
  | .list _ | .record _ => none

/-- The texts of a document that is a list of texts. -/
def Tree.texts? : Tree → Option (List String)
  | .list items => items.mapM Tree.text?
  | .text _ | .record _ => none

theorem Tree.texts?_texts (ss : List String) : (Tree.texts ss).texts? = some ss := by
  rw [texts, texts?]
  induction ss with
  | nil => rfl
  | cons s ss ih => simp [List.mapM_cons, text?, ih]

end SearchBar.Json
