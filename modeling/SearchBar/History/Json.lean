import SearchBar.History
import SearchBar.Json.Printer
import SearchBar.Json.Texts

/-!
# The JSON form of a history

A history is written as a list of its queries in pretty form, and read from any list of texts.
-/

namespace SearchBar.History

/-- A history as the list of its queries. -/
def toJson (h : History) : Json.Tree := .texts h.queries

/-- The history that a JSON text holds. -/
def ofJson (text : String) : Except Json.Refusal History :=
  match Json.readWhole Json.readTexts text with
  | .error r => .error r
  | .ok queries => .ok ⟨queries⟩

end SearchBar.History
