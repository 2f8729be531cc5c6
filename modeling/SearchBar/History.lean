/-!
# Query histories

The queries parsed lately, the latest first.  Adding a query puts it in front, takes away where it
stood before, and keeps no more than a hundred.
-/

namespace SearchBar

/-- The queries parsed lately, the latest first. -/
structure History where
  queries : List String
deriving DecidableEq, Repr, Inhabited

namespace History

/-- How many queries are kept. -/
def capacity : Nat := 100

/-- The history without queries. -/
def empty : History := ⟨[]⟩

/-- The history after a query was made. -/
def add (h : History) (query : String) : History :=
  ⟨(query :: h.queries.filter (· ≠ query)).take capacity⟩

/-- The latest queries, no more than a limit. -/
def recent (h : History) (limit : Nat) : List String := h.queries.take limit

/-- The history after all queries were removed. -/
def clear (_ : History) : History := empty

/-- A history holds no more than its capacity once a query was added. -/
theorem length_add_le (h : History) (query : String) : (h.add query).queries.length ≤ capacity := by
  rw [add]
  exact List.length_take_le ..

end History

end SearchBar
