/-!
# Query records

What one query line says: its free text, and the named fields with their values.  A field holds
keywords or a range.  Fields stand in the order in which their names were first seen, and giving a
field a new value leaves it in its place.
-/

namespace SearchBar

/-- One text, or a list of texts. -/
inductive Value where
  | scalar (s : String)
  | list (ss : List String)
deriving DecidableEq, Repr, Inhabited

/-- The texts of a value, in order. -/
def Value.toList : Value → List String
  | .scalar s => [s]
  | .list ss => ss

/-- A range: where it starts and, if that is known, where it stops. -/
structure RangeValue where
  start : String
  stop : Option String
deriving DecidableEq, Repr, Inhabited

/-- The name under which free text is written; no field may bear it. -/
def textName : String := "text"

/-- What a named field holds. -/
inductive Field where
  | keyword (value : Value)
  | range (value : RangeValue)
deriving DecidableEq, Repr, Inhabited

/-- The record of one query line. -/
structure Query where
  /-- The pieces of free text, in order. -/
  text : List String := []
  /-- The named fields, in the order in which the names were first seen. -/
  fields : List (String × Field) := []
deriving DecidableEq, Repr, Inhabited

namespace Query

/-- Give a name a field: in its place if the name is there, at the end otherwise. -/
def setField (name : String) (field : Field) : List (String × Field) → List (String × Field)
  | [] => [(name, field)]
  | (n, f) :: rest => if n = name then (n, field) :: rest else (n, f) :: setField name field rest

/-- The field of a name. -/
def getField? (name : String) : List (String × Field) → Option Field
  | [] => none
  | (n, f) :: rest => if n = name then some f else getField? name rest

/-- The record that says nothing. -/
def empty : Query := {}

/-- Whether there is neither free text nor a field. -/
def isEmpty (q : Query) : Bool := q.text.isEmpty && q.fields.isEmpty

/-- The free text as one value: a single piece stands alone. -/
def freeText (q : Query) : Option Value :=
  match q.text with
  | [] => none
  | [s] => some (.scalar s)
  | ss => some (.list ss)

/-- The field of a name. -/
def get? (q : Query) (name : String) : Option Field := getField? name q.fields

/-- The value of a keyword field. -/
def keyword? (q : Query) (name : String) : Option Value :=
  match q.get? name with
  | some (.keyword v) => some v
  | _ => none

/-- The value of a range field. -/
def range? (q : Query) (name : String) : Option RangeValue :=
  match q.get? name with
  | some (.range r) => some r
  | _ => none

/-- The names of the fields, in order. -/
def names (q : Query) : List String := q.fields.map Prod.fst

/-- The record with one more piece of free text. -/
def addText (q : Query) (s : String) : Query := { q with text := q.text ++ [s] }

/-- The record with a new value for a field, which keeps its place if it has one. -/
def set (q : Query) (name : String) (field : Field) : Query :=
  { q with fields := setField name field q.fields }

/-! ## Looking up what was set -/

theorem getField?_setField (name n : String) (field : Field) (fs : List (String × Field)) :
    getField? n (setField name field fs) = if name = n then some field else getField? n fs := by
  induction fs with
  | nil => simp [setField, getField?]
  | cons p ps ih =>
    obtain ⟨m, f⟩ := p
    rw [setField]
    split
    · rename_i h
      subst h
      simp only [getField?]
      split <;> rfl
    · rename_i h
      simp only [getField?, ih]
      by_cases hm : m = n
      · subst hm
        rw [if_pos rfl, if_neg (Ne.symm h), if_pos rfl]
      · simp only [if_neg hm]

/-- Setting a field gives it the new value and leaves all others alone. -/
theorem get?_set (q : Query) (name n : String) (field : Field) :
    (q.set name field).get? n = if name = n then some field else q.get? n :=
  getField?_setField name n field q.fields

theorem map_fst_setField (name : String) (field : Field) (fs : List (String × Field)) :
    (setField name field fs).map Prod.fst =
      if name ∈ fs.map Prod.fst then fs.map Prod.fst else fs.map Prod.fst ++ [name] := by
  induction fs with
  | nil => simp [setField]
  | cons p ps ih =>
    obtain ⟨m, f⟩ := p
    rw [setField]
    split
    · rename_i h
      simp [h]
    · rename_i h
      simp only [List.map_cons, ih, List.mem_cons, Ne.symm h, false_or]
      split <;> rfl

/-- Setting a field moves no name: a known one stays where it is, a new one comes last. -/
theorem names_set (q : Query) (name : String) (field : Field) :
    (q.set name field).names = if name ∈ q.names then q.names else q.names ++ [name] :=
  map_fst_setField name field q.fields

end Query

end SearchBar
