import SearchBar.Json.Printer
import SearchBar.NameSet

/-!
# Parse options

The names that a query line may use as keys: those of keyword fields and those of range fields.
A name in both sets is a keyword.  Options are joined name by name, so how and how often a name was
supplied makes no difference.
-/

namespace SearchBar

/-- The names of keyword fields and of range fields. -/
structure Options where
  keywords : NameSet
  ranges : NameSet
deriving DecidableEq

namespace Options

/-- Options that know no name. -/
def empty : Options := ⟨NameSet.empty, NameSet.empty⟩

instance : Inhabited Options := ⟨empty⟩

/-- The options with more keyword names. -/
def withKeywords (o : Options) (names : List String) : Options :=
  { o with keywords := o.keywords.insertAll names }

/-- The options with more range names. -/
def withRanges (o : Options) (names : List String) : Options :=
  { o with ranges := o.ranges.insertAll names }

/-- The names of both. -/
def merge (o p : Options) : Options := ⟨o.keywords.union p.keywords, o.ranges.union p.ranges⟩

/-- Whether a key names a keyword field. -/
def isKeyword (o : Options) (key : String) : Bool := decide (key ∈ o.keywords)

/-- Whether a key names a range field. -/
def isRange (o : Options) (key : String) : Bool := decide (key ∈ o.ranges)

/-- The options as a JSON record of two lists, each in increasing order. -/
def toJson (o : Options) : Json.Tree :=
  .record [("keywords", .texts o.keywords.toList), ("ranges", .texts o.ranges.toList)]

/-- Options that know the same names are equal. -/
theorem ext {o p : Options} (hk : ∀ n, n ∈ o.keywords ↔ n ∈ p.keywords)
    (hr : ∀ n, n ∈ o.ranges ↔ n ∈ p.ranges) : o = p := by
  cases o
  cases p
  rw [Options.mk.injEq]
  exact ⟨NameSet.ext hk, NameSet.ext hr⟩

end Options

end SearchBar
