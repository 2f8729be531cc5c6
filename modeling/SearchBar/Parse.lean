import SearchBar.Clause
import SearchBar.Text.Words
import SearchBar.Token

/-!
# Parsing a query line

A line is put into normal spacing and cut into tokens; each token that is not empty says one clause,
and the record of the line is what all clauses add up to, in order.
-/

namespace SearchBar

/-- The tokens of a line in normal spacing that are not empty. -/
def lineTokens (line : String) : List String :=
  (tokenize (Text.normalize line)).filter (· ≠ "")

/-- What the tokens of a line say, in order. -/
def clauses (line : String) (o : Options) : List Clause :=
  (lineTokens line).map (Clause.ofToken o)

/-- The record of a query line. -/
def parse (line : String) (o : Options) : Query := (clauses line o).foldl Query.add Query.empty

/-- The events that tell of the parsing of a line. -/
def parseEvents (line : String) (o : Options) : List Event :=
  (clauses line o).flatMap Clause.events

end SearchBar
