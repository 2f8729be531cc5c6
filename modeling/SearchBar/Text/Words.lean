import SearchBar.Text.Blank
import SearchBar.Text.Split

/-!
# Words of a line

The words of a line are its maximal runs of characters other than separators.  In normal spacing
the words stand one space apart and nothing stands before the first or after the last.
-/

namespace SearchBar.Text

/-- The maximal runs of characters that are no separators, in order. -/
def wordChars (cs : List Char) : List (List Char) :=
  (cs.splitOnP isSeparator).filter fun w => !w.isEmpty

/-- A line in normal spacing: its words, one space apart. -/
def normalizeChars (cs : List Char) : List Char := [' '].intercalate (wordChars cs)

/-- The words of a line. -/
def words (s : String) : List String := (wordChars s.toList).map String.ofList

/-- A line in normal spacing: its words, one space apart. -/
def normalize (s : String) : String := String.ofList (normalizeChars s.toList)

theorem wordChars_nil : wordChars [] = [] := rfl

/-- A word is not empty, and none of its characters is a separator. -/
theorem of_mem_wordChars {cs w : List Char} (h : w ∈ wordChars cs) :
    w ≠ [] ∧ ∀ c ∈ w, isSeparator c = false := by
  rw [wordChars, List.mem_filter] at h
  refine ⟨?_, fun c hc => not_of_mem_splitOnP h.1 hc⟩
  rintro rfl
  simp at h

end SearchBar.Text
