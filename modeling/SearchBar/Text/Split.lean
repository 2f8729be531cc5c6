/-!
# Splitting at a character

Splitting a string at every occurrence of one character, and cutting a text at the first one.  The
pieces of a split are those of the library's `List.splitOn` and `List.splitOnP`; said here is what
becomes of the first piece when a character is put in front, and that no piece holds a character at
which the text was split.
-/

namespace SearchBar.Text

/-- The pieces of a string between the occurrences of one character; `n` of them give `n + 1`
pieces, empty ones included. -/
def splitAt (sep : Char) (s : String) : List String := (s.toList.splitOn sep).map String.ofList

/-- What stands before and after the first occurrence of a character, if there is one. -/
def cutChars (sep : Char) : List Char → Option (List Char × List Char)
  | [] => none
  | c :: cs => if c == sep then some ([], cs) else (cutChars sep cs).map fun (a, b) => (c :: a, b)

/-! ## Pieces -/

/-- A character at which a text is not split goes to the first piece. -/
theorem splitOnP_cons_of_not {p : Char → Bool} {c : Char} (hc : ¬ p c = true) (cs : List Char) :
    (c :: cs).splitOnP p = (c :: (cs.splitOnP p).headD []) :: (cs.splitOnP p).tail := by
  rw [List.splitOnP_cons_eq_if_modifyHead, if_neg hc]
  cases h : cs.splitOnP p with
  | nil => exact absurd h (List.splitOnP_ne_nil p cs)
  | cons q qs => rfl

theorem splitOnP_cons_of_pos {p : Char → Bool} {c : Char} (hc : p c = true) (cs : List Char) :
    (c :: cs).splitOnP p = [] :: cs.splitOnP p := by
  rw [List.splitOnP_cons_eq_if_modifyHead, if_pos hc]

/-- No piece holds a character at which the text was split. -/
theorem not_of_mem_splitOnP {p : Char → Bool} {cs w : List Char} {c : Char}
    (hw : w ∈ cs.splitOnP p) (hc : c ∈ w) : p c = false := by
  induction cs generalizing w with
  | nil =>
    rw [List.splitOnP_nil, List.mem_singleton] at hw
    simp [hw] at hc
  | cons d ds ih =>
    by_cases hd : p d = true
    · rw [splitOnP_cons_of_pos hd] at hw
      rcases List.mem_cons.1 hw with rfl | hw
      · simp at hc
      · exact ih hw hc
    · rw [splitOnP_cons_of_not hd] at hw
      rcases List.mem_cons.1 hw with rfl | hw
      · rcases List.mem_cons.1 hc with rfl | hc
        · simpa using hd
        · refine ih ?_ hc
          rw [List.headD_eq_head?_getD, List.head?_eq_some_head (List.splitOnP_ne_nil p ds)]
          exact List.head_mem _
      · exact ih (List.mem_of_mem_tail hw) hc

/-- A cut loses only the character at which it is made, and makes it at the first one. -/
theorem cutChars_eq_some_iff {sep : Char} {cs a b : List Char} :
    cutChars sep cs = some (a, b) ↔ cs = a ++ sep :: b ∧ sep ∉ a := by
  induction cs generalizing a b with
  | nil => simp [cutChars]
  | cons c cs ih =>
    rw [cutChars]
    split
    · rename_i hc
      cases a with
      | nil => simp [beq_iff_eq.1 hc]
      | cons x xs =>
        simp only [Option.some.injEq, Prod.mk.injEq, List.nil_eq, reduceCtorEq, false_and,
          List.cons_append, List.cons.injEq, List.mem_cons, not_or, false_iff, not_and,
          Decidable.not_not]
        rintro ⟨rfl, -⟩ hx
        exact absurd (beq_iff_eq.1 hc).symm hx
    · rename_i hc
      rw [beq_iff_eq] at hc
      simp only [Option.map_eq_some_iff, Prod.mk.injEq, Prod.exists]
      constructor
      · rintro ⟨a', b', h, rfl, rfl⟩
        obtain ⟨rfl, hn⟩ := ih.1 h
        exact ⟨rfl, by simp [hn, Ne.symm hc]⟩
      · rintro ⟨h, hn⟩
        cases a with
        | nil => exact absurd (List.cons.inj h).1 hc
        | cons x xs =>
          obtain ⟨rfl, rfl⟩ := List.cons.inj h
          exact ⟨xs, b, ih.2 ⟨rfl, fun hm => hn (List.mem_cons_of_mem c hm)⟩, rfl, rfl⟩

/-- There is no cut exactly when the character does not occur. -/
theorem cutChars_eq_none_iff {sep : Char} {cs : List Char} :
    cutChars sep cs = none ↔ sep ∉ cs := by
  induction cs with
  | nil => simp [cutChars]
  | cons c cs ih =>
    rw [cutChars]
    split
    · rename_i hc
      simp [beq_iff_eq.1 hc]
    · rename_i hc
      rw [beq_iff_eq] at hc
      simp [ih, Ne.symm hc]

end SearchBar.Text
