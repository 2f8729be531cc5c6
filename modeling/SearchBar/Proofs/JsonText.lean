import SearchBar.Json.Printer
import SearchBar.Json.Text

/-!
# JSON texts are read as they were written

Every character has one written form, and reading that form gives the character back
(`readText_escapeChar`).  So the characters between the quotes of a written text are read back in
full, whatever stands behind the second quote (`readText_flatMap_escapeChar`).
-/

namespace SearchBar.Json

theorem hexValue?_hexDigit {n : Nat} (h : n < 16) : hexValue? (hexDigit n) = some n := by
  have key : ∀ k : Fin 16, hexValue? (hexDigit k.val) = some k.val := by decide
  exact key ⟨n, h⟩

/-- The four digits that escape a control character are its code point. -/
theorem readQuad_control {n : Nat} (h : n < 0x20) (rest : List Char) :
    readQuad ('0' :: '0' :: hexDigit (n / 16) :: hexDigit (n % 16) :: rest) = .ok (n, rest) := by
  have h0 : hexValue? '0' = some 0 := by decide
  have h1 := hexValue?_hexDigit (n := n / 16) (by omega)
  have h2 := hexValue?_hexDigit (n := n % 16) (by omega)
  simp only [readQuad, hexQuad?, h0, h1, h2]
  congr 2
  omega

/-- The written form of a character is read as that character. -/
theorem readText_escapeChar (c : Char) (rest : List Char) :
    readText (escapeChar c ++ rest) = (readText rest).map fun p => (c :: p.1, p.2) := by
  unfold escapeChar
  split
  iterate 7 exact readText_backslash rfl
  rename_i hq hb _ _ _ _ _
  split
  · rename_i hc
    have hl : isLowSurrogate c.toNat = false := by simp [isLowSurrogate]; omega
    have hh : isHighSurrogate c.toNat = false := by simp [isHighSurrogate]; omega
    exact readText_backslash (by
      simp [readEscape, readQuad_control hc, hl, hh, Char.ofNat_toNat])
  · rename_i hc
    exact readText_plain rest hq hb hc

/-- The characters between the quotes of a written text are read back, up to the second quote. -/
theorem readText_flatMap_escapeChar (cs rest : List Char) :
    readText (cs.flatMap escapeChar ++ '"' :: rest) = .ok (cs, rest) := by
  induction cs with
  | nil => exact readText_quote rest
  | cons c cs ih =>
    rw [List.flatMap_cons, List.append_assoc, readText_escapeChar, ih]
    rfl

end SearchBar.Json
