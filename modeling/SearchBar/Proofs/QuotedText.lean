import Mathlib.Data.List.Basic
import SearchBar.Proofs.JsonText
import SearchBar.Text.Quoted
import SearchBar.Text.Split

/-!
# Quoted text in messages is read back

A message shows a text between quotes, with escapes for what has no ink.  Here is the reader of such
a text: every character is read from the form in which it is shown (`readQuoted_quotedChar`), so the
text is read back in full, up to its closing quote and whatever stands behind that
(`readQuoted_flatMap_quotedChar`).  A text in quotes thus tells which text it shows
(`unquote?_quoted`).
-/

namespace SearchBar.Text

/-! ## Code points in braces -/

/-- The number that hexadecimal digits write. -/
def readHex? (ds : List Char) : Option Nat :=
  ds.foldlM (fun n d => (Json.hexValue? d).map (16 * n + ·)) 0

theorem readHex?_toDigits (n : Nat) : readHex? (Nat.toDigits 16 n) = some n := by
  have hdigit : ∀ k : Fin 16, Json.hexValue? (Nat.digitChar k.val) = some k.val := by decide
  induction n using Nat.strongRecOn with
  | ind n ih =>
    by_cases hn : n < 16
    · simp [Nat.toDigits_of_lt_base hn, readHex?, hdigit ⟨n, hn⟩]
    · have hinit : readHex? (Nat.toDigits 16 (n / 16)) = some (n / 16) := ih (n / 16) (by omega)
      have hlast := hdigit ⟨n % 16, Nat.mod_lt n (by decide)⟩
      have hsum : 16 * (n / 16) + n % 16 = n := by omega
      rw [readHex?] at hinit
      rw [Nat.toDigits_of_base_le (by decide) (by omega), readHex?, List.foldlM_append, hinit]
      simp [hlast, hsum]

theorem brace_notMem_toDigits (n : Nat) : '}' ∉ Nat.toDigits 16 n := by
  induction n using Nat.strongRecOn with
  | ind n ih =>
    by_cases hn : n < 16
    · simp [Nat.toDigits_of_lt_base hn]
    · have hinit := ih (n / 16) (by omega)
      simp [Nat.toDigits_of_base_le (by decide) (Nat.le_of_not_lt hn), hinit]

/-! ## One character -/

/-- The character that a letter stands for behind a backslash. -/
def unquoteLetter? (c : Char) : Option Char :=
  match c with
  | '"' => some '"'
  | '\\' => some '\\'
  | 'n' => some '\n'
  | 'r' => some '\r'
  | 't' => some '\t'
  | '0' => some '\x00'
  | _ => none

/-- Read an escape from behind its backslash: a letter, or a code point in braces. -/
def readQuotedEscape : List Char → Option (Char × List Char)
  | [] => none
  | 'u' :: '{' :: cs =>
    match cutChars '}' cs with
    | none => none
    | some (ds, rest) => (readHex? ds).map fun n => (Char.ofNat n, rest)
  | c :: cs => (unquoteLetter? c).map fun e => (e, cs)

theorem readQuotedEscape_length {cs rest : List Char} {e : Char}
    (h : readQuotedEscape cs = some (e, rest)) : rest.length < cs.length := by
  unfold readQuotedEscape at h
  split at h
  · simp at h
  · split at h
    · simp at h
    · rename_i hcut
      obtain ⟨n, -, hn⟩ := Option.map_eq_some_iff.1 h
      obtain ⟨rfl, -⟩ := cutChars_eq_some_iff.1 hcut
      simp only [← (Prod.mk.inj hn).2, List.length_cons, List.length_append]
      omega
  · obtain ⟨n, -, hn⟩ := Option.map_eq_some_iff.1 h
    simp [← (Prod.mk.inj hn).2]

/-! ## A whole text -/

/-- Read a shown text from behind its first quote: its characters, and what is left behind its
second quote. -/
def readQuoted : List Char → Option (List Char × List Char)
  | [] => none
  | c :: cs =>
    if c == '"' then some ([], cs)
    else if c == '\\' then
      match h : readQuotedEscape cs with
      | none => none
      | some (e, rest) =>
        have := readQuotedEscape_length h
        (readQuoted rest).map fun p => (e :: p.1, p.2)
    else (readQuoted cs).map fun p => (c :: p.1, p.2)
termination_by cs => cs.length

theorem readQuoted_quote (cs : List Char) : readQuoted ('"' :: cs) = some ([], cs) := by
  rw [readQuoted]
  rfl

theorem readQuoted_backslash {cs rest : List Char} {e : Char}
    (h : readQuotedEscape cs = some (e, rest)) :
    readQuoted ('\\' :: cs) = (readQuoted rest).map fun p => (e :: p.1, p.2) := by
  rw [readQuoted, if_neg (by decide), if_pos (by decide)]
  split
  next hn => simp [h] at hn
  next e' rest' he =>
    simp only [h, Option.some.injEq, Prod.mk.injEq] at he
    obtain ⟨rfl, rfl⟩ := he
    rfl

theorem readQuoted_plain {c : Char} (cs : List Char) (hq : c ≠ '"') (hb : c ≠ '\\') :
    readQuoted (c :: cs) = (readQuoted cs).map fun p => (c :: p.1, p.2) := by
  rw [readQuoted, if_neg (by simpa using hq), if_neg (by simpa using hb)]

/-- The shown form of a character is read as that character. -/
theorem readQuoted_quotedChar (c : Char) (rest : List Char) :
    readQuoted (quotedChar c ++ rest) = (readQuoted rest).map fun p => (c :: p.1, p.2) := by
  unfold quotedChar
  split
  iterate 6 exact readQuoted_backslash rfl
  rename_i hq hb _ _ _ _
  split
  · exact readQuoted_plain rest hq hb
  · have hcut : cutChars '}' (Nat.toDigits 16 c.toNat ++ '}' :: rest) =
        some (Nat.toDigits 16 c.toNat, rest) :=
      cutChars_eq_some_iff.2 ⟨rfl, brace_notMem_toDigits c.toNat⟩
    have hescape : readQuotedEscape ('u' :: '{' :: (Nat.toDigits 16 c.toNat ++ '}' :: rest)) =
        some (c, rest) := by
      simp [readQuotedEscape, hcut, readHex?_toDigits, Char.ofNat_toNat]
    simpa [codePointEscape] using readQuoted_backslash hescape

/-- The characters between the quotes of a shown text are read back, up to the second quote. -/
theorem readQuoted_flatMap_quotedChar (cs rest : List Char) :
    readQuoted (cs.flatMap quotedChar ++ '"' :: rest) = some (cs, rest) := by
  induction cs with
  | nil => exact readQuoted_quote rest
  | cons c cs ih =>
    rw [List.flatMap_cons, List.append_assoc, readQuoted_quotedChar, ih]
    rfl

/-! ## A text with its quotes -/

/-- What stands behind a given beginning. -/
def behind? (start : String) (cs : List Char) : Option (List Char) :=
  start.toList.isPrefixOf? cs

theorem behind?_append (start : String) (rest : List Char) :
    behind? start (start.toList ++ rest) = some rest :=
  List.isPrefixOf?_eq_some_iff_append_eq.2 rfl

/-- Read a text in quotes, and give what stands behind it. -/
def unquote? : List Char → Option (String × List Char)
  | '"' :: cs => (readQuoted cs).map fun p => (String.ofList p.1, p.2)
  | _ => none

/-- A text is read back from its quoted form, whatever stands behind that. -/
theorem unquote?_quoted (s : String) (rest : List Char) :
    unquote? ((quoted s).toList ++ rest) = some (s, rest) := by
  have hread := readQuoted_flatMap_quotedChar s.toList rest
  simp [quoted, unquote?, hread]

end SearchBar.Text
