import Mathlib.Algebra.Ring.Parity
import SearchBar.Proofs.Quoting

/-!
# The last quote of a line

At the end of a line the quote that closes a span may be left out, and a quote that opens one says
nothing (`parse_append_quote`).  Normal spacing glues the quote to the last word, unless a separator
stands between the two: then there is one space (`normalizeChars_concat`,
`normalizeChars_concat_of_separator`).  Glued, the quote ends no token that the end of the line
would not end.  Behind a space, it makes no difference outside quotes; inside quotes the space is
kept, which shows in the last token.  So the tokens are the same except in this one case
(`lineTokens_append_quote_eq_iff`).
-/

namespace SearchBar

namespace Text

/-! ## Normal spacing before a last character -/

variable {cs : List Char} {c : Char}

/-- A character is glued to the word that it stands behind, or is the only word. -/
theorem normalizeChars_concat (hc : isSeparator c = false)
    (h : wordChars cs ≠ [] → ∀ d ∈ cs.getLast?, isSeparator d = false) :
    normalizeChars (cs ++ [c]) = normalizeChars cs ++ [c] := by
  have hlone : normalizeChars [c] = [c] := normalizeChars_of_forall_not (by simpa using hc)
  rcases List.eq_nil_or_concat cs with rfl | ⟨us, d, rfl⟩
  · exact hlone
  · rw [List.concat_eq_append] at h ⊢
    cases hd : isSeparator d with
    | false =>
      have hword := normalizeChars_append_word (m := [d]) (by simp) (by simpa using hd) us []
      have hlonger := normalizeChars_append_word (m := [d, c]) (by simp) (by simp [hd, hc]) us []
      have htrail : trailChars [] = [] := rfl
      rw [htrail, List.append_nil, List.append_nil] at hword hlonger
      rw [List.append_assoc, List.singleton_append, hword, hlonger, List.append_assoc,
        List.singleton_append]
    | true =>
      -- a separator comes last, so there is no word before it
      have hnone : wordChars (us ++ [d]) = [] := by
        by_contra hne
        have hfalse := h hne d (by simp)
        rw [hd] at hfalse
        exact absurd hfalse (by decide)
      have hnormal : normalizeChars (us ++ [d]) = [] := by
        rw [normalizeChars, hnone]
        rfl
      have hlast : ∀ s ∈ (us ++ [d]).getLast?, isSeparator s = true := by simpa using hd
      rw [hnormal, List.nil_append, normalizeChars, wordChars_append_of_getLast? hlast, hnone,
        List.nil_append, ← normalizeChars, hlone]

/-- A character behind words and a separator stands one space behind the last word. -/
theorem normalizeChars_concat_of_separator (hc : isSeparator c = false) (hne : wordChars cs ≠ [])
    (h : ∀ d ∈ cs.getLast?, isSeparator d = true) :
    normalizeChars (cs ++ [c]) = normalizeChars cs ++ [' ', c] := by
  have hlone : wordChars [c] = [[c]] :=
    wordChars_of_forall_not (List.cons_ne_nil c []) (by simpa using hc)
  rw [normalizeChars, wordChars_append_of_getLast? h, hlone, intercalate_append hne (by simp),
    ← normalizeChars, List.append_assoc]
  rfl

/-- A text without words has no quotes. -/
theorem even_count_quote_of_wordChars_eq_nil (h : wordChars cs = []) : Even (cs.count '"') := by
  rw [← count_quote_normalizeChars, normalizeChars, h]
  decide

end Text

namespace Token

/-! ## Reading a last quote -/

/-- What a quote at the end of a text ends is ended by the end of the text, too, unless it is
empty. -/
theorem filter_chars_append_quote (cs : List Char) :
    (chars (cs ++ ['"'])).filter (· ≠ []) = (chars cs).filter (· ≠ []) := by
  obtain ⟨ts, buf, hscan⟩ := exists_scan_append false [] cs
  have hend := hscan []
  rw [List.append_nil] at hend
  rw [chars, chars, hscan, hend, List.filter_append, List.filter_append]
  congr 1
  cases quotedAfter false cs with
  | false => rw [scan_open, scan_nil, scan_nil]
  | true =>
    rw [scan_close, scan_nil, scan_nil, List.filter_filter]
    simp

/-- A space and a quote at the end of a text say nothing outside quotes; inside quotes, the space
belongs to the last token. -/
theorem filter_chars_append_space_quote_eq_iff (cs : List Char) :
    (chars (cs ++ [' ', '"'])).filter (· ≠ []) = (chars cs).filter (· ≠ []) ↔
      quotedAfter false cs = false := by
  cases h : quotedAfter false cs with
  | false =>
    have hopen : (scan false [] ['"']).filter (· ≠ []) = [] := by decide
    refine iff_of_true ?_ rfl
    rw [chars, filter_scan_append_space [] ['"'] h, hopen, List.append_nil, chars]
  | true =>
    obtain ⟨ts, buf, hscan⟩ := exists_scan_append false [] cs
    rw [h] at hscan
    have hend := hscan []
    rw [List.append_nil, scan_nil] at hend
    have hspace : scan true buf [' ', '"'] = [buf.reverse ++ [' ']] :=
      scan_quoted (q := [' ']) (by decide) buf []
    refine iff_of_false ?_ (by decide)
    intro heq
    rw [chars, chars, hscan, hend, hspace, List.filter_append, List.filter_append,
      List.append_cancel_left_eq, List.filter_filter] at heq
    by_cases hbuf : buf.reverse = []
    · simp [hbuf] at heq
    · simp [hbuf] at heq

end Token

/-! ## Lines -/

/-- A quote at the end of a line changes what its tokens are exactly if it closes a span that ends
in a separator. -/
theorem lineTokens_append_quote_eq_iff (s : String) :
    lineTokens (s ++ "\"") = lineTokens s ↔
      ¬ (Odd (s.toList.count '"') ∧ ∃ c ∈ s.toList.getLast?, Text.isSeparator c = true) := by
  have hquote : Text.isSeparator '"' = false := by decide
  have hlist : (s ++ "\"").toList = s.toList ++ ['"'] := by simp
  have hmap : ∀ ts us : List (List Char),
      ts.map String.ofList = us.map String.ofList ↔ ts = us := by
    intro ts us
    exact List.map_inj_right fun _ _ => String.ofList_injective
  rw [lineTokens_eq, lineTokens_eq, hlist, hmap]
  by_cases hglued : Text.wordChars s.toList ≠ [] →
      ∀ c ∈ s.toList.getLast?, Text.isSeparator c = false
  · rw [Text.normalizeChars_concat hquote hglued]
    refine iff_of_true (Token.filter_chars_append_quote _) ?_
    rintro ⟨hodd, c, hc, hsep⟩
    have hwords : Text.wordChars s.toList ≠ [] := by
      intro hnil
      exact Nat.not_even_iff_odd.2 hodd (Text.even_count_quote_of_wordChars_eq_nil hnil)
    rw [hglued hwords c hc] at hsep
    exact absurd hsep (by decide)
  · push Not at hglued
    obtain ⟨hwords, c, hc, hsep⟩ := hglued
    have hlast : ∀ d ∈ s.toList.getLast?, Text.isSeparator d = true := by
      intro d hd
      rw [Option.mem_unique hd hc]
      simpa using hsep
    rw [Text.normalizeChars_concat_of_separator hquote hwords hlast]
    have houtside : Token.quotedAfter false (Text.normalizeChars s.toList) = false ↔
        ¬ Odd (s.toList.count '"') := by
      rw [Token.quotedAfter_eq, Text.count_quote_normalizeChars]
      simp
    rw [Token.filter_chars_append_space_quote_eq_iff, houtside]
    apply not_congr
    constructor
    · intro hodd
      exact ⟨hodd, c, hc, hlast c hc⟩
    · intro hexcluded
      exact hexcluded.1

/-- A line says the same with one more quote at its end, unless the quote closes a span that ends in
a separator: a span that is open at the end may be closed or not, and opening another one there says
nothing. -/
theorem parse_append_quote {s : String}
    (h : ¬ (Odd (s.toList.count '"') ∧ ∃ c ∈ s.toList.getLast?, Text.isSeparator c = true))
    (o : Options) : parse (s ++ "\"") o = parse s o :=
  parse_congr ((lineTokens_append_quote_eq_iff s).2 h) o

/-- A span that is open at the end, one without characters, and a quote that opens a span behind
blanks. -/
theorem parse_append_quote_tag :
    let o := Options.empty.withKeywords ["tag"]
    parse "a tag:\"b  c\"" o = parse "a tag:\"b  c" o ∧
      parse "a tag:\"\"" o = parse "a tag:\"" o ∧
      parse "a \"tag:b\" \t\"" o = parse "a \"tag:b\" \t" o := by
  intro o
  refine ⟨?_, ?_, ?_⟩
  · exact parse_append_quote (s := "a tag:\"b  c") (by simp [Text.isSeparator]) o
  · exact parse_append_quote (s := "a tag:\"") (by simp [Text.isSeparator]) o
  · exact parse_append_quote (s := "a \"tag:b\" \t") (by decide) o

/-- A blank at the end of a span that is open is no part of the value, and is one once the span is
closed. -/
example :
    let o := Options.empty.withKeywords ["tag"]
    (parse "tag:\"a " o).keyword? "tag" = some (.scalar "a") ∧
      (parse "tag:\"a \"" o).keyword? "tag" = some (.scalar "a ") := by
  decide +kernel

end SearchBar
