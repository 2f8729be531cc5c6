import Mathlib.Algebra.Group.Nat.Even
import SearchBar.Parse
import SearchBar.Proofs.Spacing

/-!
# The tokens of a line

Reading on changes nothing about the tokens that are complete (`exists_scan_append`).  A space
outside quotes is a seam: what is read behind it does not depend on what stands before it.  So where
a text with an even number of quotes is followed by separators, the tokens of the whole line are
those of the text followed by those of the rest (`lineTokens_append`).  Every token is clean
(`clean_of_mem_lineTokens`): a token is a part of the line in normal spacing, or a word of it and
the quoted span behind it, and the word does not end in a space.  In the other direction, a clean
text that is not empty is the one token of the line that shows it between quotes
(`lineTokens_enclose`).
-/

namespace SearchBar.Token

/-! ## One character -/

theorem scan_open (buf cs : List Char) : scan false buf ('"' :: cs) = scan true buf cs := by
  simp [scan]

theorem scan_close (buf cs : List Char) :
    scan true buf ('"' :: cs) = buf.reverse :: scan false [] cs := by
  simp [scan]

theorem scan_space (buf cs : List Char) :
    scan false buf (' ' :: cs) = buf.reverse :: scan false [] cs := by
  simp [scan]

theorem scan_nil (quoted : Bool) (buf : List Char) :
    scan quoted buf [] = [buf.reverse].filter (· ≠ []) := by
  cases buf <;> simp [scan]

theorem scan_push {quoted : Bool} {c : Char} (hq : c ≠ '"') (hs : quoted = false → c ≠ ' ')
    (buf cs : List Char) : scan quoted buf (c :: cs) = scan quoted (c :: buf) cs := by
  cases quoted with
  | false => simp [scan, hq, hs rfl]
  | true => simp [scan, hq]

/-- Characters that neither open, close nor end anything are gathered. -/
theorem scan_append_push {quoted : Bool} {xs : List Char}
    (h : ∀ c ∈ xs, c ≠ '"' ∧ (quoted = false → c ≠ ' ')) (buf ys : List Char) :
    scan quoted buf (xs ++ ys) = scan quoted (xs.reverse ++ buf) ys := by
  induction xs generalizing buf with
  | nil => rfl
  | cons c xs ih =>
    obtain ⟨hq, hs⟩ := h c List.mem_cons_self
    have hxs := ih fun d hd => h d (List.mem_cons_of_mem c hd)
    rw [List.cons_append, scan_push hq hs, hxs, List.reverse_cons, List.append_assoc]
    rfl

/-- Inside a span, everything up to the next quote is gathered. -/
theorem scan_append_inside {q : List Char} (h : '"' ∉ q) (buf ys : List Char) :
    scan true buf (q ++ ys) = scan true (q.reverse ++ buf) ys := by
  apply scan_append_push
  intro c hc
  refine ⟨?_, by simp⟩
  rintro rfl
  exact h hc

/-! ## The seam -/

/-- Whether the reading is inside quotes after some characters. -/
def quotedAfter (quoted : Bool) : List Char → Bool
  | [] => quoted
  | c :: cs => quotedAfter (if c = '"' then !quoted else quoted) cs

/-- The reading is inside quotes when the number of quotes read is odd. -/
theorem quotedAfter_eq (quoted : Bool) (cs : List Char) :
    quotedAfter quoted cs = (quoted ^^ !decide (Even (cs.count '"'))) := by
  induction cs generalizing quoted with
  | nil => simp [quotedAfter]
  | cons c cs ih =>
    rw [quotedAfter, ih]
    by_cases hc : c = '"'
    · subst hc
      rw [if_pos rfl, List.count_cons_self]
      by_cases he : Even (cs.count '"') <;> simp [he, Nat.even_add_one]
    · rw [if_neg hc, List.count_cons_of_ne hc]

theorem quotedAfter_of_even {cs : List Char} (h : Even (cs.count '"')) :
    quotedAfter false cs = false := by
  rw [quotedAfter_eq]
  simp [h]

/-- What a text leaves to the reading of the rest of the line: the tokens that are complete, the
characters gathered since then, and whether a span is open. -/
theorem exists_scan_append (quoted : Bool) (buf xs : List Char) :
    ∃ ts buf', ∀ ys,
      scan quoted buf (xs ++ ys) = ts ++ scan (quotedAfter quoted xs) buf' ys := by
  induction xs generalizing quoted buf with
  | nil => exact ⟨[], buf, fun ys => rfl⟩
  | cons c xs ih =>
    rw [quotedAfter]
    by_cases hc : c = '"'
    · subst hc
      rw [if_pos rfl]
      cases quoted with
      | false =>
        obtain ⟨ts, buf', h⟩ := ih true buf
        refine ⟨ts, buf', ?_⟩
        intro ys
        rw [List.cons_append, scan_open, h, Bool.not_false]
      | true =>
        obtain ⟨ts, buf', h⟩ := ih false []
        refine ⟨buf.reverse :: ts, buf', ?_⟩
        intro ys
        rw [List.cons_append, scan_close, h, Bool.not_true, List.cons_append]
    · rw [if_neg hc]
      by_cases hs : quoted = false ∧ c = ' '
      · obtain ⟨rfl, rfl⟩ := hs
        obtain ⟨ts, buf', h⟩ := ih false []
        refine ⟨buf.reverse :: ts, buf', ?_⟩
        intro ys
        rw [List.cons_append, scan_space, h, List.cons_append]
      · have hpush : quoted = false → c ≠ ' ' := by
          intro hq hc'
          exact hs ⟨hq, hc'⟩
        obtain ⟨ts, buf', h⟩ := ih quoted (c :: buf)
        refine ⟨ts, buf', ?_⟩
        intro ys
        rw [List.cons_append, scan_push hc hpush, h]

/-- A space outside quotes parts the tokens: the text before it gives the same ones that are not
empty as it gives alone, and the reading begins anew behind it. -/
theorem filter_scan_append_space {quoted : Bool} {xs : List Char} (buf ys : List Char)
    (h : quotedAfter quoted xs = false) :
    (scan quoted buf (xs ++ ' ' :: ys)).filter (· ≠ []) =
      (scan quoted buf xs).filter (· ≠ []) ++ (scan false [] ys).filter (· ≠ []) := by
  obtain ⟨ts, buf', hscan⟩ := exists_scan_append quoted buf xs
  rw [h] at hscan
  have hend := hscan []
  rw [List.append_nil, scan_nil] at hend
  -- only the space ends an empty token
  rw [hscan, hend, scan_space, ← List.singleton_append, List.filter_append, List.filter_append,
    List.filter_append, List.filter_filter]
  simp

/-! ## The characters of a token -/

/-- Tokens read from a single-spaced text are clean.  Reading keeps this true of what has been
gathered together with what is to come; when a quote between the two is dropped, what has been
gathered is a word, so no two spaces meet. -/
theorem clean_of_mem_scan {quoted : Bool} {buf cs t : List Char} (hq : '"' ∉ buf)
    (hb : quoted = false → ' ' ∉ buf) (hs : Text.SingleSpaced (buf.reverse ++ cs))
    (ht : t ∈ scan quoted buf cs) : '"' ∉ t ∧ Text.SingleSpaced t := by
  have hbuf : '"' ∉ buf.reverse ∧ Text.SingleSpaced buf.reverse :=
    ⟨by simpa using hq, hs.of_infix (List.prefix_append _ _).isInfix⟩
  induction cs generalizing quoted buf with
  | nil =>
    rw [scan] at ht
    split at ht
    · simp at ht
    · rw [List.mem_singleton.1 ht]
      exact hbuf
  | cons c cs ih =>
    have hcs : Text.SingleSpaced ([].reverse ++ cs) :=
      hs.of_infix ⟨buf.reverse ++ [c], [], by simp⟩
    by_cases hc : c = '"'
    · subst hc
      cases quoted with
      | false =>
        rw [scan_open] at ht
        have hglue : Text.SingleSpaced (buf.reverse ++ cs) := by
          refine hbuf.2.append hcs ?_
          rintro a ha b - ⟨rfl, -⟩
          exact hb rfl (List.mem_reverse.1 (List.mem_of_getLast? ha))
        exact ih hq (by simp) hglue ht hbuf
      | true =>
        rw [scan_close] at ht
        rcases List.mem_cons.1 ht with rfl | ht
        · exact hbuf
        · exact ih (by simp) (by simp) hcs ht (by simpa using hcs.of_infix List.nil_infix)
    · by_cases hsp : quoted = false ∧ c = ' '
      · obtain ⟨rfl, rfl⟩ := hsp
        rw [scan_space] at ht
        rcases List.mem_cons.1 ht with rfl | ht
        · exact hbuf
        · exact ih (by simp) (by simp) hcs ht (by simpa using hcs.of_infix List.nil_infix)
      · have hpush : quoted = false → c ≠ ' ' := by
          intro h hc'
          exact hsp ⟨h, hc'⟩
        rw [scan_push hc hpush] at ht
        have hbuf' : Text.SingleSpaced ((c :: buf).reverse ++ cs) := by simpa using hs
        refine ih ?_ ?_ hbuf' ht ⟨?_, hbuf'.of_infix (List.prefix_append _ _).isInfix⟩
        · simp [hq, Ne.symm hc]
        · intro h
          simp [hb h, Ne.symm (hpush h)]
        · simp [hq, Ne.symm hc]

/-- What stands between quotes is one token, up to the second quote. -/
theorem scan_quoted {q : List Char} (h : '"' ∉ q) (buf ys : List Char) :
    scan true buf (q ++ '"' :: ys) = (buf.reverse ++ q) :: scan false [] ys := by
  rw [scan_append_inside h, scan_close, List.reverse_append, List.reverse_reverse]

/-- A span that is never closed runs to the end of the line. -/
theorem scan_unclosed {q : List Char} (h : '"' ∉ q) (buf : List Char) :
    scan true buf q = [buf.reverse ++ q].filter (· ≠ []) := by
  have hscan := scan_append_inside h buf []
  rwa [List.append_nil, scan_nil, List.reverse_append, List.reverse_reverse] at hscan

end SearchBar.Token

namespace SearchBar

/-! ## Lines -/

theorem map_ofList_filter_ne_nil (ts : List (List Char)) :
    (ts.filter (· ≠ [])).map String.ofList = (ts.map String.ofList).filter (· ≠ "") := by
  rw [List.filter_map]
  congr 2
  funext t
  simp

theorem lineTokens_eq (line : String) :
    lineTokens line =
      ((Token.chars (Text.normalizeChars line.toList)).filter (· ≠ [])).map String.ofList := by
  rw [lineTokens, tokenize, Text.normalize, String.toList_ofList, map_ofList_filter_ne_nil]

theorem lineTokens_of_wordChars_eq_nil {line : String} (h : Text.wordChars line.toList = []) :
    lineTokens line = [] := by
  rw [lineTokens_eq, Text.normalizeChars, h]
  rfl

/-- A line says no more than its words. -/
theorem lineTokens_congr {a b : String}
    (h : Text.wordChars a.toList = Text.wordChars b.toList) : lineTokens a = lineTokens b := by
  rw [lineTokens_eq, lineTokens_eq, Text.normalizeChars, Text.normalizeChars, h]

/-- A record says no more than the tokens of its line. -/
theorem parse_congr {s t : String} (h : lineTokens s = lineTokens t) (o : Options) :
    parse s o = parse t o := by
  rw [parse, parse, clauses, clauses, h]

/-- Outside quotes, separators part the tokens of a line. -/
theorem lineTokens_append {a w : String} (ha : Even (a.toList.count '"')) (hne : w ≠ "")
    (hw : ∀ c ∈ w.toList, Text.isSeparator c = true) (b : String) :
    lineTokens (a ++ w ++ b) = lineTokens a ++ lineTokens b := by
  have hne' : w.toList ≠ [] := by simpa using hne
  have hsplit := Text.wordChars_append_separators hne' hw a.toList b.toList
  have hlist : (a ++ w ++ b).toList = a.toList ++ w.toList ++ b.toList := by simp
  -- a side without words adds nothing to the other
  by_cases hwa : Text.wordChars a.toList = []
  · rw [lineTokens_of_wordChars_eq_nil hwa, List.nil_append, lineTokens_eq, lineTokens_eq, hlist,
      Text.normalizeChars, hsplit, hwa, List.nil_append, ← Text.normalizeChars]
  · by_cases hwb : Text.wordChars b.toList = []
    · rw [lineTokens_of_wordChars_eq_nil hwb, List.append_nil, lineTokens_eq, lineTokens_eq, hlist,
        Text.normalizeChars, hsplit, hwb, List.append_nil, ← Text.normalizeChars]
    · have hopen : Token.quotedAfter false (Text.normalizeChars a.toList) = false := by
        rw [Token.quotedAfter_eq, Text.count_quote_normalizeChars]
        simp [ha]
      rw [lineTokens_eq, lineTokens_eq, lineTokens_eq, hlist,
        Text.normalizeChars_append_separators hne' hw hwa hwb, Token.chars,
        Token.filter_scan_append_space _ _ hopen, List.map_append]
      rfl

/-- Every token of a line is clean. -/
theorem clean_of_mem_lineTokens {line t : String} (h : t ∈ lineTokens line) : Text.Clean t := by
  rw [lineTokens_eq] at h
  obtain ⟨cs, hcs, rfl⟩ := List.mem_map.1 h
  have hscan := Token.clean_of_mem_scan List.not_mem_nil (fun _ => List.not_mem_nil)
    (Text.singleSpaced_normalizeChars line.toList) (List.mem_of_mem_filter hcs)
  exact ⟨by simpa using hscan.1, by simpa using hscan.2⟩

/-! ## Enclosed tokens -/

/-- A text between quotes. -/
def enclose (t : String) : String := "\"" ++ t ++ "\""

theorem toList_enclose (t : String) : (enclose t).toList = '"' :: (t.toList ++ ['"']) := by
  simp [enclose]

theorem even_count_quote_enclose {t : String} (h : Text.Clean t) :
    Even ((enclose t).toList.count '"') := by
  rw [toList_enclose, List.count_cons_self, List.count_append,
    List.count_eq_zero_of_not_mem h.quote_notMem]
  decide

/-- A clean text that is not empty is the one token of the line that shows it between quotes. -/
theorem lineTokens_enclose {t : String} (h : Text.Clean t) (hne : t ≠ "") :
    lineTokens (enclose t) = [t] := by
  have hspaced : Text.SingleSpaced ([] ++ '"' :: (t.toList ++ '"' :: [])) :=
    (Text.SingleSpaced.of_forall_not (by simp)).append_cons (by decide)
      (h.singleSpaced.append_cons (by decide) (Text.SingleSpaced.of_forall_not (by simp)))
  have hnormal : Text.normalizeChars ('"' :: (t.toList ++ ['"'])) = '"' :: (t.toList ++ ['"']) := by
    refine Text.normalizeChars_eq_self hspaced ?_ ?_
    · intro c hc
      rw [List.head?_cons, Option.mem_some_iff] at hc
      exact hc ▸ by decide
    · intro c hc
      rw [← List.cons_append, List.getLast?_append_of_ne_nil _ (by simp), List.getLast?_singleton,
        Option.mem_some_iff] at hc
      exact hc ▸ by decide
  rw [lineTokens_eq, toList_enclose, hnormal, Token.chars, Token.scan_open,
    Token.scan_quoted h.quote_notMem]
  simp [Token.scan, hne]

end SearchBar
