import SearchBar.Proofs.Spans

/-!
# Quoting that makes no difference

Two ways of quoting leave the record of a line as it is (`parse_quoting`).  A word that stands alone
may be put between quotes: it is a token either way (`lineTokens_word`, `lineTokens_enclose`), and
the empty token that the closing quote may leave is no token of the line.  And the quote that opens
a span may be moved to the beginning of the word that it is glued to (`lineTokens_move_quote`):
normal spacing treats quotes like any other character of a word (`normalizeChars_append_word`), and
the quote ends no token.
-/

namespace SearchBar

namespace Text

/-! ## Normal spacing around a piece of a word -/

/-- The pieces of two texts without a separator between them: the last piece of the one and the
first piece of the other are one piece. -/
theorem splitOnP_append (p : Char → Bool) (xs ys : List Char) :
    (xs ++ ys).splitOnP p =
      (xs.splitOnP p).dropLast ++
        ((xs.splitOnP p).getLastD [] ++ (ys.splitOnP p).headD []) :: (ys.splitOnP p).tail := by
  induction xs with
  | nil =>
    cases h : ys.splitOnP p with
    | nil => exact absurd h (List.splitOnP_ne_nil p ys)
    | cons q qs => simp [h]
  | cons x xs ih =>
    rw [List.cons_append, List.splitOnP_cons_eq_if_modifyHead,
      List.splitOnP_cons_eq_if_modifyHead, ih]
    cases h : xs.splitOnP p with
    | nil => exact absurd h (List.splitOnP_ne_nil p xs)
    | cons q qs =>
      by_cases hx : p x = true
      · simp [hx]
      · cases qs with
        | nil => simp [hx]
        | cons r rs => simp [hx]

/-- What normal spacing makes of a text behind which a word goes on. -/
def leadChars (cs : List Char) : List Char :=
  ((cs.splitOnP isSeparator).dropLast.filter (!List.isEmpty ·)).flatMap (· ++ [' ']) ++
    (cs.splitOnP isSeparator).getLastD []

/-- What normal spacing makes of a text before which a word has begun. -/
def trailChars (cs : List Char) : List Char :=
  (cs.splitOnP isSeparator).headD [] ++
    ((cs.splitOnP isSeparator).tail.filter (!List.isEmpty ·)).flatMap (' ' :: ·)

theorem intercalate_space_cons (w : List Char) (vs : List (List Char)) :
    [' '].intercalate (w :: vs) = w ++ vs.flatMap (' ' :: ·) := by
  induction vs generalizing w with
  | nil => simp
  | cons v vs ih => rw [List.intercalate_cons_cons, ih, List.flatMap_cons, List.append_assoc]; rfl

theorem intercalate_space_append_cons (ws vs : List (List Char)) (w : List Char) :
    [' '].intercalate (ws ++ w :: vs) = ws.flatMap (· ++ [' ']) ++ w ++ vs.flatMap (' ' :: ·) := by
  induction ws with
  | nil => exact intercalate_space_cons w vs
  | cons u us ih =>
    rw [List.cons_append, List.intercalate_cons_of_ne_nil (by simp), ih]
    simp

/-- Normal spacing leaves a piece of a word as it is, and what it makes of the text on either side
does not depend on the piece. -/
theorem normalizeChars_append_word {m : List Char} (hne : m ≠ [])
    (hm : ∀ c ∈ m, isSeparator c = false) (xs ys : List Char) :
    normalizeChars (xs ++ m ++ ys) = leadChars xs ++ m ++ trailChars ys := by
  have hsplit : (xs ++ m ++ ys).splitOnP isSeparator =
      (xs.splitOnP isSeparator).dropLast ++
        ((xs.splitOnP isSeparator).getLastD [] ++ m ++ (ys.splitOnP isSeparator).headD []) ::
          (ys.splitOnP isSeparator).tail := by
    rw [List.append_assoc, splitOnP_append, splitOnP_append, List.splitOnP_eq_singleton hm]
    simp
  rw [normalizeChars, wordChars, hsplit, List.filter_append,
    List.filter_cons_of_pos (by simp [hne]), intercalate_space_append_cons, leadChars, trailChars]
  simp only [List.append_assoc]

theorem count_quote_leadChars (cs : List Char) : (leadChars cs).count '"' = cs.count '"' := by
  have hword : normalizeChars (cs ++ ['.'] ++ []) = leadChars cs ++ ['.'] ++ trailChars [] :=
    normalizeChars_append_word (by simp) (by simp [isSeparator]) cs []
  have hcount := count_quote_normalizeChars (cs ++ ['.'] ++ [])
  rw [hword] at hcount
  simpa [trailChars] using hcount

end Text

namespace Token

/-- Outside quotes, the quote that opens a span may come before or after some other characters. -/
theorem chars_move_quote {xs p : List Char} (hx : quotedAfter false xs = false)
    (hp : ∀ c ∈ p, c ≠ '"' ∧ c ≠ ' ') (ys : List Char) :
    chars (xs ++ (p ++ ['"']) ++ ys) = chars (xs ++ ('"' :: p) ++ ys) := by
  obtain ⟨ts, buf, hscan⟩ := exists_scan_append false [] xs
  have hpush : ∀ quoted, ∀ c ∈ p, c ≠ '"' ∧ (quoted = false → c ≠ ' ') :=
    fun _ c hc => ⟨(hp c hc).1, fun _ => (hp c hc).2⟩
  simp only [List.append_assoc, List.nil_append, List.cons_append]
  rw [chars, chars, hscan, hscan, hx, scan_append_push (hpush false), scan_open, scan_open,
    scan_append_push (hpush true)]

end Token

/-! ## Lines -/

/-- Outside quotes, a line may be cut wherever that cuts no word. -/
theorem lineTokens_append_of_wordChars {a b : String} (ha : Even (a.toList.count '"'))
    (h : Text.wordChars (a.toList ++ b.toList) =
      Text.wordChars a.toList ++ Text.wordChars b.toList) :
    lineTokens (a ++ b) = lineTokens a ++ lineTokens b := by
  have hspace : ∀ c ∈ " ".toList, Text.isSeparator c = true := by simp [Text.isSeparator]
  rw [← lineTokens_append ha (by decide) hspace]
  apply lineTokens_congr
  have hlist : (a ++ " " ++ b).toList = a.toList ++ ' ' :: b.toList := by simp
  rw [String.toList_append, h, hlist, Text.wordChars_append_cons (by decide)]

/-- A word without quotes is a token. -/
theorem lineTokens_word {w : String} (hne : w ≠ "")
    (hw : ∀ c ∈ w.toList, c ≠ '"' ∧ Text.isSeparator c = false) : lineTokens w = [w] := by
  have hnormal : Text.normalizeChars w.toList = w.toList :=
    Text.normalizeChars_of_forall_not fun c hc => (hw c hc).2
  have hpush : ∀ c ∈ w.toList, c ≠ '"' ∧ (false = false → c ≠ ' ') := by
    intro c hc
    exact ⟨(hw c hc).1, fun _ => Text.ne_space (hw c hc).2⟩
  have hscan := Token.scan_append_push hpush [] []
  rw [List.append_nil, Token.scan_nil] at hscan
  rw [lineTokens_eq, hnormal, Token.chars, hscan]
  simp [hne]

/-- The quote that opens a span may be moved to the beginning of the word that it is glued to. -/
theorem lineTokens_move_quote {a p : String} (ha : Even (a.toList.count '"'))
    (hp : ∀ c ∈ p.toList, c ≠ '"' ∧ Text.isSeparator c = false) (b : String) :
    lineTokens (a ++ p ++ "\"" ++ b) = lineTokens (a ++ "\"" ++ p ++ b) := by
  have hbehind : (a ++ p ++ "\"" ++ b).toList = a.toList ++ (p.toList ++ ['"']) ++ b.toList := by
    simp
  have hbefore : (a ++ "\"" ++ p ++ b).toList = a.toList ++ ('"' :: p.toList) ++ b.toList := by
    simp
  have hword : ∀ c ∈ '"' :: p.toList, Text.isSeparator c = false := by
    intro c hc
    rcases List.mem_cons.1 hc with rfl | hc
    · decide
    · exact (hp c hc).2
  have hopen : Token.quotedAfter false (Text.leadChars a.toList) = false := by
    apply Token.quotedAfter_of_even
    rwa [Text.count_quote_leadChars]
  have hspace : ∀ c ∈ p.toList, c ≠ '"' ∧ c ≠ ' ' := by
    intro c hc
    exact ⟨(hp c hc).1, Text.ne_space (hp c hc).2⟩
  rw [lineTokens_eq, lineTokens_eq, hbehind, hbefore,
    Text.normalizeChars_append_word (by simp) (fun c hc => hword c (by simpa [or_comm] using hc)),
    Text.normalizeChars_append_word (by simp) hword, Token.chars_move_quote hopen hspace]

/-- Between separators, or at an end of the line, a word may be put between quotes.  And a quote
that opens a span may be moved to the beginning of the word that it is glued to, whatever the span
holds.  -/
theorem parse_quoting {a : String} (ha : Even (a.toList.count '"')) (o : Options) :
    (∀ w b : String, (∀ c ∈ a.toList.getLast?, Text.isSeparator c = true) →
      (∀ c ∈ b.toList.head?, Text.isSeparator c = true) → w ≠ "" →
      (∀ c ∈ w.toList, c ≠ '"' ∧ Text.isSeparator c = false) →
        parse (a ++ w ++ b) o = parse (a ++ "\"" ++ w ++ "\"" ++ b) o) ∧
      ∀ p r b : String, (∀ c ∈ p.toList, c ≠ '"' ∧ Text.isSeparator c = false) →
        parse (a ++ p ++ "\"" ++ r ++ "\"" ++ b) o =
          parse (a ++ "\"" ++ p ++ r ++ "\"" ++ b) o := by
  constructor
  · intro w b hlast hhead hne hw
    apply parse_congr
    have hclean : Text.Clean w :=
      ⟨fun hq => (hw _ hq).1 rfl, .of_forall_not fun c hc => (hw c hc).2⟩
    have hcount : Even (w.toList.count '"') := by
      rw [List.count_eq_zero_of_not_mem hclean.quote_notMem]
      decide
    -- whatever is put between `a` and `b` can be read by itself
    have hcut : ∀ {m : String}, Even (m.toList.count '"') →
        lineTokens (a ++ m ++ b) = lineTokens a ++ (lineTokens m ++ lineTokens b) := by
      intro m hm
      rw [String.append_assoc,
        lineTokens_append_of_wordChars ha (Text.wordChars_append_of_getLast? hlast _),
        lineTokens_append_of_wordChars hm (Text.wordChars_append_of_head? hhead _)]
    have hassoc : a ++ "\"" ++ w ++ "\"" ++ b = a ++ enclose w ++ b := by
      simp only [enclose, String.append_assoc]
    rw [hassoc, hcut hcount, hcut (even_count_quote_enclose hclean), lineTokens_word hne hw,
      lineTokens_enclose hclean hne]
  · intro p r b hp
    apply parse_congr
    have hmove := lineTokens_move_quote ha hp (r ++ "\"" ++ b)
    simpa only [String.append_assoc] using hmove

/-- Behind a span and a space: a word with and without quotes, and a quote behind the colon and
before the key.  -/
theorem parse_quoting_tag :
    let o := Options.empty.withKeywords ["tag"]
    parse "\"a b\" tag:x\tz" o = parse "\"a b\" \"tag:x\"\tz" o ∧
      parse "\"a b\" tag:\"x  y\"z" o = parse "\"a b\" \"tag:x  y\"z" o := by
  intro o
  obtain ⟨hword, hspan⟩ := parse_quoting (a := "\"a b\" ") (by decide) o
  refine ⟨hword "tag:x" "\tz" ?_ ?_ (by decide) ?_, hspan "tag:" "x  y" "z" ?_⟩
  · simp [Text.isSeparator]
  · simp [Text.isSeparator]
  · simp [Text.isSeparator]
  · simp [Text.isSeparator]

end SearchBar
