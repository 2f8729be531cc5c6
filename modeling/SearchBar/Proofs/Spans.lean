import Mathlib.Data.List.Basic
import SearchBar.Proofs.Tokens

/-!
# Quoted spans

What the tokens of a line are can be said without reading it character by character
(`tokenize_eq_ofParts`).  The quotes cut the line into parts, of which every second one stands
inside quotes.  A part outside quotes is cut at its spaces; each of its pieces is a token, except
that the last one is glued to the span behind it.  The reading has gathered exactly this last piece
when it comes to the quote that opens the span (`Token.scan_append_unquoted`), and nothing when it
comes to the end of the span.
-/

namespace SearchBar

namespace Token

/-- The tokens that begin in the part of a line with a given number, where the parts stand between
the quotes and the first one has number zero.  The last piece of the part, with the quoted part
behind it, is a token if a quote closes the span, and otherwise if it is not empty. -/
def ofPart (parts : List (List Char)) (i : Nat) : List (List Char) :=
  let pieces := (parts.getD i []).splitOn ' '
  let last := pieces.getLastD [] ++ parts.getD (i + 1) []
  pieces.dropLast ++ if i + 2 < parts.length then [last] else [last].filter (· ≠ [])

/-- The tokens of a line that is given by its parts between the quotes.  Those with an even number
stand outside quotes. -/
def ofParts (parts : List (List Char)) : List (List Char) :=
  ((List.range parts.length).filter (Even ·)).flatMap (ofPart parts)

/-! ## One part -/

/-- Outside quotes, every space ends a token.  Behind a text without quotes, the pieces of what was
gathered and of the text are tokens, except that the last one is what is gathered now. -/
theorem scan_append_unquoted {buf xs : List Char} (hb : ' ' ∉ buf) (hq : '"' ∉ xs)
    (ys : List Char) :
    scan false buf (xs ++ ys) =
      ((buf.reverse ++ xs).splitOn ' ').dropLast ++
        scan false (((buf.reverse ++ xs).splitOn ' ').getLastD []).reverse ys := by
  induction xs generalizing buf with
  | nil =>
    have hsplit : buf.reverse.splitOn ' ' = [buf.reverse] :=
      List.splitOn_eq_singleton (by simpa using hb)
    rw [List.append_nil, hsplit, List.nil_append]
    simp
  | cons c xs ih =>
    rw [List.mem_cons, not_or] at hq
    rw [List.cons_append]
    by_cases hc : c = ' '
    · subst hc
      -- what was gathered holds no space, so it is a piece of its own now
      have hsplit : (buf.reverse ++ ' ' :: xs).splitOn ' ' =
          buf.reverse :: xs.splitOn ' ' :=
        List.splitOn_append_cons_self_of_not_mem (by simpa using hb) xs
      have hne : xs.splitOn ' ' ≠ [] := List.splitOn_ne_nil _ _
      have hlast : (buf.reverse :: xs.splitOn ' ').getLastD [] =
          (xs.splitOn ' ').getLastD [] := by
        cases h : xs.splitOn ' ' with
        | nil => exact absurd h hne
        | cons q qs => simp
      rw [scan_space, ih (by simp) hq.2, hsplit, hlast, List.dropLast_cons_of_ne_nil hne]
      rfl
    · have hglue : buf.reverse ++ c :: xs = (c :: buf).reverse ++ xs := by simp
      rw [scan_push (Ne.symm hq.1) (fun _ => hc), hglue]
      refine ih ?_ hq.2
      rw [List.mem_cons, not_or]
      exact ⟨Ne.symm hc, hb⟩

/-- A part outside quotes, read from its beginning. -/
theorem scan_part {s : List Char} (hq : '"' ∉ s) (ys : List Char) :
    scan false [] (s ++ ys) =
      (s.splitOn ' ').dropLast ++
        scan false ((s.splitOn ' ').getLastD []).reverse ys :=
  scan_append_unquoted List.not_mem_nil hq ys

/-! ## All parts -/

/-- Two parts, one outside and one inside quotes, come before the others. -/
theorem ofParts_cons_cons (s q : List Char) (parts : List (List Char)) :
    ofParts (s :: q :: parts) = ofPart (s :: q :: parts) 0 ++ ofParts parts := by
  have hshift : ∀ i, ofPart (s :: q :: parts) (i + 2) = ofPart parts i := by
    intro i
    have hlt : i + 2 + 2 < (s :: q :: parts).length ↔ i + 2 < parts.length := by
      rw [List.length_cons, List.length_cons]
      omega
    simp only [ofPart, List.getD_cons_succ, hlt]
  have hrange : (List.range (parts.length + 2)).filter (Even ·) =
      0 :: ((List.range parts.length).filter (Even ·)).map (· + 2) := by
    rw [List.range_succ_eq_map, List.range_succ_eq_map, List.filter_cons_of_pos (by decide),
      List.map_cons, List.filter_cons_of_neg (by decide), List.map_map, List.filter_map]
    congr 2
    refine List.filter_congr ?_
    intro i _
    simp [Nat.even_add]
  rw [ofParts, List.length_cons, List.length_cons, hrange, List.flatMap_cons, List.flatMap_map]
  simp only [hshift]
  rfl

/-- The tokens of a text, said by its parts.  The parts are taken two at a time, one outside and one
inside quotes; only the last one may lack its counterpart. -/
theorem chars_intercalate : ∀ {parts : List (List Char)}, (∀ s ∈ parts, '"' ∉ s) →
    chars (['"'].intercalate parts) = ofParts parts
  | [], _ => rfl
  | [s], h => by
    have hs := scan_part (h s (by simp)) []
    rw [List.append_nil, scan_nil] at hs
    rw [List.intercalate_singleton, chars, hs]
    simp [ofParts, ofPart]
  | [s, q], h => by
    have hs := scan_part (h s (by simp)) ('"' :: q)
    rw [scan_open, scan_unclosed (h q (by simp))] at hs
    rw [List.intercalate_cons_cons, List.intercalate_singleton, List.append_assoc,
      List.singleton_append, chars, hs, ofParts_cons_cons]
    simp [ofParts, ofPart]
  | s :: q :: r :: rest, h => by
    have hs := scan_part (h s (by simp)) ('"' :: (q ++ '"' :: ['"'].intercalate (r :: rest)))
    have ih : scan false [] (['"'].intercalate (r :: rest)) = ofParts (r :: rest) :=
      chars_intercalate fun x hx => h x (by simp [hx])
    rw [scan_open, scan_quoted (h q (by simp)), ih] at hs
    rw [List.intercalate_cons_cons, List.intercalate_cons_cons, ofParts_cons_cons]
    simp only [List.append_assoc, List.singleton_append]
    rw [chars, hs]
    simp [ofPart]

/-! ## One span -/

/-- A quote that opens a span leaves what was gathered before it to the token of the span, and a
quote that closes the span ends that token. -/
theorem exists_chars_span {xs : List Char} (h : quotedAfter false xs = false) :
    ∃ ts p, chars xs = ts ++ [p].filter (· ≠ []) ∧ ∀ q, '"' ∉ q →
      chars (xs ++ '"' :: q) = ts ++ [p ++ q].filter (· ≠ []) ∧
        ∀ ys, chars (xs ++ '"' :: (q ++ '"' :: ys)) = ts ++ (p ++ q) :: chars ys := by
  obtain ⟨ts, buf, hscan⟩ := exists_scan_append false [] xs
  rw [h] at hscan
  refine ⟨ts, buf.reverse, ?_, ?_⟩
  · have hend := hscan []
    rwa [List.append_nil, scan_nil] at hend
  · intro q hq
    constructor
    · rw [chars, hscan, scan_open, scan_unclosed hq]
    · intro ys
      rw [chars, hscan, scan_open, scan_quoted hq]
      rfl

end Token

/-- The tokens of a line are those of its parts.  In particular, a quote that opens a span never
ends a token, one that closes a span always does, even a token without characters, and all that
stands inside the span is kept as it is. -/
theorem tokenize_eq_ofParts (s : String) :
    tokenize s = (Token.ofParts (s.toList.splitOn '"')).map String.ofList ∧
      ∀ x z : String, s = x ++ "\"" ++ z → Even (x.toList.count '"') →
        ∃ ts p, tokenize x = ts ++ [p].filter (· ≠ "") ∧
          ('"' ∉ z.toList → tokenize s = ts ++ [p ++ z].filter (· ≠ "")) ∧
          ∀ q y : String, z = q ++ "\"" ++ y → '"' ∉ q.toList →
            tokenize s = ts ++ (p ++ q) :: tokenize y := by
  constructor
  · have hparts : ∀ q ∈ s.toList.splitOn '"', '"' ∉ q := by
      intro q hq
      exact Text.notMem_of_mem_splitOn hq
    rw [tokenize, ← Token.chars_intercalate hparts, List.intercalate_splitOn]
  · rintro x z rfl hx
    obtain ⟨ts, p, hts, hspan⟩ := Token.exists_chars_span (Token.quotedAfter_of_even hx)
    refine ⟨ts.map String.ofList, String.ofList p, ?_, ?_, ?_⟩
    · rw [tokenize, hts, List.map_append, map_ofList_filter_ne_nil, List.map_singleton]
    · intro hz
      have hlist : (x ++ "\"" ++ z).toList = x.toList ++ '"' :: z.toList := by simp
      rw [tokenize, hlist, (hspan _ hz).1, List.map_append, map_ofList_filter_ne_nil,
        List.map_singleton, String.ofList_append, String.ofList_toList]
    · rintro q y rfl hq
      have hlist : (x ++ "\"" ++ (q ++ "\"" ++ y)).toList =
          x.toList ++ '"' :: (q.toList ++ '"' :: y.toList) := by simp
      rw [tokenize, hlist, (hspan _ hq).2, List.map_append, List.map_cons, String.ofList_append,
        String.ofList_toList]
      rfl

/-- A span that is glued to a word, one without characters, one behind a space, and one that is
never closed.  -/
theorem tokenize_four_spans :
    tokenize "a\"b c\"\"\" \"d\"e \"f g" = ["ab c", "", "", "d", "e", "f g"] ∧
      ∃ ts p, tokenize "a" = ts ++ [p].filter (· ≠ "") ∧
        tokenize "a\"b c\"\"\" \"d\"e \"f g" =
          ts ++ (p ++ "b c") :: tokenize "\"\" \"d\"e \"f g" := by
  obtain ⟨htokens, hspan⟩ := tokenize_eq_ofParts "a\"b c\"\"\" \"d\"e \"f g"
  obtain ⟨ts, p, hts, -, hclosed⟩ :=
    hspan "a" "b c\"\"\" \"d\"e \"f g" (by decide) (by decide)
  exact ⟨htokens.trans (by decide), ts, p, hts, hclosed "b c" _ (by decide) (by decide)⟩

end SearchBar
