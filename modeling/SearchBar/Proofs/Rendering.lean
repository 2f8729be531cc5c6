import SearchBar.Proofs.KeywordValues
import SearchBar.Proofs.WellFormed

/-!
# Every well-formed record can be asked for

For a well-formed record there is a line with exactly that record, text and fields in the same order
(`exists_parse_eq_of_wellFormed`).  The line shows every token between quotes.  A piece of free text
is preceded by so many no-break spaces that the key it may seem to have is none of the options, and
reading cuts them off again (`Query.add_ofToken_textToken`).  A keyword is given its texts in one
value with commas, unless the second one holds a comma itself: then it is given the first, the
second and all others separately (`Value.growAll_given`).
-/

namespace SearchBar

open Text (Clean)

/-! ## The line of a record -/

/-- A blank that is no separator. -/
def noBreakSpace : Char := '\u00a0'

/-- More than the length of any name in the options. -/
def padWidth (o : Options) : Nat :=
  ((o.keywords.toList ++ o.ranges.toList).map String.toList).flatten.length + 1

/-- A token that says a piece of free text, whatever key the piece may seem to have. -/
def textToken (o : Options) (t : String) : String :=
  String.ofList (List.replicate (padWidth o) noBreakSpace ++ t.toList)

/-- The values that a keyword is to be given, in order, so that it holds a value. -/
def Value.given : Value → List String
  | .scalar s => [s]
  | .list (first :: second :: rest) =>
    if ',' ∈ second.toList then
      first :: second :: (if rest = [] then [] else [",".intercalate rest])
    else [",".intercalate (first :: second :: rest)]
  | .list ss => ss

/-- The value that a range is to be given. -/
def RangeValue.given : RangeValue → String
  | ⟨start, none⟩ => start
  | ⟨start, some stop⟩ => start ++ "-" ++ stop

/-- The values that a name is to be given for its field. -/
def Field.given : Field → List String
  | .keyword v => v.given
  | .range r => [r.given]

/-- A token that gives a name a value. -/
def keyToken (n v : String) : String := n ++ ":" ++ v

/-- The tokens for a named field. -/
def fieldTokens (p : String × Field) : List String := p.2.given.map (keyToken p.1)

/-- The tokens for a record: its free text, then its fields. -/
def recordTokens (o : Options) (q : Query) : List String :=
  q.text.map (textToken o) ++ q.fields.flatMap fieldTokens

/-- A line for a record: its tokens between quotes, one space apart. -/
def render (o : Options) (q : Query) : String :=
  " ".intercalate ((recordTokens o q).map enclose)

/-- Clean texts that are not empty, shown between quotes, are the tokens of the line. -/
theorem lineTokens_intercalate_enclose {ts : List String} (h : ∀ t ∈ ts, Clean t ∧ t ≠ "") :
    lineTokens (" ".intercalate (ts.map enclose)) = ts := by
  induction ts with
  | nil => decide
  | cons t ts ih =>
    obtain ⟨ht, hne⟩ := h t List.mem_cons_self
    have hrest : lineTokens (" ".intercalate (ts.map enclose)) = ts := by
      apply ih
      intro u hu
      exact h u (List.mem_cons_of_mem t hu)
    cases ts with
    | nil => rw [List.map_singleton, String.intercalate_singleton, lineTokens_enclose ht hne]
    | cons u us =>
      have hspace : ∀ c ∈ " ".toList, Text.isSeparator c = true := by simp [Text.isSeparator]
      rw [List.map_cons, List.map_cons, String.intercalate_cons_cons, ← List.map_cons,
        lineTokens_append (even_count_quote_enclose ht) (by decide) hspace,
        lineTokens_enclose ht hne, hrest]
      rfl

/-! ## Free text -/

namespace Text

/-- Blanks before a trimmed text are cut off again. -/
theorem trim_append_of_trimmed {pad : List Char} {t : String} (hp : ∀ c ∈ pad, isBlank c = true)
    (ht : Trimmed t) : trim (String.ofList (pad ++ t.toList)) = t := by
  have hself : ∀ {cs : List Char}, (∀ c ∈ cs.head?, isBlank c = false) →
      cs.dropWhile isBlank = cs := by
    intro cs hcs
    cases cs with
    | nil => rfl
    | cons c cs => rw [List.dropWhile_cons_of_neg (by simp [hcs c rfl])]
  have hlast : ∀ c ∈ t.toList.reverse.head?, isBlank c = false := by
    rw [List.head?_reverse]
    exact ht.last
  rw [trim, String.toList_ofList, trimChars, List.dropWhile_append_of_pos hp, hself ht.head,
    hself hlast, List.reverse_reverse, String.ofList_toList]

end Text

theorem length_lt_padWidth {o : Options} {n : String} (h : n ∈ o.keywords ∨ n ∈ o.ranges) :
    n.length < padWidth o := by
  have hmem : n.toList ∈ (o.keywords.toList ++ o.ranges.toList).map String.toList :=
    List.mem_map_of_mem (List.mem_append.2 h)
  rw [padWidth, ← String.length_toList]
  exact Nat.lt_succ_of_le (List.sublist_flatten_of_mem hmem).length_le

/-- The key of a token that begins with no-break spaces is longer than every name. -/
theorem padWidth_le_length_key {o : Options} {t k v : String}
    (h : keyValue? (textToken o t) = some (k, v)) : padWidth o ≤ k.length := by
  obtain ⟨heq, -⟩ := keyValue?_eq_some_iff.1 h
  have hlist : List.replicate (padWidth o) noBreakSpace ++ t.toList =
      k.toList ++ ':' :: v.toList := by
    have := congrArg String.toList heq
    simpa [textToken] using this
  by_contra hlt
  -- otherwise the colon behind the key would be one of the no-break spaces
  have hcolon : (List.replicate (padWidth o) noBreakSpace ++ t.toList)[k.length]? = some ':' := by
    rw [hlist, ← String.length_toList, List.getElem?_append_right (Nat.le_refl _), Nat.sub_self]
    rfl
  rw [List.getElem?_append_left (by simpa using hlt), List.getElem?_replicate,
    if_pos (Nat.lt_of_not_le hlt)] at hcolon
  exact absurd (Option.some.inj hcolon) (by decide)

theorem clean_textToken {o : Options} {t : String} (h : Clean t) : Clean (textToken o t) := by
  have hpad : ∀ c ∈ List.replicate (padWidth o) noBreakSpace, c = noBreakSpace :=
    fun c hc => List.eq_of_mem_replicate hc
  constructor
  · rw [textToken, String.toList_ofList, List.mem_append]
    rintro (hq | hq)
    · exact absurd (hpad _ hq) (by decide)
    · exact h.quote_notMem hq
  · rw [textToken, String.toList_ofList]
    refine Text.SingleSpaced.append (.of_forall_not ?_) h.singleSpaced ?_
    · intro c hc
      rw [hpad c hc]
      decide
    · rintro a ha b - ⟨rfl, -⟩
      exact absurd (hpad _ (List.mem_of_getLast? ha)) (by decide)

theorem textToken_ne_empty (o : Options) (t : String) : textToken o t ≠ "" := by
  rw [textToken, Ne, ← String.toList_inj]
  simp [padWidth]

/-- The token for a piece of free text adds that piece. -/
theorem Query.add_ofToken_textToken {o : Options} {t : String} (ht : Text.Trimmed t) (q : Query) :
    q.add (Clause.ofToken o (textToken o t)) = q.addText t := by
  have hblank : ∀ c ∈ List.replicate (padWidth o) noBreakSpace, Text.isBlank c = true := by
    intro c hc
    rw [List.eq_of_mem_replicate hc]
    decide
  have htrim : Text.trim (textToken o t) = t := Text.trim_append_of_trimmed hblank ht
  rw [Clause.ofToken]
  cases hkv : keyValue? (textToken o t) with
  | none => rw [add, htrim]
  | some p =>
    obtain ⟨k, v⟩ := p
    have hlong := padWidth_le_length_key hkv
    have hkey : k ∉ o.keywords := by
      intro hk
      exact absurd (length_lt_padWidth (Or.inl hk)) (Nat.not_lt.2 hlong)
    have hrange : k ∉ o.ranges := by
      intro hr
      exact absurd (length_lt_padWidth (Or.inr hr)) (Nat.not_lt.2 hlong)
    show q.add (Clause.ofKeyValue o (textToken o t) k v) = q.addText t
    simp only [Clause.ofKeyValue, Options.isKeyword, Options.isRange, decide_eq_true_eq,
      if_neg hkey, if_neg hrange]
    split <;> rw [add, htrim]

/-! ## Values -/

theorem clean_intercalate_comma {ss : List String} (h : ∀ s ∈ ss, Clean s) :
    Clean (",".intercalate ss) := by
  induction ss with
  | nil => decide
  | cons s ss ih =>
    have hs := h s List.mem_cons_self
    have hrest : Clean (",".intercalate ss) := by
      apply ih
      intro u hu
      exact h u (List.mem_cons_of_mem s hu)
    cases ss with
    | nil => rwa [String.intercalate_singleton]
    | cons u us =>
      refine hs.append_cons (c := ',') hrest (by decide) (by decide) ?_
      rw [String.intercalate_cons_cons]
      simp

theorem comma_mem_intercalate (s u : String) (us : List String) :
    ',' ∈ (",".intercalate (s :: u :: us)).toList := by
  rw [String.intercalate_cons_cons]
  simp

theorem intercalate_comma_ne_empty {ss : List String} (hne : ss ≠ []) (hempty : ss ≠ [""]) :
    ",".intercalate ss ≠ "" := by
  rcases ss with _ | ⟨s, _ | ⟨u, us⟩⟩
  · exact absurd rfl hne
  · rw [String.intercalate_singleton]
    rintro rfl
    exact hempty rfl
  · intro h
    have hcomma := comma_mem_intercalate s u us
    rw [h] at hcomma
    exact absurd hcomma (by decide)

namespace Value

/-- A keyword that is given the values for a well-formed value holds that value in the end. -/
theorem growAll_given {v : Value} (h : v.WellFormed) : growAll none v.given = some v := by
  rw [growAll_none]
  match v, h with
  | .scalar s, h => rw [given, ofValues?, if_neg h.2.2]
  | .list (first :: second :: rest), h =>
    rw [given]
    by_cases hc : ',' ∈ second.toList
    · rw [if_pos hc, ofValues?, if_neg h.first_comma]
      by_cases hrest : rest = []
      · rw [if_pos hrest, hrest]
        rfl
      · rw [if_neg hrest, List.flatMap_singleton, keywordPieces_intercalate hrest h.rest_comma]
    · have hall : ∀ s ∈ first :: second :: rest, ',' ∉ s.toList := by
        intro s hs
        rcases List.mem_cons.1 hs with rfl | hs
        · exact h.first_comma
        · rcases List.mem_cons.1 hs with rfl | hs
          · exact hc
          · exact h.rest_comma s hs
      rw [if_neg hc, ofValues?, if_pos (comma_mem_intercalate first second rest),
        keywordPieces_intercalate (by simp) hall]

/-- These values are clean, and none of them is empty. -/
theorem clean_given {v : Value} (h : v.WellFormed) : ∀ s ∈ v.given, Clean s ∧ s ≠ "" := by
  match v, h with
  | .scalar s, h =>
    intro u hu
    rw [given, List.mem_singleton] at hu
    exact hu ▸ ⟨h.1, h.2.1⟩
  | .list (first :: second :: rest), h =>
    intro u hu
    rw [given] at hu
    by_cases hc : ',' ∈ second.toList
    · obtain ⟨hfirst, hrest⟩ := h.second_comma hc
      rw [if_pos hc] at hu
      rcases List.mem_cons.1 hu with rfl | hu
      · exact ⟨h.clean _ (by simp), hfirst⟩
      · rcases List.mem_cons.1 hu with rfl | hu
        · refine ⟨h.clean _ (by simp), ?_⟩
          rintro rfl
          exact absurd hc (by decide)
        · by_cases hnil : rest = []
          · rw [if_pos hnil] at hu
            exact absurd hu List.not_mem_nil
          · rw [if_neg hnil, List.mem_singleton] at hu
            rw [hu]
            refine ⟨clean_intercalate_comma ?_, intercalate_comma_ne_empty hnil hrest⟩
            intro s hs
            exact h.clean s (by simp [hs])
    · rw [if_neg hc, List.mem_singleton] at hu
      rw [hu]
      exact ⟨clean_intercalate_comma h.clean, intercalate_comma_ne_empty (by simp) (by simp)⟩

end Value

namespace RangeValue

theorem ofValue_given {r : RangeValue} (h : r.WellFormed) : ofValue r.given = r := by
  match r, h with
  | ⟨start, none⟩, h => rw [ofValue, given, rangeParts?_eq_none_iff.2 h.2]
  | ⟨start, some stop⟩, h =>
    rw [ofValue, given, rangeParts?_eq_some_iff.2 ⟨rfl, h.1.2, h.2.2⟩]

theorem clean_given {r : RangeValue} (h : r.WellFormed) : Clean r.given := by
  match r, h with
  | ⟨start, none⟩, h => exact h.1
  | ⟨start, some stop⟩, h =>
    exact h.1.1.append_cons (c := '-') h.2.1 (by decide) (by decide) (by simp [given])

end RangeValue

/-! ## Fields -/

namespace Query

/-- The record with one more field, at the end. -/
def push (q : Query) (n : String) (f : Field) : Query := { q with fields := q.fields ++ [(n, f)] }

variable {q : Query} {n : String}

theorem names_push (q : Query) (n : String) (f : Field) : (q.push n f).names = q.names ++ [n] := by
  rw [names, push, List.map_append]
  rfl

theorem setField_append {fs : List (String × Field)} (h : n ∉ fs.map Prod.fst) (f : Field)
    (gs : List (String × Field)) : setField n f (fs ++ gs) = fs ++ setField n f gs := by
  induction fs with
  | nil => rfl
  | cons p ps ih =>
    obtain ⟨m, g⟩ := p
    rw [List.map_cons, List.mem_cons, not_or] at h
    rw [List.cons_append, setField, if_neg (Ne.symm h.1), ih h.2]
    rfl

/-- A new name gets its field at the end. -/
theorem set_of_notMem (h : n ∉ q.names) (f : Field) : q.set n f = q.push n f := by
  rw [set, push, ← List.append_nil q.fields, setField_append h, List.append_nil]
  rfl

theorem set_push (h : n ∉ q.names) (f g : Field) : (q.push n g).set n f = q.push n f := by
  rw [set, push, setField_append h, push]
  simp [setField]

theorem get?_push (h : n ∉ q.names) (f : Field) : (q.push n f).get? n = some f := by
  rw [← set_of_notMem h, get?_set, if_pos rfl]

/-- Values for one new name add up to one field at the end. -/
theorem foldl_add_keyword (h : n ∉ q.names) {vs : List String} {x : Value}
    (hx : Value.growAll none vs = some x) :
    (vs.map (Clause.keyword n)).foldl add q = q.push n (.keyword x) := by
  have hgrow : ∀ (us : List String) (y : Value), Value.growAll (some y) us = some x →
      (us.map (Clause.keyword n)).foldl add (q.push n (.keyword y)) = q.push n (.keyword x) := by
    intro us
    induction us with
    | nil =>
      intro y hy
      rw [Option.some.inj hy]
      rfl
    | cons u us ih =>
      intro y hy
      rw [List.map_cons, List.foldl_cons, add, set_push h, keyword?_eq, get?_push h]
      exact ih _ hy
  cases vs with
  | nil => exact absurd hx (by simp [Value.growAll_nil])
  | cons v vs =>
    have hnone : q.keyword? n = none := by
      rw [keyword?_eq]
      cases hget : q.get? n with
      | none => rfl
      | some f => exact absurd (List.mem_map_of_mem (mem_of_getField?_eq_some hget)) h
    rw [List.map_cons, List.foldl_cons, add, set_of_notMem h, hnone]
    exact hgrow vs _ hx

/-- The tokens for a field with a new name add that field, at the end. -/
theorem foldl_add_fieldTokens {o : Options} {f : Field} (hn : FieldName n) (hf : f.WellFormed o n)
    (h : n ∉ q.names) :
    ((fieldTokens (n, f)).map (Clause.ofToken o)).foldl add q = q.push n f := by
  have hkv : ∀ v, keyValue? (keyToken n v) = some (n, v) :=
    fun v => keyValue?_eq_some_iff.2 ⟨rfl, hn.colon⟩
  cases f with
  | keyword x =>
    obtain ⟨hmem, hx⟩ := hf
    have hclauses : (fieldTokens (n, .keyword x)).map (Clause.ofToken o) =
        x.given.map (Clause.keyword n) := by
      rw [fieldTokens, List.map_map]
      refine List.map_congr_left ?_
      intro v hv
      exact Clause.ofToken_eq_keyword_iff.2
        ⟨hkv v, hn.notReserved, hmem, (Value.clean_given hx v hv).2⟩
    rw [hclauses]
    exact foldl_add_keyword h (Value.growAll_given hx)
  | range r =>
    obtain ⟨hnk, hmem, hr⟩ := hf
    have hclause : Clause.ofToken o (keyToken n r.given) = .range n r.given :=
      Clause.ofToken_eq_range_iff.2 ⟨hkv _, hn.notReserved, hnk, hmem⟩
    show q.add (Clause.ofToken o (keyToken n r.given)) = q.push n (.range r)
    rw [hclause, add, set_of_notMem h, RangeValue.ofValue_given hr]

/-- The tokens for fields with new names add those fields, in order. -/
theorem foldl_add_fields {o : Options} {fs : List (String × Field)}
    (hnames : ∀ m ∈ fs.map Prod.fst, FieldName m) (hfields : ∀ p ∈ fs, p.2.WellFormed o p.1)
    (hnodup : (q.names ++ fs.map Prod.fst).Nodup) :
    ((fs.flatMap fieldTokens).map (Clause.ofToken o)).foldl add q =
      { q with fields := q.fields ++ fs } := by
  induction fs generalizing q with
  | nil => simp
  | cons p ps ih =>
    obtain ⟨m, f⟩ := p
    have hm : m ∉ q.names := by
      intro hmem
      exact (List.nodup_append.1 hnodup).2.2 m hmem m List.mem_cons_self rfl
    have hpush : ((q.push m f).names ++ ps.map Prod.fst).Nodup := by
      rw [names_push, List.append_assoc]
      exact hnodup
    rw [List.flatMap_cons, List.map_append, List.foldl_append,
      foldl_add_fieldTokens (hnames m List.mem_cons_self) (hfields (m, f) List.mem_cons_self) hm,
      ih (fun k hk => hnames k (List.mem_cons_of_mem m hk))
        (fun r hr => hfields r (List.mem_cons_of_mem _ hr)) hpush]
    simp [push]

/-- The tokens for pieces of free text add those pieces, in order. -/
theorem foldl_add_texts {o : Options} {ts : List String} (h : ∀ t ∈ ts, Text.Trimmed t) :
    ((ts.map (textToken o)).map (Clause.ofToken o)).foldl add q =
      { q with text := q.text ++ ts } := by
  induction ts generalizing q with
  | nil => simp
  | cons t ts ih =>
    rw [List.map_cons, List.map_cons, List.foldl_cons,
      add_ofToken_textToken (h t List.mem_cons_self),
      ih fun u hu => h u (List.mem_cons_of_mem t hu)]
    simp [addText]

end Query

/-! ## Records -/

/-- The tokens for a well-formed record are clean, and none of them is empty. -/
theorem clean_of_mem_recordTokens {o : Options} {q : Query} (h : q.WellFormed o) {t : String}
    (ht : t ∈ recordTokens o q) : Clean t ∧ t ≠ "" := by
  rcases List.mem_append.1 ht with ht | ht
  · obtain ⟨s, hs, rfl⟩ := List.mem_map.1 ht
    exact ⟨clean_textToken (h.text s hs).1, textToken_ne_empty o s⟩
  · obtain ⟨⟨n, f⟩, hp, ht⟩ := List.mem_flatMap.1 ht
    obtain ⟨v, hv, rfl⟩ := List.mem_map.1 ht
    have hn : FieldName n := h.names n (List.mem_map_of_mem hp)
    have hf : f.WellFormed o n := h.fields (n, f) hp
    have hclean : Clean v := by
      cases f with
      | keyword x => exact (Value.clean_given hf.2 v hv).1
      | range r =>
        rw [List.mem_singleton.1 hv]
        exact RangeValue.clean_given hf.2.2
    refine ⟨hn.clean.append_cons (c := ':') hclean (by decide) (by decide) (by simp [keyToken]), ?_⟩
    rw [keyToken, Ne, ← String.toList_inj]
    simp

/-- For every well-formed record there is a line that asks for just that record. -/
theorem exists_parse_eq_of_wellFormed {o : Options} {q : Query} (h : q.WellFormed o) :
    ∃ line, parse line o = q := by
  refine ⟨render o q, ?_⟩
  have htokens : lineTokens (render o q) = recordTokens o q := by
    apply lineTokens_intercalate_enclose
    intro t ht
    exact clean_of_mem_recordTokens h ht
  have htrimmed : ∀ t ∈ q.text, Text.Trimmed t := by
    intro t ht
    exact (h.text t ht).2
  have hnodup : (Query.names { text := q.text } ++ q.fields.map Prod.fst).Nodup := h.names_nodup
  rw [parse, clauses, htokens, recordTokens, List.map_append, List.foldl_append,
    Query.foldl_add_texts htrimmed]
  exact Query.foldl_add_fields h.names h.fields hnodup

/-- A record whose free text looks like a keyword or says nothing, with a comma in the second text
of a list and a range of three parts. -/
theorem exists_parse_eq_text_like_keyword :
    ∃ line, parse line ((Options.empty.withKeywords ["tag", "\u00a0tag"]).withRanges ["date"]) =
      { text := ["tag:x", ""]
        fields := [("date", .range ⟨"2016-01-02", none⟩),
          ("tag", .keyword (.list ["a b", "c,d", "", "e"]))] } :=
  exists_parse_eq_of_wellFormed (by decide)

end SearchBar
