import SearchBar.Proofs.WellFormed

/-!
# Two lines, one after the other

Outside quotes a line may be cut at separators: its record is made up of the records of the two
parts (`isJoin_parse`).  Free text and new names of the second part come behind those of the first,
and a range of the second part replaces one of the first.  A keyword that both parts speak of
becomes a list that begins with what the first part says; the list itself is not a function of the
two values, because the first value of the second part may be taken whole or in pieces, but its
texts joined with commas are (`Value.exists_growAll_some`).
-/

namespace SearchBar

/-- How the record of a line is made up of the records of its two parts. -/
structure Query.IsJoin (a b c : Query) : Prop where
  text : c.text = a.text ++ b.text
  names : c.names = a.names ++ b.names.filter (· ∉ a.names)
  range : ∀ n, c.range? n = (b.range? n).or (a.range? n)
  keyword_left : ∀ n, b.keyword? n = none → c.keyword? n = a.keyword? n
  keyword_right : ∀ n, a.keyword? n = none → c.keyword? n = b.keyword? n
  keyword_both : ∀ n x y, a.keyword? n = some x → b.keyword? n = some y →
    ∃ ss, c.keyword? n = some (.list ss) ∧ x.toList <+: ss ∧
      ",".intercalate ss = ",".intercalate x.toList ++ "," ++ ",".intercalate y.toList

/-! ## Values joined with commas -/

/-- Joined with commas, values and their pieces are the same. -/
theorem intercalate_append_flatMap_keywordPieces (ss vs : List String) :
    ",".intercalate (ss ++ vs.flatMap keywordPieces) = ",".intercalate (ss ++ vs) := by
  induction vs generalizing ss with
  | nil => rfl
  | cons v vs ih =>
    have hpieces : ",".intercalate (ss ++ keywordPieces v) = ",".intercalate (ss ++ [v]) := by
      by_cases hs : ss = []
      · rw [hs, List.nil_append, List.nil_append, intercalate_keywordPieces,
          String.intercalate_singleton]
      · rw [String.intercalate_append_of_ne_nil hs (keywordPieces_ne_nil v),
          String.intercalate_append_of_ne_nil hs (by simp), intercalate_keywordPieces,
          String.intercalate_singleton]
    rw [List.flatMap_cons, ← List.append_assoc, ih, ← List.singleton_append, ← List.append_assoc]
    by_cases hv : vs = []
    · rw [hv, List.append_nil, List.append_nil, hpieces]
    · rw [String.intercalate_append_of_ne_nil (by simp [keywordPieces_ne_nil]) hv, hpieces,
        String.intercalate_append_of_ne_nil (by simp) hv]

namespace Value

/-- A keyword that has a value and is given more becomes a list that begins with what it had; joined
with commas, the list is what it had and then the values given. -/
theorem exists_growAll_some (x : Value) {vs : List String} (hvs : vs ≠ []) :
    ∃ ss, growAll (some x) vs = some (.list ss) ∧ x.toList <+: ss ∧
      ",".intercalate ss = ",".intercalate (x.toList ++ vs) := by
  cases x with
  | list ts =>
    exact ⟨_, growAll_list ts vs, List.prefix_append ts _,
      intercalate_append_flatMap_keywordPieces ts vs⟩
  | scalar s =>
    cases vs with
    | nil => exact absurd rfl hvs
    | cons v vs =>
      refine ⟨_, growAll_scalar s v vs, List.prefix_append [s] _, ?_⟩
      exact intercalate_append_flatMap_keywordPieces [s, v] vs

/-- Joined with commas, what a keyword holds is the values it was given. -/
theorem intercalate_toList_of_growAll_none {y : Value} {vs : List String}
    (h : growAll none vs = some y) : ",".intercalate y.toList = ",".intercalate vs := by
  cases vs with
  | nil => exact absurd h (by simp [growAll_nil])
  | cons v vs =>
    have hfirst : (grow none v).toList ≠ [] ∧ ",".intercalate (grow none v).toList = v := by
      rw [grow_none]
      split
      · exact ⟨keywordPieces_ne_nil v, intercalate_keywordPieces v⟩
      · exact ⟨List.cons_ne_nil v [], String.intercalate_singleton⟩
    rw [growAll_cons] at h
    by_cases hvs : vs = []
    · rw [hvs, growAll_nil, Option.some.injEq] at h
      rw [hvs, ← h, hfirst.2, String.intercalate_singleton]
    · obtain ⟨ss, hss, -, hjoin⟩ := exists_growAll_some (grow none v) hvs
      rw [hss, Option.some.injEq] at h
      rw [← h, toList, hjoin, String.intercalate_append_of_ne_nil hfirst.1 hvs, hfirst.2,
        String.intercalate_cons_of_ne_nil hvs]

end Value

/-! ## Records -/

namespace Query

variable {o : Options} {q : Query} {cs : List Clause}

/-- The value of a keyword grows by the values that clauses give to it. -/
theorem keyword?_foldl_add (hq : q.WellFormed o) (hcs : ∀ c ∈ cs, c.WellFormed o) {n : String}
    (hn : n ∈ o.keywords) :
    (cs.foldl add q).keyword? n =
      Value.growAll (q.keyword? n) (cs.filterMap (Clause.valueFor? n)) := by
  have hnone : ∀ c ∈ cs, ∀ v, c ≠ .range n v := by
    rintro c hc v rfl
    exact (hcs _ hc).2.1 hn
  have hget := Clause.foldl_renew_keyword hnone (q.keyword? n)
  rw [← hq.get?_eq_map_keyword hn, ← get?_foldl_add] at hget
  rw [keyword?_eq, hget]
  cases Value.growAll (q.keyword? n) (cs.filterMap (Clause.valueFor? n)) <;> rfl

/-- Clauses added to a record join what they say by themselves to it. -/
theorem isJoin_foldl_add (hq : q.WellFormed o) (hcs : ∀ c ∈ cs, c.WellFormed o) :
    IsJoin q (cs.foldl add empty) (cs.foldl add q) := by
  have hempty : (empty : Query).WellFormed o := WellFormed.empty
  have hb := hempty.foldl_add hcs
  have hc := hq.foldl_add hcs
  have hgetb : ∀ n, (cs.foldl add empty).get? n = cs.foldl (Clause.renew n) none :=
    get?_foldl_add cs empty
  refine ⟨?_, names_foldl_add cs q, ?_, ?_, ?_, ?_⟩
  · rw [text_foldl_add, text_foldl_add]
    rfl
  · intro n
    by_cases hn : n ∈ o.keywords
    · rw [hq.range?_eq_none hn, hb.range?_eq_none hn, hc.range?_eq_none hn]
      rfl
    · rw [range?_eq, range?_eq, range?_eq, get?_foldl_add]
      cases hget : (cs.foldl add empty).get? n with
      | none =>
        rw [hgetb] at hget
        rw [Clause.foldl_renew_of_eq_none hget]
        rfl
      | some f =>
        cases f with
        | keyword v => exact absurd (hb.field hget).1 hn
        | range r =>
          rw [hgetb] at hget
          rw [Clause.foldl_renew_of_eq_range hget]
          rfl
  · intro n hnone
    by_cases hn : n ∈ o.keywords
    · have hget := hb.get?_eq_map_keyword hn
      rw [hnone, hgetb] at hget
      rw [keyword?_eq, keyword?_eq, get?_foldl_add, Clause.foldl_renew_of_eq_none hget]
    · rw [hq.keyword?_eq_none hn, hc.keyword?_eq_none hn]
  · intro n hnone
    by_cases hn : n ∈ o.keywords
    · rw [keyword?_foldl_add hq hcs hn, keyword?_foldl_add hempty hcs hn, hnone]
      rfl
    · rw [hb.keyword?_eq_none hn, hc.keyword?_eq_none hn]
  · intro n x y hx hy
    have hn : n ∈ o.keywords := by
      by_contra hn
      rw [hq.keyword?_eq_none hn] at hx
      exact absurd hx (by simp)
    rw [keyword?_foldl_add hempty hcs hn] at hy
    have hvs : cs.filterMap (Clause.valueFor? n) ≠ [] := by
      intro hnil
      rw [hnil] at hy
      exact absurd hy (by simp [Value.growAll_nil, keyword?, get?, empty, getField?])
    have hne : x.toList ≠ [] := by
      have hget := hq.get?_eq_map_keyword hn
      rw [hx] at hget
      exact Value.toList_ne_nil_of_wellFormed (hq.field hget).2
    obtain ⟨ss, hss, hprefix, hjoin⟩ := Value.exists_growAll_some x hvs
    refine ⟨ss, ?_, hprefix, ?_⟩
    · rw [keyword?_foldl_add hq hcs hn, hx, hss]
    · rw [hjoin, String.intercalate_append_of_ne_nil hne hvs,
        Value.intercalate_toList_of_growAll_none hy]

end Query

/-- Outside quotes, separators cut a line into two whose records make up the record of the whole. -/
theorem isJoin_parse {a w : String} (ha : Even (a.toList.count '"')) (hne : w ≠ "")
    (hw : ∀ c ∈ w.toList, Text.isSeparator c = true) (b : String) (o : Options) :
    Query.IsJoin (parse a o) (parse b o) (parse (a ++ w ++ b) o) := by
  have hclauses : clauses (a ++ w ++ b) o = clauses a o ++ clauses b o := by
    rw [clauses, lineTokens_append ha hne hw, List.map_append]
    rfl
  have hq : (parse a o).WellFormed o :=
    Query.WellFormed.empty.foldl_add fun _ => wellFormed_of_mem_clauses
  show Query.IsJoin (parse a o) ((clauses b o).foldl Query.add Query.empty)
    ((clauses (a ++ w ++ b) o).foldl Query.add Query.empty)
  rw [hclauses, List.foldl_append]
  exact Query.isJoin_foldl_add hq fun _ => wellFormed_of_mem_clauses

/-- The cut stands behind a closing quote, and both parts speak of the same keyword and range. -/
theorem isJoin_parse_tag_date :
    let o := (Options.empty.withKeywords ["tag"]).withRanges ["date"]
    Query.IsJoin (parse "date:1-2 tag:\"a b\"" o) (parse "date:3 tag:c,d \"x y" o)
      (parse "date:1-2 tag:\"a b\"\t date:3 tag:c,d \"x y" o) :=
  isJoin_parse (a := "date:1-2 tag:\"a b\"") (w := "\t ") (by decide) (by decide)
    (by simp [Text.isSeparator]) "date:3 tag:c,d \"x y" _

/-- Records of the second part that are the same may lead to different lists. -/
example :
    let o := Options.empty.withKeywords ["tag"]
    parse "tag:b,c" o = parse "tag:b tag:c" o ∧
      parse "tag:a tag:b,c" o ≠ parse "tag:a tag:b tag:c" o := by
  decide +kernel

end SearchBar
