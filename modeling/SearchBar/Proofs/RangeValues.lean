import SearchBar.Proofs.Independence
import SearchBar.Proofs.Rendering

/-!
# The value of a range

A range field is written over by every token that names it, so in the end it holds what the last of
these tokens gives it (`lastValue?`, `get?_parse_eq_lastValue`).  Taking a value apart at its only
dash loses nothing: the value can be put together again (`RangeValue.given_ofValue`), so different
last values leave different fields.
-/

namespace SearchBar

/-- What the last token of a line with some key gives to it. -/
def lastValue? (k line : String) : Option String :=
  ((lineTokens line).filterMap (valueOf? k)).getLast?

theorem tokenKey?_eq_some_iff {k t : String} :
    tokenKey? t = some k ↔ ∃ v, valueOf? k t = some v := by
  rw [tokenKey?, Option.map_eq_some_iff]
  constructor
  · rintro ⟨⟨key, v⟩, hkv, rfl⟩
    exact ⟨v, valueOf?_eq_some_iff.2 hkv⟩
  · rintro ⟨v, hv⟩
    exact ⟨(k, v), valueOf?_eq_some_iff.1 hv, rfl⟩

/-- There is a last value for a key as soon as there is a token with it. -/
theorem isSome_lastValue?_iff {k line : String} :
    (lastValue? k line).isSome = true ↔ ∃ t ∈ lineTokens line, tokenKey? t = some k := by
  rw [lastValue?, List.getLast?_isSome]
  constructor
  · intro hne
    obtain ⟨v, hv⟩ := List.exists_mem_of_ne_nil _ hne
    obtain ⟨t, ht, htv⟩ := List.mem_filterMap.1 hv
    exact ⟨t, ht, tokenKey?_eq_some_iff.2 ⟨v, htv⟩⟩
  · rintro ⟨t, ht, hkey⟩
    obtain ⟨v, hv⟩ := tokenKey?_eq_some_iff.1 hkey
    exact List.ne_nil_of_mem (List.mem_filterMap.2 ⟨t, ht, hv⟩)

namespace Clause

/-- The value that a clause gives to a range. -/
def rangeFor? (n : String) : Clause → Option String
  | .range key value => if key = n then some value else none
  | .plain _ | .reserved _ | .unregistered _ _ | .emptyKeyword _ | .keyword _ _ => none

theorem rangeFor?_eq_some_iff {n v : String} {c : Clause} :
    c.rangeFor? n = some v ↔ c = .range n v := by
  cases c with
  | range key value => simp [rangeFor?]
  | _ => simp [rangeFor?]

/-- Where all clauses with a name are ranges, the last of them is what remains. -/
theorem foldl_renew_range {cs : List Clause} {n : String}
    (h : ∀ c ∈ cs, ∀ value, c ≠ .keyword n value) (f : Option Field) :
    cs.foldl (renew n) f =
      ((cs.filterMap (rangeFor? n)).getLast?.map fun v => .range (.ofValue v)).or f := by
  induction cs using List.reverseRecOn with
  | nil => rfl
  | append_singleton cs c ih =>
    have hcs := ih fun d hd => h d (List.mem_append_left _ hd)
    rw [List.foldl_append, List.foldl_cons, List.foldl_nil, hcs, List.filterMap_append]
    cases c with
    | keyword key value =>
      have hk : key ≠ n := by
        rintro rfl
        exact h _ (List.mem_append_right cs (List.mem_singleton_self _)) value rfl
      rw [renew, if_neg hk]
      simp [rangeFor?]
    | range key value =>
      by_cases hk : key = n
      · simp [renew, rangeFor?, hk]
      · simp [renew, rangeFor?, hk]
    | _ => simp [renew, rangeFor?]

end Clause

/-! ## Lines -/

/-- A range is given the values that stand in the tokens with its name. -/
theorem filterMap_rangeFor?_clauses {o : Options} {n : String} (hr : n ∈ o.ranges)
    (hk : n ∉ o.keywords) (ht : n ≠ textName) (line : String) :
    (clauses line o).filterMap (Clause.rangeFor? n) = (lineTokens line).filterMap (valueOf? n) := by
  refine filterMap_clauses (fun t => Option.ext fun v => ?_) line
  rw [Clause.rangeFor?_eq_some_iff, Clause.ofToken_eq_range_iff, valueOf?_eq_some_iff]
  constructor
  · rintro ⟨hkv, -, -, -⟩
    exact hkv
  · intro hkv
    exact ⟨hkv, ht, hk, hr⟩

/-- The field of a range holds what the last token with its name gives it. -/
theorem get?_parse_eq_lastValue {o : Options} {n : String} (hr : n ∈ o.ranges)
    (hk : n ∉ o.keywords) (ht : n ≠ textName) (line : String) :
    (parse line o).get? n = (lastValue? n line).map fun v => .range (.ofValue v) := by
  have hnone : ∀ c ∈ clauses line o, ∀ value, c ≠ .keyword n value := by
    intro c hc value hkey
    obtain ⟨t, -, rfl⟩ := List.mem_map.1 hc
    exact hk (Clause.ofToken_eq_keyword_iff.1 hkey).2.2.1
  rw [parse, Query.get?_foldl_add, Clause.foldl_renew_range hnone,
    filterMap_rangeFor?_clauses hr hk ht, ← lastValue?]
  exact Option.or_none

namespace RangeValue

/-- A value can be put together again from the range that it stands for. -/
theorem given_ofValue (v : String) : (ofValue v).given = v := by
  rw [ofValue]
  cases h : rangeParts? v with
  | none => rfl
  | some p =>
    obtain ⟨a, b⟩ := p
    exact (rangeParts?_eq_some_iff.1 h).1.symm

/-- A value has a second part exactly if it has one dash. -/
theorem isSome_stop_ofValue (v : String) :
    (ofValue v).stop.isSome = true ↔ v.toList.count '-' = 1 := by
  rw [ofValue]
  cases h : rangeParts? v with
  | none => simpa using rangeParts?_eq_none_iff.1 h
  | some p =>
    have hcount : v.toList.count '-' = 1 := by
      by_contra hne
      rw [rangeParts?_eq_none_iff.2 hne] at h
      exact absurd h (by simp)
    simp [hcount]

theorem ofValue_inj {v w : String} : ofValue v = ofValue w ↔ v = w :=
  (Function.LeftInverse.injective given_ofValue).eq_iff

end RangeValue

/-- A line leaves a range a field exactly if one of its tokens has the name as its key, with a value
or without.  The field is a range then, from which the value of the last such token can be put
together, and which has a second part exactly if that value has one dash.  Two lines, each under
options that know the range, leave it the same field exactly if they have the same last value. -/
theorem get?_parse_of_mem_ranges {o : Options} {n : String} (hr : n ∈ o.ranges)
    (hk : n ∉ o.keywords) (ht : n ≠ textName) (line : String) :
    ((∃ f, (parse line o).get? n = some f) ↔ ∃ t ∈ lineTokens line, tokenKey? t = some n) ∧
      (∀ f, (parse line o).get? n = some f →
        ∃ r v, f = .range r ∧ lastValue? n line = some v ∧ r.given = v ∧
          (r.stop.isSome = true ↔ v.toList.count '-' = 1)) ∧
      ∀ (line' : String) (o' : Options), n ∈ o'.ranges → n ∉ o'.keywords →
        ((parse line' o').get? n = (parse line o).get? n ↔
          lastValue? n line' = lastValue? n line) := by
  have hget := get?_parse_eq_lastValue hr hk ht line
  refine ⟨?_, ?_, ?_⟩
  · rw [← isSome_lastValue?_iff, ← Option.isSome_iff_exists, hget, Option.isSome_map]
  · intro f hf
    rw [hget, Option.map_eq_some_iff] at hf
    obtain ⟨v, hv, rfl⟩ := hf
    exact ⟨.ofValue v, v, rfl, hv, RangeValue.given_ofValue v, RangeValue.isSome_stop_ofValue v⟩
  · intro line' o' hr' hk'
    rw [hget, get?_parse_eq_lastValue hr' hk' ht line']
    have hinj : Function.Injective fun v => Field.range (.ofValue v) := by
      intro v w h
      exact RangeValue.ofValue_inj.1 (Field.range.inj h)
    exact (Option.map_injective hinj).eq_iff

/-- The last value has more than one dash and is kept whole, whatever stood there before and
whatever is said of other names.  -/
theorem get?_parse_date_last :
    let o := (Options.empty.withKeywords ["tag"]).withRanges ["date"]
    (∃ r, (parse "date:1-2 x date: tag:1-2 date:a-b-" o).get? "date" = some (.range r) ∧
        r.given = "a-b-" ∧ r.stop = none) ∧
      (parse "date:1-2 date:a-b" o).get? "date" ≠
        (parse "date:1-2 x date: tag:1-2 date:a-b-" o).get? "date" := by
  intro o
  obtain ⟨hiff, hfield, hsame⟩ := get?_parse_of_mem_ranges (o := o) (n := "date") (by decide)
    (by decide) (by decide) "date:1-2 x date: tag:1-2 date:a-b-"
  have hlast : lastValue? "date" "date:1-2 x date: tag:1-2 date:a-b-" = some "a-b-" := by decide
  obtain ⟨f, hf⟩ := hiff.2 (by decide)
  obtain ⟨r, v, rfl, hv, hgiven, hstop⟩ := hfield f hf
  rw [hlast, Option.some.injEq] at hv
  subst hv
  refine ⟨⟨r, hf, hgiven, ?_⟩, ?_⟩
  · rw [← Option.not_isSome_iff_eq_none, hstop]
    decide
  · rw [Ne, hsame _ o (by decide) (by decide), hlast]
    decide

end SearchBar
