import SearchBar.Proofs.Accumulation
import SearchBar.Proofs.Clauses

/-!
# The value of a keyword

What a keyword field holds in the end can be said without the steps that lead there: it depends on
nothing but the list of values that the tokens of the line give to its name, in order
(`lineValues`), and `Value.ofValues?` says how.  Only the first two values of the list are special:
if the first has no comma the second is taken whole.  The steps themselves go from no value over a
single text to a list, and `growAll_none` adds them up.
-/

namespace SearchBar

/-- The value that a token gives to a keyword: what it gives to the key, unless that is nothing. -/
def tokenValue? (k t : String) : Option String := (valueOf? k t).filter (· ≠ "")

/-- The values that the tokens of a line give to a key, in order. -/
def lineValues (k line : String) : List String := (lineTokens line).filterMap (tokenValue? k)

/-- What a keyword that is given some values, in order, holds in the end. -/
def Value.ofValues? : List String → Option Value
  | [] => none
  | [v] => some (if ',' ∈ v.toList then .list (keywordPieces v) else .scalar v)
  | v :: w :: vs =>
    some (.list (if ',' ∈ v.toList then (v :: w :: vs).flatMap keywordPieces
      else v :: w :: vs.flatMap keywordPieces))

theorem tokenValue?_eq_some_iff {k t v : String} :
    tokenValue? k t = some v ↔ keyValue? t = some (k, v) ∧ v ≠ "" := by
  rw [tokenValue?, Option.filter_eq_some_iff, valueOf?_eq_some_iff, decide_eq_true_iff]

theorem Clause.valueFor?_eq_some_iff {n v : String} {c : Clause} :
    c.valueFor? n = some v ↔ c = .keyword n v := by
  cases c with
  | keyword key value => simp [valueFor?]
  | _ => simp [valueFor?]

/-- A keyword is given the values that stand in the tokens, and no others. -/
theorem filterMap_valueFor?_clauses {o : Options} {k : String} (hk : k ∈ o.keywords)
    (ht : k ≠ textName) (line : String) :
    (clauses line o).filterMap (Clause.valueFor? k) = lineValues k line := by
  refine filterMap_clauses (fun t => Option.ext fun v => ?_) line
  rw [Clause.valueFor?_eq_some_iff, Clause.ofToken_eq_keyword_iff,
    tokenValue?_eq_some_iff]
  constructor
  · rintro ⟨hkv, -, -, hne⟩
    exact ⟨hkv, hne⟩
  · rintro ⟨hkv, hne⟩
    exact ⟨hkv, ht, hk, hne⟩

namespace Value

/-- A keyword without a value grows to what `ofValues?` says. -/
theorem growAll_none (vs : List String) : growAll none vs = ofValues? vs := by
  cases vs with
  | nil => rfl
  | cons v vs =>
    rw [growAll_cons, grow_none]
    cases vs with
    | nil => rfl
    | cons w vs =>
      rw [ofValues?]
      by_cases hv : ',' ∈ v.toList
      · rw [if_pos hv, if_pos hv, growAll_list]
        rfl
      · rw [if_neg hv, if_neg hv, growAll_scalar]

end Value

/-- The field of a keyword holds what the values that the line gives to it grow to. -/
theorem get?_parse_eq_growAll {o : Options} {k : String} (hk : k ∈ o.keywords)
    (ht : k ≠ textName) (line : String) :
    (parse line o).get? k = (Value.growAll none (lineValues k line)).map .keyword := by
  have hnone : ∀ c ∈ clauses line o, ∀ value, c ≠ .range k value := by
    intro c hc value hr
    obtain ⟨t, -, rfl⟩ := List.mem_map.1 hc
    exact (Clause.ofToken_eq_range_iff.1 hr).2.2.1 hk
  rw [parse, Query.get?_foldl_add, ← filterMap_valueFor?_clauses hk ht]
  exact Clause.foldl_renew_keyword hnone none

/-- The field of a keyword holds what `Value.ofValues?` says of the values that the line gives to
it, and there is none if it is given none.  Other tokens have no influence: two lines that give the
keyword the same values, each under options that know it, leave it the same field. -/
theorem get?_parse_of_mem_keywords {o : Options} {k : String} (hk : k ∈ o.keywords)
    (ht : k ≠ textName) (line : String) :
    (parse line o).get? k = (Value.ofValues? (lineValues k line)).map .keyword ∧
      ∀ (line' : String) (o' : Options), k ∈ o'.keywords →
        lineValues k line' = lineValues k line →
          (parse line' o').get? k = (parse line o).get? k := by
  constructor
  · rw [get?_parse_eq_growAll hk ht, Value.growAll_none]
  · intro line' o' hk' hvalues
    rw [get?_parse_eq_growAll hk' ht, get?_parse_eq_growAll hk ht, hvalues]

/-- The second of three values keeps its comma, and neither free text nor a range between them
makes a difference. -/
theorem get?_parse_tag_three :
    (parse "tag:a x tag:b,c when:1-2 tag:d,e"
      ((Options.empty.withKeywords ["tag"]).withRanges ["when"])).get? "tag" =
        some (.keyword (.list ["a", "b,c", "d", "e"])) :=
  (get?_parse_of_mem_keywords (k := "tag") (by decide) (by decide) _).1.trans (by decide)

end SearchBar
