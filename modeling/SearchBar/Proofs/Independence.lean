import Mathlib.Data.List.Basic
import SearchBar.Proofs.Accumulation
import SearchBar.Proofs.Clauses

/-!
# Names do not depend on each other

What the options say of one name has no influence on the fields of other names, neither on their
values nor on their order (`Options.AgreeOn`, `parse_agreeOn`).  The reason is that the fields
whose names lie in a given class are made by the clauses with such names alone
(`Clause.filter_foldl_place`), and that a token says the same clause under options that agree on its
key (`Clause.ofToken_congr`).  Free text is what has no known key (`text_parse`), so options that
know more names leave less of it.
-/

namespace SearchBar

/-! ## Names that mean the same -/

namespace Options

/-- A name that can be the key of a field: a keyword or a range, but not the reserved name. -/
def Knows (o : Options) (n : String) : Prop :=
  n ≠ textName ∧ (n ∈ o.keywords ∨ n ∈ o.ranges)

/-- A name means the same under both options.  It is the reserved one, or a keyword of both, or a
keyword of neither and then a range of both or of neither. -/
def AgreeOn (o p : Options) (n : String) : Prop :=
  n = textName ∨ (n ∈ o.keywords ∧ n ∈ p.keywords) ∨
    ((n ∉ o.keywords ∧ n ∉ p.keywords) ∧ (n ∈ o.ranges ↔ n ∈ p.ranges))

instance (o : Options) : DecidablePred o.Knows := fun n =>
  inferInstanceAs (Decidable (n ≠ textName ∧ (n ∈ o.keywords ∨ n ∈ o.ranges)))

instance (o p : Options) : DecidablePred (o.AgreeOn p) := fun n =>
  inferInstanceAs (Decidable (n = textName ∨ (n ∈ o.keywords ∧ n ∈ p.keywords) ∨
    ((n ∉ o.keywords ∧ n ∉ p.keywords) ∧ (n ∈ o.ranges ↔ n ∈ p.ranges))))

end Options

/-- The key of a token: what stands before its first colon. -/
def tokenKey? (t : String) : Option String := (keyValue? t).map Prod.fst

namespace Clause

/-! ## The clause of a token -/

/-- The name of a clause is the key of its token. -/
theorem tokenKey?_of_name?_ofToken {o : Options} {t n : String}
    (h : (ofToken o t).name? = some n) : tokenKey? t = some n := by
  rw [ofToken] at h
  rw [tokenKey?]
  cases hkv : keyValue? t with
  | none =>
    rw [hkv] at h
    exact absurd h (by simp [name?])
  | some p =>
    obtain ⟨key, value⟩ := p
    simp only [hkv, ofKeyValue] at h
    split_ifs at h with htext hkey hempty hrange
    · exact absurd h (by simp [name?])
    · exact absurd h (by simp [name?])
    · exact h
    · exact h
    · exact absurd h (by simp [name?])

/-- A token says the same under options that agree on its key. -/
theorem ofToken_congr {o p : Options} {t : String} (h : ∀ n ∈ tokenKey? t, o.AgreeOn p n) :
    ofToken o t = ofToken p t := by
  rw [tokenKey?] at h
  rw [ofToken, ofToken]
  cases hkv : keyValue? t with
  | none => rfl
  | some pair =>
    obtain ⟨key, value⟩ := pair
    have hkey : o.AgreeOn p key := h key (by rw [hkv]; rfl)
    simp only [ofKeyValue, Options.isKeyword, Options.isRange, decide_eq_true_eq]
    rcases hkey with rfl | ⟨ho, hp⟩ | ⟨⟨ho, hp⟩, hr⟩
    · rw [if_pos rfl, if_pos rfl]
    · rw [if_pos ho, if_pos hp]
    · rw [if_neg ho, if_neg hp]
      simp only [hr]

/-- Free text is a token without a key that the options know; it is trimmed. -/
theorem text?_ofToken (o : Options) (t : String) :
    (ofToken o t).text? =
      if ∀ n ∈ tokenKey? t, ¬ o.Knows n then some (Text.trim t) else none := by
  rw [ofToken, tokenKey?]
  cases hkv : keyValue? t with
  | none => simp [text?]
  | some pair =>
    obtain ⟨key, value⟩ := pair
    have hknows : (∀ n ∈ (some (key, value)).map Prod.fst, ¬ o.Knows n) ↔ ¬ o.Knows key := by
      rw [Option.map_some]
      simp
    simp only [hknows, ofKeyValue, Options.isKeyword, Options.isRange, decide_eq_true_eq]
    by_cases htext : key = textName
    · have hnone : ¬ o.Knows key := fun h => h.1 htext
      rw [if_pos htext, if_pos hnone]
      rfl
    · by_cases hkey : key ∈ o.keywords
      · have hknown : o.Knows key := ⟨htext, Or.inl hkey⟩
        rw [if_neg htext, if_pos hkey, if_neg (not_not.2 hknown)]
        split <;> rfl
      · by_cases hrange : key ∈ o.ranges
        · have hknown : o.Knows key := ⟨htext, Or.inr hrange⟩
          rw [if_neg htext, if_neg hkey, if_pos hrange, if_neg (not_not.2 hknown)]
          rfl
        · have hnone : ¬ o.Knows key := fun h => h.2.elim hkey hrange
          rw [if_neg htext, if_neg hkey, if_neg hrange, if_pos hnone]
          rfl

/-! ## Fields of some names -/

/-- What a clause makes of the named fields. -/
def place (fs : List (String × Field)) : Clause → List (String × Field)
  | .keyword key value =>
    Query.setField key
      (.keyword (Value.grow ((Query.getField? key fs).bind Field.keyword?) value)) fs
  | .range key value => Query.setField key (.range (.ofValue value)) fs
  | .plain _ | .reserved _ | .unregistered _ _ | .emptyKeyword _ => fs

/-- Whether a clause gives a value to a name of some class. -/
def isFor (P : String → Prop) [DecidablePred P] (c : Clause) : Bool := c.name?.any fun n => P n

end Clause

variable {P : String → Prop} [DecidablePred P]

namespace Query

theorem fields_add (q : Query) (c : Clause) : (q.add c).fields = c.place q.fields := by
  cases c with
  | keyword key value =>
    show setField key (.keyword (Value.grow (q.keyword? key) value)) q.fields = _
    rw [keyword?_eq]
    rfl
  | _ => rfl

theorem fields_foldl_add (cs : List Clause) (q : Query) :
    (cs.foldl add q).fields = cs.foldl Clause.place q.fields := by
  induction cs generalizing q with
  | nil => rfl
  | cons c cs ih => rw [List.foldl_cons, List.foldl_cons, ih, fields_add]

/-- Setting a field touches only those classes of names that its own name belongs to. -/
theorem filter_setField (n : String) (f : Field) (fs : List (String × Field)) :
    (setField n f fs).filter (fun x => P x.1) =
      if P n then setField n f (fs.filter fun x => P x.1) else fs.filter fun x => P x.1 := by
  induction fs with
  | nil => by_cases hn : P n <;> simp [setField, hn]
  | cons x xs ih =>
    obtain ⟨m, g⟩ := x
    rw [setField]
    by_cases hm : m = n
    · subst hm
      by_cases hP : P m <;> simp [hP, setField]
    · rw [if_neg hm, List.filter_cons, ih, List.filter_cons]
      by_cases hPm : P m <;> by_cases hPn : P n <;> simp [hPm, hPn, hm, setField]

theorem getField?_filter {n : String} (hn : P n) (fs : List (String × Field)) :
    getField? n (fs.filter fun x => P x.1) = getField? n fs := by
  induction fs with
  | nil => rfl
  | cons x xs ih =>
    obtain ⟨m, g⟩ := x
    by_cases hm : m = n
    · simp [hm, hn, getField?]
    · by_cases hP : P m <;> simp [hP, hm, getField?, ih]

end Query

namespace Clause

/-- A clause changes the fields of a class of names as if there were no others, or not at all. -/
theorem filter_place (c : Clause) (fs : List (String × Field)) :
    (c.place fs).filter (fun x => P x.1) =
      if c.isFor P then c.place (fs.filter fun x => P x.1) else fs.filter fun x => P x.1 := by
  cases c with
  | keyword key value =>
    by_cases hP : P key
    · simp [place, Query.filter_setField, isFor, name?, hP, Query.getField?_filter hP]
    · simp [place, Query.filter_setField, isFor, name?, hP]
  | range key value => simp [place, Query.filter_setField, isFor, name?]
  | _ => simp [place, isFor, name?]

/-- The fields of a class of names are made by the clauses with such names alone. -/
theorem filter_foldl_place (cs : List Clause) (fs : List (String × Field)) :
    (cs.foldl place fs).filter (fun x => P x.1) =
      (cs.filter (isFor P)).foldl place (fs.filter fun x => P x.1) := by
  induction cs generalizing fs with
  | nil => rfl
  | cons c cs ih =>
    rw [List.foldl_cons, ih, filter_place]
    by_cases hc : c.isFor P = true
    · rw [if_pos hc, List.filter_cons_of_pos hc, List.foldl_cons]
    · rw [if_neg hc, List.filter_cons_of_neg hc]

/-- A token whose key means different things under two options says, under either of them, nothing
about the names on which they agree. -/
theorem isFor_agreeOn_ofToken {o p : Options} {t : String}
    (h : ¬ ∀ n ∈ tokenKey? t, o.AgreeOn p n) (o' : Options) :
    ¬ (ofToken o' t).isFor (o.AgreeOn p) = true := by
  rw [isFor, Option.any_eq_true]
  rintro ⟨n, hn, hagree⟩
  apply h
  intro m hm
  rw [tokenKey?_of_name?_ofToken hn, Option.mem_some_iff] at hm
  rw [← hm]
  exact of_decide_eq_true hagree

/-- Two options let the same clauses stand for the names on which they agree. -/
theorem filter_isFor_map_ofToken (o p : Options) (ts : List String) :
    (ts.map (ofToken o)).filter (isFor (o.AgreeOn p)) =
      (ts.map (ofToken p)).filter (isFor (o.AgreeOn p)) := by
  induction ts with
  | nil => rfl
  | cons t ts ih =>
    rw [List.map_cons, List.map_cons]
    by_cases hkey : ∀ n ∈ tokenKey? t, o.AgreeOn p n
    · rw [ofToken_congr hkey, List.filter_cons, List.filter_cons, ih]
    · rw [List.filter_cons_of_neg (isFor_agreeOn_ofToken hkey o),
        List.filter_cons_of_neg (isFor_agreeOn_ofToken hkey p), ih]

end Clause

/-! ## Lines -/

/-- The free text of a line is made of the tokens without a known key, trimmed. -/
theorem text_parse (line : String) (o : Options) :
    (parse line o).text =
      ((lineTokens line).filter fun t => ∀ n ∈ tokenKey? t, ¬ o.Knows n).map Text.trim := by
  rw [parse, Query.text_foldl_add, filterMap_clauses (Clause.text?_ofToken o),
    ← List.filterMap_eq_map', List.filterMap_filter]
  simp [Query.empty]

/-- The fields whose names mean the same under two options are the same fields in the same order.
Options that know all names of others leave a part of the free text that those leave.  And options
that agree on all keys of a line make the same record of it. -/
theorem parse_agreeOn (line : String) (o p : Options) :
    (parse line o).fields.filter (fun x => o.AgreeOn p x.1) =
        (parse line p).fields.filter (fun x => o.AgreeOn p x.1) ∧
      ((∀ n, o.Knows n → p.Knows n) → (parse line p).text.Sublist (parse line o).text) ∧
      ((∀ t ∈ tokenize (Text.normalize line), ∀ n ∈ tokenKey? t, o.AgreeOn p n) →
        parse line o = parse line p) := by
  refine ⟨?_, ?_, ?_⟩
  · rw [parse, parse, Query.fields_foldl_add, Query.fields_foldl_add, Clause.filter_foldl_place,
      Clause.filter_foldl_place, clauses, clauses, Clause.filter_isFor_map_ofToken]
  · intro hknows
    have hfree : ∀ t, decide (∀ n ∈ tokenKey? t, ¬ p.Knows n) = true →
        decide (∀ n ∈ tokenKey? t, ¬ o.Knows n) = true := by
      intro t ht
      rw [decide_eq_true_eq] at ht ⊢
      intro n hn ho
      exact ht n hn (hknows n ho)
    rw [text_parse, text_parse]
    exact (List.monotone_filter_right _ hfree).map Text.trim
  · intro hagree
    have hclauses : clauses line o = clauses line p := by
      rw [clauses, clauses]
      refine List.map_congr_left ?_
      intro t ht
      rw [lineTokens] at ht
      exact Clause.ofToken_congr (hagree t (List.mem_of_mem_filter ht))
    rw [parse, parse, hclauses]

/-- The name `when` changes its kind and `lang` becomes known; neither is of any consequence for
`tag`, and a line that does not speak of them does not change at all. -/
theorem parse_agreeOn_when :
    let o := (Options.empty.withKeywords ["tag"]).withRanges ["when"]
    let p := Options.empty.withKeywords ["tag", "when", "lang"]
    (parse "when:1-2 tag:a lang:x tag:b" o).fields.filter (fun x => o.AgreeOn p x.1) =
        (parse "when:1-2 tag:a lang:x tag:b" p).fields.filter (fun x => o.AgreeOn p x.1) ∧
      (parse "when:1-2 tag:a lang:x tag:b" p).text.Sublist
        (parse "when:1-2 tag:a lang:x tag:b" o).text ∧
      parse "x tag:a,b y:z" o = parse "x tag:a,b y:z" p := by
  intro o p
  have hknows : ∀ n, o.Knows n → p.Knows n := by
    rintro n ⟨htext, hk | hr⟩
    · refine ⟨htext, Or.inl (NameSet.mem_insertAll.2 (Or.inr ?_))⟩
      have hn := (NameSet.mem_insertAll.1 hk).resolve_left (NameSet.not_mem_empty n)
      exact List.mem_cons.2 (Or.inl (List.mem_singleton.1 hn))
    · refine ⟨htext, Or.inl (NameSet.mem_insertAll.2 (Or.inr ?_))⟩
      have hn := (NameSet.mem_insertAll.1 hr).resolve_left (NameSet.not_mem_empty n)
      simp [List.mem_singleton.1 hn]
  have hagree : ∀ t ∈ tokenize (Text.normalize "x tag:a,b y:z"), ∀ n ∈ tokenKey? t,
      o.AgreeOn p n := by
    decide +kernel
  obtain ⟨hfields, htext, -⟩ := parse_agreeOn "when:1-2 tag:a lang:x tag:b" o p
  exact ⟨hfields, htext hknows, (parse_agreeOn "x tag:a,b y:z" o p).2.2 hagree⟩

/-- What two options disagree on is told apart. -/
example :
    let o := (Options.empty.withKeywords ["tag"]).withRanges ["when"]
    let p := Options.empty.withKeywords ["tag", "when", "lang"]
    (parse "when:1-2 tag:a lang:x" o).names = ["when", "tag"] ∧
      (parse "when:1-2 tag:a lang:x" p).names = ["when", "tag", "lang"] ∧
      (parse "when:1-2 tag:a lang:x" o).text = ["lang:x"] := by
  decide +kernel

end SearchBar
