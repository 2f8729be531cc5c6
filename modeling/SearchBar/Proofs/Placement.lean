import Mathlib.Data.List.TakeWhile
import SearchBar.Proofs.Independence

/-!
# Where tokens go

Every token of a line is free text, or idle, or it gives a value to the field of its key
(`Clause.name?_ofToken`).  Free text is kept piece by piece in the order of the line.  The fields
stand in the order in which their names come first (`Query.names_foldl_add_empty`): what comes later
moves none of them, and an idle token might as well not be there (`Query.add_ofToken_of_isIdle`).
-/

namespace SearchBar

/-- A token that is free text: it has no key that the options know. -/
def IsFree (o : Options) (t : String) : Prop := ∀ n ∈ tokenKey? t, ¬ o.Knows n

/-- A token with a keyword but no value. -/
def IsIdle (o : Options) (t : String) : Prop :=
  ∃ p ∈ keyValue? t, p.1 ≠ textName ∧ p.1 ∈ o.keywords ∧ p.2 = ""

instance (o : Options) : DecidablePred (IsFree o) := fun t =>
  inferInstanceAs (Decidable (∀ n ∈ tokenKey? t, ¬ o.Knows n))

instance (o : Options) : DecidablePred (IsIdle o) := fun t =>
  inferInstanceAs (Decidable (∃ p ∈ keyValue? t, p.1 ≠ textName ∧ p.1 ∈ o.keywords ∧ p.2 = ""))

variable {o : Options} {t : String}

/-! ## One token -/

theorem isFree_of_keyValue?_eq_none (h : keyValue? t = none) : IsFree o t := by
  rw [IsFree, tokenKey?, h]
  simp

theorem isFree_iff_of_keyValue? {k v : String} (h : keyValue? t = some (k, v)) :
    IsFree o t ↔ ¬ o.Knows k := by
  rw [IsFree, tokenKey?, h]
  simp

theorem isIdle_iff {k v : String} (h : keyValue? t = some (k, v)) :
    IsIdle o t ↔ k ≠ textName ∧ k ∈ o.keywords ∧ v = "" := by
  rw [IsIdle, h]
  simp

theorem not_isFree_of_isIdle (h : IsIdle o t) : ¬ IsFree o t := by
  obtain ⟨⟨k, v⟩, hkv, htext, hkey, -⟩ := h
  rw [isFree_iff_of_keyValue? hkv, not_not]
  exact ⟨htext, Or.inl hkey⟩

/-- An idle token adds nothing. -/
theorem Query.add_ofToken_of_isIdle (h : IsIdle o t) (q : Query) :
    q.add (Clause.ofToken o t) = q := by
  obtain ⟨⟨k, v⟩, hkv, htext, hkey, rfl⟩ := h
  have hclause : Clause.ofToken o t = .emptyKeyword k := by
    rw [Clause.ofToken, Option.mem_def.1 hkv]
    simp [Clause.ofKeyValue, Options.isKeyword, htext, hkey]
  rw [hclause, add]

/-- A token that is neither free text nor idle gives a value to the field of its key, and no other
token gives a value to a field. -/
theorem Clause.name?_ofToken (o : Options) (t : String) :
    (ofToken o t).name? = if ¬ IsFree o t ∧ ¬ IsIdle o t then tokenKey? t else none := by
  rw [ofToken]
  cases hkv : keyValue? t with
  | none => simp [isFree_of_keyValue?_eq_none hkv, name?]
  | some p =>
    obtain ⟨k, v⟩ := p
    simp only [isFree_iff_of_keyValue? hkv, isIdle_iff hkv, tokenKey?, hkv, Options.Knows,
      ofKeyValue, Options.isKeyword, Options.isRange, decide_eq_true_eq]
    by_cases htext : k = textName
    · simp [htext, name?]
    · by_cases hkey : k ∈ o.keywords
      · by_cases hempty : v = ""
        · simp [htext, hkey, hempty, name?]
        · simp [htext, hkey, hempty, name?]
      · by_cases hrange : k ∈ o.ranges
        · simp [htext, hkey, hrange, name?]
        · simp [htext, hkey, hrange, name?]

/-! ## All tokens -/

theorem eraseDups_concat (ns : List String) (n : String) :
    (ns ++ [n]).eraseDups = ns.eraseDups ++ [n].filter (· ∉ ns.eraseDups) := by
  rw [List.eraseDups_append]
  by_cases hn : n ∈ ns
  · simp [List.removeAll, hn]
  · have hsingle : [n].eraseDups = [n] := rfl
    simp [List.removeAll, hn, hsingle]

/-- The names of a record stand in the order in which the clauses first give them a value. -/
theorem Query.names_foldl_add_empty (cs : List Clause) :
    (cs.foldl add empty).names = (cs.filterMap Clause.name?).eraseDups := by
  induction cs using List.reverseRecOn with
  | nil => rfl
  | append_singleton cs c ih =>
    rw [List.foldl_append, List.foldl_cons, List.foldl_nil, names_add, ih, List.filterMap_append]
    cases hc : c.name? with
    | none => simp [hc]
    | some n => rw [List.filterMap_cons_some hc, List.filterMap_nil, eraseDups_concat]; rfl

/-- Clauses that come later move no field. -/
theorem Query.names_foldl_add_prefix {cs ds : List Clause} (h : cs <+: ds) :
    (cs.foldl add empty).names <+: (ds.foldl add empty).names := by
  obtain ⟨rest, rfl⟩ := h
  rw [List.foldl_append, names_foldl_add rest]
  exact List.prefix_append _ _

/-- A text of blanks is trimmed to nothing. -/
theorem Text.trim_of_forall_isBlank {s : String} (h : ∀ c ∈ s.toList, isBlank c = true) :
    trim s = "" := by
  have hnil : s.toList.dropWhile isBlank = [] := List.dropWhile_eq_nil_iff.2 h
  rw [trim, trimChars, hnil]
  rfl

theorem isFree_of_forall_isBlank (h : ∀ c ∈ t.toList, Text.isBlank c = true) : IsFree o t := by
  apply isFree_of_keyValue?_eq_none
  rw [keyValue?, Option.map_eq_none_iff, Text.cutChars_eq_none_iff]
  intro hcolon
  exact absurd (h ':' hcolon) (by decide)

/-- Every token goes to one place.  Free text is, piece by piece and in order, the trimmed tokens
without a key that the options know, also those that are all blank.  The names of the fields are,
in the order of their first occurrence, the keys of the tokens that are neither free text nor idle.
What has been read of a line settles the order of the fields so far, and idle tokens leave no trace
at all. -/
theorem text_names_parse (line : String) (o : Options) :
    (parse line o).text = ((lineTokens line).filter (IsFree o ·)).map Text.trim ∧
      (parse line o).names =
        (((lineTokens line).filter fun t => ¬ IsFree o t ∧ ¬ IsIdle o t).filterMap
          tokenKey?).eraseDups ∧
      (∀ ts, ts <+: lineTokens line →
        ((ts.map (Clause.ofToken o)).foldl Query.add Query.empty).names <+:
          (parse line o).names) ∧
      (∀ t, IsIdle o t → ¬ IsFree o t ∧ ∀ q : Query, q.add (Clause.ofToken o t) = q) ∧
      ∀ t, (∀ c ∈ t.toList, Text.isBlank c = true) → IsFree o t ∧ Text.trim t = "" := by
  refine ⟨text_parse line o, ?_, ?_, ?_, ?_⟩
  · rw [parse, Query.names_foldl_add_empty, filterMap_clauses (Clause.name?_ofToken o),
      List.filterMap_filter]
    simp
  · intro ts hts
    exact Query.names_foldl_add_prefix (hts.map _)
  · intro t ht
    exact ⟨not_isFree_of_isIdle ht, Query.add_ofToken_of_isIdle ht⟩
  · intro t ht
    exact ⟨isFree_of_forall_isBlank ht, Text.trim_of_forall_isBlank ht⟩

/-- The first `tag` has no value, so `date` comes before it; the blank token leaves an empty piece
of free text.  -/
theorem text_names_parse_tag_late :
    let o := (Options.empty.withKeywords ["tag"]).withRanges ["date"]
    (parse "tag: date:1 \u00a0 tag:a x date:2" o).text = ["", "x"] ∧
      (parse "tag: date:1 \u00a0 tag:a x date:2" o).names = ["date", "tag"] ∧
      ((["tag:", "date:1"].map (Clause.ofToken o)).foldl Query.add Query.empty).names <+:
        (parse "tag: date:1 \u00a0 tag:a x date:2" o).names ∧
      (IsIdle o "tag:" ∧ ∀ q : Query, q.add (Clause.ofToken o "tag:") = q) ∧
      (IsFree o "\u00a0" ∧ Text.trim "\u00a0" = "") := by
  intro o
  obtain ⟨htext, hnames, hprefix, hidle, hblank⟩ :=
    text_names_parse "tag: date:1 \u00a0 tag:a x date:2" o
  have hfirst : IsIdle o "tag:" := by decide +kernel
  have htokens : lineTokens "tag: date:1 \u00a0 tag:a x date:2" =
      ["tag:", "date:1", "\u00a0", "tag:a", "x", "date:2"] := by
    decide +kernel
  refine ⟨?_, ?_, hprefix _ ?_, ⟨hfirst, (hidle _ hfirst).2⟩, hblank _ ?_⟩
  · rw [htext, htokens]
    decide +kernel
  · rw [hnames, htokens]
    decide +kernel
  · exact ⟨_, htokens.symm⟩
  · simp [Text.isBlank, Text.inRanges, Text.blankRanges]

end SearchBar
