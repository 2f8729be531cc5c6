import Mathlib.Data.List.Basic
import Mathlib.Tactic.SplitIfs
import SearchBar.Proofs.Spacing
import SearchBar.Clause

/-!
# What one token says

The cuts by which a token is read, each said in both directions: key and value at the first colon
(`keyValue?_eq_some_iff`), the two parts of a range at its only dash (`rangeParts?_eq_some_iff`),
the pieces of a keyword value at every comma (`keywordPieces_intercalate`,
`intercalate_keywordPieces`).  Which clause a token says follows from its key and value and from the
names in the options, said once for each kind of clause (`ofToken_eq_plain_iff` to
`ofToken_eq_range_iff`).
-/

namespace SearchBar

/-! ## Pieces of a text -/

namespace Text

theorem length_splitOnP (p : Char → Bool) (cs : List Char) :
    (cs.splitOnP p).length = cs.countP p + 1 := by
  induction cs with
  | nil => rfl
  | cons c cs ih =>
    by_cases hc : p c = true
    · rw [splitOnP_cons_of_pos hc, List.length_cons, ih, List.countP_cons_of_pos hc]
    · rw [List.splitOnP_cons_eq_if_modifyHead, if_neg hc, List.length_modifyHead, ih,
        List.countP_cons_of_neg hc]

/-- The first piece stands at the start of the text, and every piece stands somewhere in it. -/
theorem splitOnP_infix (p : Char → Bool) (cs : List Char) :
    (cs.splitOnP p).headD [] <+: cs ∧ ∀ w ∈ cs.splitOnP p, w <:+: cs := by
  induction cs with
  | nil => simp
  | cons c cs ih =>
    obtain ⟨ihh, ihm⟩ := ih
    have hstep : ∀ w ∈ cs.splitOnP p, w <:+: c :: cs := by
      intro w hw
      exact (ihm w hw).trans (List.suffix_cons c cs).isInfix
    by_cases hc : p c = true
    · rw [splitOnP_cons_of_pos hc]
      refine ⟨List.nil_prefix, ?_⟩
      intro w hw
      rcases List.mem_cons.1 hw with rfl | hw
      · exact List.nil_infix
      · exact hstep w hw
    · have hfirst : c :: (cs.splitOnP p).headD [] <+: c :: cs :=
        List.cons_prefix_cons.2 ⟨rfl, ihh⟩
      rw [splitOnP_cons_of_not hc]
      refine ⟨hfirst, ?_⟩
      intro w hw
      rcases List.mem_cons.1 hw with rfl | hw
      · exact hfirst.isInfix
      · exact hstep w (List.mem_of_mem_tail hw)

end Text

/-! ## Pieces of a keyword value -/

theorem keywordPieces_ne_nil (v : String) : keywordPieces v ≠ [] := by
  rw [keywordPieces, Text.splitAt, Ne, List.map_eq_nil_iff]
  exact List.splitOn_ne_nil _ _

/-- The pieces of a value, with commas between them, are the value. -/
theorem intercalate_keywordPieces (v : String) : ",".intercalate (keywordPieces v) = v := by
  have hid : String.toList ∘ String.ofList = id := funext fun _ => String.toList_ofList
  rw [← String.toList_inj, String.toList_intercalate, keywordPieces, Text.splitAt, List.map_map,
    hid, List.map_id]
  exact List.intercalate_splitOn ','

/-- Texts without commas are the pieces of what they make with commas between them. -/
theorem keywordPieces_intercalate {ss : List String} (hne : ss ≠ [])
    (h : ∀ s ∈ ss, ',' ∉ s.toList) : keywordPieces (",".intercalate ss) = ss := by
  have hid : String.ofList ∘ String.toList = id := funext fun _ => String.ofList_toList
  have hsplit : ([','].intercalate (ss.map String.toList)).splitOn ',' =
      ss.map String.toList := by
    refine List.splitOn_intercalate ',' ?_ (by simpa using hne)
    intro q hq
    obtain ⟨s, hs, rfl⟩ := List.mem_map.1 hq
    exact h s hs
  rw [keywordPieces, Text.splitAt, String.toList_intercalate]
  exact (congrArg (List.map String.ofList) hsplit).trans (by rw [List.map_map, hid, List.map_id])

theorem one_lt_length_keywordPieces {v : String} :
    1 < (keywordPieces v).length ↔ ',' ∈ v.toList := by
  rw [keywordPieces, Text.splitAt, List.splitOn_eq_splitOnP, List.length_map, Text.length_splitOnP]
  rw [Nat.lt_add_left_iff_pos, List.countP_pos_iff]
  simp

/-- A piece of a value holds no comma and stands somewhere in the value. -/
theorem of_mem_keywordPieces {v s : String} (h : s ∈ keywordPieces v) :
    ',' ∉ s.toList ∧ s.toList <:+: v.toList := by
  rw [keywordPieces, Text.splitAt, List.mem_map] at h
  obtain ⟨q, hq, rfl⟩ := h
  rw [String.toList_ofList]
  exact ⟨Text.notMem_of_mem_splitOn hq, (Text.splitOnP_infix _ _).2 q hq⟩

/-- The first value of a keyword is a list if it has a comma. -/
theorem Value.grow_none (v : String) :
    grow none v = if ',' ∈ v.toList then .list (keywordPieces v) else .scalar v := by
  rw [grow]
  by_cases hv : ',' ∈ v.toList
  · rw [if_pos (one_lt_length_keywordPieces.2 hv), if_pos hv]
  · rw [if_neg fun h => hv (one_lt_length_keywordPieces.1 h), if_neg hv]

/-! ## Key and value -/

/-- A token with a colon is its key, the colon and its value; the key holds no colon. -/
theorem keyValue?_eq_some_iff {t k v : String} :
    keyValue? t = some (k, v) ↔ t = k ++ ":" ++ v ∧ ':' ∉ k.toList := by
  have hlist : t = k ++ ":" ++ v ↔ t.toList = k.toList ++ ':' :: v.toList := by
    rw [← String.toList_inj]
    simp
  rw [hlist, ← Text.cutChars_eq_some_iff, keyValue?, Option.map_eq_some_iff]
  constructor
  · rintro ⟨⟨a, b⟩, hcut, hkv⟩
    obtain ⟨rfl, rfl⟩ := Prod.mk.inj hkv
    rw [hcut, String.toList_ofList, String.toList_ofList]
  · intro hcut
    exact ⟨_, hcut, Prod.ext String.ofList_toList String.ofList_toList⟩

theorem keyValue?_eq_none_iff {t : String} : keyValue? t = none ↔ ':' ∉ t.toList := by
  rw [keyValue?, Option.map_eq_none_iff, Text.cutChars_eq_none_iff]

/-- What a token gives to a key: all that stands behind the first colon, be it nothing, if the key
stands before it. -/
def valueOf? (k t : String) : Option String :=
  (keyValue? t).bind fun p => if p.1 = k then some p.2 else none

theorem valueOf?_eq_some_iff {k t v : String} :
    valueOf? k t = some v ↔ keyValue? t = some (k, v) := by
  rw [valueOf?]
  cases keyValue? t with
  | none => simp
  | some p =>
    obtain ⟨key, value⟩ := p
    rw [Option.bind_some, Option.some.injEq, Prod.mk.injEq]
    by_cases hk : key = k
    · simp [hk]
    · simp [hk]

/-- The two parts of a range value stand on both sides of its only dash. -/
theorem rangeParts?_eq_some_iff {v a b : String} :
    rangeParts? v = some (a, b) ↔ v = a ++ "-" ++ b ∧ '-' ∉ a.toList ∧ '-' ∉ b.toList := by
  have hlist : v = a ++ "-" ++ b ↔ v.toList = a.toList ++ '-' :: b.toList := by
    rw [← String.toList_inj]
    simp
  rw [hlist, ← and_assoc, ← Text.cutChars_eq_some_iff, rangeParts?]
  cases hcut : Text.cutChars '-' v.toList with
  | none => simp
  | some p =>
    obtain ⟨x, y⟩ := p
    simp only [Option.some.injEq, Prod.mk.injEq]
    split
    · rename_i hy
      simp only [reduceCtorEq, false_iff, not_and, Decidable.not_not]
      rintro ⟨-, rfl⟩
      exact hy
    · rename_i hy
      simp only [Option.some.injEq, Prod.mk.injEq]
      constructor
      · rintro ⟨rfl, rfl⟩
        simpa using hy
      · rintro ⟨⟨rfl, rfl⟩, -⟩
        simp

theorem rangeParts?_eq_none_iff {v : String} : rangeParts? v = none ↔ v.toList.count '-' ≠ 1 := by
  rw [rangeParts?]
  cases hcut : Text.cutChars '-' v.toList with
  | none => simp [List.count_eq_zero_of_not_mem (Text.cutChars_eq_none_iff.1 hcut)]
  | some p =>
    obtain ⟨a, b⟩ := p
    obtain ⟨hv, ha⟩ := Text.cutChars_eq_some_iff.1 hcut
    have hcount : v.toList.count '-' = b.count '-' + 1 := by
      rw [hv, List.count_append, List.count_cons_self, List.count_eq_zero_of_not_mem ha]
      omega
    by_cases hb : '-' ∈ b
    · have := List.count_pos_iff.2 hb
      simp only [if_pos hb, true_iff]
      omega
    · simp [hb, hcount, List.count_eq_zero_of_not_mem hb]

/-! ## Clauses of a token -/

namespace Clause

variable {o : Options} {s t k v : String}

theorem ofToken_eq_plain_iff : ofToken o t = .plain s ↔ s = t ∧ keyValue? t = none := by
  rw [ofToken]
  grind [ofKeyValue]

theorem ofToken_eq_reserved_iff :
    ofToken o t = .reserved s ↔ s = t ∧ ∃ v, keyValue? t = some (textName, v) := by
  rw [ofToken]
  grind [ofKeyValue]

/-- A token has an unknown key when the key is neither the reserved name nor one of the options. -/
theorem ofToken_eq_unregistered_iff :
    ofToken o t = .unregistered s k ↔
      s = t ∧ (∃ v, keyValue? t = some (k, v)) ∧ k ≠ textName ∧ k ∉ o.keywords ∧
        k ∉ o.ranges := by
  rw [ofToken]
  grind [ofKeyValue, Options.isKeyword, Options.isRange]

/-- A token gives a keyword nothing when nothing stands behind its colon. -/
theorem ofToken_eq_emptyKeyword_iff :
    ofToken o t = .emptyKeyword k ↔
      keyValue? t = some (k, "") ∧ k ≠ textName ∧ k ∈ o.keywords := by
  rw [ofToken]
  grind [ofKeyValue, Options.isKeyword]

/-- A token gives a keyword a value when the name stands before its first colon, something stands
behind it, and the name is not the reserved one. -/
theorem ofToken_eq_keyword_iff :
    ofToken o t = .keyword k v ↔
      keyValue? t = some (k, v) ∧ k ≠ textName ∧ k ∈ o.keywords ∧ v ≠ "" := by
  rw [ofToken]
  cases hkv : keyValue? t with
  | none => simp
  | some p =>
    obtain ⟨key, value⟩ := p
    simp only [ofKeyValue, Options.isKeyword, decide_eq_true_eq]
    constructor
    · intro h
      split_ifs at h with htext hkey hempty hrange
      cases h
      exact ⟨rfl, htext, hkey, hempty⟩
    · rintro ⟨h, htext, hkey, hempty⟩
      cases h
      rw [if_neg htext, if_pos hkey, if_neg hempty]

/-- A token gives a range a value when the name stands before its first colon and is neither the
reserved one nor a keyword. -/
theorem ofToken_eq_range_iff :
    ofToken o t = .range k v ↔
      keyValue? t = some (k, v) ∧ k ≠ textName ∧ k ∉ o.keywords ∧ k ∈ o.ranges := by
  rw [ofToken]
  cases hkv : keyValue? t with
  | none => simp
  | some p =>
    obtain ⟨key, value⟩ := p
    simp only [ofKeyValue, Options.isKeyword, Options.isRange, decide_eq_true_eq]
    constructor
    · intro h
      split_ifs at h with htext hkey hempty hrange
      cases h
      exact ⟨rfl, htext, hkey, hrange⟩
    · rintro ⟨h, htext, hkey, hrange⟩
      cases h
      rw [if_neg htext, if_neg hkey, if_pos hrange]

end Clause

end SearchBar
