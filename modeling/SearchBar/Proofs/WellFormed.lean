import SearchBar.Proofs.Accumulation
import SearchBar.Proofs.Clauses
import SearchBar.Proofs.Tokens

/-!
# Well-formed records

Which records a line can stand for under given options (`Query.WellFormed`).  All texts in them are
clean; pieces of free text are trimmed; a name is borne by one field only, of the kind that the
options give it; and a value has the shape that giving values one after the other leads to.  The
record of every line is well formed (`wellFormed_parse`): a token is clean, so it says a well-formed
clause (`Clause.wellFormed_ofToken`), and a well-formed clause keeps a record well formed
(`Query.WellFormed.add`).
-/

namespace SearchBar

open Text (Clean)

/-! ## Trimmed texts -/

/-- A text that neither starts nor ends with a blank. -/
@[mk_iff]
structure Text.Trimmed (s : String) : Prop where
  head : ∀ c ∈ s.toList.head?, isBlank c = false
  last : ∀ c ∈ s.toList.getLast?, isBlank c = false

instance (s : String) : Decidable (Text.Trimmed s) :=
  have : ∀ x : Option Char, Decidable (∀ c ∈ x, Text.isBlank c = false) :=
    Option.decidableForallMem
  decidable_of_iff _ (Text.trimmed_iff s).symm

namespace Text

theorem trimChars_prefix_dropWhile (cs : List Char) : trimChars cs <+: cs.dropWhile isBlank := by
  rw [trimChars, ← List.reverse_suffix, List.reverse_reverse]
  exact List.dropWhile_suffix isBlank

/-- Trimming leaves a part of the text. -/
theorem trim_infix (s : String) : (trim s).toList <:+: s.toList := by
  rw [trim, String.toList_ofList]
  exact (trimChars_prefix_dropWhile _).isInfix.trans (List.dropWhile_suffix isBlank).isInfix

theorem trimmed_trim (s : String) : Trimmed (trim s) := by
  constructor
  · intro c hc
    rw [trim, String.toList_ofList] at hc
    obtain ⟨rest, hrest⟩ := trimChars_prefix_dropWhile s.toList
    have hhead : (s.toList.dropWhile isBlank).head? = some c := by
      rw [← hrest, List.head?_append, Option.mem_def.1 hc]
      rfl
    have := List.head?_dropWhile_not isBlank s.toList
    rw [hhead] at this
    simpa using this
  · intro c hc
    rw [trim, String.toList_ofList] at hc
    exact isBlank_getLast_trimChars hc

end Text

/-! ## The shape of a record -/

/-- A name that a field may bear. -/
@[mk_iff]
structure FieldName (n : String) : Prop where
  clean : Clean n
  colon : ':' ∉ n.toList
  notReserved : n ≠ textName

/-- The texts of a keyword list.  Only the second one may hold a comma: it was given whole, when
the first one stood alone, and so was not empty.  What follows it was given by further values, the
first of which was not empty either. -/
@[mk_iff]
structure ListWellFormed (first second : String) (rest : List String) : Prop where
  clean : ∀ s ∈ first :: second :: rest, Clean s
  first_comma : ',' ∉ first.toList
  rest_comma : ∀ s ∈ rest, ',' ∉ s.toList
  second_comma : ',' ∈ second.toList → first ≠ "" ∧ rest ≠ [""]

/-- A keyword value: one text that is not empty and holds no comma, or a list of two texts or
more. -/
def Value.WellFormed : Value → Prop
  | .scalar s => Clean s ∧ s ≠ "" ∧ ',' ∉ s.toList
  | .list (first :: second :: rest) => ListWellFormed first second rest
  | .list _ => False

/-- A range: without a stop, the start does not hold exactly one dash; with one, neither part
holds a dash. -/
def RangeValue.WellFormed : RangeValue → Prop
  | ⟨start, none⟩ => Clean start ∧ start.toList.count '-' ≠ 1
  | ⟨start, some stop⟩ =>
    (Clean start ∧ '-' ∉ start.toList) ∧ Clean stop ∧ '-' ∉ stop.toList

/-- A field that a name may have: a keyword if the name is one, and otherwise a range if the name
is one. -/
def Field.WellFormed (o : Options) (n : String) : Field → Prop
  | .keyword v => n ∈ o.keywords ∧ v.WellFormed
  | .range r => n ∉ o.keywords ∧ n ∈ o.ranges ∧ r.WellFormed

/-- A record that a line can stand for. -/
@[mk_iff]
structure Query.WellFormed (o : Options) (q : Query) : Prop where
  text : ∀ t ∈ q.text, Clean t ∧ Text.Trimmed t
  names_nodup : q.names.Nodup
  names : ∀ n ∈ q.names, FieldName n
  fields : ∀ p ∈ q.fields, p.2.WellFormed o p.1

/-! Whether a given record is well formed can be computed. -/

instance (n : String) : Decidable (FieldName n) :=
  decidable_of_iff _ (fieldName_iff n).symm

instance (first second : String) (rest : List String) :
    Decidable (ListWellFormed first second rest) :=
  decidable_of_iff _ (listWellFormed_iff first second rest).symm

instance : DecidablePred Value.WellFormed
  | .scalar s => inferInstanceAs (Decidable (Clean s ∧ s ≠ "" ∧ ',' ∉ s.toList))
  | .list (first :: second :: rest) =>
    inferInstanceAs (Decidable (ListWellFormed first second rest))
  | .list [] | .list [_] => isFalse id

instance : DecidablePred RangeValue.WellFormed
  | ⟨start, none⟩ => inferInstanceAs (Decidable (Clean start ∧ start.toList.count '-' ≠ 1))
  | ⟨start, some stop⟩ =>
    inferInstanceAs (Decidable
      ((Clean start ∧ '-' ∉ start.toList) ∧ Clean stop ∧ '-' ∉ stop.toList))

instance (o : Options) (n : String) : DecidablePred (Field.WellFormed o n)
  | .keyword v => inferInstanceAs (Decidable (n ∈ o.keywords ∧ v.WellFormed))
  | .range r => inferInstanceAs (Decidable (n ∉ o.keywords ∧ n ∈ o.ranges ∧ r.WellFormed))

instance (o : Options) (q : Query) : Decidable (q.WellFormed o) :=
  decidable_of_iff _ (Query.wellFormed_iff o q).symm

/-- What a clause says of a clean token. -/
def Clause.WellFormed (o : Options) : Clause → Prop
  | .plain t | .reserved t | .unregistered t _ => Clean t
  | .emptyKeyword _ => True
  | .keyword n v => FieldName n ∧ n ∈ o.keywords ∧ Clean v ∧ v ≠ ""
  | .range n v => FieldName n ∧ n ∉ o.keywords ∧ n ∈ o.ranges ∧ Clean v

/-! ## Clauses -/

theorem Clause.wellFormed_ofToken {t : String} (h : Clean t) (o : Options) :
    (ofToken o t).WellFormed o := by
  unfold ofToken
  cases hkv : keyValue? t with
  | none => exact h
  | some p =>
    obtain ⟨k, v⟩ := p
    obtain ⟨rfl, hcolon⟩ := keyValue?_eq_some_iff.1 hkv
    have hk : Clean k := h.of_infix ⟨[], ':' :: v.toList, by simp⟩
    have hv : Clean v := h.of_infix ⟨k.toList ++ [':'], [], by simp⟩
    show (ofKeyValue o (k ++ ":" ++ v) k v).WellFormed o
    simp only [ofKeyValue, Options.isKeyword, Options.isRange, decide_eq_true_eq]
    split_ifs with htext hkey hempty hrange
    · exact h
    · trivial
    · exact ⟨⟨hk, hcolon, htext⟩, hkey, hv, hempty⟩
    · exact ⟨⟨hk, hcolon, htext⟩, hkey, hrange, hv⟩
    · exact h

theorem wellFormed_of_mem_clauses {line : String} {o : Options} {c : Clause}
    (h : c ∈ clauses line o) : c.WellFormed o := by
  obtain ⟨t, ht, rfl⟩ := List.mem_map.1 h
  exact Clause.wellFormed_ofToken (clean_of_mem_lineTokens ht) o

/-! ## Values -/

theorem RangeValue.wellFormed_ofValue {v : String} (h : Clean v) : (ofValue v).WellFormed := by
  unfold ofValue
  cases hparts : rangeParts? v with
  | none => exact ⟨h, rangeParts?_eq_none_iff.1 hparts⟩
  | some p =>
    obtain ⟨a, b⟩ := p
    obtain ⟨rfl, ha, hb⟩ := rangeParts?_eq_some_iff.1 hparts
    exact ⟨⟨h.of_infix ⟨[], '-' :: b.toList, by simp⟩, ha⟩,
      h.of_infix ⟨a.toList ++ ['-'], [], by simp⟩, hb⟩

namespace Value

theorem clean_of_mem_keywordPieces {v s : String} (hv : Clean v) (hs : s ∈ keywordPieces v) :
    Clean s :=
  hv.of_infix (of_mem_keywordPieces hs).2

/-- A first value with a comma gives a list of pieces none of which holds one. -/
theorem wellFormed_list_keywordPieces {v : String} (hv : Clean v) (hc : ',' ∈ v.toList) :
    (list (keywordPieces v)).WellFormed := by
  have hlen := one_lt_length_keywordPieces.2 hc
  have hclean := fun s => clean_of_mem_keywordPieces (s := s) hv
  have hcomma : ∀ s ∈ keywordPieces v, ',' ∉ s.toList := fun s hs => (of_mem_keywordPieces hs).1
  generalize keywordPieces v = ps at hlen hclean hcomma ⊢
  rcases ps with _ | ⟨first, _ | ⟨second, rest⟩⟩
  · exact absurd hlen (by simp)
  · exact absurd hlen (by simp)
  · refine ⟨hclean, hcomma first (by simp), ?_, ?_⟩
    · intro s hs
      exact hcomma s (by simp [hs])
    · intro hsecond
      exact absurd hsecond (hcomma second (by simp))

/-- A list stays well formed when the pieces of one more value that is not empty come behind it. -/
theorem wellFormed_list_append {ss : List String} {v : String} (h : (list ss).WellFormed)
    (hv : Clean v) (hne : v ≠ "") : (list (ss ++ keywordPieces v)).WellFormed := by
  have hclean := fun s => clean_of_mem_keywordPieces (s := s) hv
  have hcomma : ∀ s ∈ keywordPieces v, ',' ∉ s.toList := fun s hs => (of_mem_keywordPieces hs).1
  -- the pieces of a value are just the empty text only if the value is
  have hpieces : keywordPieces v ≠ [""] := by
    intro hempty
    have hjoin := intercalate_keywordPieces v
    rw [hempty, String.intercalate_singleton] at hjoin
    exact hne hjoin.symm
  rcases ss with _ | ⟨first, _ | ⟨second, rest⟩⟩
  · exact h.elim
  · exact h.elim
  · show ListWellFormed first second (rest ++ keywordPieces v)
    refine ⟨?_, h.first_comma, ?_, ?_⟩
    · intro s hs
      have hs' : s ∈ (first :: second :: rest) ++ keywordPieces v := hs
      exact (List.mem_append.1 hs').elim (h.clean s) (hclean s)
    · intro s hs
      exact (List.mem_append.1 hs).elim (h.rest_comma s) (hcomma s)
    · intro hsecond
      refine ⟨(h.second_comma hsecond).1, ?_⟩
      intro hrest
      rcases List.append_eq_singleton_iff.1 hrest with ⟨-, hp⟩ | ⟨-, hp⟩
      · exact hpieces hp
      · exact keywordPieces_ne_nil v hp

theorem toList_ne_nil_of_wellFormed {v : Value} (h : v.WellFormed) : v.toList ≠ [] := by
  match v, h with
  | .scalar s, _ => exact List.cons_ne_nil s []
  | .list (first :: second :: rest), _ => exact List.cons_ne_nil first _

/-- Giving a keyword one more value keeps what it holds well formed. -/
theorem wellFormed_grow {x : Option Value} (hx : ∀ w ∈ x, w.WellFormed) {v : String}
    (hv : Clean v) (hne : v ≠ "") : (grow x v).WellFormed := by
  cases x with
  | none =>
    rw [grow_none]
    by_cases hc : ',' ∈ v.toList
    · rw [if_pos hc]
      exact wellFormed_list_keywordPieces hv hc
    · rw [if_neg hc]
      exact ⟨hv, hne, hc⟩
  | some w =>
    have hw := hx w rfl
    cases w with
    | scalar s =>
      obtain ⟨hs, hsne, hsc⟩ := hw
      refine ⟨?_, hsc, by simp, ?_⟩
      · simp [hs, hv]
      · intro _
        exact ⟨hsne, by simp⟩
    | list ss => exact wellFormed_list_append hw hv hne

end Value

/-! ## Records -/

namespace Query

theorem mem_of_getField?_eq_some {n : String} {f : Field} {fs : List (String × Field)}
    (h : getField? n fs = some f) : (n, f) ∈ fs := by
  induction fs with
  | nil => simp [getField?] at h
  | cons p ps ih =>
    obtain ⟨m, g⟩ := p
    rw [getField?] at h
    by_cases hm : m = n
    · rw [if_pos hm, Option.some.injEq] at h
      rw [hm, h]
      exact List.mem_cons_self
    · rw [if_neg hm] at h
      exact List.mem_cons_of_mem _ (ih h)

theorem of_mem_setField {n : String} {f : Field} {p : String × Field}
    {fs : List (String × Field)} (h : p ∈ setField n f fs) : p = (n, f) ∨ p ∈ fs := by
  induction fs with
  | nil => exact Or.inl (List.mem_singleton.1 h)
  | cons r rs ih =>
    obtain ⟨m, g⟩ := r
    rw [setField] at h
    by_cases hm : m = n
    · rw [if_pos hm] at h
      rcases List.mem_cons.1 h with rfl | h
      · exact Or.inl (by rw [hm])
      · exact Or.inr (List.mem_cons_of_mem _ h)
    · rw [if_neg hm] at h
      rcases List.mem_cons.1 h with rfl | h
      · exact Or.inr List.mem_cons_self
      · exact (ih h).imp_right (List.mem_cons_of_mem _)

namespace WellFormed

variable {o : Options} {q : Query}

theorem empty : Query.empty.WellFormed o :=
  ⟨by simp [Query.empty], by simp [Query.empty, Query.names], by simp [Query.empty, Query.names],
    by simp [Query.empty]⟩

/-- The field of a name is well formed. -/
theorem field (h : q.WellFormed o) {n : String} {f : Field} (hf : q.get? n = some f) :
    f.WellFormed o n :=
  h.fields (n, f) (mem_of_getField?_eq_some hf)

/-- The field of a keyword is a keyword field. -/
theorem get?_eq_map_keyword (h : q.WellFormed o) {n : String} (hn : n ∈ o.keywords) :
    q.get? n = (q.keyword? n).map .keyword := by
  rw [keyword?_eq]
  cases hget : q.get? n with
  | none => rfl
  | some f =>
    cases f with
    | keyword v => rfl
    | range r => exact absurd hn (h.field hget).1

/-- The field of any other name is a range field. -/
theorem get?_eq_map_range (h : q.WellFormed o) {n : String} (hn : n ∉ o.keywords) :
    q.get? n = (q.range? n).map .range := by
  rw [range?_eq]
  cases hget : q.get? n with
  | none => rfl
  | some f =>
    cases f with
    | keyword v => exact absurd (h.field hget).1 hn
    | range r => rfl

theorem range?_eq_none (h : q.WellFormed o) {n : String} (hn : n ∈ o.keywords) :
    q.range? n = none := by
  rw [range?_eq, h.get?_eq_map_keyword hn]
  cases q.keyword? n <;> rfl

theorem keyword?_eq_none (h : q.WellFormed o) {n : String} (hn : n ∉ o.keywords) :
    q.keyword? n = none := by
  rw [keyword?_eq, h.get?_eq_map_range hn]
  cases q.range? n <;> rfl

theorem addText (h : q.WellFormed o) {t : String} (ht : Clean t) :
    (q.addText (Text.trim t)).WellFormed o := by
  refine ⟨?_, h.names_nodup, h.names, h.fields⟩
  intro s hs
  rcases List.mem_append.1 hs with hs | hs
  · exact h.text s hs
  · rw [List.mem_singleton.1 hs]
    exact ⟨ht.of_infix (Text.trim_infix t), Text.trimmed_trim t⟩

theorem set (h : q.WellFormed o) {n : String} {f : Field} (hn : FieldName n)
    (hf : f.WellFormed o n) : (q.set n f).WellFormed o := by
  refine ⟨h.text, ?_, ?_, ?_⟩
  · rw [names_set]
    split
    · exact h.names_nodup
    · rename_i hnew
      refine List.nodup_append.2 ⟨h.names_nodup, by simp, ?_⟩
      intro a ha b hb hab
      rw [List.mem_singleton] at hb
      exact hnew (hb ▸ hab ▸ ha)
  · intro m hm
    rw [names_set] at hm
    split at hm
    · exact h.names m hm
    · rcases List.mem_append.1 hm with hm | hm
      · exact h.names m hm
      · exact List.mem_singleton.1 hm ▸ hn
  · intro p hp
    rcases of_mem_setField hp with rfl | hp
    · exact hf
    · exact h.fields p hp

/-- A well-formed clause keeps a record well formed. -/
theorem add (h : q.WellFormed o) {c : Clause} (hc : c.WellFormed o) : (q.add c).WellFormed o := by
  cases c with
  | plain t => exact h.addText hc
  | reserved t => exact h.addText hc
  | unregistered t k => exact h.addText hc
  | emptyKeyword k => exact h
  | keyword n v =>
    obtain ⟨hn, hmem, hv, hne⟩ := hc
    refine h.set hn ⟨hmem, Value.wellFormed_grow ?_ hv hne⟩
    intro w hw
    have hget : q.get? n = some (.keyword w) := by
      rw [h.get?_eq_map_keyword hmem, Option.mem_def.1 hw]
      rfl
    exact (h.field hget).2
  | range n v =>
    obtain ⟨hn, hnk, hmem, hv⟩ := hc
    exact h.set hn ⟨hnk, hmem, RangeValue.wellFormed_ofValue hv⟩

theorem foldl_add (h : q.WellFormed o) {cs : List Clause} (hcs : ∀ c ∈ cs, c.WellFormed o) :
    (cs.foldl Query.add q).WellFormed o := by
  induction cs generalizing q with
  | nil => exact h
  | cons c cs ih =>
    apply ih (h.add (hcs c List.mem_cons_self))
    intro d hd
    exact hcs d (List.mem_cons_of_mem c hd)

end WellFormed

end Query

/-- The record of every line is well formed. -/
theorem wellFormed_parse (line : String) (o : Options) : (parse line o).WellFormed o :=
  Query.WellFormed.empty.foldl_add fun _ => wellFormed_of_mem_clauses

end SearchBar
