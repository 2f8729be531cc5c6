import SearchBar.Proofs.JsonLayout
import SearchBar.Proofs.WellFormed
import SearchBar.Query.Json

/-!
# The JSON form of a record loses nothing

The written form of a record does not say which member is a field and of what kind.  It need not:
no field bears the name of the free text, and texts, lists and records stand for single keywords,
lists of keywords and ranges.  So the record of a line is read back from either written form
(`toldBy_parse`), and two records are equal as soon as one of their written forms is.
-/

namespace SearchBar

open Json (Tree)

/-! ## Values and fields -/

theorem Value.ofJson?_toJson (v : Value) : ofJson? v.toJson = some v := by
  cases v with
  | scalar s => rfl
  | list ss =>
    have htexts := Tree.texts?_texts ss
    rw [Tree.texts] at htexts
    rw [toJson, Tree.texts, ofJson?, htexts]
    rfl

theorem Field.ofJson?_toJson (f : Field) : ofJson? f.toJson = some f := by
  cases f with
  | keyword v =>
    have hvalue := Value.ofJson?_toJson v
    cases v with
    | scalar s => rfl
    | list ss =>
      show (Value.ofJson? (Value.list ss).toJson).map Field.keyword = _
      rw [hvalue]
      rfl
  | range r =>
    obtain ⟨start, stop⟩ := r
    cases stop with
    | none => rfl
    | some stop => rfl

namespace Query

/-! ## Members -/

/-- The members of the written form of a record. -/
def members (q : Query) : List (String × Tree) :=
  (q.freeText.map fun v => (textName, v.toJson)).toList ++ q.fields.map fun (n, f) => (n, f.toJson)

theorem toJson_eq (q : Query) : q.toJson = .record q.members := rfl

variable {q : Query}

/-- A record of which no field bears the name of the free text has no two members of one name, if
it has no two such fields. -/
theorem nodup_members (hnodup : q.names.Nodup) (htext : textName ∉ q.names) :
    (q.members.map Prod.fst).Nodup := by
  have hfields : (q.fields.map fun (n, f) => (n, f.toJson)).map Prod.fst = q.names := by
    rw [List.map_map]
    rfl
  rw [members, List.map_append, hfields]
  cases q.freeText with
  | none => exact hnodup
  | some v => exact List.nodup_cons.2 ⟨htext, hnodup⟩

/-- The member that tells the free text comes first, and no field takes its place. -/
theorem lookup_textName_members (htext : textName ∉ q.names) :
    q.members.lookup textName = q.freeText.map Value.toJson := by
  rw [members]
  cases hfree : q.freeText with
  | some v => exact List.lookup_cons_self
  | none =>
    show (q.fields.map fun (n, f) => (n, f.toJson)).lookup textName = none
    rw [List.lookup_eq_none_iff]
    intro m hm
    obtain ⟨⟨n, f⟩, hf, rfl⟩ := List.mem_map.1 hm
    have hname : n ≠ textName := by
      rintro rfl
      exact htext (List.mem_map_of_mem (f := Prod.fst) hf)
    simpa using hname.symm

/-- The members of any other name are the fields. -/
theorem filter_members (htext : textName ∉ q.names) :
    (q.members.filter fun m => m.1 ≠ textName) = q.fields.map fun (n, f) => (n, f.toJson) := by
  have hfields : ∀ m ∈ q.fields.map fun (n, f) => (n, f.toJson),
      decide (m.1 ≠ textName) = true := by
    intro m hm
    obtain ⟨⟨n, f⟩, hf, rfl⟩ := List.mem_map.1 hm
    refine decide_eq_true ?_
    rintro rfl
    exact htext (List.mem_map_of_mem (f := Prod.fst) hf)
  rw [members, List.filter_append, List.filter_eq_self.2 hfields]
  cases q.freeText <;> simp

/-- Free text is told by its one value, or by the lack of one. -/
theorem textOfMember?_freeText (q : Query) :
    textOfMember? (q.freeText.map Value.toJson) = some q.text := by
  rw [freeText]
  match htext : q.text with
  | [] => rfl
  | [s] => rfl
  | s :: t :: ss =>
    show (Value.ofJson? (Value.list (s :: t :: ss)).toJson).map Value.toList = _
    rw [Value.ofJson?_toJson]
    rfl

/-- Fields are read from their members one by one. -/
theorem mapM_ofJson?_fields (fs : List (String × Field)) :
    ((fs.map fun (n, f) => (n, f.toJson)).mapM fun (n, t) => do
      return (n, ← Field.ofJson? t)) = some fs := by
  induction fs with
  | nil => rfl
  | cons x xs ih =>
    obtain ⟨n, f⟩ := x
    rw [List.map_cons, List.mapM_cons, ih]
    simp [Field.ofJson?_toJson]

/-- A record is read back from its members, if no field bears the name of the free text. -/
theorem ofMembers?_members (htext : textName ∉ q.names) : ofMembers? q.members = some q := by
  rw [ofMembers?, lookup_textName_members htext, textOfMember?_freeText, filter_members htext,
    mapM_ofJson?_fields]
  rfl

/-! ## Texts that tell a record -/

/-- A JSON text tells a record: it holds members of different names, and they are those of the
record. -/
def ToldBy (q : Query) (text : String) : Prop :=
  ∃ members, Json.Tree.read text = .ok (.record members) ∧ (members.map Prod.fst).Nodup ∧
    ofMembers? members = some q

/-- A text tells one record at most. -/
theorem ToldBy.unique {q' : Query} {text : String} (h : q.ToldBy text) (h' : q'.ToldBy text) :
    q = q' := by
  obtain ⟨members, hread, -, hq⟩ := h
  obtain ⟨members', hread', -, hq'⟩ := h'
  rw [hread] at hread'
  obtain rfl : members = members' := by simpa using hread'
  rw [hq] at hq'
  exact Option.some.inj hq'

/-- A text in which the written form of a record is read tells that record. -/
theorem toldBy_of_read {o : Options} (hq : q.WellFormed o) {text : String}
    (hread : Json.Tree.read text = .ok q.toJson) : q.ToldBy text := by
  have htext : textName ∉ q.names := fun h => (hq.names textName h).notReserved rfl
  rw [toJson_eq] at hread
  exact ⟨q.members, hread, nodup_members hq.names_nodup htext, ofMembers?_members htext⟩

theorem toldBy_compact {o : Options} (hq : q.WellFormed o) : q.ToldBy q.toJson.compact :=
  toldBy_of_read hq (Json.Tree.read_compact q.toJson)

theorem toldBy_pretty {o : Options} (hq : q.WellFormed o) : q.ToldBy q.toJson.pretty :=
  toldBy_of_read hq (Json.Tree.read_pretty q.toJson)

/-- If records are told by what is written for them, what is written tells them apart. -/
theorem eq_iff_of_toldBy {q' : Query} (write : Query → String) (h : q.ToldBy (write q))
    (h' : q'.ToldBy (write q')) : write q = write q' ↔ q = q' := by
  constructor
  · intro heq
    rw [heq] at h
    exact h.unique h'
  · intro heq
    rw [heq]

end Query

/-! ## Lines -/

/-- Both written forms of the record of a line tell that record.  So any two lines, under any
options, have equal records exactly if the records are written alike, in either form. -/
theorem toldBy_parse (line : String) (o : Options) :
    (parse line o).ToldBy (parse line o).toJson.compact ∧
      (parse line o).ToldBy (parse line o).toJson.pretty ∧
      ∀ (line' : String) (o' : Options),
        ((parse line o).toJson.compact = (parse line' o').toJson.compact ↔
            parse line o = parse line' o') ∧
          ((parse line o).toJson.pretty = (parse line' o').toJson.pretty ↔
            parse line o = parse line' o') := by
  have hq := wellFormed_parse line o
  refine ⟨Query.toldBy_compact hq, Query.toldBy_pretty hq, ?_⟩
  intro line' o'
  have hq' := wellFormed_parse line' o'
  constructor
  · exact Query.eq_iff_of_toldBy (fun q => q.toJson.compact) (Query.toldBy_compact hq)
      (Query.toldBy_compact hq')
  · exact Query.eq_iff_of_toldBy (fun q => q.toJson.pretty) (Query.toldBy_pretty hq)
      (Query.toldBy_pretty hq')

end SearchBar
