import Mathlib.Data.List.SplitBy
import SearchBar.Proofs.Tokens
import SearchBar.CommandLine.Command

/-!
# Normal spacing as a canonical form

Two lines have the same normal spacing exactly if they have the same words (`normalize_eq_iff`), and
the words of a line are its maximal runs of characters that are no separators (`runs_eq_words`).
Normal spacing changes no word (`words_normalize`), because splitting undoes joining: the words of
texts that are joined with spaces are those of all texts (`wordChars_intercalate`).  For the same
reason the words of a query line are those of its arguments (`words_rawQuery`), and what a line says
depends on nothing else (`normalize_canonical`).
-/

namespace SearchBar

namespace Text

/-! ## Maximal runs -/

/-- Whether two characters are both separators, or both none. -/
def sameKind (a b : Char) : Bool := isSeparator a == isSeparator b

/-- Whether a text has no separators. -/
def isSolid (cs : List Char) : Bool := cs.all (!isSeparator ·)

/-- The maximal runs of characters that are no separators, in order: the line is divided wherever a
separator and another character meet, and the parts without separators are kept. -/
def runs (s : String) : List String :=
  ((s.toList.splitBy sameKind).filter isSolid).map String.ofList

/-- If no two characters of different kinds meet, all are of one kind. -/
theorem forall_isSeparator_eq {cs : List Char} (h : cs.IsChain fun a b => sameKind a b = true) :
    (∀ c ∈ cs, isSeparator c = true) ∨ ∀ c ∈ cs, isSeparator c = false := by
  induction cs with
  | nil => exact Or.inl (by simp)
  | cons c cs ih =>
    cases cs with
    | nil => cases hc : isSeparator c <;> simp [hc]
    | cons d ds =>
      have hcd : isSeparator c = isSeparator d := by
        simpa [sameKind] using (List.isChain_cons_cons.1 h).1
      rcases ih h.tail with hall | hall
      · refine Or.inl (List.forall_mem_cons.2 ⟨?_, hall⟩)
        rw [hcd, hall d List.mem_cons_self]
      · refine Or.inr (List.forall_mem_cons.2 ⟨?_, hall⟩)
        rw [hcd, hall d List.mem_cons_self]

theorem wordChars_of_forall_isSeparator {cs : List Char}
    (h : ∀ c ∈ cs, isSeparator c = true) : wordChars cs = [] := by
  by_cases hne : cs = []
  · rw [hne, wordChars_nil]
  · have hsplit := wordChars_append_separators hne h [] []
    rwa [List.append_nil, List.nil_append, wordChars_nil, List.append_nil] at hsplit

/-- Of parts that are all of one kind, each of another kind than the part behind it, those without
separators are the words. -/
theorem wordChars_flatten {parts : List (List Char)} (hne : [] ∉ parts)
    (hkind : ∀ p ∈ parts, p.IsChain fun a b => sameKind a b = true)
    (hmeet : parts.IsChain fun p q => ∃ hp hq, sameKind (p.getLast hp) (q.head hq) = false) :
    wordChars parts.flatten = parts.filter isSolid := by
  induction parts with
  | nil => rfl
  | cons p parts ih =>
    rw [List.mem_cons, not_or] at hne
    have hrest := ih hne.2 (fun q hq => hkind q (List.mem_cons_of_mem p hq)) hmeet.tail
    rw [List.flatten_cons]
    have hp : p ≠ [] := Ne.symm hne.1
    rcases forall_isSeparator_eq (hkind p List.mem_cons_self) with hall | hall
    · have hdrop : ¬ isSolid p = true := by
        intro hkeep
        have hfalse := List.all_eq_true.1 hkeep _ (List.head_mem hp)
        simp [hall] at hfalse
      rw [List.filter_cons_of_neg hdrop,
        wordChars_append_of_getLast? fun c hc => hall c (List.mem_of_getLast? hc),
        wordChars_of_forall_isSeparator hall, List.nil_append, hrest]
    · have hkeep : isSolid p = true := by simpa [isSolid] using hall
      -- the part behind `p` is of another kind, so a separator comes next
      have hhead : ∀ c ∈ parts.flatten.head?, isSeparator c = true := by
        cases parts with
        | nil => simp
        | cons q qs =>
          obtain ⟨hp, hq, hother⟩ := (List.isChain_cons_cons.1 hmeet).1
          intro c hc
          rw [List.flatten_cons, List.head?_append_of_ne_nil _ hq, List.head?_eq_some_head hq,
            Option.mem_some_iff] at hc
          simpa [sameKind, hall _ (List.getLast_mem hp), hc] using hother
      rw [List.filter_cons_of_pos hkeep, wordChars_append_of_head? hhead,
        wordChars_of_forall_not hp hall, List.singleton_append, hrest]

/-- The words of a line are its maximal runs. -/
theorem runs_eq_words (s : String) : runs s = words s := by
  have hparts := wordChars_flatten (List.nil_notMem_splitBy sameKind s.toList)
    (fun _ => List.isChain_of_mem_splitBy) (List.isChain_getLast_head_splitBy sameKind s.toList)
  rw [List.flatten_splitBy] at hparts
  rw [runs, words, hparts]

/-! ## Splitting undoes joining -/

/-- The words of texts joined with spaces are those of all texts. -/
theorem wordChars_intercalate (xs : List (List Char)) :
    wordChars ([' '].intercalate xs) = xs.flatMap wordChars := by
  induction xs with
  | nil => rfl
  | cons x xs ih =>
    cases xs with
    | nil => simp
    | cons y ys =>
      rw [List.intercalate_cons_cons, List.append_assoc, List.singleton_append,
        wordChars_append_cons (by decide), ih, ← List.flatMap_cons]

theorem words_normalize (s : String) : words (normalize s) = words s := by
  have hself : (wordChars s.toList).flatMap wordChars = (wordChars s.toList).flatMap ([·]) := by
    apply List.flatMap_congr
    intro w hw
    exact wordChars_of_forall_not (of_mem_wordChars hw).1 (of_mem_wordChars hw).2
  rw [words, words, normalize, String.toList_ofList, normalizeChars, wordChars_intercalate, hself,
    List.flatMap_singleton']

theorem words_eq_iff {s t : String} :
    words s = words t ↔ wordChars s.toList = wordChars t.toList :=
  List.map_inj_right fun _ _ => String.ofList_injective

/-- Normal spacing tells lines apart that differ in their words, and no others. -/
theorem normalize_eq_iff {s t : String} : normalize s = normalize t ↔ words s = words t := by
  constructor
  · intro h
    rw [← words_normalize s, h, words_normalize]
  · intro h
    rw [normalize, normalize, normalizeChars, normalizeChars, words_eq_iff.1 h]

theorem normalize_normalize (s : String) : normalize (normalize s) = normalize s :=
  normalize_eq_iff.2 (words_normalize s)

end Text

/-! ## Query lines -/

/-- The words of a query line are those of the arguments that it is made of. -/
theorem words_rawQuery (a : ParseArguments) :
    Text.words a.rawQuery = a.query.flatMap Text.words := by
  have hspace : " ".toList = [' '] := rfl
  rw [Text.words, ParseArguments.rawQuery, String.toList_intercalate, hspace,
    Text.wordChars_intercalate, List.flatMap_map, List.map_flatMap]
  rfl

theorem parse_eq_of_words_eq {s t : String} (h : Text.words s = Text.words t) (o : Options) :
    parse s o = parse t o :=
  parse_congr (lineTokens_congr (Text.words_eq_iff.1 h)) o

/-- Normal spacing is a canonical form: it is the same for two lines exactly if they have the same
maximal runs of characters that are no separators, and it changes nothing more when it is made once
more.  Lines with the same runs have the same record, so it makes no difference in which arguments
the runs of a query line are given, nor whether separators stand inside quotes. -/
theorem normalize_canonical :
    (∀ s t : String, Text.normalize s = Text.normalize t ↔ Text.runs s = Text.runs t) ∧
      (∀ s : String, Text.normalize (Text.normalize s) = Text.normalize s) ∧
      (∀ s t : String, Text.runs s = Text.runs t → ∀ o : Options, parse s o = parse t o) ∧
      ∀ a b : ParseArguments, a.query.flatMap Text.runs = b.query.flatMap Text.runs →
        ∀ o : Options, parse a.rawQuery o = parse b.rawQuery o := by
  have hruns : Text.runs = Text.words := funext Text.runs_eq_words
  rw [hruns]
  refine ⟨fun s t => Text.normalize_eq_iff, Text.normalize_normalize, ?_, ?_⟩
  · intro s t h o
    exact parse_eq_of_words_eq h o
  · intro a b h o
    apply parse_eq_of_words_eq
    rw [words_rawQuery, words_rawQuery, h]

/-- The same runs in one argument and in four, one of them without a run; the tab is inside quotes,
and the no-break space parts no runs. -/
theorem normalize_canonical_arguments (o : Options) :
    let one : ParseArguments := ⟨["a\u00a0b  tag:\"x\ty\""], [], [], none, false, false⟩
    let four : ParseArguments :=
      ⟨["a\u00a0b", "\r\n", " tag:\"x", "y\""], [], [], none, false, false⟩
    Text.normalize one.rawQuery = Text.normalize four.rawQuery ∧
      parse one.rawQuery o = parse four.rawQuery o ∧
      parse " a\u00a0b tag:\"x\x0cy\"" o = parse one.rawQuery o := by
  intro one four
  obtain ⟨hnormal, -, hline, harguments⟩ := normalize_canonical
  exact ⟨(hnormal _ _).2 (by decide), harguments one four (by decide) o,
    hline _ _ (by decide) o⟩

end SearchBar
