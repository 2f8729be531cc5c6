import Mathlib.Data.List.Chain
import Mathlib.Tactic.MkIffOfInductiveProp
import SearchBar.Text.Words

/-!
# Words at a seam, and clean texts

Separators between two texts keep their words apart, so the words of the whole are the words of the
one followed by those of the other (`wordChars_append_separators`); and normal spacing changes
nothing but separators (`filter_normalizeChars`).  What is in normal spacing is single spaced, and a
single-spaced text without a separator at either end is in normal spacing already
(`normalizeChars_eq_self`).  A *clean* text is single spaced and holds no quote; this passes on to
every part of it (`Clean.of_infix`), which is all that later cutting and trimming does.
-/

namespace SearchBar.Text

/-! ## Pieces of a text -/

theorem notMem_of_mem_splitOn {sep : Char} {cs w : List Char} (h : w ∈ cs.splitOn sep) :
    sep ∉ w := by
  intro hc
  exact absurd (not_of_mem_splitOnP h hc) (by simp)

theorem splitOnP_congr {p p' : Char → Bool} {cs : List Char} (h : ∀ c ∈ cs, p c = p' c) :
    cs.splitOnP p = cs.splitOnP p' := by
  induction cs with
  | nil => rfl
  | cons c cs ih =>
    rw [List.splitOnP_cons_eq_if_modifyHead, List.splitOnP_cons_eq_if_modifyHead,
      h c List.mem_cons_self, ih fun d hd => h d (List.mem_cons_of_mem c hd)]

/-- All pieces together are the text without the characters at which it was split. -/
theorem flatten_splitOnP (p : Char → Bool) (cs : List Char) :
    (cs.splitOnP p).flatten = cs.filter (!p ·) := by
  induction cs with
  | nil => rfl
  | cons c cs ih =>
    by_cases hc : p c = true
    · simp [splitOnP_cons_of_pos hc, hc, ih]
    · rw [List.splitOnP_cons_eq_if_modifyHead, if_neg hc]
      cases h : cs.splitOnP p with
      | nil => exact absurd h (List.splitOnP_ne_nil p cs)
      | cons q qs =>
        rw [h, List.flatten_cons] at ih
        simp [hc, ih]

/-- Where no two separators are adjacent and none comes last, only the first piece may be empty. -/
theorem ne_nil_of_mem_tail_splitOnP {p : Char → Bool} {cs w : List Char}
    (hl : ∀ c ∈ cs.getLast?, p c = false) (hc : cs.IsChain fun a b => ¬ (p a ∧ p b))
    (hw : w ∈ (cs.splitOnP p).tail) : w ≠ [] := by
  induction cs with
  | nil => simp at hw
  | cons c cs ih =>
    have hrest : w ∈ (cs.splitOnP p).tail → w ≠ [] := by
      refine ih (fun d hd => hl d ?_) hc.tail
      rw [List.getLast?_cons, Option.mem_def.1 hd]
      rfl
    by_cases hpc : p c = true
    · rw [splitOnP_cons_of_pos hpc, List.tail_cons] at hw
      cases cs with
      | nil =>
        have hfalse := hl c rfl
        rw [hpc] at hfalse
        exact absurd hfalse (by decide)
      | cons d ds =>
        -- the separator `c` is followed by a character that is none, which starts the next piece
        have hpd : ¬ p d = true := by
          intro hd
          exact (List.isChain_cons_cons.1 hc).1 ⟨hpc, hd⟩
        rw [splitOnP_cons_of_not hpd] at hw hrest
        rcases List.mem_cons.1 hw with rfl | hw
        · exact List.cons_ne_nil d _
        · exact hrest hw
    · rw [splitOnP_cons_of_not hpc, List.tail_cons] at hw
      exact hrest hw

/-! ## Words at a seam -/

/-- A text that is not empty and has no separators is its only word. -/
theorem wordChars_of_forall_not {w : List Char} (hne : w ≠ [])
    (hw : ∀ c ∈ w, isSeparator c = false) : wordChars w = [w] := by
  rw [wordChars, List.splitOnP_eq_singleton hw, List.filter_cons_of_pos (by simpa using hne),
    List.filter_nil]

/-- A text without separators is in normal spacing already. -/
theorem normalizeChars_of_forall_not {w : List Char} (hw : ∀ c ∈ w, isSeparator c = false) :
    normalizeChars w = w := by
  by_cases hne : w = []
  · rw [hne]
    rfl
  · rw [normalizeChars, wordChars_of_forall_not hne hw, List.intercalate_singleton]

/-- A separator keeps the words before it apart from those behind it. -/
theorem wordChars_append_cons {s : Char} (hs : isSeparator s = true) (xs ys : List Char) :
    wordChars (xs ++ s :: ys) = wordChars xs ++ wordChars ys := by
  rw [wordChars, List.splitOnP_append_cons xs ys hs, List.filter_append, ← wordChars,
    ← wordChars]

/-- The words of two texts with separators between them are the words of both. -/
theorem wordChars_append_separators {w : List Char} (hne : w ≠ [])
    (hw : ∀ c ∈ w, isSeparator c = true) (xs ys : List Char) :
    wordChars (xs ++ w ++ ys) = wordChars xs ++ wordChars ys := by
  induction w generalizing xs with
  | nil => exact absurd rfl hne
  | cons s w ih =>
    have hs : isSeparator s = true := hw s List.mem_cons_self
    rw [List.append_assoc, List.cons_append, wordChars_append_cons hs]
    cases w with
    | nil => rfl
    | cons t w =>
      have hys := ih (by simp) (fun c hc => hw c (List.mem_cons_of_mem s hc)) []
      rw [List.nil_append, wordChars_nil, List.nil_append] at hys
      rw [hys]

/-- Behind a separator begins a new word. -/
theorem wordChars_append_of_getLast? {xs : List Char}
    (h : ∀ c ∈ xs.getLast?, isSeparator c = true) (ys : List Char) :
    wordChars (xs ++ ys) = wordChars xs ++ wordChars ys := by
  rcases List.eq_nil_or_concat xs with rfl | ⟨us, s, rfl⟩
  · rfl
  · have hs : isSeparator s = true := h s (by simp)
    rw [List.concat_eq_append, List.append_assoc, List.singleton_append, wordChars_append_cons hs,
      wordChars_append_cons hs, wordChars_nil, List.append_nil]

/-- A word ends before a separator. -/
theorem wordChars_append_of_head? {ys : List Char} (h : ∀ c ∈ ys.head?, isSeparator c = true)
    (xs : List Char) : wordChars (xs ++ ys) = wordChars xs ++ wordChars ys := by
  cases ys with
  | nil => rw [List.append_nil, wordChars_nil, List.append_nil]
  | cons s ys =>
    have hs : isSeparator s = true := h s rfl
    have hself : wordChars (s :: ys) = wordChars ys := wordChars_append_cons hs [] ys
    rw [wordChars_append_cons hs, hself]

theorem intercalate_append {sep : List Char} {ws vs : List (List Char)} (hw : ws ≠ [])
    (hv : vs ≠ []) :
    sep.intercalate (ws ++ vs) = sep.intercalate ws ++ sep ++ sep.intercalate vs := by
  induction ws with
  | nil => exact absurd rfl hw
  | cons w ws ih =>
    cases ws with
    | nil => simp [List.intercalate_cons_of_ne_nil hv]
    | cons u us =>
      rw [List.cons_append, List.intercalate_cons_of_ne_nil (by simp), ih (by simp),
        List.intercalate_cons_cons]
      simp only [List.append_assoc]

/-- Of two texts that both have words, with separators between them, the normal spacing is that of
each with one space in between. -/
theorem normalizeChars_append_separators {xs w ys : List Char} (hne : w ≠ [])
    (hw : ∀ c ∈ w, isSeparator c = true) (hx : wordChars xs ≠ []) (hy : wordChars ys ≠ []) :
    normalizeChars (xs ++ w ++ ys) = normalizeChars xs ++ ' ' :: normalizeChars ys := by
  rw [normalizeChars, wordChars_append_separators hne hw, intercalate_append hx hy,
    List.append_assoc]
  rfl

/-- Normal spacing keeps every character that is no separator, in order. -/
theorem filter_normalizeChars (cs : List Char) :
    (normalizeChars cs).filter (!isSeparator ·) = cs.filter (!isSeparator ·) := by
  have hwords : ∀ ws : List (List Char),
      ([' '].intercalate ws).filter (!isSeparator ·) = ws.flatten.filter (!isSeparator ·) := by
    intro ws
    induction ws with
    | nil => rfl
    | cons w ws ih =>
      by_cases hws : ws = []
      · subst hws
        simp
      · have hspace : isSeparator ' ' = true := by decide
        rw [List.intercalate_cons_of_ne_nil hws, List.flatten_cons, List.filter_append,
          List.filter_append, List.filter_append, ih]
        simp [hspace]
  have hflat : (wordChars cs).flatten = (cs.splitOnP isSeparator).flatten := by
    rw [wordChars, List.flatten_filter_not_isEmpty]
  rw [normalizeChars, hwords, hflat, flatten_splitOnP, List.filter_filter]
  simp

/-- Normal spacing keeps all quotes. -/
theorem count_quote_normalizeChars (cs : List Char) :
    (normalizeChars cs).count '"' = cs.count '"' := by
  have hq : ∀ xs : List Char, (xs.filter (!isSeparator ·)).count '"' = xs.count '"' :=
    fun xs => List.count_filter (p := (!isSeparator ·)) (by decide)
  rw [← hq, filter_normalizeChars, hq]

/-! ## Single spacing -/

theorem ne_space {c : Char} (h : isSeparator c = false) : c ≠ ' ' := by
  rintro rfl
  exact absurd h (by decide)

/-- The only separators are spaces, and no two of them are adjacent. -/
@[mk_iff]
structure SingleSpaced (cs : List Char) : Prop where
  eq_space : ∀ c ∈ cs, isSeparator c = true → c = ' '
  isChain : cs.IsChain fun a b => ¬ (a = ' ' ∧ b = ' ')

namespace SingleSpaced

instance (cs : List Char) : Decidable (SingleSpaced cs) :=
  -- only the characters of the text are tried, not all there are
  have : Decidable (∀ c ∈ cs, isSeparator c = true → c = ' ') := List.decidableBAll _ cs
  decidable_of_iff _ (singleSpaced_iff cs).symm

theorem of_infix {xs cs : List Char} (h : SingleSpaced cs) (hx : xs <:+: cs) : SingleSpaced xs :=
  ⟨fun c hc => h.eq_space c (hx.subset hc), h.isChain.infix hx⟩

/-- A text without separators is single spaced. -/
theorem of_forall_not {cs : List Char} (h : ∀ c ∈ cs, isSeparator c = false) :
    SingleSpaced cs := by
  constructor
  · intro c hc hs
    rw [h c hc] at hs
    exact absurd hs (by decide)
  · refine (List.isChain_isInfix cs).imp ?_
    rintro a b hab ⟨rfl, -⟩
    have hspace := h ' ' (hab.subset List.mem_cons_self)
    exact absurd hspace (by decide)

/-- Two single-spaced texts may be joined where they do not both have a space. -/
theorem append {xs ys : List Char} (hx : SingleSpaced xs) (hy : SingleSpaced ys)
    (h : ∀ a ∈ xs.getLast?, ∀ b ∈ ys.head?, ¬ (a = ' ' ∧ b = ' ')) :
    SingleSpaced (xs ++ ys) := by
  refine ⟨?_, hx.isChain.append hy.isChain h⟩
  intro c hc hs
  rcases List.mem_append.1 hc with hc | hc
  · exact hx.eq_space c hc hs
  · exact hy.eq_space c hc hs

/-- A character that is no separator may stand between any two single-spaced texts. -/
theorem append_cons {xs ys : List Char} {c : Char} (hx : SingleSpaced xs)
    (hc : isSeparator c = false) (hy : SingleSpaced ys) : SingleSpaced (xs ++ c :: ys) := by
  have hne : c ≠ ' ' := ne_space hc
  have hcy : SingleSpaced ([c] ++ ys) := by
    refine append (of_forall_not (by simpa using hc)) hy ?_
    rintro a ha b - ⟨rfl, -⟩
    rw [List.getLast?_singleton, Option.mem_some_iff] at ha
    exact hne ha
  refine append hx hcy ?_
  rintro a - b hb ⟨-, rfl⟩
  rw [List.head?_cons, Option.mem_some_iff] at hb
  exact hne hb

end SingleSpaced

/-- Words one space apart are single spaced and do not start with a separator. -/
theorem singleSpaced_intercalate {ws : List (List Char)}
    (h : ∀ w ∈ ws, w ≠ [] ∧ ∀ c ∈ w, isSeparator c = false) :
    SingleSpaced ([' '].intercalate ws) ∧
      ∀ c ∈ ([' '].intercalate ws).head?, isSeparator c = false := by
  induction ws with
  | nil => exact ⟨SingleSpaced.of_forall_not (by simp), by simp⟩
  | cons w ws ih =>
    obtain ⟨hne, hw⟩ := h w List.mem_cons_self
    obtain ⟨ihs, ihh⟩ := ih fun v hv => h v (List.mem_cons_of_mem w hv)
    have hhead : ∀ c ∈ w.head?, isSeparator c = false := by
      intro c hc
      exact hw c (List.mem_of_mem_head? hc)
    cases ws with
    | nil => simpa using ⟨SingleSpaced.of_forall_not hw, hhead⟩
    | cons v vs =>
      have hspace : SingleSpaced ([' '] ++ [' '].intercalate (v :: vs)) := by
        refine SingleSpaced.append (by decide) ihs ?_
        rintro a - b hb ⟨-, rfl⟩
        exact absurd (ihh ' ' hb) (by decide)
      rw [List.intercalate_cons_cons, List.append_assoc]
      refine ⟨SingleSpaced.append (SingleSpaced.of_forall_not hw) hspace ?_, ?_⟩
      · rintro a ha b - ⟨rfl, -⟩
        exact absurd (hw ' ' (List.mem_of_getLast? ha)) (by decide)
      · rw [List.head?_append_of_ne_nil _ hne]
        exact hhead

/-- What is in normal spacing is single spaced. -/
theorem singleSpaced_normalizeChars (cs : List Char) : SingleSpaced (normalizeChars cs) :=
  (singleSpaced_intercalate fun _ hw => of_mem_wordChars hw).1

/-- A single-spaced text without a separator at either end is in normal spacing already. -/
theorem normalizeChars_eq_self {cs : List Char} (h : SingleSpaced cs)
    (hh : ∀ c ∈ cs.head?, isSeparator c = false)
    (hl : ∀ c ∈ cs.getLast?, isSeparator c = false) : normalizeChars cs = cs := by
  cases cs with
  | nil => rfl
  | cons c cs =>
    have hspace : (c :: cs).splitOnP isSeparator = (c :: cs).splitOn ' ' := by
      refine splitOnP_congr ?_
      intro d hd
      rw [Bool.eq_iff_iff, beq_iff_eq]
      refine ⟨h.eq_space d hd, ?_⟩
      rintro rfl
      decide
    have hchain : (c :: cs).IsChain fun a b => ¬ (isSeparator a ∧ isSeparator b) := by
      refine h.isChain.imp_of_mem_imp ?_
      rintro a b ha hb hab ⟨hsa, hsb⟩
      exact hab ⟨h.eq_space a ha hsa, h.eq_space b hb hsb⟩
    have hpieces : ∀ w ∈ (c :: cs).splitOnP isSeparator, w ≠ [] := by
      intro w hw
      have htail := ne_nil_of_mem_tail_splitOnP (w := w) hl hchain
      have hc : ¬ isSeparator c = true := by simp [hh c rfl]
      rw [splitOnP_cons_of_not hc] at hw htail
      rcases List.mem_cons.1 hw with rfl | hw
      · exact List.cons_ne_nil c _
      · exact htail hw
    have hwords : wordChars (c :: cs) = (c :: cs).splitOnP isSeparator := by
      rw [wordChars, List.filter_eq_self]
      intro w hw
      simpa using hpieces w hw
    rw [normalizeChars, hwords, hspace, List.intercalate_splitOn]

/-! ## Clean texts -/

/-- A text without a quote, whose only separators are spaces, no two of them adjacent. -/
@[mk_iff]
structure Clean (s : String) : Prop where
  quote_notMem : '"' ∉ s.toList
  singleSpaced : SingleSpaced s.toList

namespace Clean

instance (s : String) : Decidable (Clean s) :=
  decidable_of_iff _ (clean_iff s).symm

/-- Every part of a clean text is clean. -/
theorem of_infix {s t : String} (h : Clean t) (hs : s.toList <:+: t.toList) : Clean s :=
  ⟨fun hq => h.quote_notMem (hs.subset hq), h.singleSpaced.of_infix hs⟩

/-- Clean texts with a character between them that is neither a quote nor a separator. -/
theorem append_cons {s t u : String} {c : Char} (hs : Clean s) (ht : Clean t)
    (hq : c ≠ '"') (hc : isSeparator c = false) (hu : u.toList = s.toList ++ c :: t.toList) :
    Clean u := by
  refine ⟨?_, hu ▸ hs.singleSpaced.append_cons hc ht.singleSpaced⟩
  rw [hu, List.mem_append, List.mem_cons]
  rintro (h | rfl | h)
  · exact hs.quote_notMem h
  · exact hq rfl
  · exact ht.quote_notMem h

end Clean

end SearchBar.Text
