import Mathlib.Data.List.Nodup
import SearchBar.History

/-!
# Histories as lists of latest uses

A history is cut whenever a query is added.  That loses nothing that a later addition could bring
back: what is added to the first hundred of different queries leads to the same history as what is
added to all of them (`History.add_take`).  So a history holds the first hundred queries of the list
of all uses, each at its latest one only (`History.add_eraseDups`), and this stays true however many
are added (`History.foldl_add_latest`).  For a history that begins with repeated queries it need not
be true; what the last addition does to it is the same (`History.queries_foldl_add`).
-/

namespace SearchBar

/-! ## First occurrences -/

section FirstOccurrences

variable {α : Type} [DecidableEq α]

/-- Keeping first occurrences commutes with leaving some elements out. -/
theorem eraseDups_filter (p : α → Bool) (l : List α) :
    (l.filter p).eraseDups = l.eraseDups.filter p := by
  match l with
  | [] => rfl
  | a :: l =>
    have ih := eraseDups_filter p (l.filter fun b => !b == a)
    rw [List.eraseDups_cons]
    by_cases ha : p a = true
    · have hcomm : (l.filter p).filter (fun b => !b == a) =
          (l.filter fun b => !b == a).filter p := by
        rw [List.filter_filter, List.filter_filter]
        exact List.filter_congr fun b _ => Bool.and_comm ..
      rw [List.filter_cons_of_pos ha, List.eraseDups_cons, List.filter_cons_of_pos ha, hcomm, ih]
    · have hleft : (l.filter fun b => !b == a).filter p = l.filter p := by
        rw [List.filter_filter]
        refine List.filter_congr fun b _ => ?_
        cases hb : p b with
        | false => rfl
        | true =>
          have hne : b ≠ a := by
            rintro rfl
            exact ha hb
          simp [hne]
      rw [List.filter_cons_of_neg ha, List.filter_cons_of_neg ha, ← ih, hleft]
termination_by l.length
decreasing_by exact Nat.lt_succ_of_le (List.length_filter_le ..)

theorem nodup_eraseDups (l : List α) : l.eraseDups.Nodup := by
  induction l with
  | nil => exact List.nodup_nil
  | cons a l ih =>
    rw [List.eraseDups_cons, eraseDups_filter]
    refine List.nodup_cons.2 ⟨?_, ih.filter _⟩
    simp

theorem eraseDups_of_nodup {l : List α} (h : l.Nodup) : l.eraseDups = l := by
  induction l with
  | nil => rfl
  | cons a l ih =>
    obtain ⟨ha, hl⟩ := List.nodup_cons.1 h
    have hself : l.filter (fun b => !b == a) = l := by
      rw [List.filter_eq_self]
      rintro b hb
      have hne : b ≠ a := by
        rintro rfl
        exact ha hb
      simpa using hne
    rw [List.eraseDups_cons, hself, ih hl]

/-- To take one element away from different ones moves the others up by one place at most. -/
theorem take_filter_take {l : List α} (hl : l.Nodup) (a : α) (n : Nat) :
    ((l.take (n + 1)).filter (· ≠ a)).take n = (l.filter (· ≠ a)).take n := by
  induction l generalizing n with
  | nil => rfl
  | cons b l ih =>
    obtain ⟨hb, hl⟩ := List.nodup_cons.1 hl
    rw [List.take_succ_cons]
    by_cases hba : b = a
    · -- the element is nowhere else, so nothing more is taken away
      subst hba
      have hnone : ∀ k, (l.take k).filter (· ≠ b) = l.take k := by
        intro k
        rw [List.filter_eq_self]
        intro c hc
        have hne : c ≠ b := by
          rintro rfl
          exact hb (List.mem_of_mem_take hc)
        exact decide_eq_true hne
      have hall := hnone l.length
      rw [List.take_length] at hall
      rw [List.filter_cons_of_neg (by simp), List.filter_cons_of_neg (by simp), hnone, hall,
        List.take_take, Nat.min_self]
    · rw [List.filter_cons_of_pos (by simp [hba]), List.filter_cons_of_pos (by simp [hba])]
      cases n with
      | zero => rfl
      | succ n => rw [List.take_succ_cons, List.take_succ_cons, ih hl n]

end FirstOccurrences

namespace History

/-- A query that is added comes first, and those that are kept come behind it in their order. -/
theorem add_eq (h : History) (query : String) :
    h.add query = ⟨query :: (h.queries.filter (· ≠ query)).take 99⟩ := by
  rw [add]
  show (⟨(query :: h.queries.filter (· ≠ query)).take (99 + 1)⟩ : History) = _
  rw [List.take_succ_cons]

/-- What a history had to forget makes no difference to what is added to it. -/
theorem add_take {queries : List String} (h : queries.Nodup) (query : String) :
    add ⟨queries.take capacity⟩ query = add ⟨queries⟩ query := by
  have hforget : ((queries.take capacity).filter (· ≠ query)).take 99 =
      (queries.filter (· ≠ query)).take 99 := take_filter_take h query 99
  rw [add_eq, add_eq, hforget]

/-- A query that is used once more stands at its latest use. -/
theorem add_eraseDups (uses : List String) (query : String) :
    add ⟨uses.eraseDups⟩ query = ⟨(query :: uses).eraseDups.take capacity⟩ := by
  rw [add, List.eraseDups_cons, eraseDups_filter]
  have hne : (fun b : String => decide (b ≠ query)) = fun b => !b == query := by
    funext b
    by_cases hb : b = query <;> simp [hb]
  rw [hne]

/-- A history of the latest uses stays one, with the latest use in front. -/
theorem add_latest (uses : List String) (query : String) :
    add ⟨uses.eraseDups.take capacity⟩ query = ⟨(query :: uses).eraseDups.take capacity⟩ := by
  rw [add_take (nodup_eraseDups uses), add_eraseDups]

/-! ## Many additions -/

/-- A history of the latest uses stays one, however many are added. -/
theorem foldl_add_latest (uses more : List String) :
    more.foldl add ⟨uses.eraseDups.take capacity⟩ =
      ⟨(more.reverse ++ uses).eraseDups.take capacity⟩ := by
  induction more generalizing uses with
  | nil => rfl
  | cons query more ih =>
    rw [List.foldl_cons, add_latest, ih, List.reverse_cons, List.append_assoc,
      List.singleton_append]

/-- Different queries, however many, are cut to the latest uses by the first addition. -/
theorem foldl_add_of_nodup {queries uses : List String} (hq : queries.Nodup) (hne : uses ≠ []) :
    uses.foldl add ⟨queries⟩ = ⟨(uses.reverse ++ queries).eraseDups.take capacity⟩ := by
  cases uses with
  | nil => exact absurd rfl hne
  | cons query uses =>
    have hfirst : add ⟨queries⟩ query = ⟨(query :: queries).eraseDups.take capacity⟩ := by
      rw [← add_eraseDups, eraseDups_of_nodup hq]
    rw [List.foldl_cons, hfirst, foldl_add_latest, List.reverse_cons, List.append_assoc,
      List.singleton_append]

/-- What queries add up to.  If those at the beginning are different, then the history holds the
first hundred of all, the latest in front, each at its first place only.  In any case it holds no
more than a hundred; the last one that was added comes first, and only there; and the others are
those of the history before, in the order they had, without the oldest if there are too many. -/
theorem queries_foldl_add (queries : List String) {uses : List String} (hne : uses ≠ []) :
    let before := uses.dropLast.foldl add ⟨queries⟩
    let after := uses.foldl add ⟨queries⟩
    (queries.Nodup → after.queries = (uses.reverse ++ queries).eraseDups.take 100) ∧
      after.queries.length ≤ 100 ∧
      after.queries.head? = some (uses.getLast hne) ∧
      after.queries.count (uses.getLast hne) = 1 ∧
      after.queries.tail <+: before.queries.filter (· ≠ uses.getLast hne) := by
  intro before after
  have hlast : after = before.add (uses.getLast hne) := by
    have hsplit : (uses.dropLast ++ [uses.getLast hne]).foldl add ⟨queries⟩ =
        before.add (uses.getLast hne) := List.foldl_append
    rwa [List.dropLast_append_getLast hne] at hsplit
  have hafter : after.queries = _ := congrArg History.queries (hlast.trans (add_eq before _))
  refine ⟨?_, ?_, ?_, ?_, ?_⟩
  · intro hq
    exact congrArg History.queries (foldl_add_of_nodup hq hne)
  · rw [hlast]
    exact length_add_le before (uses.getLast hne)
  · rw [hafter, List.head?_cons]
  · have hnone : uses.getLast hne ∉ (before.queries.filter (· ≠ uses.getLast hne)).take 99 := by
      intro hmem
      have hne' := List.of_mem_filter (List.mem_of_mem_take hmem)
      simp at hne'
    rw [hafter, List.count_cons_self, List.count_eq_zero_of_not_mem hnone]
  · rw [hafter, List.tail_cons]
    exact List.take_prefix 99 _

/-- Of 102 different queries, one is used again that stands behind the first hundred, and then one
that stands among them. -/
theorem queries_foldl_add_forgotten :
    let text (n : Nat) : String := String.ofList (List.replicate n 'a')
    let queries := (List.range 102).map text
    (([text 100, text 5].foldl add ⟨queries⟩).queries =
        ([text 5, text 100] ++ queries).eraseDups.take 100) ∧
      ([text 100, text 5].foldl add ⟨queries⟩).queries.count (text 5) = 1 := by
  intro text queries
  have hdifferent : queries.Nodup := by
    refine List.nodup_range.map ?_
    intro m n h
    have hlength := congrArg String.length h
    simpa [text] using hlength
  obtain ⟨hall, -, -, hcount, -⟩ :=
    queries_foldl_add queries (List.cons_ne_nil (text 100) [text 5])
  exact ⟨hall hdifferent, hcount⟩

/-- Queries that are repeated at the beginning stay so until they are used again. -/
example :
    (["a"].foldl add ⟨["b", "b"]⟩).queries = ["a", "b", "b"] ∧
      (["a", "b"].foldl add ⟨["b", "b"]⟩).queries = ["b", "a"] := by
  decide

end History

end SearchBar
