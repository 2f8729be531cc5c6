import SearchBar.Proofs.Courses
import SearchBar.Proofs.Spacing

/-!
# What a listing shows

Each query of a listing is followed by a line break, so the lines of a listing are the pieces of its
queries at their own line breaks (`lines_listing`).  They are the queries themselves exactly when
no query has a line break (`lines_listing_eq_iff`).  As a query is recorded as it was asked, nothing
keeps line breaks out of the history: after any course of commands, the listing has one line for
each query if and only if the latest uses that it shows have no line breaks
(`Course.lines_run_history`).
-/

namespace SearchBar

/-- The lines of a text in which every line ends with a line break. -/
def Text.lines (s : String) : List String := (splitAt '\n' s).dropLast

/-! ## Lines of a listing -/

theorem Text.splitAt_append_lineBreak (s t : String) :
    splitAt '\n' (s ++ "\n" ++ t) = splitAt '\n' s ++ splitAt '\n' t := by
  have hlist : (s ++ "\n" ++ t).toList = s.toList ++ '\n' :: t.toList := by simp
  rw [splitAt, splitAt, splitAt, hlist, List.splitOn_append_cons_self, List.map_append]

theorem splitAt_listing (queries : List String) :
    Text.splitAt '\n' (listing queries) = queries.flatMap (Text.splitAt '\n') ++ [""] := by
  induction queries with
  | nil => rfl
  | cons q qs ih =>
    have hcons : listing (q :: qs) = q ++ "\n" ++ listing qs := by
      simp [listing]
    rw [hcons, Text.splitAt_append_lineBreak, ih, List.flatMap_cons, List.append_assoc]

/-- Every query has as many lines in a listing as it has pieces. -/
theorem lines_listing (queries : List String) :
    Text.lines (listing queries) = queries.flatMap (Text.splitAt '\n') := by
  rw [Text.lines, splitAt_listing, List.dropLast_concat]

theorem Text.splitAt_of_notMem {sep : Char} {s : String} (h : sep ∉ s.toList) :
    splitAt sep s = [s] := by
  rw [splitAt, List.splitOn_eq_singleton h, List.map_singleton, String.ofList_toList]

theorem Text.notMem_of_mem_splitAt {sep : Char} {s w : String} (h : w ∈ splitAt sep s) :
    sep ∉ w.toList := by
  obtain ⟨cs, hcs, rfl⟩ := List.mem_map.1 h
  rw [String.toList_ofList]
  exact notMem_of_mem_splitOn hcs

/-- The lines of a listing are its queries when, and only when, no query has a line break. -/
theorem lines_listing_eq_iff (queries : List String) :
    Text.lines (listing queries) = queries ↔ ∀ q ∈ queries, '\n' ∉ q.toList := by
  constructor
  · intro h q hq
    -- each query is then a line, and a line has no line break
    rw [← h] at hq
    exact Text.notMem_of_mem_splitAt ((List.dropLast_sublist _).subset hq)
  · intro h
    rw [lines_listing]
    induction queries with
    | nil => rfl
    | cons q qs ih =>
      have hq := Text.splitAt_of_notMem (h q List.mem_cons_self)
      rw [List.flatMap_cons, hq, ih fun p hp => h p (List.mem_cons_of_mem q hp)]
      rfl

/-! ## The listing after a course of commands -/

/-- After any course of commands the history is listed without failing and without a change.  The
lines that are written are the pieces of the latest uses, as many uses as were asked for, each at
its latest time only; they are those uses themselves exactly when none of them has a line break. -/
theorem Course.lines_run_history {path : String} {runs : List Run} {fs : FileSystem}
    (h : Course path runs fs) (env : Environment) (place : env.historyPath = .ok path)
    (limit : Nat) :
    let shown := ((uses runs).eraseDups.take 100).take limit
    let run := (Command.run (m := StateM FileSystem) env (.history ⟨limit, false⟩)).run fs
    run.1.failure = none ∧ run.2 = fs ∧
      Text.lines run.1.out = shown.flatMap (Text.splitAt '\n') ∧
      (Text.lines run.1.out = shown ↔ ∀ q ∈ shown, '\n' ∉ q.toList) := by
  intro shown run
  have hrun : run = (⟨listing shown, none, []⟩, fs) := by
    have hshow : run = _ := run_runHistory_show (a := ⟨limit, false⟩) rfl env fs
    rw [hshow, place, atPath_ok, h.holdsUses.load]
    rfl
  rw [hrun]
  exact ⟨rfl, rfl, lines_listing shown, lines_listing_eq_iff shown⟩

/-- Two lines were parsed, and the history is asked for more than there is. -/
theorem Course.lines_run_history_two :
    let env : Environment := ⟨[("HOME", "/home")], none⟩
    let ask (line : String) : Command := .parse ⟨[line], [], [], none, false, false⟩
    let after (c : Command) (fs : FileSystem) := ((c.run (m := StateM FileSystem) env).run fs).2
    let fs₁ := after (ask "tag:a b") (.ofWorkingDirectory ["home"])
    let fs₂ := after (ask "c") fs₁
    let run := (Command.run (m := StateM FileSystem) env (.history ⟨20, false⟩)).run fs₂
    run.1.failure = none ∧ run.2 = fs₂ ∧ Text.lines run.1.out = ["c", "tag:a b"] := by
  intro env ask after fs₁ fs₂ run
  have hplace : env.historyPath = .ok "/home/.config/sqp/history.json" := by
    decide +kernel
  have hcourse : Course "/home/.config/sqp/history.json" [Run.ofCommand env (ask "c") fs₁,
      Run.ofCommand env (ask "tag:a b") (.ofWorkingDirectory ["home"])] fs₂ :=
    .run (.run .ofHome env hplace (ask "tag:a b")) env hplace (ask "c")
  have hshown : ((uses [Run.ofCommand env (ask "c") fs₁,
      Run.ofCommand env (ask "tag:a b") (.ofWorkingDirectory ["home"])]).eraseDups.take 100).take
        20 = ["c", "tag:a b"] := by
    decide +kernel
  obtain ⟨hfailure, hstate, -, hlines⟩ := hcourse.lines_run_history env hplace 20
  have hbreaks : ∀ q ∈ ["c", "tag:a b"], '\n' ∉ q.toList := by
    decide +kernel
  rw [hshown] at hlines
  simp only [run]
  exact ⟨hfailure, hstate, hlines.2 hbreaks⟩

/-- A line with a line break in it was parsed.  It is recorded as it is, and listed as two lines,
which are the listing of another history with two queries. -/
theorem lines_run_history_lineBreak :
    let env : Environment := ⟨[("HOME", "/home")], none⟩
    let ask (line : String) : Command := .parse ⟨[line], [], [], none, false, false⟩
    let start := FileSystem.ofWorkingDirectory ["home"]
    let run (c : Command) (fs : FileSystem) := (c.run (m := StateM FileSystem) env).run fs
    let fs := (run (ask "a\nb") start).2
    let fs' := (run (ask "a") (run (ask "b") start).2).2
    let load (fs : FileSystem) :=
      ((atPath (m := StateM FileSystem) env.historyPath loadHistory).run fs).1.result
    let listed (fs : FileSystem) := (run (.history ⟨20, false⟩) fs).1
    (run (ask "a\nb") start).1.failure = none ∧ load fs = .ok ⟨["a\nb"]⟩ ∧
      (listed fs).failure = none ∧ Text.lines (listed fs).out = ["a", "b"] ∧
      Text.lines (listed fs).out ≠ ["a\nb"] ∧
      load fs' = .ok ⟨["a", "b"]⟩ ∧ (listed fs').out = (listed fs).out := by
  decide +kernel

end SearchBar
