import SearchBar.Proofs.Commands
import SearchBar.Proofs.Recency

/-!
# The history after any course of commands

A course begins without a history; commands are run, and anything may happen in between that leaves
the history alone (`Course`).  A command records a query, removes all of them, or changes no
file (`run_cases`).  The invariant is that the file holds the latest uses
(`HoldsUses`): recording and removing keep it (`HoldsUses.record`, `HoldsUses.clear`), so every
command does (`HoldsUses.run`), and so it holds after every course (`Course.loadHistory_eq`).
-/

namespace SearchBar

/-! ## Runs -/

/-- A command that was run, and what it reported. -/
structure Run where
  command : Command
  report : Report

namespace Run

/-- The run of a command. -/
def ofCommand (env : Environment) (c : Command) (fs : FileSystem) : Run :=
  ⟨c, ((c.run (m := StateM FileSystem) env).run fs).1⟩

/-- The query line of a run that parsed it without failing, and was not asked to keep no record. -/
def recorded? (r : Run) : Option String :=
  match r.command with
  | .parse a => if r.report.failure.isNone && !a.noHistory then some a.rawQuery else none
  | .history _ => none

/-- Whether a run removed all queries. -/
def clears (r : Run) : Bool :=
  match r.command with
  | .parse _ => false
  | .history a => a.clear

end Run

/-- The queries recorded since all were last removed, the latest first.  The runs are given the
latest first, too. -/
def uses (runs : List Run) : List String :=
  (runs.takeWhile fun r => !r.clears).filterMap Run.recorded?

theorem uses_cons_of_clears {r : Run} (h : r.clears = true) (runs : List Run) :
    uses (r :: runs) = [] := by
  rw [uses, List.takeWhile_cons_of_neg (by simp [h]), List.filterMap_nil]

theorem uses_cons_of_not_clears {r : Run} (h : r.clears = false) (runs : List Run) :
    uses (r :: runs) = r.recorded?.toList ++ uses runs := by
  rw [uses, List.takeWhile_cons_of_pos (by simp [h]), List.filterMap_cons]
  cases r.recorded? <;> rfl

/-! ## What a run does to files -/

/-- A run records a query, or removes all queries, or changes no file. -/
theorem run_cases (env : Environment) (c : Command) (fs : FileSystem) :
    let r := Run.ofCommand env c fs
    let fs' := ((c.run (m := StateM FileSystem) env).run fs).2
    (r.clears = false ∧ r.recorded? = none ∧ fs' = fs) ∨
      (∃ query, r.clears = false ∧ r.recorded? = some query ∧
        fs' = ((atPath (m := StateM FileSystem) env.historyPath (recordQuery · query)).run
          fs).2) ∨
      (r.clears = true ∧
        fs' = ((atPath (m := StateM FileSystem) env.historyPath (saveHistory · .empty)).run
          fs).2) := by
  intro r fs'
  cases c with
  | parse a =>
    have hreport : r = ⟨.parse a, ((runParse (m := StateM FileSystem) env a).run fs).1⟩ := rfl
    have hstate : fs' = ((runParse (m := StateM FileSystem) env a).run fs).2 := rfl
    cases hresolved : ((resolveOptions (m := StateM FileSystem) env a).run fs).1.result with
    | error failure =>
      rw [hreport, hstate, run_runParse_error hresolved]
      exact Or.inl ⟨rfl, rfl, rfl⟩
    | ok o =>
      cases hno : a.noHistory with
      | true =>
        rw [hreport, hstate, run_runParse_noHistory hresolved hno]
        exact Or.inl ⟨rfl, by simp [Run.recorded?, hno], rfl⟩
      | false =>
        rw [hreport, hstate, run_runParse_recording hresolved hno]
        exact Or.inr (Or.inl ⟨a.rawQuery, rfl, by simp [Run.recorded?, hno], rfl⟩)
  | history a =>
    have hstate : fs' = ((runHistory (m := StateM FileSystem) env a).run fs).2 := rfl
    cases hclear : a.clear with
    | true =>
      refine Or.inr (Or.inr ⟨hclear, ?_⟩)
      rw [hstate, run_runHistory_clear hclear]
    | false =>
      refine Or.inl ⟨hclear, rfl, ?_⟩
      rw [hstate, run_runHistory_show hclear]

/-! ## The invariant -/

/-- The history file can be written, and holds the first hundred queries of some uses, each at its
latest use only. -/
structure HoldsUses (path : String) (queries : List String) (fs : FileSystem) : Prop where
  canSave : fs.CanSave path
  load : (loadHistory (m := StateM FileSystem) path).run fs =
    (.ok ⟨queries.eraseDups.take History.capacity⟩, fs)

namespace HoldsUses

variable {path : String} {queries : List String} {fs : FileSystem}

/-- What was saved is held. -/
theorem of_save (h : fs.CanSave path) (queries : List String) :
    HoldsUses path queries
      ((saveHistory (m := StateM FileSystem) path ⟨queries.eraseDups.take History.capacity⟩).run
        fs).2 := by
  obtain ⟨fs', hsaved⟩ := h (History.encode ⟨queries.eraseDups.take History.capacity⟩)
  rw [run_saveHistory_saved hsaved]
  exact ⟨h.saved hsaved, run_loadHistory_saved hsaved⟩

/-- To record a query is to use it once more. -/
theorem record (h : HoldsUses path queries fs) (query : String) :
    HoldsUses path (query :: queries)
      ((recordQuery (m := StateM FileSystem) path query).run fs).2 := by
  rw [run_recordQuery, h.load]
  simp only [Outcome.ok]
  rw [History.add_latest]
  exact of_save h.canSave (query :: queries)

/-- When all queries are removed, nothing was used. -/
theorem clear (h : HoldsUses path queries fs) :
    HoldsUses path [] ((saveHistory (m := StateM FileSystem) path .empty).run fs).2 :=
  of_save h.canSave []

/-- Every command that finds the file at the path keeps it in step with the uses. -/
theorem run {runs : List Run} {env : Environment} (h : HoldsUses path (uses runs) fs)
    (place : env.historyPath = .ok path) (c : Command) :
    HoldsUses path (uses (Run.ofCommand env c fs :: runs))
      ((c.run (m := StateM FileSystem) env).run fs).2 := by
  have hcases := run_cases env c fs
  simp only [place, atPath_ok] at hcases
  rcases hcases with ⟨hclears, hrecorded, hstate⟩ | ⟨query, hclears, hrecorded, hstate⟩ |
    ⟨hclears, hstate⟩
  · rw [hstate, uses_cons_of_not_clears hclears, hrecorded]
    exact h
  · rw [hstate, uses_cons_of_not_clears hclears, hrecorded]
    exact h.record query
  · rw [hstate, uses_cons_of_clears hclears]
    exact h.clear

end HoldsUses

/-! ## Courses -/

/-- What can come of a file system without a history, with the runs of commands, the latest first.
All commands look for the history at one path, as they do while the directory of the user's
configuration files is the same.  Anything may happen in between, as long as it leaves the history
as it is, and such that it can be written. -/
inductive Course (path : String) : List Run → FileSystem → Prop where
  | start {fs : FileSystem} (absent : fs.pathExists path = false) (canSave : fs.CanSave path) :
      Course path [] fs
  | run {runs : List Run} {fs : FileSystem} (before : Course path runs fs) (env : Environment)
      (place : env.historyPath = .ok path) (c : Command) :
      Course path (Run.ofCommand env c fs :: runs) ((c.run (m := StateM FileSystem) env).run fs).2
  | meanwhile {runs : List Run} {fs fs' : FileSystem} (before : Course path runs fs)
      (exists_eq : fs'.pathExists path = fs.pathExists path)
      (read_eq : fs'.read path = fs.read path) (canSave : fs'.CanSave path) :
      Course path runs fs'

theorem Course.holdsUses {path : String} {runs : List Run} {fs : FileSystem}
    (h : Course path runs fs) : HoldsUses path (uses runs) fs := by
  -- induction over the course; what happens in between is no use and leaves what is loaded alone
  induction h with
  | start absent canSave =>
    refine ⟨canSave, ?_⟩
    rw [run_loadHistory, absent]
    rfl
  | run before env place c ih => exact ih.run place c
  | meanwhile before exists_eq read_eq canSave ih =>
    refine ⟨canSave, ?_⟩
    have hload := ih.load
    rw [run_loadHistory, Prod.mk.injEq] at hload
    rw [run_loadHistory, exists_eq, read_eq, hload.1]

/-- A home directory with nothing in it is a start. -/
theorem Course.ofHome :
    Course "/home/.config/sqp/history.json" [] (.ofWorkingDirectory ["home"]) := by
  refine .start ?_ (FileSystem.canSave_of_free
    (l := ["history.json", "sqp", ".config", "home"]) ?_ ?_ ?_)
  · decide +kernel
  · decide +kernel
  · decide +kernel
  · decide +kernel

/-- After any course of commands the history holds the query lines of the runs that parsed them with
success and were to record them, from the last removal on, the latest first, each at its latest use
only, and no more than a hundred.  And a run that does not record and does not remove leaves all
files as they are. -/
theorem Course.loadHistory_eq {path : String} {runs : List Run} {fs : FileSystem}
    (h : Course path runs fs) :
    (loadHistory (m := StateM FileSystem) path).run fs =
        (.ok ⟨(uses runs).eraseDups.take 100⟩, fs) ∧
      ∀ (env : Environment) (c : Command), (Run.ofCommand env c fs).recorded? = none →
        (Run.ofCommand env c fs).clears = false →
        ((c.run (m := StateM FileSystem) env).run fs).2 = fs := by
  refine ⟨h.holdsUses.load, ?_⟩
  intro env c hrecorded hclears
  rcases run_cases env c fs with ⟨-, -, hstate⟩ | ⟨query, -, hquery, -⟩ | ⟨hremoved, -⟩
  · exact hstate
  · rw [hrecorded] at hquery
    cases hquery
  · rw [hclears] at hremoved
    cases hremoved

/-- A line that was parsed twice is in the history once, in front; showing the history leaves it as
it is. -/
theorem Course.loadHistory_eq_twice :
    let env : Environment := ⟨[("HOME", "/home")], none⟩
    let path := "/home/.config/sqp/history.json"
    let ask (line : String) : Command := .parse ⟨[line], [], [], none, false, false⟩
    let after (c : Command) (fs : FileSystem) := ((c.run (m := StateM FileSystem) env).run fs).2
    let fs₁ := after (ask "b") (.ofWorkingDirectory ["home"])
    let fs₂ := after (ask "a") fs₁
    let fs₃ := after (ask "b") fs₂
    (loadHistory (m := StateM FileSystem) path).run fs₃ = (.ok ⟨["b", "a"]⟩, fs₃) ∧
      after (.history ⟨10, false⟩) fs₃ = fs₃ := by
  intro env path ask after fs₁ fs₂ fs₃
  have hplace : env.historyPath = .ok path := by
    decide +kernel
  have hcourse : Course path [Run.ofCommand env (ask "b") fs₂, Run.ofCommand env (ask "a") fs₁,
      Run.ofCommand env (ask "b") (.ofWorkingDirectory ["home"])] fs₃ :=
    .run (.run (.run .ofHome env hplace (ask "b")) env hplace (ask "a")) env hplace (ask "b")
  have huses : (uses [Run.ofCommand env (ask "b") fs₂, Run.ofCommand env (ask "a") fs₁,
      Run.ofCommand env (ask "b") (.ofWorkingDirectory ["home"])]).eraseDups.take 100 =
        ["b", "a"] := by
    decide +kernel
  obtain ⟨hload, hsame⟩ := hcourse.loadHistory_eq
  rw [huses] at hload
  exact ⟨hload, hsame env (.history ⟨10, false⟩) rfl rfl⟩

end SearchBar
