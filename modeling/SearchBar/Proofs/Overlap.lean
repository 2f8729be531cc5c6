import Mathlib.Logic.Function.Basic
import SearchBar.Proofs.Recency
import SearchBar.Proofs.StoredHistory

/-!
# Recordings that overlap

To record a query is to load the history and to save it again with the query added.  There is no
lock on the file, so when several commands record at once, anything may come between the two steps
of one of them.  Here the steps are apart (`Recording.step`; both in a row are `recordQuery`, by
`Recording.run_step_step`), and a schedule says whose step is next (`Overlap.run`).

As long as no recording fails, what happens to the files can be followed on the history alone:
`Shared` has one history in the place of the files, and a run of it agrees with the run on files
(`Agrees.step`, `Agrees.run`).  For two recordings that settles all schedules.  If one has saved
before the other loads, the history has both queries in the end; if both load first, then it has the
query of the one that saves last, and the other only by chance (`Overlap.mem_loadHistory_run`).
-/

namespace SearchBar

/-! ## Room for one more query -/

namespace History

/-- With room for one more, no query is forgotten when one is added. -/
theorem mem_add {h : History} (hroom : h.queries.length < capacity) (x query : String) :
    x ∈ (h.add query).queries ↔ x = query ∨ x ∈ h.queries := by
  have hlength : (query :: h.queries.filter (· ≠ query)).length ≤ capacity :=
    Nat.succ_le_of_lt (Nat.lt_of_le_of_lt (List.length_filter_le ..) hroom)
  rw [add, List.take_of_length_le hlength, List.mem_cons, List.mem_filter]
  by_cases hx : x = query <;> simp [hx]

theorem length_add_le_succ (h : History) (query : String) :
    (h.add query).queries.length ≤ h.queries.length + 1 := by
  rw [add]
  refine (List.length_take_le' ..).trans ?_
  exact Nat.succ_le_succ (List.length_filter_le ..)

end History

/-! ## The steps of a recording -/

/-- How far the recording of a query has come. -/
inductive Recording where
  /-- It has not begun. -/
  | waiting
  /-- It has loaded the history, and holds a copy of it. -/
  | holding (copy : History)
  /-- It is over. -/
  | finished (result : Except Failure Unit)
deriving DecidableEq

namespace Recording

/-- The next step: load the history, or add the query to the copy and save that. -/
def step (path query : String) : Recording → StateM FileSystem Recording
  | .waiting => do
    match (← loadHistory path).result with
    | .error failure => return .finished (.error failure)
    | .ok history => return .holding history
  | .holding copy => do
    let saved ← saveHistory path (copy.add query)
    return .finished saved.result
  | .finished result => return .finished result

theorem run_step_waiting (path query : String) (fs : FileSystem) :
    (step path query .waiting).run fs =
      (match ((loadHistory (m := StateM FileSystem) path).run fs).1.result with
        | .error failure => .finished (.error failure)
        | .ok history => .holding history, fs) := by
  rw [step, run_bind, run_loadHistory]
  generalize (if fs.pathExists path then History.decode (fs.read path) else .ok .empty) = loaded
  obtain ⟨result, events⟩ := loaded
  cases result <;> rfl

theorem run_step_holding (path query : String) (copy : History) (fs : FileSystem) :
    (step path query (.holding copy)).run fs =
      let saved := (saveHistory (m := StateM FileSystem) path (copy.add query)).run fs
      (.finished saved.1.result, saved.2) := rfl

/-- Two steps in a row record the query. -/
theorem run_step_step (path query : String) (fs : FileSystem) :
    (step path query .waiting >>= step path query).run fs =
      let recorded := (recordQuery (m := StateM FileSystem) path query).run fs
      (.finished recorded.1.result, recorded.2) := by
  rw [run_bind, run_step_waiting, run_recordQuery]
  generalize ((loadHistory (m := StateM FileSystem) path).run fs).1 = loaded
  obtain ⟨result, events⟩ := loaded
  cases result <;> rfl

end Recording

/-! ## Schedules -/

/-- Recordings at work on the same file. -/
structure Overlap (ι : Type) where
  files : FileSystem
  stage : ι → Recording

/-- What recordings come to if none of them fails: a history in the place of the files. -/
structure Shared (ι : Type) where
  history : History
  stage : ι → Recording

section Schedules

variable {ι : Type} [DecidableEq ι] (path : String) (query : ι → String)

namespace Overlap

/-- No recording has begun. -/
def start (fs : FileSystem) : Overlap ι := ⟨fs, fun _ => .waiting⟩

/-- One of the recordings takes its next step. -/
def step (s : Overlap ι) (i : ι) : Overlap ι :=
  let next := ((s.stage i).step path (query i)).run s.files
  ⟨next.2, Function.update s.stage i next.1⟩

/-- The recordings take the steps of a schedule. -/
def run (schedule : List ι) (s : Overlap ι) : Overlap ι := schedule.foldl (step path query) s

/-- What is over stays as it ended. -/
theorem stage_run_of_finished {s : Overlap ι} {i : ι} {result : Except Failure Unit}
    (h : s.stage i = .finished result) (schedule : List ι) :
    (s.run path query schedule).stage i = .finished result := by
  induction schedule generalizing s with
  | nil => exact h
  | cons j schedule ih =>
    refine ih ?_
    by_cases hj : i = j
    · subst hj
      simp only [step, h, Function.update_self]
      rfl
    · simp only [step, Function.update_of_ne hj, h]

end Overlap

namespace Shared

/-- No recording has begun. -/
def start (h : History) : Shared ι := ⟨h, fun _ => .waiting⟩

/-- One of the recordings takes its next step. -/
def step (s : Shared ι) (i : ι) : Shared ι :=
  match s.stage i with
  | .waiting => ⟨s.history, Function.update s.stage i (.holding s.history)⟩
  | .holding copy => ⟨copy.add (query i), Function.update s.stage i (.finished (.ok ()))⟩
  | .finished _ => s

/-- The recordings take the steps of a schedule. -/
def run (schedule : List ι) (s : Shared ι) : Shared ι := schedule.foldl (step query) s

end Shared

/-- The recordings are at the same stages, and the file holds the history. -/
structure Agrees (s : Overlap ι) (t : Shared ι) : Prop where
  stage_eq : s.stage = t.stage
  load : (loadHistory (m := StateM FileSystem) path).run s.files = (.ok t.history, s.files)

namespace Agrees

variable {path query} {s : Overlap ι} {t : Shared ι}

/-- A step that does not fail can be followed on the history. -/
theorem step (h : Agrees path s t) {i : ι}
    (hok : ∀ failure, (s.step path query i).stage i ≠ .finished (.error failure)) :
    Agrees path (s.step path query i) (t.step query i) := by
  obtain ⟨files, stage⟩ := s
  obtain ⟨history, stage'⟩ := t
  obtain ⟨rfl, hload⟩ := h
  simp only at hload
  simp only [Overlap.step, Function.update_self] at hok ⊢
  simp only [Shared.step]
  cases hi : stage i with
  | waiting =>
    rw [Recording.run_step_waiting, hload]
    exact ⟨rfl, hload⟩
  | holding copy =>
    rw [hi, Recording.run_step_holding] at hok
    rw [Recording.run_step_holding]
    cases hresult : ((saveHistory (m := StateM FileSystem) path
        (copy.add (query i))).run files).1.result with
    | error failure => exact absurd (congrArg Recording.finished hresult) (hok failure)
    | ok u =>
      simp only [hresult]
      exact ⟨rfl, run_loadHistory_saved (saved_of_run_saveHistory hresult)⟩
  | finished result =>
    have hstay : Function.update stage i (.finished result) = stage := by
      rw [← hi]
      exact Function.update_eq_self i stage
    exact ⟨hstay, hload⟩

/-- A run in which no recording fails can be followed on the history. -/
theorem run (h : Agrees path s t) (schedule : List ι)
    (hok : ∀ i failure, (s.run path query schedule).stage i ≠ .finished (.error failure)) :
    Agrees path (s.run path query schedule) (t.run query schedule) := by
  -- induction over the schedule; a step that had failed would show in the end
  induction schedule generalizing s t with
  | nil => exact h
  | cons i schedule ih =>
    refine ih (h.step ?_) hok
    intro failure hfailed
    exact hok i failure (Overlap.stage_run_of_finished path query hfailed schedule)

end Agrees

end Schedules

/-! ## Two recordings -/

/-- One of two recordings. -/
inductive Party where
  | first
  | second
deriving DecidableEq

/-- The other of two recordings. -/
def Party.other : Party → Party
  | .first => .second
  | .second => .first

theorem Party.other_ne (p : Party) : p.other ≠ p := by
  cases p <;> decide

/-- Each of two recordings takes its two steps, in any order. -/
def Interleaves (schedule : List Party) : Prop :=
  schedule.Perm [.first, .first, .second, .second]

instance (schedule : List Party) : Decidable (Interleaves schedule) :=
  inferInstanceAs (Decidable (schedule.Perm _))

/-- One of two recordings has saved before the other loads. -/
def Apart (schedule : List Party) : Prop := ∃ p : Party, [p, p] <+: schedule

theorem apart_iff {schedule : List Party} :
    Apart schedule ↔ [.first, .first] <+: schedule ∨ [.second, .second] <+: schedule := by
  constructor
  · rintro ⟨_ | _, hp⟩
    · exact Or.inl hp
    · exact Or.inr hp
  · rintro (hp | hp)
    · exact ⟨.first, hp⟩
    · exact ⟨.second, hp⟩

instance (schedule : List Party) : Decidable (Apart schedule) := decidable_of_iff _ apart_iff.symm

/-- Either one recording takes both steps before the other begins, or both load the history before
either saves. -/
theorem Interleaves.cases {schedule : List Party} (h : Interleaves schedule) :
    ∃ late : Party, schedule.getLast? = some late ∧
      (Apart schedule ∧ schedule = [late.other, late.other, late, late] ∨
        ¬ Apart schedule ∧ (schedule = [late.other, late, late.other, late] ∨
          schedule = [late, late.other, late.other, late])) := by
  have hcount : schedule.count .first = 2 := h.count_eq .first
  have hlength : schedule.length = 4 := h.length_eq
  match schedule, hlength with
  | [a, b, c, d], _ =>
    refine ⟨d, rfl, ?_⟩
    revert hcount
    cases a <;> cases b <;> cases c <;> cases d <;> decide

/-- What two recordings make of a history: if they are apart, the one that ends last adds its query
to what the other saved; if not, it adds it to the copy that both hold. -/
theorem Shared.history_run (query : Party → String) (h : History) {schedule : List Party}
    (hschedule : Interleaves schedule) :
    ∃ late : Party, schedule.getLast? = some late ∧
      (Apart schedule → ((start h).run query schedule).history =
        (h.add (query late.other)).add (query late)) ∧
      (¬ Apart schedule → ((start h).run query schedule).history = h.add (query late)) := by
  obtain ⟨late, hlast, hcases⟩ := hschedule.cases
  have hne := late.other_ne
  refine ⟨late, hlast, ?_⟩
  rcases hcases with ⟨happart, rfl⟩ | ⟨hoverlap, rfl | rfl⟩
  · refine ⟨fun _ => ?_, absurd happart⟩
    simp [run, step, start, hne.symm]
  · refine ⟨fun happart => absurd happart hoverlap, fun _ => ?_⟩
    simp [run, step, start, hne, hne.symm]
  · refine ⟨fun happart => absurd happart hoverlap, fun _ => ?_⟩
    simp [run, step, start, hne, hne.symm]

/-- Two recordings, neither of which fails, work on a file whose history has room for both queries.
In the end the file holds the query of the one that saves last.  If one had saved before the other
loaded, both queries are there, and all that were there before.  If not, then only that last query
was added to those that were there: the other query is in the history only if it is the same, or was
in it before. -/
theorem Overlap.mem_loadHistory_run {path : String} {fs : FileSystem} {h : History}
    (hload : (loadHistory (m := StateM FileSystem) path).run fs = (.ok h, fs))
    (hlength : h.queries.length ≤ 98) (query : Party → String) {schedule : List Party}
    (hschedule : Interleaves schedule)
    (hok : ∀ p, ((Overlap.start fs).run path query schedule).stage p = .finished (.ok ())) :
    let files := ((Overlap.start fs).run path query schedule).files
    ∃ (final : History) (late : Party),
      (loadHistory (m := StateM FileSystem) path).run files = (.ok final, files) ∧
      schedule.getLast? = some late ∧ query late ∈ final.queries ∧
      (Apart schedule → query late.other ∈ final.queries ∧
        ∀ q, q ∈ final.queries ↔ q = query late ∨ q = query late.other ∨ q ∈ h.queries) ∧
      (¬ Apart schedule → ∀ q, q ∈ final.queries ↔ q = query late ∨ q ∈ h.queries) := by
  intro files
  have hstart : Agrees path (Overlap.start fs : Overlap Party) (Shared.start h) := ⟨rfl, hload⟩
  have hfinal : Agrees path ((Overlap.start fs).run path query schedule)
      ((Shared.start h).run query schedule) := by
    refine hstart.run schedule ?_
    intro p failure hfailed
    rw [hok p] at hfailed
    cases hfailed
  have hroom : h.queries.length < History.capacity := Nat.lt_of_le_of_lt hlength (by decide)
  obtain ⟨late, hlast, hapart, hoverlap⟩ := Shared.history_run query h hschedule
  have hboth : Apart schedule → ∀ q, q ∈ ((Shared.start h).run query schedule).history.queries ↔
      q = query late ∨ q = query late.other ∨ q ∈ h.queries := by
    intro happart q
    have hroom' : (h.add (query late.other)).queries.length < History.capacity :=
      Nat.lt_of_le_of_lt (h.length_add_le_succ (query late.other))
        (Nat.lt_of_le_of_lt (Nat.succ_le_succ hlength) (by decide))
    rw [hapart happart, History.mem_add hroom', History.mem_add hroom]
  have hone : ¬ Apart schedule → ∀ q,
      q ∈ ((Shared.start h).run query schedule).history.queries ↔
        q = query late ∨ q ∈ h.queries := by
    intro happart q
    rw [hoverlap happart, History.mem_add hroom]
  refine ⟨_, late, hfinal.load, hlast, ?_, ?_, hone⟩
  · by_cases happart : Apart schedule
    · exact (hboth happart _).2 (Or.inl rfl)
    · exact (hone happart _).2 (Or.inl rfl)
  · intro happart
    exact ⟨(hboth happart _).2 (Or.inr (Or.inl rfl)), hboth happart⟩

/-- One recording after the other, on a history with one query. -/
theorem Overlap.mem_loadHistory_run_apart :
    let path := "h.json"
    let query (p : Party) : String := if p = .first then "x" else "y"
    let saved :=
      (saveHistory (m := StateM FileSystem) path ⟨["a"]⟩).run (.ofWorkingDirectory ["home"])
    let files :=
      ((Overlap.start saved.2).run path query [.second, .second, .first, .first]).files
    ∃ final : History, (loadHistory (m := StateM FileSystem) path).run files = (.ok final, files) ∧
      "x" ∈ final.queries ∧ "y" ∈ final.queries ∧ "a" ∈ final.queries := by
  intro path query saved files
  have hsaved : saved.1.result = .ok () := by
    decide +kernel
  have hload := run_loadHistory_saved (saved_of_run_saveHistory hsaved)
  have hok : ∀ p, ((Overlap.start saved.2).run path query
      [.second, .second, .first, .first]).stage p = .finished (.ok ()) := by
    intro p
    cases p <;> decide +kernel
  obtain ⟨final, late, hfinal, hlate, -, happart, -⟩ :=
    Overlap.mem_loadHistory_run hload (by decide) query (by decide) hok
  obtain rfl : late = .first := (Option.some.inj hlate).symm
  have hmem := (happart ⟨.second, [.first, .first], rfl⟩).2
  exact ⟨final, hfinal, (hmem "x").2 (Or.inl rfl), (hmem "y").2 (Or.inr (Or.inl rfl)),
    (hmem "a").2 (Or.inr (Or.inr (by decide)))⟩

/-- Two recordings that both load an empty history before either saves.  Both succeed, and one of
the two queries is lost. -/
theorem Overlap.loadHistory_run_lost :
    let path := "h.json"
    let query (p : Party) : String := if p = .first then "x" else "y"
    let fs := FileSystem.ofWorkingDirectory ["home"]
    let schedule : List Party := [.first, .second, .first, .second]
    let last := (Overlap.start fs).run path query schedule
    ((loadHistory (m := StateM FileSystem) path).run fs).1.result = .ok ⟨[]⟩ ∧
      Interleaves schedule ∧ (∀ p, last.stage p = .finished (.ok ())) ∧
      ((loadHistory (m := StateM FileSystem) path).run last.files).1.result = .ok ⟨["y"]⟩ ∧
      query .first ∉ ["y"] := by
  intro path query fs schedule last
  have hok : ∀ p, last.stage p = .finished (.ok ()) := by
    intro p
    cases p <;> decide +kernel
  refine ⟨?_, ?_, hok, ?_, ?_⟩ <;> decide +kernel

end SearchBar
