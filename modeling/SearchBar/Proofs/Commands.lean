import SearchBar.Proofs.StoredHistory
import SearchBar.Run

/-!
# What commands write, and what they change

Only recording a query and removing all queries change files.  Options are resolved without a change
(`run_resolveOptions`), so a command that parses a line has three ways to go
(`run_runParse_error`, `run_runParse_noHistory`, `run_runParse_recording`), and one for the history
has two (`run_runHistory_clear`, `run_runHistory_show`).  What a parsed line comes to depends on the
names in the arguments only through the set of those that are not empty
(`ParseArguments.givenOptions_congr`, `runParse_congr`), and what is written does not depend on
whether the line is recorded (`out_runParse_noHistory`).  Whatever becomes of a recording, the
record of the line is written all the same; a failure is told by a warning, and by nothing else
(`run_parse`).
-/

namespace SearchBar

/-! ## Resolving options -/

theorem run_loadOptions (path : String) (fs : FileSystem) :
    (loadOptions (m := StateM FileSystem) path).run fs =
      (Options.decode path (fs.read path), fs) := rfl

theorem run_loadOptionsIfPresent (path : String) (fs : FileSystem) :
    (loadOptionsIfPresent (m := StateM FileSystem) path).run fs =
      (if fs.pathExists path then Options.decode path (fs.read path) else .ok .empty, fs) := by
  show (if fs.pathExists path = true then _ else _ : StateM FileSystem (Outcome Options)) fs = _
  cases fs.pathExists path <;> rfl

/-- What the configuration file holds. -/
def configured (env : Environment) (a : ParseArguments) (fs : FileSystem) : Outcome Options :=
  match a.config with
  | some path => Options.decode path (fs.read path)
  | none =>
    match env.configPath with
    | .error failure => .fail failure
    | .ok path =>
      if fs.pathExists path then Options.decode path (fs.read path) else .ok .empty

theorem run_loadConfig (env : Environment) (a : ParseArguments) (fs : FileSystem) :
    (loadConfig (m := StateM FileSystem) env a).run fs = (configured env a fs, fs) := by
  rw [loadConfig, configured]
  cases a.config with
  | some path => exact run_loadOptions path fs
  | none =>
    cases env.configPath with
    | error failure => rfl
    | ok path => exact run_loadOptionsIfPresent path fs

/-- Options are resolved by looking at files, and no file is changed. -/
theorem run_resolveOptions (env : Environment) (a : ParseArguments) (fs : FileSystem) :
    (resolveOptions (m := StateM FileSystem) env a).run fs =
      (⟨(configured env a fs).result.map (·.merge a.givenOptions),
        (configured env a fs).events⟩, fs) := by
  rw [resolveOptions, run_bind, run_loadConfig]
  obtain ⟨result, events⟩ := configured env a fs
  cases result <;> rfl

/-! ## Three ways to parse a line -/

section Parse

variable {env : Environment} {a : ParseArguments} {fs : FileSystem}

/-- Without options nothing is written and nothing is recorded. -/
theorem run_runParse_error {failure : Failure}
    (h : ((resolveOptions (m := StateM FileSystem) env a).run fs).1.result = .error failure) :
    (runParse (m := StateM FileSystem) env a).run fs =
      (⟨"", some failure, (configured env a fs).events⟩, fs) := by
  rw [run_resolveOptions] at h
  rw [runParse, run_bind, run_resolveOptions]
  simp only at h ⊢
  rw [h]
  rfl

theorem run_runParse_noHistory {o : Options}
    (h : ((resolveOptions (m := StateM FileSystem) env a).run fs).1.result = .ok o)
    (hno : a.noHistory = true) :
    (runParse (m := StateM FileSystem) env a).run fs =
      (⟨(parse a.rawQuery o).written a.pretty, none,
        (configured env a fs).events ++ parseEvents a.rawQuery o⟩, fs) := by
  rw [run_resolveOptions] at h
  rw [runParse, run_bind, run_resolveOptions]
  simp only at h ⊢
  rw [h]
  simp only [hno, if_true]
  rfl

/-- The record is written first; recording comes after it and can only add events. -/
theorem run_runParse_recording {o : Options}
    (h : ((resolveOptions (m := StateM FileSystem) env a).run fs).1.result = .ok o)
    (hno : a.noHistory = false) :
    (runParse (m := StateM FileSystem) env a).run fs =
      let recorded :=
        (atPath (m := StateM FileSystem) env.historyPath (recordQuery · a.rawQuery)).run fs
      (⟨(parse a.rawQuery o).written a.pretty, none,
        (configured env a fs).events ++ parseEvents a.rawQuery o ++ recorded.1.events ++
          recordingWarnings recorded.1⟩, recorded.2) := by
  rw [run_resolveOptions] at h
  rw [runParse, run_bind, run_resolveOptions]
  simp only at h ⊢
  rw [h]
  simp only [hno]
  rfl

end Parse

/-! ## What parsing a line depends on -/

section Dependence

variable {a b : ParseArguments} {env : Environment} {fs : FileSystem}

/-- A set of names that are not empty is known by those of its names that are not empty. -/
theorem NameSet.ofList_filter_congr {names names' : List String}
    (h : ∀ n ≠ "", n ∈ names ↔ n ∈ names') :
    ofList (names.filter (· ≠ "")) = ofList (names'.filter (· ≠ "")) := by
  refine NameSet.ext fun n => ?_
  rw [mem_ofList, mem_ofList, List.mem_filter, List.mem_filter, decide_eq_true_iff]
  exact and_congr_left (h n)

theorem ParseArguments.givenOptions_eq (a : ParseArguments) :
    a.givenOptions =
      ⟨.ofList (a.keywords.filter (· ≠ "")), .ofList (a.ranges.filter (· ≠ ""))⟩ := rfl

/-- Which options are given depends on the names that are not empty, and on nothing else. -/
theorem ParseArguments.givenOptions_congr
    (hkeywords : ∀ n ≠ "", n ∈ a.keywords ↔ n ∈ b.keywords)
    (hranges : ∀ n ≠ "", n ∈ a.ranges ↔ n ∈ b.ranges) : a.givenOptions = b.givenOptions := by
  rw [givenOptions_eq, givenOptions_eq, NameSet.ofList_filter_congr hkeywords,
    NameSet.ofList_filter_congr hranges]

/-- A command that parses a line depends on no more than this. -/
theorem runParse_congr {m : Type → Type} [Monad m] [Storage m] (env : Environment)
    (hquery : a.query = b.query) (hgiven : a.givenOptions = b.givenOptions)
    (hconfig : a.config = b.config) (hpretty : a.pretty = b.pretty)
    (hhistory : a.noHistory = b.noHistory) : runParse (m := m) env a = runParse env b := by
  have hload : loadConfig (m := m) env a = loadConfig env b := by
    rw [loadConfig, loadConfig, hconfig]
  have hresolve : resolveOptions (m := m) env a = resolveOptions env b := by
    rw [resolveOptions, resolveOptions, hload, hgiven]
  have hline : a.rawQuery = b.rawQuery := by
    rw [ParseArguments.rawQuery, ParseArguments.rawQuery, hquery]
  rw [runParse, runParse, hresolve, hline, hpretty, hhistory]

/-- Where there are options, the record is written, and the command does not fail. -/
theorem out_runParse_of_ok {o : Options}
    (h : ((resolveOptions (m := StateM FileSystem) env a).run fs).1.result = .ok o) :
    let report := ((runParse (m := StateM FileSystem) env a).run fs).1
    report.out = (parse a.rawQuery o).written a.pretty ∧ report.failure = none := by
  intro report
  cases hno : a.noHistory with
  | true =>
    have hreport : report = _ := congrArg Prod.fst (run_runParse_noHistory h hno)
    rw [hreport]
    exact ⟨rfl, rfl⟩
  | false =>
    have hreport : report = _ := congrArg Prod.fst (run_runParse_recording h hno)
    rw [hreport]
    exact ⟨rfl, rfl⟩

/-- Whether the line is recorded makes no difference to what is written, nor to a failure. -/
theorem out_runParse_noHistory (env : Environment) (a : ParseArguments) (fs : FileSystem)
    (noHistory : Bool) :
    let report := ((runParse (m := StateM FileSystem) env a).run fs).1
    let other := ((runParse (m := StateM FileSystem) env { a with noHistory }).run fs).1
    other.out = report.out ∧ other.failure = report.failure := by
  intro report other
  cases hresolved : ((resolveOptions (m := StateM FileSystem) env a).run fs).1.result with
  | error failure =>
    have hreport : report = _ := congrArg Prod.fst (run_runParse_error hresolved)
    have hother : other = _ := congrArg Prod.fst
      (run_runParse_error (a := { a with noHistory }) hresolved)
    rw [hreport, hother]
    exact ⟨rfl, rfl⟩
  | ok o =>
    have hreport := out_runParse_of_ok hresolved
    have hother := out_runParse_of_ok (a := { a with noHistory }) hresolved
    exact ⟨hother.1.trans hreport.1.symm, hother.2.trans hreport.2.symm⟩

end Dependence

/-! ## Two ways to ask for the history -/

/-- Loading a history changes nothing, whether there is a path for it or not. -/
theorem run_atPath_loadHistory (path : Except Failure String) (fs : FileSystem) :
    (atPath (m := StateM FileSystem) path loadHistory).run fs =
      (((atPath (m := StateM FileSystem) path loadHistory).run fs).1, fs) := by
  cases path with
  | error failure => rfl
  | ok path =>
    rw [atPath_ok, run_loadHistory]

/-- Removing all queries saves a history without queries. -/
theorem run_runHistory_clear {a : HistoryArguments} (h : a.clear = true) (env : Environment)
    (fs : FileSystem) :
    (runHistory (m := StateM FileSystem) env a).run fs =
      let saved := (atPath (m := StateM FileSystem) env.historyPath (saveHistory · .empty)).run fs
      (⟨"", match saved.1.result with
        | .error failure => some failure
        | .ok () => none, saved.1.events⟩, saved.2) := by
  rw [runHistory, if_pos h, run_bind]
  generalize (atPath (m := StateM FileSystem) env.historyPath (saveHistory · .empty)).run fs = saved
  obtain ⟨⟨result, events⟩, fs'⟩ := saved
  cases result <;> rfl

/-- Showing the history changes no file. -/
theorem run_runHistory_show {a : HistoryArguments} (h : a.clear = false) (env : Environment)
    (fs : FileSystem) :
    (runHistory (m := StateM FileSystem) env a).run fs =
      let loaded := ((atPath (m := StateM FileSystem) env.historyPath loadHistory).run fs).1
      (match loaded.result with
        | .error failure => ⟨"", some failure, loaded.events⟩
        | .ok history => ⟨listing (history.recent a.limit), none, loaded.events⟩, fs) := by
  rw [runHistory, if_neg (by simp [h]), run_bind, run_atPath_loadHistory]
  generalize ((atPath (m := StateM FileSystem) env.historyPath loadHistory).run fs).1 = loaded
  obtain ⟨result, events⟩ := loaded
  cases result <;> rfl

/-! ## Warnings -/

/-- The warnings that a command told. -/
def Report.warnings (r : Report) : List Event := r.events.filter fun e => e.level = .warn

/-- Events none of which is a warning. -/
def Quiet (events : List Event) : Prop := ∀ e ∈ events, e.level ≠ .warn

theorem Quiet.filter_eq_nil {events : List Event} (h : Quiet events) :
    events.filter (fun e => e.level = .warn) = [] := by
  rw [List.filter_eq_nil_iff]
  intro e he
  simpa using h e he

theorem Quiet.append {events events' : List Event} (h : Quiet events) (h' : Quiet events') :
    Quiet (events ++ events') := by
  intro e he
  exact (List.mem_append.1 he).elim (h e) (h' e)

theorem quiet_nil : Quiet [] := by
  intro e he
  cases he

theorem quiet_singleton {e : Event} (h : e.level ≠ .warn) : Quiet [e] := by
  intro e' he'
  rw [List.mem_singleton.1 he']
  exact h

theorem quiet_configured (env : Environment) (a : ParseArguments) (fs : FileSystem) :
    Quiet (configured env a fs).events := by
  have hdecode : ∀ path bytes, Quiet (Options.decode path bytes).events := by
    intro path bytes
    unfold Options.decode
    split
    · exact quiet_nil
    · split
      · exact quiet_nil
      · exact quiet_singleton Level.noConfusion
  unfold configured
  split
  · exact hdecode _ _
  · split
    · exact quiet_nil
    · split
      · exact hdecode _ _
      · exact quiet_nil

theorem quiet_parseEvents (line : String) (o : Options) : Quiet (parseEvents line o) := by
  have hclause : ∀ c : Clause, Quiet c.events := by
    intro c
    cases c with
    | range key value =>
      refine Quiet.append ?_ (quiet_singleton Level.noConfusion)
      split_ifs
      · exact quiet_singleton Level.noConfusion
      · exact quiet_nil
    | _ => exact quiet_singleton Level.noConfusion
  intro e he
  obtain ⟨c, -, hc⟩ := List.mem_flatMap.1 he
  exact hclause c e hc

theorem quiet_loadHistory (path : String) (fs : FileSystem) :
    Quiet ((loadHistory (m := StateM FileSystem) path).run fs).1.events := by
  rw [run_loadHistory]
  unfold History.decode
  split
  · split
    · exact quiet_nil
    · split <;> exact quiet_nil
  · exact quiet_nil

theorem quiet_saveHistory (path : String) (h : History) (fs : FileSystem) :
    Quiet ((saveHistory (m := StateM FileSystem) path h).run fs).1.events := by
  rw [run_saveHistory]
  split
  · exact quiet_nil
  · split
    · exact quiet_nil
    · exact quiet_singleton Level.noConfusion

theorem quiet_recordQuery (path query : String) (fs : FileSystem) :
    Quiet ((recordQuery (m := StateM FileSystem) path query).run fs).1.events := by
  rw [run_recordQuery]
  have hloaded := quiet_loadHistory path fs
  simp only
  split
  · exact hloaded
  · exact hloaded.append (quiet_saveHistory path _ fs)

/-- An operation is quiet at a path that there may be, if it is quiet at every path. -/
theorem quiet_atPath {α : Type} {operation : String → StateM FileSystem (Outcome α)}
    {fs : FileSystem} (h : ∀ path, Quiet ((operation path).run fs).1.events)
    (path : Except Failure String) : Quiet ((atPath path operation).run fs).1.events := by
  cases path with
  | error failure => exact quiet_nil
  | ok path => exact h path

/-! ## What parsing writes -/

/-- Why a query was not recorded, if it should have been. -/
def recordingFailure? (env : Environment) (a : ParseArguments) (fs : FileSystem) :
    Option Failure :=
  if a.noHistory then none
  else
    match ((atPath (m := StateM FileSystem) env.historyPath (recordQuery · a.rawQuery)).run
        fs).1.result with
    | .ok () => none
    | .error failure => some failure

/-- A recording for which there is no path, or that could not load the history, changes no file. -/
theorem run_atPath_recordQuery_of_load_error {path : Except Failure String} {fs : FileSystem}
    {failure : Failure}
    (h : ((atPath (m := StateM FileSystem) path loadHistory).run fs).1.result = .error failure)
    (query : String) :
    ((atPath (m := StateM FileSystem) path (recordQuery · query)).run fs).2 = fs := by
  cases path with
  | error failure => rfl
  | ok path =>
    rw [atPath_ok] at h ⊢
    rw [run_recordQuery]
    simp only [h]

/-- With no directory for configuration files, there are options only in a file that is named. -/
theorem run_resolveOptions_of_noDirectory {env : Environment} {a : ParseArguments}
    (h : env.configDirectory? = none) (hconfig : a.config = none) (fs : FileSystem) :
    (resolveOptions (m := StateM FileSystem) env a).run fs =
      (⟨.error (.bare .noConfigDirectory), []⟩, fs) := by
  rw [run_resolveOptions, configured, hconfig, Environment.configPath, Environment.ownPath, h]
  rfl

/-- With no directory for configuration files, no recording succeeds. -/
theorem recordingFailure?_of_noDirectory {env : Environment} {a : ParseArguments}
    (h : env.configDirectory? = none) (hno : a.noHistory = false) (fs : FileSystem) :
    recordingFailure? env a fs = some (.bare .noConfigDirectory) := by
  rw [recordingFailure?, Environment.historyPath, Environment.ownPath, h, hno]
  rfl

/-- A command that parses a line fails with the failure of its options, and then has no effect.  If
there are options, it succeeds, and writes the record of the line, whatever there is for a history.
It warns once if the recording failed, and not at all otherwise; and if there is no place for a
history, or no telling what it was, no file is changed. -/
theorem run_parse (fs : FileSystem) (env : Environment) (a : ParseArguments) :
    let resolved := ((resolveOptions (m := StateM FileSystem) env a).run fs).1
    let loaded := ((atPath (m := StateM FileSystem) env.historyPath loadHistory).run fs).1
    let run := (Command.run (m := StateM FileSystem) env (.parse a)).run fs
    let silent :=
      (Command.run (m := StateM FileSystem) env (.parse { a with noHistory := true })).run fs
    (∀ failure, resolved.result = .error failure →
        run.1.failure = some failure ∧ run.1.out = "" ∧ run.1.warnings = [] ∧ run.2 = fs) ∧
      ∀ o, resolved.result = .ok o →
        run.1.failure = none ∧
          run.1.out = (if a.pretty then (parse a.rawQuery o).toJson.pretty
            else (parse a.rawQuery o).toJson.compact) ++ "\n" ∧
          run.1.out = silent.1.out ∧
          run.1.warnings = (recordingFailure? env a fs).toList.map .historyNotUpdated ∧
          ∀ failure, loaded.result = .error failure → run.2 = fs := by
  intro resolved loaded run silent
  have hquiet := quiet_configured env a fs
  constructor
  · intro failure hresolved
    have hrun : run = _ := run_runParse_error hresolved
    rw [hrun]
    exact ⟨rfl, rfl, hquiet.filter_eq_nil, rfl⟩
  · intro o hresolved
    have hquiet := hquiet.append (quiet_parseEvents a.rawQuery o)
    -- the silent run has the same options, as they do not depend on the history
    have hsilent : silent = _ :=
      run_runParse_noHistory (a := { a with noHistory := true }) hresolved rfl
    rw [hsilent]
    cases hno : a.noHistory with
    | true =>
      have hrun : run = _ := run_runParse_noHistory hresolved hno
      rw [hrun, recordingFailure?, if_pos hno]
      exact ⟨rfl, rfl, rfl, hquiet.filter_eq_nil, fun _ _ => rfl⟩
    | false =>
      have hrun : run = _ := run_runParse_recording hresolved hno
      rw [hrun]
      refine ⟨rfl, rfl, rfl, ?_, ?_⟩
      · have hrecording := quiet_atPath (fun path => quiet_recordQuery path a.rawQuery fs)
          env.historyPath
        rw [Report.warnings, List.filter_append, (hquiet.append hrecording).filter_eq_nil,
          recordingFailure?, if_neg (by simp [hno]), recordingWarnings]
        cases ((atPath (m := StateM FileSystem) env.historyPath (recordQuery · a.rawQuery)).run
          fs).1.result with
        | error failure => rfl
        | ok u => rfl
      · intro failure hloaded
        exact run_atPath_recordQuery_of_load_error hloaded a.rawQuery

/-- A history that is a directory, one that can be read but not written, and no place for one: the
record is written and one warning is told.  With no place for a configuration file either, and none
named, nothing is written. -/
theorem run_parse_no_history :
    let home := ["sqp", ".config", "home"]
    let root := FileSystem.ofWorkingDirectory home
    let directory := root.place ("history.json" :: home) .directory
    let fixed : FileSystem :=
      { root.place ("history.json" :: home) (.file "[]".toUTF8) with
        access := fun _ => .fixed (.other 30 "Read-only file system") }
    let options := root.place ("c.json" :: home) (.file "{}".toUTF8)
    let env : Environment := ⟨[("HOME", "/home")], none⟩
    let nowhere : Environment := ⟨[("XDG_CONFIG_HOME", "cfg")], none⟩
    let a (config : Option String) : ParseArguments :=
      ⟨["a", "b:c"], ["b"], [], config, false, false⟩
    let run (env : Environment) (config : Option String) (fs : FileSystem) :=
      (Command.run (m := StateM FileSystem) env (.parse (a config))).run fs
    let Warns (r : Report) (failure : Failure) : Prop :=
      r.failure = none ∧ r.out = "\x7b\"text\":\"a\",\"b\":\"c\"\x7d\n" ∧
        r.warnings = [.historyNotUpdated failure]
    Warns (run env none directory).1 (.bare (.file .isDirectory)) ∧
      (run env none directory).2 = directory ∧
      Warns (run env none fixed).1 (.bare (.file (.other 30 "Read-only file system"))) ∧
      Warns (run nowhere (some "c.json") options).1 (.bare .noConfigDirectory) ∧
      (run nowhere (some "c.json") options).2 = options ∧
      (run nowhere none options).1.failure = some (.bare .noConfigDirectory) ∧
      (run nowhere none options).1.out = "" ∧ (run nowhere none options).2 = options := by
  intro home root directory fixed options env nowhere a run Warns
  have hout : (parse "a b:c" (Options.empty.withKeywords ["b"])).toJson.compact ++ "\n" =
      "\x7b\"text\":\"a\",\"b\":\"c\"\x7d\n" := by
    decide +kernel
  have hwarns : ∀ {env config fs failure}, recordingFailure? env (a config) fs = some failure →
      ((resolveOptions (m := StateM FileSystem) env (a config)).run fs).1.result =
        .ok (Options.empty.withKeywords ["b"]) → Warns (run env config fs).1 failure := by
    intro env config fs failure hrecorded hresolved
    obtain ⟨hfailure, hrecord, -, hwarnings, -⟩ := (run_parse fs env (a config)).2 _ hresolved
    rw [hrecorded] at hwarnings
    exact ⟨hfailure, hrecord.trans hout, hwarnings⟩
  have hdirectory : ((resolveOptions (m := StateM FileSystem) env (a none)).run
      directory).1.result = .ok (Options.empty.withKeywords ["b"]) := by
    decide +kernel
  have hload : ((atPath (m := StateM FileSystem) env.historyPath loadHistory).run
      directory).1.result = .error (.bare (.file .isDirectory)) := by
    decide +kernel
  have hoptions : ((resolveOptions (m := StateM FileSystem) nowhere (a (some "c.json"))).run
      options).1.result = .ok (Options.empty.withKeywords ["b"]) := by
    decide +kernel
  have hnowhere : ((resolveOptions (m := StateM FileSystem) nowhere (a none)).run
      options).1.result = .error (.bare .noConfigDirectory) :=
    congrArg (fun r => r.1.result) (run_resolveOptions_of_noDirectory rfl rfl options)
  obtain ⟨-, -, -, -, hunread⟩ := (run_parse directory env (a none)).2 _ hdirectory
  obtain ⟨-, -, -, -, hunplaced⟩ := (run_parse options nowhere (a (some "c.json"))).2 _ hoptions
  obtain ⟨hfailure, hnothing, -, hsame⟩ := (run_parse options nowhere (a none)).1 _ hnowhere
  refine ⟨hwarns ?_ hdirectory, hunread _ hload, hwarns ?_ ?_, hwarns ?_ hoptions,
    hunplaced _ rfl, hfailure, hnothing, hsame⟩
  · decide +kernel
  · decide +kernel
  · decide +kernel
  · exact recordingFailure?_of_noDirectory rfl rfl options

end SearchBar
