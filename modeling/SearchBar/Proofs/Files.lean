import Mathlib.Data.List.TakeWhile
import SearchBar.FileSystem.Basic

/-!
# Writing a file where it was read from

Placing something where no directory is takes no way away: a step that could be taken still can be
(`next_place`), and so can every walk (`walk_place`).  So directories stay (`isDirectory_place`),
and so does the target of a path (`target_place`).  From this follow the laws of files that a
program relies on: after a file was written it is there with its bytes (`read_write`), writing it
again replaces it as a whole (`write_overwrite`), and where any bytes could be saved, they still can
be after some were, without a directory being made for them (`CanSave.saved`).

A fault of an operation may come from the tree or from what is refused at a location; what was
written without a fault can be read, as nothing is refused to a reader only.
-/

namespace SearchBar.FileSystem

variable {fs fs' : FileSystem}

/-! ## Walking -/

theorem searchFault?_eq_none_iff {loc : Location} {s : String} :
    fs.searchFault? loc s = none ↔
      fs.entry? loc = some .directory ∧ (s = "" ∨ (fs.access loc).lookFault? = none) := by
  rw [searchFault?]
  cases fs.entry? loc with
  | none => simp
  | some e =>
    cases e with
    | file bytes => simp
    | directory => by_cases hs : s = "" <;> simp [hs]

/-- A segment stays in a directory, or goes up, or leads to what bears its name. -/
theorem next_ok_iff {loc l : Location} {s : String} :
    fs.next loc s = .ok l ↔
      fs.searchFault? loc s = none ∧
        (Path.isIdle s = true ∧ loc = l ∨
          Path.isIdle s = false ∧ s = ".." ∧ loc.tail = l ∨
          Path.isIdle s = false ∧ s ≠ ".." ∧ s.utf8ByteSize ≤ longestName ∧
            (fs.entry? (s :: loc)).isSome = true ∧ s :: loc = l) := by
  rw [next]
  cases fs.searchFault? loc s with
  | some f => simp
  | none =>
    simp only [true_and]
    split_ifs with hidle hup hlength hsome
    · simp [hidle]
    · subst hup
      simp [hidle]
    · simp [hidle, hup, Nat.not_le.2 hlength]
    · simp [hidle, hup, Nat.not_lt.1 hlength, hsome]
    · simp [hidle, hup, hsome]

theorem next_of_isIdle {loc : Location} {s : String} (hsearch : fs.searchFault? loc s = none)
    (hs : Path.isIdle s = true) : fs.next loc s = .ok loc :=
  next_ok_iff.2 ⟨hsearch, Or.inl ⟨hs, rfl⟩⟩

/-- A way of two parts is walked one part after the other. -/
theorem walk_append_ok_iff {loc l : Location} {xs ys : List String} :
    fs.walk loc (xs ++ ys) = .ok l ↔ ∃ l', fs.walk loc xs = .ok l' ∧ fs.walk l' ys = .ok l := by
  rw [walk, List.foldlM_append, ← walk]
  cases hxs : fs.walk loc xs with
  | error f => simp [Bind.bind, Except.bind]
  | ok l' => simp [Bind.bind, Except.bind, walk]

theorem walk_cons_ok_iff {loc l : Location} {s : String} {rest : List String} :
    fs.walk loc (s :: rest) = .ok l ↔ ∃ l', fs.next loc s = .ok l' ∧ fs.walk l' rest = .ok l := by
  rw [walk, List.foldlM_cons]
  cases hs : fs.next loc s with
  | error f => simp [Bind.bind, Except.bind]
  | ok l' => simp [Bind.bind, Except.bind, walk]

/-- Slashes and dots do not leave a directory that can be searched. -/
theorem walk_of_isIdle {loc : Location} {xs : List String}
    (hsearch : ∀ s ∈ xs, fs.searchFault? loc s = none)
    (hxs : ∀ s ∈ xs, Path.isIdle s = true) : fs.walk loc xs = .ok loc := by
  induction xs with
  | nil => rfl
  | cons s xs ih =>
    have hs := next_of_isIdle (hsearch s List.mem_cons_self) (hxs s List.mem_cons_self)
    refine walk_cons_ok_iff.2 ⟨loc, hs, ih ?_ ?_⟩
    · exact fun s' hs' => hsearch s' (List.mem_cons_of_mem s hs')
    · exact fun s' hs' => hxs s' (List.mem_cons_of_mem s hs')

/-! ## Placing -/

theorem entry?_place_self {loc : Location} (e : Entry) (hloc : loc ≠ []) :
    entry? (fs.place loc e) loc = some e := by
  cases loc with
  | nil => exact absurd rfl hloc
  | cons n above => simp [FileSystem.entry?, place]

theorem entry?_place_of_ne {loc l : Location} (e : Entry) (hl : l ≠ loc) :
    entry? (fs.place loc e) l = fs.entry? l := by
  cases l with
  | nil => rfl
  | cons n above => simp [FileSystem.entry?, place, hl]

theorem access_place (loc : Location) (e : Entry) : (fs.place loc e).access = fs.access := rfl

theorem place_place (fs : FileSystem) (loc : Location) (e e' : Entry) :
    (fs.place loc e).place loc e' = fs.place loc e' := by
  rw [place, place, place]
  congr 1
  funext l
  by_cases hl : l = loc
  · rw [if_pos hl, if_pos hl]
  · simp only [if_neg hl]

section Place

variable {loc : Location} (e : Entry) (hloc : fs.entry? loc ≠ some .directory)

include hloc

theorem entry?_place_of_directory {l : Location} (hl : fs.entry? l = some .directory) :
    entry? (fs.place loc e) l = some .directory := by
  have hne : l ≠ loc := by
    rintro rfl
    exact hloc hl
  rw [entry?_place_of_ne e hne, hl]

theorem isSome_entry?_place {l : Location} (hl : (fs.entry? l).isSome = true) :
    (FileSystem.entry? (fs.place loc e) l).isSome = true := by
  by_cases hne : l = loc
  · subst hne
    have hroot : l ≠ [] := by
      rintro rfl
      exact hloc rfl
    rw [entry?_place_self e hroot]
    rfl
  · rw [entry?_place_of_ne e hne]
    exact hl

theorem searchFault?_place {l : Location} {s : String} (h : fs.searchFault? l s = none) :
    (fs.place loc e).searchFault? l s = none := by
  rw [searchFault?_eq_none_iff] at h ⊢
  exact ⟨entry?_place_of_directory e hloc h.1, h.2⟩

/-- A step that could be taken can be taken still, after something was placed where no directory
is. -/
theorem next_place {l l' : Location} {s : String} (h : fs.next l s = .ok l') :
    (fs.place loc e).next l s = .ok l' := by
  rw [next_ok_iff] at h ⊢
  obtain ⟨hsearch, hstep⟩ := h
  refine ⟨searchFault?_place e hloc hsearch, hstep.imp_right (Or.imp_right ?_)⟩
  rintro ⟨hidle, hup, hlength, hsome, hl⟩
  exact ⟨hidle, hup, hlength, isSome_entry?_place e hloc hsome, hl⟩

/-- What could be walked can be walked still. -/
theorem walk_place {start l : Location} {xs : List String} (h : fs.walk start xs = .ok l) :
    (fs.place loc e).walk start xs = .ok l := by
  induction xs generalizing start with
  | nil => exact h
  | cons s xs ih =>
    obtain ⟨l', hs, hxs⟩ := walk_cons_ok_iff.1 h
    exact walk_cons_ok_iff.2 ⟨l', next_place e hloc hs, ih hxs⟩

end Place

/-! ## Targets -/

/-- The last step of a path stands in front of the slashes at its end. -/
theorem segments_eq_of_dropWhile {path last : String} {before : List String}
    (h : (Path.segments path).reverse.dropWhile (· == "") = last :: before) :
    last ≠ "" ∧ ∃ slashes, Path.segments path = before.reverse ++ last :: slashes ∧
      (∀ s ∈ slashes, s = "") ∧
      ((Path.segments path).reverse.head? ≠ some "" → slashes = []) := by
  have hsplit : (Path.segments path).reverse.takeWhile (· == "") ++
      (Path.segments path).reverse.dropWhile (· == "") = (Path.segments path).reverse :=
    List.takeWhile_append_dropWhile
  rw [h] at hsplit
  set slashes := (Path.segments path).reverse.takeWhile (· == "") with hslashes
  have hempty : ∀ s ∈ slashes, s = "" := by
    intro s hs
    simpa using List.mem_takeWhile_imp hs
  refine ⟨?_, slashes.reverse, ?_, fun s hs => hempty s (List.mem_reverse.1 hs), ?_⟩
  · have hlast := List.head?_dropWhile_not (· == "") (Path.segments path).reverse
    rw [h] at hlast
    simpa using hlast
  · rw [← List.reverse_inj, ← hsplit]
    simp
  · intro hhead
    cases hs : slashes with
    | nil => rfl
    | cons s rest =>
      rw [← hsplit, hs] at hhead
      exact absurd (congrArg some (hempty s (by rw [hs]; exact List.mem_cons_self))) hhead

/-- What is known of a name that a path would give to something new. -/
structure IsNamed (fs : FileSystem) (path : String) (loc : Location) (name : String)
    (slash : Bool) : Prop where
  noFault : FileFault.ofPath? path = none
  search : fs.searchFault? loc name = none
  notIdle : Path.isIdle name = false
  notUp : name ≠ ".."
  way : ∃ before slashes, Path.segments path = before ++ name :: slashes ∧
    (∀ s ∈ slashes, s = "") ∧ (slash = false → slashes = []) ∧
    fs.walk (fs.origin path) before = .ok loc

theorem isNamed_of_target {path : String} {loc : Location} {name : String} {slash : Bool}
    (h : fs.target path = .ok (.named loc name slash)) : fs.IsNamed path loc name slash := by
  unfold target at h
  split at h
  · cases h
  · rename_i hpath
    simp only at h
    split at h
    · cases h
    · rename_i last before hdrop
      obtain ⟨hlast, slashes, hsegments, hempty, hnone⟩ := segments_eq_of_dropWhile hdrop
      split at h
      · cases h
      · rename_i l hwalk
        split at h
        · cases h
        · rename_i hsearch
          split_ifs at h with hdots
          · cases h
          · cases h
            simp only [Bool.or_eq_true, beq_iff_eq, not_or] at hdots
            refine ⟨hpath, hsearch, by simp [Path.isIdle, hlast, hdots.1], hdots.2,
              before.reverse, slashes, hsegments, hempty, ?_, hwalk⟩
            intro hslash
            exact hnone (by simpa only [beq_eq_false_iff_ne] using hslash)

/-- Placing something where no directory is changes no target. -/
theorem target_place {loc : Location} (e : Entry) (hloc : fs.entry? loc ≠ some .directory)
    {path : String} {t : Target} (h : fs.target path = .ok t) :
    (fs.place loc e).target path = .ok t := by
  unfold target at h ⊢
  split at h
  · cases h
  · simp only at h ⊢
    split at h
    · exact h
    · split at h
      · cases h
      · rename_i l hwalk
        have hwalk' := walk_place e hloc hwalk
        split at h
        · cases h
        · rename_i hsearch
          have horigin : (fs.place loc e).origin path = fs.origin path := rfl
          rw [horigin, hwalk']
          simp only [searchFault?_place e hloc hsearch]
          exact h

/-- What a path leads to, once something was placed where the path would make it. -/
theorem locate_place {path : String} {loc : Location} {name : String} {slash : Bool} {e : Entry}
    (h : fs.target path = .ok (.named loc name slash))
    (hloc : fs.entry? (name :: loc) ≠ some .directory)
    (hlength : name.utf8ByteSize ≤ longestName) (hslash : slash = true → e = .directory) :
    (fs.place (name :: loc) e).locate path = .ok (name :: loc) := by
  obtain ⟨hpath, hsearch, hidle, hup, before, slashes, hsegments, hempty, hnone, hwalk⟩ :=
    isNamed_of_target h
  have hself : entry? (fs.place (name :: loc) e) (name :: loc) = some e :=
    entry?_place_self e (List.cons_ne_nil name loc)
  -- only a directory lets the slashes behind its name be walked
  have hslashes : (fs.place (name :: loc) e).walk (name :: loc) slashes = .ok (name :: loc) := by
    cases slash with
    | false =>
      rw [hnone rfl]
      rfl
    | true =>
      rw [hslash rfl] at hself ⊢
      refine walk_of_isIdle ?_ fun s hs => by rw [hempty s hs]; rfl
      exact fun s hs => searchFault?_eq_none_iff.2 ⟨hself, Or.inl (hempty s hs)⟩
  have hname : (fs.place (name :: loc) e).next loc name = .ok (name :: loc) :=
    next_ok_iff.2 ⟨searchFault?_place e hloc hsearch,
      Or.inr (Or.inr ⟨hidle, hup, hlength, by rw [hself]; rfl, rfl⟩)⟩
  rw [locate, hpath, hsegments]
  exact walk_append_ok_iff.2 ⟨loc, walk_place e hloc hwalk, walk_cons_ok_iff.2 ⟨_, hname, hslashes⟩⟩

/-- What a path names, once it was placed where the path would make it. -/
theorem find_place {path : String} {loc : Location} {name : String} {slash : Bool} {e : Entry}
    (h : fs.target path = .ok (.named loc name slash))
    (hloc : fs.entry? (name :: loc) ≠ some .directory)
    (hlength : name.utf8ByteSize ≤ longestName) (hslash : slash = true → e = .directory) :
    (fs.place (name :: loc) e).find path = .ok e := by
  rw [find, locate_place h hloc hlength hslash]
  simp only [entry?_place_self e (List.cons_ne_nil name loc)]

/-! ## What is there -/

theorem pathExists_iff {path : String} :
    fs.pathExists path = true ↔ ∃ e, fs.find path = .ok e := by
  rw [pathExists]
  cases fs.find path <;> simp

theorem isDirectory_iff {path : String} :
    fs.isDirectory path = true ↔ fs.find path = .ok .directory := by
  rw [isDirectory]
  cases fs.find path with
  | error f => simp
  | ok e => cases e <;> simp [Entry.isDirectory]

theorem find_ok {path : String} {e : Entry} :
    fs.find path = .ok e ↔ ∃ loc, FileFault.ofPath? path = none ∧
      fs.walk (fs.origin path) (Path.segments path) = .ok loc ∧ fs.entry? loc = some e := by
  rw [find, locate]
  cases FileFault.ofPath? path with
  | some f => simp
  | none =>
    simp only [true_and]
    cases fs.walk (fs.origin path) (Path.segments path) with
    | error f => simp
    | ok loc => cases h : fs.entry? loc <;> simp [h]

/-- Directories stay where they are, when something is placed where none is. -/
theorem isDirectory_place {loc : Location} (e : Entry) (hloc : fs.entry? loc ≠ some .directory)
    {path : String} (h : fs.isDirectory path = true) :
    (fs.place loc e).isDirectory path = true := by
  rw [isDirectory_iff, find_ok] at h ⊢
  obtain ⟨l, hpath, hwalk, hdir⟩ := h
  exact ⟨l, hpath, walk_place e hloc hwalk, entry?_place_of_directory e hloc hdir⟩

/-! ## Making directories -/

/-- A path that names something is no way to a new directory. -/
theorem makeDir_of_pathExists {path : String} (h : fs.pathExists path = true) :
    fs.makeDir path = .error .exists := by
  obtain ⟨e, hfind⟩ := pathExists_iff.1 h
  obtain ⟨loc, hpath, hwalk, -⟩ := find_ok.1 hfind
  rw [makeDir, target, hpath]
  simp only
  cases hdrop : (Path.segments path).reverse.dropWhile (· == "") with
  | nil => rfl
  | cons last before =>
    obtain ⟨hlast, slashes, hsegments, -, -⟩ := segments_eq_of_dropWhile hdrop
    rw [hsegments] at hwalk
    obtain ⟨l, hbefore, hrest⟩ := walk_append_ok_iff.1 hwalk
    obtain ⟨l', hnext, -⟩ := walk_cons_ok_iff.1 hrest
    obtain ⟨hsearch, hstep⟩ := next_ok_iff.1 hnext
    simp only [hbefore, hsearch]
    rcases hstep with ⟨hidle, -⟩ | ⟨-, rfl, -⟩ | ⟨hidle, hup, -, hsome, -⟩
    · simp only [Path.isIdle, Bool.or_eq_true, beq_iff_eq, hlast, false_or] at hidle
      simp [hidle]
    · rfl
    · simp only [Path.isIdle, Bool.or_eq_false_iff, beq_eq_false_iff_ne] at hidle
      simp [hidle.2, hup, hsome]

theorem isDirectory_of_makeDir {path : String} (h : fs.makeDir path = .ok fs') :
    fs'.isDirectory path = true := by
  unfold makeDir at h
  split at h
  · cases h
  · cases h
  · rename_i loc name slash htarget
    split_ifs at h with hsome hlength
    split at h
    · cases h
    · cases h
      have hnone : fs.entry? (name :: loc) ≠ some .directory := by
        intro hdir
        exact hsome (by rw [hdir]; rfl)
      rw [isDirectory_iff]
      exact find_place htarget hnone (Nat.not_lt.1 hlength) fun _ => rfl

/-- Making sure of a directory leads to one, or fails. -/
theorem isDirectory_of_ensureDir {path : String} (h : fs.ensureDir path = (.ok (), fs')) :
    fs'.isDirectory path = true := by
  unfold ensureDir at h
  split at h
  · rename_i hmake
    cases h
    exact isDirectory_of_makeDir hmake
  · split_ifs at h with hdir
    · cases h
      exact hdir
    · cases h

theorem ensureDir_of_isDirectory {path : String} (h : fs.isDirectory path = true) :
    fs.ensureDir path = (.ok (), fs) := by
  have hexists : fs.pathExists path = true :=
    pathExists_iff.2 ⟨_, isDirectory_iff.1 h⟩
  rw [ensureDir, makeDir_of_pathExists hexists]
  simp [h]

theorem isDirectory_of_makeChain {path : String} {above : List String}
    (h : fs.makeChain (path :: above) = (.ok (), fs')) : fs'.isDirectory path = true := by
  unfold makeChain at h
  split at h
  · split at h
    · cases h
    · exact isDirectory_of_ensureDir h
  · exact isDirectory_of_ensureDir h

theorem makeChain_of_isDirectory {path : String} (above : List String)
    (h : fs.isDirectory path = true) : fs.makeChain (path :: above) = (.ok (), fs) := by
  have hexists : fs.pathExists path = true :=
    pathExists_iff.2 ⟨_, isDirectory_iff.1 h⟩
  rw [makeChain, makeDir_of_pathExists hexists]
  exact ensureDir_of_isDirectory h

/-! ## Writing -/

theorem any_isDirectory_iff {e : Option Entry} :
    e.any Entry.isDirectory = true ↔ e = some .directory := by
  cases e with
  | none => simp
  | some e => cases e <;> simp [Entry.isDirectory]

/-- A file is written in a directory, under a name that no directory bears, and where nothing
refuses it. -/
theorem writable_ok_iff {path : String} {l : Location} :
    fs.writable path = .ok l ↔
      ∃ loc name, fs.target path = .ok (.named loc name false) ∧
        fs.entry? (name :: loc) ≠ some .directory ∧ fs.writeFault? loc name = none ∧
        name :: loc = l := by
  constructor
  · intro h
    unfold writable at h
    split at h
    · cases h
    · cases h
    · rename_i loc name slash htarget
      split_ifs at h with hdir
      split at h
      · cases h
      · rename_i hfault
        cases h
        rw [Bool.or_eq_true, any_isDirectory_iff, not_or, Bool.not_eq_true] at hdir
        exact ⟨loc, name, hdir.1 ▸ htarget, hdir.2, hfault, rfl⟩
  · rintro ⟨loc, name, htarget, hdir, hfault, rfl⟩
    have hfile : (fs.entry? (name :: loc)).any Entry.isDirectory = false := by
      rw [← Bool.not_eq_true, any_isDirectory_iff]
      exact hdir
    rw [writable, htarget]
    simp [hfile, hfault]

theorem writeFault?_eq_none_iff {loc : Location} {name : String} :
    fs.writeFault? loc name = none ↔
      name.utf8ByteSize ≤ longestName ∧ (fs.access (name :: loc)).changeFault? = none ∧
        ((fs.entry? (name :: loc)).isSome = true ∨ (fs.access loc).changeFault? = none) := by
  rw [writeFault?]
  split_ifs with hlength hsome
  · simp [Nat.not_le.2 hlength]
  · simp [Nat.not_lt.1 hlength, hsome]
  · simp [Nat.not_lt.1 hlength, hsome, Option.or_eq_none_iff, and_comm]

/-- What a file was written at can be read. -/
theorem lookFault?_of_writable {path : String} {l : Location} (h : fs.writable path = .ok l) :
    (fs.access l).lookFault? = none := by
  obtain ⟨loc, name, -, -, hfault, rfl⟩ := writable_ok_iff.1 h
  exact Access.lookFault?_of_changeFault? (writeFault?_eq_none_iff.1 hfault).2.1

section Writable

variable {path : String} {l : Location} (h : fs.writable path = .ok l) (bytes : ByteArray)

include h

/-- Where a path leads, once a file was placed where the path would have it written. -/
theorem locate_place_of_writable : (fs.place l (.file bytes)).locate path = .ok l := by
  obtain ⟨loc, name, htarget, hdir, hfault, rfl⟩ := writable_ok_iff.1 h
  exact locate_place htarget hdir (writeFault?_eq_none_iff.1 hfault).1 (by simp)

/-- A file that was written can be written again in the same place. -/
theorem writable_place : (fs.place l (.file bytes)).writable path = .ok l := by
  obtain ⟨loc, name, htarget, hdir, hfault, rfl⟩ := writable_ok_iff.1 h
  have hself : entry? (fs.place (name :: loc) (.file bytes)) (name :: loc) = some (.file bytes) :=
    entry?_place_self _ (List.cons_ne_nil name loc)
  obtain ⟨hlength, hchange, -⟩ := writeFault?_eq_none_iff.1 hfault
  refine writable_ok_iff.2 ⟨loc, name, target_place (.file bytes) hdir htarget, ?_, ?_, rfl⟩
  · rw [hself]
    simp
  · exact writeFault?_eq_none_iff.2 ⟨hlength, hchange, Or.inl (by rw [hself]; rfl)⟩

theorem ne_directory_of_writable : fs.entry? l ≠ some .directory := by
  obtain ⟨loc, name, -, hdir, -, rfl⟩ := writable_ok_iff.1 h
  exact hdir

theorem ne_nil_of_writable : l ≠ [] := by
  obtain ⟨loc, name, -, -, -, rfl⟩ := writable_ok_iff.1 h
  exact List.cons_ne_nil name loc

end Writable

/-- Writing succeeds where a file can be written and all the bytes get into it. -/
theorem write_ok_iff {path : String} {bytes : ByteArray} :
    fs.write path bytes = (.ok (), fs') ↔
      ∃ l, fs.writable path = .ok l ∧ (fs.access l).fill bytes = (.ok (), bytes) ∧
        fs' = fs.place l (.file bytes) := by
  rw [write]
  cases fs.writable path with
  | error f => simp
  | ok l =>
    simp only [Except.ok.injEq, exists_eq_left', Prod.mk.injEq]
    constructor
    · rintro ⟨hresult, rfl⟩
      have hkept : ((fs.access l).fill bytes).2 = bytes := Access.fill_ok (Prod.ext hresult rfl)
      exact ⟨Prod.ext hresult hkept, congrArg (fun b => fs.place l (.file b)) hkept⟩
    · rintro ⟨hfill, rfl⟩
      rw [hfill]
      exact ⟨rfl, rfl⟩

section Write

variable {path : String} {bytes : ByteArray} (h : fs.write path bytes = (.ok (), fs'))

include h

/-- What was written is there. -/
theorem find_write : fs'.find path = .ok (.file bytes) := by
  obtain ⟨l, hl, -, rfl⟩ := write_ok_iff.1 h
  rw [find, locate_place_of_writable hl]
  simp only [entry?_place_self _ (ne_nil_of_writable hl)]

/-- A file that was written is there. -/
theorem pathExists_write : fs'.pathExists path = true := pathExists_iff.2 ⟨_, find_write h⟩

/-- A file that was written holds what was written, whatever it held before. -/
theorem read_write : fs'.read path = .ok bytes := by
  obtain ⟨l, hl, -, rfl⟩ := write_ok_iff.1 h
  rw [read, locate_place_of_writable hl]
  simp only [access_place, lookFault?_of_writable hl, entry?_place_self _ (ne_nil_of_writable hl)]

/-- To write a file again is to have written it only the last time. -/
theorem write_overwrite (bytes' : ByteArray) : fs'.write path bytes' = fs.write path bytes' := by
  obtain ⟨l, hl, -, rfl⟩ := write_ok_iff.1 h
  rw [write, write, hl, writable_place hl]
  simp only [access_place, place_place]

/-- Directories stay when a file is written. -/
theorem isDirectory_write {directory : String} (hdir : fs.isDirectory directory = true) :
    fs'.isDirectory directory = true := by
  obtain ⟨l, hl, -, rfl⟩ := write_ok_iff.1 h
  exact isDirectory_place _ (ne_directory_of_writable hl) hdir

end Write

/-! ## Saving a file -/

/-- A file was saved: the directories for it were made, and then it was written. -/
def Saved (path : String) (bytes : ByteArray) (fs fs' : FileSystem) : Prop :=
  ∃ made, fs.makeParents path = (.ok (), made) ∧ made.write path bytes = (.ok (), fs')

/-- Any bytes can be saved as a file. -/
def CanSave (fs : FileSystem) (path : String) : Prop :=
  ∀ bytes, ∃ fs', Saved path bytes fs fs'

/-- A file can be saved where, once its directories are made, everything can be done. -/
theorem canSave_of_free {path : String} {l : Location} (hmake : (fs.makeParents path).1 = .ok ())
    (hl : (fs.makeParents path).2.writable path = .ok l)
    (hfree : (fs.makeParents path).2.access l = .free) : fs.CanSave path := by
  intro bytes
  refine ⟨_, _, Prod.ext hmake rfl, write_ok_iff.2 ⟨l, hl, ?_, rfl⟩⟩
  rw [hfree]
  rfl

/-- No directory has to be made for a file that was saved. -/
theorem Saved.makeParents {path : String} {bytes : ByteArray} (h : Saved path bytes fs fs') :
    fs'.makeParents path = (.ok (), fs') := by
  obtain ⟨made, hmake, hwrite⟩ := h
  rw [FileSystem.makeParents] at hmake ⊢
  cases hparents : Path.parents path with
  | nil => rfl
  | cons nearest above =>
    rw [hparents] at hmake
    -- the nearest directory is still there, and no directory above it is looked at
    exact makeChain_of_isDirectory above
      (isDirectory_write hwrite (isDirectory_of_makeChain hmake))

/-- Where any bytes can be saved, they can be saved again after some were. -/
theorem CanSave.saved {path : String} {bytes : ByteArray} (h : fs.CanSave path)
    (hsaved : Saved path bytes fs fs') : fs'.CanSave path := by
  have hmake := hsaved.makeParents
  obtain ⟨made, hmade, hwrite⟩ := hsaved
  intro bytes'
  obtain ⟨fs'', made', hmade', hwrite'⟩ := h bytes'
  obtain rfl : made = made' := congrArg Prod.snd (hmade.symm.trans hmade')
  exact ⟨fs'', fs', hmake, (write_overwrite hwrite bytes').trans hwrite'⟩

end SearchBar.FileSystem
