import SearchBar.CommandLine.Grammar

/-!
# What arguments say

An option can be written in five forms (`Spelling`), and each form is read as what it says, wherever
it stands: a word, a flag and an option add one thing to what was said before, and reading goes on
behind them (`Says`).  What arguments in a row say is what each of them says (`Says.append`,
`Says.flatMap`), and behind two dashes there are only words; so to read them is to accept one thing
after the other (`Grammar.read_of_says`, `Grammar.read_of_says_words`).

A value that is an argument of its own is taken in only with the next thing.  What carries the
proofs through this delay is the draft that a reading comes to when it is settled
(`Grammar.settle`), and not the draft that it holds.
-/

namespace SearchBar.CommandLine

/-! ## Forms of arguments -/

/-- A text that is read as a word or as a value: it does not begin with a dash, or it is a dash
alone. -/
def IsPlain (s : String) : Prop := s = "-" ∨ s.toList.head? ≠ some '-'

instance (s : String) : Decidable (IsPlain s) :=
  inferInstanceAs (Decidable (s = "-" ∨ s.toList.head? ≠ some '-'))

/-- The ways to write an option and its value. -/
inductive Spelling where
  /-- The letter, and the value as an argument of its own. -/
  | letter
  /-- The value right behind the letter. -/
  | joined
  /-- The value behind the letter and an equals sign. -/
  | letterEquals
  /-- The name, and the value as an argument of its own. -/
  | name
  /-- The value behind the name and an equals sign. -/
  | nameEquals
deriving DecidableEq, Repr

namespace Spelling

/-- The arguments in which an option with a letter and a name, and its value, are written. -/
def arguments (letter : Char) (name value : String) : Spelling → List String
  | .letter => [String.ofList ['-', letter], value]
  | .joined => [String.ofList ('-' :: letter :: value.toList)]
  | .letterEquals => [String.ofList ('-' :: letter :: '=' :: value.toList)]
  | .name => ["--" ++ name, value]
  | .nameEquals => ["--" ++ name ++ "=" ++ value]

/-- Whether a value can be written so: as an argument of its own it must not look like an option,
and right behind a letter it must be there, and must not begin with an equals sign. -/
def Fits (value : String) : Spelling → Prop
  | .letter | .name => IsPlain value
  | .joined => value ≠ "" ∧ value.toList.head? ≠ some '='
  | .letterEquals | .nameEquals => True

instance (value : String) : (s : Spelling) → Decidable (s.Fits value)
  | .letter | .name => inferInstanceAs (Decidable (IsPlain value))
  | .joined => inferInstanceAs (Decidable (value ≠ "" ∧ value.toList.head? ≠ some '='))
  | .letterEquals | .nameEquals => inferInstanceAs (Decidable True)

end Spelling

namespace Argument

theorem ofString_plain {s : String} (h : IsPlain s) : ofString s = .plain s := by
  rcases h with rfl | h
  · rfl
  · rw [ofString]
    split
    · rename_i hs
      simp [hs] at h
    · rename_i hs
      simp [hs] at h
    · rename_i hs
      simp [hs] at h
    · rfl

theorem ofString_cluster {c : Char} (hc : c ≠ '-') (cs : List Char) :
    ofString (String.ofList ('-' :: c :: cs)) = .cluster (c :: cs) := by
  rw [ofString, String.toList_ofList]
  split
  · rename_i hs
    exact absurd (List.cons.inj (List.cons.inj hs).2).1 hc
  · rename_i hs
    exact absurd (List.cons.inj (List.cons.inj hs).2).1 hc
  · rename_i hs
    rw [(List.cons.inj hs).2]
  · rename_i hs
    exact absurd rfl (hs c cs)

theorem ofString_long {cs : List Char} (hne : cs ≠ []) :
    ofString (String.ofList ('-' :: '-' :: cs)) =
      match Text.cutChars '=' cs with
      | some (name, value) => .long (String.ofList name) (some (String.ofList value))
      | none => .long (String.ofList cs) none := by
  rw [ofString, String.toList_ofList]
  cases cs with
  | nil => exact absurd rfl hne
  | cons c cs => rfl

theorem ofString_name {name : String} (hne : name ≠ "") (hequals : '=' ∉ name.toList) :
    ofString ("--" ++ name) = .long name none := by
  have hlist : "--" ++ name = String.ofList ('-' :: '-' :: name.toList) := by
    rw [← String.toList_inj]
    simp
  have hname : name.toList ≠ [] := by simpa using hne
  rw [hlist, ofString_long hname, Text.cutChars_eq_none_iff.2 hequals, String.ofList_toList]

theorem ofString_nameEquals {name : String} (hequals : '=' ∉ name.toList) (value : String) :
    ofString ("--" ++ name ++ "=" ++ value) = .long name (some value) := by
  have hlist : "--" ++ name ++ "=" ++ value =
      String.ofList ('-' :: '-' :: (name.toList ++ '=' :: value.toList)) := by
    rw [← String.toList_inj]
    simp
  have hcut : Text.cutChars '=' (name.toList ++ '=' :: value.toList) =
      some (name.toList, value.toList) := Text.cutChars_eq_some_iff.2 ⟨rfl, hequals⟩
  rw [hlist, ofString_long (by simp), hcut]
  simp only [String.ofList_toList]

end Argument

/-! ## Reading one thing -/

section Reading

variable {O F σ : Type} {g : Grammar O F σ} {r : Reading O σ} {said said' : σ}

namespace Grammar

theorem take_of_settle (hr : g.settle r = .ok said) {item : Item O F}
    (haccept : g.accept said item = .ok said') : g.take r item = .ok ⟨said', none⟩ := by
  rw [take, hr]
  simp only [haccept]

theorem await_of_settle (hr : g.settle r = .ok said) (o : O) :
    g.await r o = .ok ⟨said, some (o, none)⟩ := by
  rw [await, hr]

/-- A reading that can be settled waits for no value, so a plain text is a word to it. -/
theorem readPlain_of_settle (hr : g.settle r = .ok said) (text : String) :
    g.readPlain r text = g.readWord r text := by
  obtain ⟨draft, waiting⟩ := r
  match waiting with
  | none => rfl
  | some (o, some value) => rfl
  | some (o, none) => cases hr

/-! ### Letters and names -/

theorem readCluster_flag {c : Char} {f : F} (h : g.short c = some (.flag f)) :
    g.readCluster r [c] = g.take r (.flag f) := by
  simp only [readCluster, h]
  cases g.take r (.flag f) <;> rfl

theorem readCluster_option {c : Char} {o : O} (h : g.short c = some (.option o)) :
    g.readCluster r [c] = g.await r o := by
  rw [readCluster, h]
  rfl

theorem attached_of_head? {cs : List Char} (h : cs.head? ≠ some '=') : attached cs = cs := by
  unfold attached
  split
  · exact absurd rfl h
  · rfl

theorem readCluster_value {c : Char} {o : O} (h : g.short c = some (.option o)) {cs : List Char}
    (hne : cs ≠ []) :
    g.readCluster r (c :: cs) = g.take r (.option o (String.ofList (attached cs))) := by
  rw [readCluster, h]
  exact if_neg (by simpa using hne)

theorem readLong_flag {name : String} {f : F} (h : g.long name = some (.flag f)) :
    g.readLong r name none = g.take r (.flag f) := by
  unfold readLong
  rw [h]

theorem readLong_option {name : String} {o : O} (h : g.long name = some (.option o)) :
    g.readLong r name none = g.await r o := by
  unfold readLong
  rw [h]

theorem readLong_value {name : String} {o : O} (h : g.long name = some (.option o))
    (value : String) : g.readLong r name (some value) = g.take r (.option o value) := by
  unfold readLong
  rw [h]

/-! ### Reading on behind one argument -/

variable {r' : Reading O σ} {rest : List String}

theorem readFrom_plain {text : String} (h : IsPlain text) (hread : g.readPlain r text = .ok r') :
    g.readFrom r (text :: rest) = g.readFrom r' rest := by
  rw [readFrom, Argument.ofString_plain h]
  simp only [hread]

theorem readFrom_cluster {c : Char} {cs : List Char} (hc : c ≠ '-')
    (hread : g.readCluster r (c :: cs) = .ok r') :
    g.readFrom r (String.ofList ('-' :: c :: cs) :: rest) = g.readFrom r' rest := by
  rw [readFrom, Argument.ofString_cluster hc]
  simp only [hread]

theorem readFrom_name {name : String} (hne : name ≠ "") (hequals : '=' ∉ name.toList)
    (hread : g.readLong r name none = .ok r') :
    g.readFrom r (("--" ++ name) :: rest) = g.readFrom r' rest := by
  rw [readFrom, Argument.ofString_name hne hequals]
  simp only [hread]

theorem readFrom_nameEquals {name value : String} (hequals : '=' ∉ name.toList)
    (hread : g.readLong r name (some value) = .ok r') :
    g.readFrom r (("--" ++ name ++ "=" ++ value) :: rest) = g.readFrom r' rest := by
  rw [readFrom, Argument.ofString_nameEquals hequals]
  simp only [hread]

/-- A text behind an option that waits for its value is that value. -/
theorem readFrom_value {value : String} (h : IsPlain value) (said : σ) (o : O) :
    g.readFrom ⟨said, some (o, none)⟩ (value :: rest) =
      g.readFrom ⟨said, some (o, some value)⟩ rest :=
  readFrom_plain h rfl

end Grammar

/-! ## Saying things -/

/-- A step behind which a second one comes to something has come to something itself. -/
theorem exists_of_bind_eq_ok {α β : Type} {x : Except Stop α} {f : α → Except Stop β} {b : β}
    (h : (x >>= f) = .ok b) : ∃ a, x = .ok a ∧ f a = .ok b := by
  cases x with
  | error stop => cases h
  | ok a => exact ⟨a, rfl, h⟩

theorem foldlM_singleton {α β : Type} (f : β → α → Except Stop β) (b : β) (a : α) :
    [a].foldlM f b = f b a := by
  rw [List.foldlM_cons]
  cases f b a <;> rfl

namespace Grammar

/-- Whether arguments say some things.  If these can be accepted behind what was said, then the
reading goes on behind the arguments, from a reading that comes to the same as accepting them. -/
def Says (g : Grammar O F σ) (items : List (Item O F)) (args : List String) : Prop :=
  ∀ ⦃r : Reading O σ⦄ ⦃said said' : σ⦄, g.settle r = .ok said →
    items.foldlM g.accept said = .ok said' →
    ∃ r', g.settle r' = .ok said' ∧ ∀ rest, g.readFrom r (args ++ rest) = g.readFrom r' rest

theorem says_nil : g.Says [] [] := by
  intro r said said' hr hitems
  cases hitems
  exact ⟨r, hr, fun rest => rfl⟩

/-- What arguments in a row say is what the first of them say, and then what the others say. -/
theorem Says.append {items items' : List (Item O F)} {args args' : List String}
    (h : g.Says items args) (h' : g.Says items' args') :
    g.Says (items ++ items') (args ++ args') := by
  intro r said said' hr hitems
  rw [List.foldlM_append] at hitems
  obtain ⟨middle, hfirst, hsecond⟩ := exists_of_bind_eq_ok hitems
  obtain ⟨r₁, hr₁, hread⟩ := h hr hfirst
  obtain ⟨r₂, hr₂, hread'⟩ := h' hr₁ hsecond
  refine ⟨r₂, hr₂, fun rest => ?_⟩
  rw [List.append_assoc, hread, hread']

theorem Says.flatMap {ι : Type} {items : ι → List (Item O F)} {args : ι → List String}
    {xs : List ι} (h : ∀ x ∈ xs, g.Says (items x) (args x)) :
    g.Says (xs.flatMap items) (xs.flatMap args) := by
  induction xs with
  | nil => exact says_nil
  | cons x xs ih =>
    rw [List.flatMap_cons, List.flatMap_cons]
    exact (h x List.mem_cons_self).append (ih fun y hy => h y (List.mem_cons_of_mem x hy))

/-- To say one thing is to read it where it can be accepted. -/
theorem says_singleton {item : Item O F} {args : List String}
    (h : ∀ {r : Reading O σ} {said said' : σ}, g.settle r = .ok said →
      g.accept said item = .ok said' →
      ∃ r', g.settle r' = .ok said' ∧ ∀ rest, g.readFrom r (args ++ rest) = g.readFrom r' rest) :
    g.Says [item] args := by
  intro r said said' hr hitem
  rw [foldlM_singleton] at hitem
  exact h hr hitem

theorem says_word (hwords : g.takesWords = true) {w : String} (h : IsPlain w) :
    g.Says [.word w] [w] := by
  refine says_singleton fun {r said said'} hr haccept => ⟨⟨said', none⟩, rfl, fun rest => ?_⟩
  have hread : g.readPlain r w = .ok ⟨said', none⟩ := by
    rw [readPlain_of_settle hr, readWord, if_pos hwords, take_of_settle hr haccept]
  exact readFrom_plain h hread

theorem says_flag_letter {c : Char} {f : F} (hc : c ≠ '-') (hshort : g.short c = some (.flag f)) :
    g.Says [.flag f] [String.ofList ['-', c]] := by
  refine says_singleton fun {r said said'} hr haccept => ⟨⟨said', none⟩, rfl, fun rest => ?_⟩
  have hread : g.readCluster r [c] = .ok ⟨said', none⟩ :=
    (readCluster_flag hshort).trans (take_of_settle hr haccept)
  exact readFrom_cluster hc hread

theorem says_flag_name {name : String} {f : F} (hne : name ≠ "") (hequals : '=' ∉ name.toList)
    (hlong : g.long name = some (.flag f)) : g.Says [.flag f] ["--" ++ name] := by
  refine says_singleton fun {r said said'} hr haccept => ⟨⟨said', none⟩, rfl, fun rest => ?_⟩
  have hread : g.readLong r name none = .ok ⟨said', none⟩ :=
    (readLong_flag hlong).trans (take_of_settle hr haccept)
  exact readFrom_name hne hequals hread

/-- An option says the same in each of the five forms in which its value can be written. -/
theorem says_option {c : Char} {name value : String} {o : O} (hc : c ≠ '-')
    (hshort : g.short c = some (.option o)) (hne : name ≠ "") (hequals : '=' ∉ name.toList)
    (hlong : g.long name = some (.option o)) {s : Spelling} (h : s.Fits value) :
    g.Says [.option o value] (s.arguments c name value) := by
  refine says_singleton fun {r said said'} hr haccept => ?_
  have htake := take_of_settle hr haccept
  have hawait := await_of_settle hr o
  cases s with
  | letter =>
    -- the value waits, so it is only accepted when the reading is settled
    refine ⟨⟨said, some (o, some value)⟩, haccept, fun rest => ?_⟩
    have hread := (readCluster_option hshort).trans hawait
    exact (readFrom_cluster hc hread).trans (readFrom_value h said o)
  | joined =>
    obtain ⟨hvalue, hhead⟩ := h
    refine ⟨⟨said', none⟩, rfl, fun rest => readFrom_cluster hc ?_⟩
    rw [readCluster_value hshort (by simpa using hvalue), attached_of_head? hhead,
      String.ofList_toList, htake]
  | letterEquals =>
    refine ⟨⟨said', none⟩, rfl, fun rest => readFrom_cluster hc ?_⟩
    rw [readCluster_value hshort (by simp), attached, String.ofList_toList, htake]
  | name =>
    refine ⟨⟨said, some (o, some value)⟩, haccept, fun rest => ?_⟩
    have hread := (readLong_option hlong).trans hawait
    exact (readFrom_name hne hequals hread).trans (readFrom_value h said o)
  | nameEquals =>
    refine ⟨⟨said', none⟩, rfl, fun rest => readFrom_nameEquals hequals ?_⟩
    rw [readLong_value hlong, htake]

/-! ## Reading the whole -/

/-- To read arguments is to accept what they say, one thing after the other. -/
theorem read_of_says {items : List (Item O F)} {args : List String} (h : g.Says items args)
    {start : σ} (hitems : items.foldlM g.accept start = .ok said) :
    g.read start args = .ok said := by
  obtain ⟨r, hr, hread⟩ := h (r := ⟨start, none⟩) rfl hitems
  have hend : g.readFrom ⟨start, none⟩ args = .ok r := by
    have hread := hread []
    rw [List.append_nil] at hread
    rw [hread, readFrom]
  rw [read, hend]
  exact hr

/-- Words that are read as such are accepted one after the other. -/
theorem readWords_of_settle (hwords : g.takesWords = true) {words : List String}
    (hr : g.settle r = .ok said) (h : (words.map Item.word).foldlM g.accept said = .ok said') :
    ∃ r', g.readWords r words = .ok r' ∧ g.settle r' = .ok said' := by
  induction words generalizing r said with
  | nil =>
    cases h
    exact ⟨r, rfl, hr⟩
  | cons w words ih =>
    rw [List.map_cons, List.foldlM_cons] at h
    obtain ⟨middle, haccept, hwords'⟩ := exists_of_bind_eq_ok h
    obtain ⟨r', hread, hr'⟩ := ih (r := ⟨middle, none⟩) rfl hwords'
    refine ⟨r', ?_, hr'⟩
    rw [readWords, readWord, if_pos hwords, take_of_settle hr haccept]
    exact hread

/-- Behind two dashes there are only words, whatever they look like. -/
theorem read_of_says_words (hwords : g.takesWords = true) {items : List (Item O F)}
    {args : List String} (h : g.Says items args) {words : List String} {start : σ}
    (hitems : (items ++ words.map Item.word).foldlM g.accept start = .ok said) :
    g.read start (args ++ "--" :: words) = .ok said := by
  rw [List.foldlM_append] at hitems
  obtain ⟨middle, hfirst, hsecond⟩ := exists_of_bind_eq_ok hitems
  obtain ⟨r, hr, hread⟩ := h (r := ⟨start, none⟩) rfl hfirst
  obtain ⟨r', hread', hr'⟩ := readWords_of_settle hwords hr hsecond
  have hend : g.readFrom ⟨start, none⟩ (args ++ "--" :: words) = .ok r' := by
    rw [hread, readFrom]
    exact hread'
  rw [read, hend]
  exact hr'

end Grammar

end Reading

end SearchBar.CommandLine
