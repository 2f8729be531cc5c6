import Mathlib.Data.List.Induction
import SearchBar.Proofs.Arguments
import SearchBar.Proofs.Commands

/-!
# Where options stand among the words

The arguments of a parse command can be arranged in many ways: options, flags and words may be
mixed, an option has five spellings, names may be given one by one or several in a value, and words
may stand behind two dashes (`Arrangement`).  What they say is accepted without a conflict as long
as the configuration file and each flag are mentioned once at most, and the draft that it comes to
has a closed form (`ParseDraft.foldlM_accept`).  So every arrangement is read as its words in order
and its names in order, and what a run of it does depends on the names only through the set of those
that are not empty (`Arrangement.read_run`).
-/

namespace SearchBar

/-- An environment that adds nothing to the arguments of a parse command. -/
structure Environment.Silent (env : Environment) : Prop where
  keywords : env.get? "SQP_KEYWORDS" = none
  ranges : env.get? "SQP_RANGES" = none
  config : env.get? "SQP_CONFIG" = none

namespace CommandLine

/-! ## What was said, by kind -/

section Items

variable {O F : Type}

/-- The word that a thing is. -/
@[simp]
def Item.word? : Item O F → Option String
  | .word w => some w
  | _ => none

/-- The value that a thing gives to an option. -/
@[simp]
def Item.value? [DecidableEq O] (o : O) : Item O F → Option String
  | .option o' value => if o' = o then some value else none
  | _ => none

/-- The flag that a thing is. -/
@[simp]
def Item.flag? : Item O F → Option F
  | .flag f => some f
  | _ => none

/-- The words among some things, in order. -/
def wordsOf (items : List (Item O F)) : List String := items.filterMap Item.word?

/-- The values that some things give to an option, in order. -/
def valuesOf [DecidableEq O] (o : O) (items : List (Item O F)) : List String :=
  items.filterMap (Item.value? o)

/-- The flags among some things, in order. -/
def flagsOf (items : List (Item O F)) : List F := items.filterMap Item.flag?

@[simp]
theorem wordsOf_concat (items : List (Item O F)) (item : Item O F) :
    wordsOf (items ++ [item]) = wordsOf items ++ item.word?.toList := by
  rw [wordsOf, List.filterMap_append]
  cases item <;> rfl

@[simp]
theorem valuesOf_concat [DecidableEq O] (o : O) (items : List (Item O F)) (item : Item O F) :
    valuesOf o (items ++ [item]) = valuesOf o items ++ (item.value? o).toList := by
  rw [valuesOf, List.filterMap_append, List.filterMap_cons, List.filterMap_nil]
  cases item.value? o <;> rfl

@[simp]
theorem flagsOf_concat (items : List (Item O F)) (item : Item O F) :
    flagsOf (items ++ [item]) = flagsOf items ++ item.flag?.toList := by
  rw [flagsOf, List.filterMap_append]
  cases item <;> rfl

end Items

/-! ## Accepting without a conflict -/

/-- Things that can be said of a parse command together: no flag comes twice, and the configuration
file is named once at most, by a path that is not empty. -/
structure Consistent (items : List (Item ParseOption ParseFlag)) : Prop where
  flags : (flagsOf items).Nodup
  config : (valuesOf .config items).length ≤ 1
  path : "" ∉ valuesOf .config items

theorem Consistent.of_concat {items : List (Item ParseOption ParseFlag)}
    {item : Item ParseOption ParseFlag} (h : Consistent (items ++ [item])) : Consistent items := by
  obtain ⟨hflags, hconfig, hpath⟩ := h
  rw [flagsOf_concat] at hflags
  rw [valuesOf_concat] at hconfig hpath
  refine ⟨?_, ?_, ?_⟩
  · exact (List.nodup_append.1 hflags).1
  · rw [List.length_append] at hconfig
    omega
  · exact fun hm => hpath (List.mem_append_left _ hm)

namespace ParseDraft

/-- The names in the values that were given, if any were. -/
def listed : List String → Option (List String)
  | [] => none
  | v :: vs => some ((v :: vs).flatMap names)

theorem listed_concat (vs : List String) (v : String) :
    listed (vs ++ [v]) = some ((listed vs).getD [] ++ names v) := by
  cases vs <;> simp [listed]

/-- The draft that some things come to. -/
def ofItems (items : List (Item ParseOption ParseFlag)) : ParseDraft where
  query := wordsOf items
  keywords := listed (valuesOf .keyword items)
  ranges := listed (valuesOf .range items)
  config := (valuesOf .config items).head?
  pretty := decide (.pretty ∈ flagsOf items)
  noHistory := decide (.noHistory ∈ flagsOf items)

theorem accept_ofItems {items : List (Item ParseOption ParseFlag)}
    {item : Item ParseOption ParseFlag} (h : Consistent (items ++ [item]))
    (hhelp : item.flag? ≠ some .help) :
    (ofItems items).accept item = .ok (ofItems (items ++ [item])) := by
  obtain ⟨hflags, hconfig, hpath⟩ := h
  rw [flagsOf_concat] at hflags
  rw [valuesOf_concat] at hconfig hpath
  cases item with
  | word w => simp [accept, ofItems]
  | option o value =>
    cases o with
    | keyword => simp [accept, addKeywords, ofItems, listed_concat]
    | range => simp [accept, addRanges, ofItems, listed_concat]
    | config =>
      have hnone : valuesOf .config items = [] := by
        simpa using hconfig
      have hvalue : value ≠ "" := by
        rintro rfl
        simp at hpath
      simp [accept, ofItems, hnone, hvalue]
  | flag f =>
    have hnew : f ∉ flagsOf items := by
      intro hf
      exact (List.nodup_append.1 hflags).2.2 f hf f (by simp) rfl
    cases f with
    | pretty => simp [accept, ofItems, hnew]
    | noHistory => simp [accept, ofItems, hnew]
    | help => exact absurd rfl hhelp

/-- Things that can be said together and do not ask for help are accepted, and what they come to
does not depend on how the words, the values of each option and the flags are mixed. -/
theorem foldlM_accept {items : List (Item ParseOption ParseFlag)} (h : Consistent items)
    (hhelp : ∀ item ∈ items, item.flag? ≠ some .help) :
    items.foldlM accept {} = .ok (ofItems items) := by
  -- the last thing is accepted by the draft that all the others come to
  induction items using List.reverseRecOn with
  | nil => rfl
  | append_singleton items item ih =>
    have hbefore := ih h.of_concat fun x hx => hhelp x (List.mem_append_left _ hx)
    have hlast := accept_ofItems h (hhelp item (List.mem_append_right _ List.mem_cons_self))
    rw [List.foldlM_append, hbefore]
    exact (foldlM_singleton accept _ item).trans hlast

/-- Where the environment adds nothing, the arguments are what was said. -/
theorem finish_ofItems {env : Environment} (silent : env.Silent)
    {items : List (Item ParseOption ParseFlag)} (h : Consistent items)
    (hwords : wordsOf items ≠ []) :
    (ofItems items).finish env = .ok {
      query := wordsOf items
      keywords := (valuesOf .keyword items).flatMap (Text.splitAt ',')
      ranges := (valuesOf .range items).flatMap (Text.splitAt ',')
      config := (valuesOf .config items).head?
      pretty := decide (.pretty ∈ flagsOf items)
      noHistory := decide (.noHistory ∈ flagsOf items) } := by
  have hpath : (valuesOf .config items).head? ≠ some "" := by
    intro hhead
    exact h.path (List.mem_of_mem_head? hhead)
  simp only [finish, ofItems, silent.keywords, silent.ranges, silent.config, Option.or_none]
  rw [if_neg hpath, if_neg (by simpa using hwords)]
  -- without a value there are no names, as the environment has none either
  cases valuesOf .keyword items <;> cases valuesOf .range items <;> rfl

end ParseDraft

/-! ## Arrangements -/

/-- The letter of an option. -/
def ParseOption.letter : ParseOption → Char
  | .keyword => 'k'
  | .range => 'r'
  | .config => 'c'

/-- The name of an option. -/
def ParseOption.name : ParseOption → String
  | .keyword => "keyword"
  | .range => "range"
  | .config => "config"

/-- One thing that the arguments of a parse command mention, and how it is written. -/
inductive Mention where
  | word (w : String)
  | option (o : ParseOption) (value : String) (spelling : Spelling)
  /-- The flag for a record in many lines, by its letter or by its name. -/
  | pretty (byLetter : Bool)
  | noHistory
deriving DecidableEq, Repr

namespace Mention

/-- What is mentioned. -/
def item : Mention → Item ParseOption ParseFlag
  | .word w => .word w
  | .option o value _ => .option o value
  | .pretty _ => .flag .pretty
  | .noHistory => .flag .noHistory

/-- The arguments in which it is written. -/
def arguments : Mention → List String
  | .word w => [w]
  | .option o value spelling => spelling.arguments o.letter o.name value
  | .pretty byLetter => [if byLetter then "-p" else "--pretty"]
  | .noHistory => ["--no-history"]

/-- Whether it can be written so. -/
def Fits : Mention → Prop
  | .word w => IsPlain w
  | .option _ value spelling => spelling.Fits value
  | .pretty _ => True
  | .noHistory => True

instance : (m : Mention) → Decidable m.Fits
  | .word w => inferInstanceAs (Decidable (IsPlain w))
  | .option _ value spelling => inferInstanceAs (Decidable (spelling.Fits value))
  | .pretty _ => inferInstanceAs (Decidable True)
  | .noHistory => inferInstanceAs (Decidable True)

theorem says_arguments {m : Mention} (h : m.Fits) : parseGrammar.Says [m.item] m.arguments := by
  cases m with
  | word w => exact Grammar.says_word rfl h
  | option o value spelling =>
    refine Grammar.says_option ?_ ?_ ?_ ?_ ?_ h
    · cases o <;> decide
    · cases o <;> rfl
    · cases o <;> decide
    · cases o <;> decide
    · cases o <;> rfl
  | pretty byLetter =>
    cases byLetter with
    | true => exact Grammar.says_flag_letter (by decide : 'p' ≠ '-') rfl
    | false => exact Grammar.says_flag_name (by decide : "pretty" ≠ "") (by decide) rfl
  | noHistory => exact Grammar.says_flag_name (by decide : "no-history" ≠ "") (by decide) rfl

end Mention

/-- The arguments of a parse command: options, flags and words, mixed in any way, and then the words
behind two dashes, if the dashes are there. -/
structure Arrangement where
  mentions : List Mention
  behind : Option (List String) := none
deriving DecidableEq, Repr

namespace Arrangement

/-- The arguments as they are written. -/
def arguments (a : Arrangement) : List String :=
  a.mentions.flatMap Mention.arguments ++
    match a.behind with
    | none => []
    | some words => "--" :: words

/-- All things that are mentioned; behind two dashes there are only words. -/
def items (a : Arrangement) : List (Item ParseOption ParseFlag) :=
  a.mentions.map Mention.item ++ (a.behind.getD []).map Item.word

/-- The words, in order. -/
def words (a : Arrangement) : List String := wordsOf a.items

/-- The pieces of all values of an option between commas, in order. -/
def names (a : Arrangement) (o : ParseOption) : List String :=
  (valuesOf o a.items).flatMap (Text.splitAt ',')

/-- The configuration file that is named. -/
def config? (a : Arrangement) : Option String := (valuesOf .config a.items).head?

/-- Whether a flag is set. -/
def isSet (a : Arrangement) (f : ParseFlag) : Bool := decide (f ∈ flagsOf a.items)

/-- An arrangement in which there is a word, and all is written as it can be and can be said
together. -/
structure WellFormed (a : Arrangement) : Prop where
  fits : ∀ m ∈ a.mentions, m.Fits
  words : a.words ≠ []
  consistent : Consistent a.items

/-- No arrangement asks for help. -/
theorem flag?_ne_help {a : Arrangement} {item : Item ParseOption ParseFlag}
    (h : item ∈ a.items) : item.flag? ≠ some .help := by
  rcases List.mem_append.1 h with hm | hw
  · obtain ⟨m, -, rfl⟩ := List.mem_map.1 hm
    cases m <;> exact nofun
  · obtain ⟨w, -, rfl⟩ := List.mem_map.1 hw
    exact nofun

/-- What an arrangement asks for. -/
def asked (a : Arrangement) : ParseArguments where
  query := a.words
  keywords := a.names .keyword
  ranges := a.names .range
  config := a.config?
  pretty := a.isSet .pretty
  noHistory := a.isSet .noHistory

/-- The arguments are accepted one mention after the other, and then word by word. -/
theorem WellFormed.read_arguments {a : Arrangement} (h : a.WellFormed) :
    parseGrammar.read {} a.arguments = .ok (.ofItems a.items) := by
  have hitems := ParseDraft.foldlM_accept h.consistent fun item hitem => flag?_ne_help hitem
  have hsays : parseGrammar.Says (a.mentions.map Mention.item)
      (a.mentions.flatMap Mention.arguments) := by
    rw [List.map_eq_flatMap]
    exact Grammar.Says.flatMap fun m hm => Mention.says_arguments (h.fits m hm)
  obtain ⟨mentions, behind⟩ := a
  cases behind with
  | none =>
    have harguments : Arrangement.arguments ⟨mentions, none⟩ =
        mentions.flatMap Mention.arguments := List.append_nil _
    have hall : Arrangement.items ⟨mentions, none⟩ = mentions.map Mention.item :=
      List.append_nil _
    rw [hall] at hitems ⊢
    rw [harguments]
    exact Grammar.read_of_says hsays hitems
  | some words => exact Grammar.read_of_says_words rfl hsays hitems

theorem WellFormed.read_parse {a : Arrangement} (h : a.WellFormed) {env : Environment}
    (silent : env.Silent) :
    CommandLine.read env ("parse" :: a.arguments) = .ok (.parse a.asked) := by
  have hparse : readParse env a.arguments = .ok a.asked := by
    rw [readParse, h.read_arguments]
    exact ParseDraft.finish_ofItems silent h.consistent h.words
  have hform : Argument.ofString "parse" = .plain "parse" := rfl
  have htopic : topic? "parse" = some .parse := rfl
  simp only [CommandLine.read, hform, htopic, hparse]

end Arrangement

end CommandLine

open CommandLine (Arrangement)

/-! ## The whole -/

/-- Every arrangement is read as its words in order, and as the names in the values of each option
in order, wherever the options stand among the words and however they are spelled.  So if two
arrangements have the same words, the same names apart from empty ones, and the same configuration
file, and both or neither ask for a record in many lines, then they write the same and fail in the
same way; and if both or neither keep a record, they also tell the same and leave the same files. -/
theorem CommandLine.Arrangement.read_run {a : Arrangement} (h : a.WellFormed) {env : Environment}
    (silent : env.Silent) :
    CommandLine.read env ("parse" :: a.arguments) = .ok (.parse {
        query := a.words
        keywords := a.names .keyword
        ranges := a.names .range
        config := a.config?
        pretty := a.isSet .pretty
        noHistory := a.isSet .noHistory }) ∧
      ∀ b : Arrangement, b.WellFormed → a.words = b.words →
        (∀ n ≠ "", n ∈ a.names .keyword ↔ n ∈ b.names .keyword) →
        (∀ n ≠ "", n ∈ a.names .range ↔ n ∈ b.names .range) →
        a.config? = b.config? → a.isSet .pretty = b.isSet .pretty →
        ∃ c c' : Command, CommandLine.read env ("parse" :: a.arguments) = .ok c ∧
          CommandLine.read env ("parse" :: b.arguments) = .ok c' ∧
          ∀ fs : FileSystem,
            let run := (c.run (m := StateM FileSystem) env).run fs
            let run' := (c'.run (m := StateM FileSystem) env).run fs
            run.1.out = run'.1.out ∧ run.1.failure = run'.1.failure ∧
              (a.isSet .noHistory = b.isSet .noHistory → run = run') := by
  refine ⟨h.read_parse silent, ?_⟩
  intro b h' hwords hkeywords hranges hconfig hpretty
  refine ⟨.parse a.asked, .parse b.asked, h.read_parse silent, h'.read_parse silent, ?_⟩
  have hgiven : a.asked.givenOptions = b.asked.givenOptions :=
    ParseArguments.givenOptions_congr hkeywords hranges
  intro fs run run'
  -- `a` runs like `b` would if it kept a record exactly when `a` does
  have hrun : run = (runParse (m := StateM FileSystem) env
      { b.asked with noHistory := a.asked.noHistory }).run fs :=
    congrArg (StateT.run · fs) (runParse_congr env hwords hgiven hconfig hpretty rfl)
  obtain ⟨hout, hfailure⟩ := out_runParse_noHistory env b.asked fs a.asked.noHistory
  rw [← hrun] at hout hfailure
  refine ⟨hout, hfailure, ?_⟩
  intro hhistory
  exact congrArg (StateT.run · fs) (runParse_congr env hwords hgiven hconfig hpretty hhistory)

/-- The same words and names twice, with the options before, between and behind the words, spelled
in five ways, one name given twice and an empty one beside it.  Only the second command keeps no
record. -/
theorem CommandLine.Arrangement.read_run_mixed :
    let env : Environment := ⟨[("HOME", "/home")], none⟩
    let a : Arrangement := ⟨[.option .keyword "tag,author" .letter, .word "tag:a,b",
      .option .range "date" .nameEquals, .pretty true], some ["-x"]⟩
    let b : Arrangement := ⟨[.option .range "date" .joined, .word "tag:a,b",
      .option .keyword "author" .name, .pretty false, .option .keyword "tag,,tag" .letterEquals,
      .noHistory], some ["-x"]⟩
    a.arguments = ["-k", "tag,author", "tag:a,b", "--range=date", "-p", "--", "-x"] ∧
      b.arguments = ["-rdate", "tag:a,b", "--keyword", "author", "--pretty", "-k=tag,,tag",
        "--no-history", "--", "-x"] ∧
      CommandLine.read env ("parse" :: a.arguments) = .ok (.parse
        ⟨["tag:a,b", "-x"], ["tag", "author"], ["date"], none, true, false⟩) ∧
      CommandLine.read env ("parse" :: b.arguments) = .ok (.parse
        ⟨["tag:a,b", "-x"], ["author", "tag", "", "tag"], ["date"], none, true, true⟩) ∧
      ∃ c c' : Command, CommandLine.read env ("parse" :: a.arguments) = .ok c ∧
        CommandLine.read env ("parse" :: b.arguments) = .ok c' ∧
        ∀ fs : FileSystem, ((c.run (m := StateM FileSystem) env).run fs).1.out =
          ((c'.run (m := StateM FileSystem) env).run fs).1.out := by
  intro env a b
  have ha : a.WellFormed := by
    refine ⟨?_, ?_, ?_, ?_, ?_⟩ <;> decide +kernel
  have hb : b.WellFormed := by
    refine ⟨?_, ?_, ?_, ?_, ?_⟩ <;> decide +kernel
  have silent : env.Silent := by
    refine ⟨?_, ?_, ?_⟩ <;> decide +kernel
  have hasked : a.asked = ⟨["tag:a,b", "-x"], ["tag", "author"], ["date"], none, true, false⟩ := by
    decide +kernel
  have hasked' : b.asked =
      ⟨["tag:a,b", "-x"], ["author", "tag", "", "tag"], ["date"], none, true, true⟩ := by
    decide +kernel
  have hkeywords : ∀ n ≠ "", n ∈ a.asked.keywords ↔ n ∈ b.asked.keywords := by
    intro n hn
    rw [hasked, hasked']
    simp only [List.mem_cons, List.not_mem_nil, or_false, hn, false_or]
    tauto
  have hranges : ∀ n ≠ "", n ∈ a.asked.ranges ↔ n ∈ b.asked.ranges := by
    intro n _
    rw [hasked, hasked']
  obtain ⟨hread, hsame⟩ := Arrangement.read_run ha silent
  have hread' := (Arrangement.read_run hb silent).1
  obtain ⟨c, c', hc, hc', hrun⟩ := hsame b hb rfl hkeywords hranges rfl rfl
  refine ⟨?_, ?_, ?_, ?_, c, c', hc, hc', fun fs => (hrun fs).1⟩
  · decide +kernel
  · decide +kernel
  · rw [← hasked]
    exact hread
  · rw [← hasked']
    exact hread'

end SearchBar
