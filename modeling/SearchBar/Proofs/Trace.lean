import SearchBar.Proofs.Accumulation
import SearchBar.Proofs.Clauses
import SearchBar.Proofs.QuotedText

/-!
# The log of a parse

An event reaches a reader as a line: a level, a message and named fields.  What the lines of a parse
are is said here twice.  `Told` gives, for each kind of token, the lines that tell of it, level,
message and fields written out; `Trace` says that a log consists of such groups, one for each token
in order, and `trace_iff` that a parse has exactly one trace, the one it logs.  In the other
direction `Query.retell` takes a log alone and goes through it line by line; what it makes of the
lines of a clause is what the clause adds to a record (`foldl_retell_events`), so the log of a parse
leads to its record (`foldl_retell_logged`), and lines with equal logs have equal records.
-/

namespace SearchBar

/-- A line of a log. -/
structure LogLine where
  level : Level
  message : String
  /-- The named fields, in order. -/
  fields : List (String × EventValue)
deriving DecidableEq, Repr

/-- The line by which an event is told. -/
def Event.line (e : Event) : LogLine := ⟨e.level, e.message, e.fields⟩

/-- The log of the parsing of a line, with all levels shown. -/
def logged (line : String) (o : Options) : List LogLine := (parseEvents line o).map Event.line

/-- The lines that tell of one token, under given options and with the record as it is after the
token.  A range without an end has a line of its own in front, about its value. -/
inductive Told (o : Options) (token : String) (after : Query) : List LogLine → Prop
  | freeText (hkey : ':' ∉ token.toList) :
      Told o token after [⟨.trace, "free text", [("token", .text token)]⟩]
  | reservedKey {value : String} (htoken : token = textName ++ ":" ++ value) :
      Told o token after [⟨.trace, "reserved key, free text", [("token", .text token)]⟩]
  | unregisteredKey {key value : String} (htoken : token = key ++ ":" ++ value)
      (hcolon : ':' ∉ key.toList) (htext : key ≠ textName) (hkeyword : key ∉ o.keywords)
      (hrange : key ∉ o.ranges) :
      Told o token after [⟨.debug, "unregistered key, folding into free text",
        [("token", .text token), ("key", .text key)]⟩]
  | emptyKeyword {key : String} (htoken : token = key ++ ":")
      (hcolon : ':' ∉ key.toList) (htext : key ≠ textName) (hkeyword : key ∈ o.keywords) :
      Told o token after [⟨.debug, "empty keyword value, dropping token", [("key", .text key)]⟩]
  | keyword {key value : String} {pieces : List String} (htoken : token = key ++ ":" ++ value)
      (hcolon : ':' ∉ key.toList) (htext : key ≠ textName) (hkeyword : key ∈ o.keywords)
      (hvalue : value ≠ "") (hne : pieces ≠ []) (hjoin : ",".intercalate pieces = value)
      (hcomma : ∀ p ∈ pieces, ',' ∉ p.toList) :
      Told o token after [⟨.trace, "keyword",
        [("key", .text key), ("value", .text value), ("count", .number pieces.length)]⟩]
  | range {key value : String} {r : RangeValue} (htoken : token = key ++ ":" ++ value)
      (hcolon : ':' ∉ key.toList) (htext : key ≠ textName) (hkeyword : key ∉ o.keywords)
      (hrange : key ∈ o.ranges) (hstored : after.range? key = some r) :
      Told o token after ((if r.stop = none then
          [⟨.debug, "range without a single dash, keeping whole value",
            [("key", .text key), ("value", .text value)]⟩] else []) ++
        [⟨.trace, "range", [("key", .text key), ("range", .text r.shown)]⟩])

/-- A log that tells of tokens one after the other, with the records before and after them. -/
inductive Trace (o : Options) : Query → List String → List LogLine → Query → Prop
  | nil (q : Query) : Trace o q [] [] q
  | cons {q last : Query} {token : String} {tokens : List String} {lines log : List LogLine}
      (first : Told o token (q.add (.ofToken o token)) lines)
      (rest : Trace o (q.add (.ofToken o token)) tokens log last) :
      Trace o q (token :: tokens) (lines ++ log) last

/-! ## What a log tells -/

/-- Read a range from the form in which a log shows it. -/
def RangeValue.ofShown? (shown : String) : Option RangeValue := do
  let rest ← Text.behind? "RangeValue \x7b from: " shown.toList
  let (start, rest) ← Text.unquote? rest
  let rest ← Text.behind? ", to: " rest
  match Text.behind? "Some(" rest with
  | none => return ⟨start, none⟩
  | some rest =>
    let (stop, _) ← Text.unquote? rest
    return ⟨start, some stop⟩

/-- The record with what one line of a log tells added to it. -/
def Query.retell (q : Query) (line : LogLine) : Query :=
  match line.fields with
  | ("token", .text token) :: _ => q.addText (Text.trim token)
  | [("key", .text key), ("value", .text value), ("count", .number _)] =>
    q.set key (.keyword (Value.grow (q.keyword? key) value))
  | [("key", .text key), ("range", .text shown)] =>
    match RangeValue.ofShown? shown with
    | none => q
    | some r => q.set key (.range r)
  | _ => q

theorem RangeValue.ofShown?_shown (r : RangeValue) : ofShown? r.shown = some r := by
  obtain ⟨start, stop⟩ := r
  cases stop with
  | none =>
    have hshown : shown ⟨start, none⟩ = "RangeValue \x7b from: " ++ Text.quoted start ++
        ", to: " ++ "None" ++ " \x7d" := rfl
    have hnone : Text.behind? "Some(" ("None".toList ++ " \x7d".toList) = none := by decide
    simp only [ofShown?, hshown, String.toList_append, List.append_assoc, Text.behind?_append,
      Text.unquote?_quoted, hnone, Option.bind_eq_bind, Option.bind_some, Option.pure_def]
  | some stop =>
    have hshown : shown ⟨start, some stop⟩ = "RangeValue \x7b from: " ++ Text.quoted start ++
        ", to: " ++ ("Some(" ++ Text.quoted stop ++ ")") ++ " \x7d" := rfl
    simp only [ofShown?, hshown, String.toList_append, List.append_assoc, Text.behind?_append,
      Text.unquote?_quoted, Option.bind_eq_bind, Option.bind_some, Option.pure_def]

/-- From the lines of a clause one can tell what the clause adds to a record. -/
theorem foldl_retell_events (q : Query) (c : Clause) :
    (c.events.map Event.line).foldl Query.retell q = q.add c := by
  cases c with
  | plain token => rfl
  | reserved token => rfl
  | unregistered token key => rfl
  | emptyKeyword key => rfl
  | keyword key value => rfl
  | range key value =>
    have hline : q.retell (Event.range key (.ofValue value)).line =
        q.set key (.range (.ofValue value)) := by
      simp [Query.retell, Event.line, Event.fields, RangeValue.ofShown?_shown]
    have hskip : q.retell (Event.undividedRange key value).line = q := rfl
    rw [Clause.events, Query.add]
    split
    · simp [hskip, hline]
    · simp [hline]

theorem foldl_retell_logged (line : String) (o : Options) :
    (logged line o).foldl Query.retell Query.empty = parse line o := by
  rw [logged, parseEvents, List.map_flatMap, List.foldl_flatMap, parse]
  simp only [foldl_retell_events]

/-! ## The groups of a log -/

theorem Query.range?_add_range (q : Query) (key value : String) :
    (q.add (.range key value)).range? key = some (.ofValue value) := by
  rw [range?_eq, get?_add, Clause.renew, if_pos rfl]
  rfl

/-- The lines of a range: its value is told of when it leaves the range without an end. -/
theorem events_range_line (key value : String) :
    (Clause.range key value).events.map Event.line =
      (if (RangeValue.ofValue value).stop = none then
        [Event.line (.undividedRange key value)] else []) ++
      [Event.line (.range key (.ofValue value))] := by
  rw [Clause.events, RangeValue.ofValue]
  cases rangeParts? value <;> rfl

/-- A token is told by the lines of its clause, and by no others. -/
theorem told_iff (o : Options) (q : Query) (token : String) (lines : List LogLine) :
    Told o token (q.add (.ofToken o token)) lines ↔
      lines = (Clause.ofToken o token).events.map Event.line := by
  constructor
  · intro h
    cases h with
    | freeText hkey =>
      rw [Clause.ofToken_eq_plain_iff.2 ⟨rfl, keyValue?_eq_none_iff.2 hkey⟩]
      rfl
    | @reservedKey value htoken =>
      have hkv : keyValue? token = some (textName, value) :=
        keyValue?_eq_some_iff.2 ⟨htoken, by decide⟩
      rw [Clause.ofToken_eq_reserved_iff.2 ⟨rfl, value, hkv⟩]
      rfl
    | @unregisteredKey key value htoken hcolon htext hkeyword hrange =>
      have hkv := keyValue?_eq_some_iff.2 ⟨htoken, hcolon⟩
      rw [Clause.ofToken_eq_unregistered_iff.2 ⟨rfl, ⟨value, hkv⟩, htext, hkeyword, hrange⟩]
      rfl
    | @emptyKeyword key htoken hcolon htext hkeyword =>
      have hkv : keyValue? token = some (key, "") :=
        keyValue?_eq_some_iff.2 ⟨htoken.trans String.append_empty.symm, hcolon⟩
      rw [Clause.ofToken_eq_emptyKeyword_iff.2 ⟨hkv, htext, hkeyword⟩]
      rfl
    | @keyword key value pieces htoken hcolon htext hkeyword hvalue hne hjoin hcomma =>
      have hkv := keyValue?_eq_some_iff.2 ⟨htoken, hcolon⟩
      have hpieces : pieces = keywordPieces value := by
        rw [← hjoin, keywordPieces_intercalate hne hcomma]
      rw [Clause.ofToken_eq_keyword_iff.2 ⟨hkv, htext, hkeyword, hvalue⟩, hpieces]
      rfl
    | @range key value r htoken hcolon htext hkeyword hrange hstored =>
      have hkv := keyValue?_eq_some_iff.2 ⟨htoken, hcolon⟩
      rw [Clause.ofToken_eq_range_iff.2 ⟨hkv, htext, hkeyword, hrange⟩] at hstored ⊢
      rw [q.range?_add_range key value] at hstored
      rw [events_range_line, Option.some.inj hstored]
      rfl
  · rintro rfl
    cases hc : Clause.ofToken o token with
    | plain s =>
      obtain ⟨rfl, hkv⟩ := Clause.ofToken_eq_plain_iff.1 hc
      exact .freeText (keyValue?_eq_none_iff.1 hkv)
    | reserved s =>
      obtain ⟨rfl, value, hkv⟩ := Clause.ofToken_eq_reserved_iff.1 hc
      exact .reservedKey (keyValue?_eq_some_iff.1 hkv).1
    | unregistered s key =>
      obtain ⟨rfl, ⟨value, hkv⟩, htext, hkeyword, hrange⟩ :=
        Clause.ofToken_eq_unregistered_iff.1 hc
      obtain ⟨htoken, hcolon⟩ := keyValue?_eq_some_iff.1 hkv
      exact .unregisteredKey htoken hcolon htext hkeyword hrange
    | emptyKeyword key =>
      obtain ⟨hkv, htext, hkeyword⟩ := Clause.ofToken_eq_emptyKeyword_iff.1 hc
      obtain ⟨htoken, hcolon⟩ := keyValue?_eq_some_iff.1 hkv
      exact .emptyKeyword (htoken.trans String.append_empty) hcolon htext hkeyword
    | keyword key value =>
      obtain ⟨hkv, htext, hkeyword, hvalue⟩ := Clause.ofToken_eq_keyword_iff.1 hc
      obtain ⟨htoken, hcolon⟩ := keyValue?_eq_some_iff.1 hkv
      exact .keyword htoken hcolon htext hkeyword hvalue (keywordPieces_ne_nil value)
        (intercalate_keywordPieces value) fun p hp => (of_mem_keywordPieces hp).1
    | range key value =>
      obtain ⟨hkv, htext, hkeyword, hrange⟩ := Clause.ofToken_eq_range_iff.1 hc
      obtain ⟨htoken, hcolon⟩ := keyValue?_eq_some_iff.1 hkv
      rw [events_range_line]
      exact .range htoken hcolon htext hkeyword hrange (q.range?_add_range key value)

/-- Tokens have one trace: the lines of their clauses, one after the other, up to the record to
which the clauses lead. -/
theorem trace_iff (o : Options) (q last : Query) (tokens : List String) (log : List LogLine) :
    Trace o q tokens log last ↔
      log = (tokens.map (Clause.ofToken o)).flatMap (fun c => c.events.map Event.line) ∧
        last = (tokens.map (Clause.ofToken o)).foldl Query.add q := by
  induction tokens generalizing q log with
  | nil =>
    constructor
    · rintro ⟨⟩
      exact ⟨rfl, rfl⟩
    · rintro ⟨rfl, rfl⟩
      exact .nil _
  | cons token tokens ih =>
    constructor
    · intro h
      cases h with
      | cons first rest =>
        obtain ⟨rfl, rfl⟩ := (ih _ _).1 rest
        rw [(told_iff o q token _).1 first]
        exact ⟨rfl, rfl⟩
    · rintro ⟨rfl, rfl⟩
      exact .cons ((told_iff o q token _).2 rfl) ((ih _ _).2 ⟨rfl, rfl⟩)

/-- The log of a parse is a faithful trace of it.  It falls into groups of lines, one for each token
that is not empty, in order; no other log does.  The record can be told from the log alone: going
through the log line by line leads to it, so parses with the same log have the same record. -/
theorem trace_parse (line : String) (o : Options) :
    (∀ log last, Trace o Query.empty (lineTokens line) log last ↔
        log = logged line o ∧ last = parse line o) ∧
      (logged line o).foldl Query.retell Query.empty = parse line o ∧
      ∀ (line' : String) (o' : Options), logged line' o' = logged line o →
        parse line' o' = parse line o := by
  refine ⟨?_, foldl_retell_logged line o, ?_⟩
  · intro log last
    rw [trace_iff, logged, parseEvents, List.map_flatMap]
    rfl
  · intro line' o' h
    rw [← foldl_retell_logged, h, foldl_retell_logged]

/-- Two lines with the same log, the second with quotes and under one more name. -/
theorem trace_parse_quoted_range :
    let o := (Options.empty.withKeywords ["tag"]).withRanges ["since"]
    let o' := o.withKeywords ["lang"]
    logged "z  \"since:2016\" tag:x,y " o' = logged "z since:2016 tag:x,y" o ∧
      parse "z  \"since:2016\" tag:x,y " o' = parse "z since:2016 tag:x,y" o := by
  intro o o'
  have hlog : logged "z  \"since:2016\" tag:x,y " o' = logged "z since:2016 tag:x,y" o := by
    decide +kernel
  exact ⟨hlog, (trace_parse "z since:2016 tag:x,y" o).2.2 _ o' hlog⟩

end SearchBar
