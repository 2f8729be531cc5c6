import SearchBar.Json.Document
import SearchBar.Proofs.JsonText

/-!
# Documents are read as they were written

The compact and the pretty form of a document differ only in the blanks between its parts.  Both are
layouts: a layout says which blanks begin a line and which follow a colon (`Layout.compact`,
`Layout.pretty`).  Whatever the layout, the reader of documents gets the document back
(`readFrom_chars`), and the reader of lists of texts the texts (`readTexts_chars`), with any rest
behind them.
-/

namespace SearchBar.Json

/-! ## Blanks -/

theorem skipBlanks_append {g : List Char} (hg : ∀ c ∈ g, isJsonBlank c = true) (cs : List Char) :
    skipBlanks (g ++ cs) = skipBlanks cs := by
  rw [skipBlanks, List.dropWhile_append_of_pos hg]
  rfl

theorem skipBlanks_cons {c : Char} (hc : isJsonBlank c = false) (cs : List Char) :
    skipBlanks (c :: cs) = c :: cs := by
  rw [skipBlanks, List.dropWhile_cons_of_neg (by simp [hc])]

/-! ## Steps of the readers -/

section Steps

variable {cs r rest : List Char}

theorem nextItem_close {filled : Bool} (h : skipBlanks cs = ']' :: r) :
    nextItem filled cs = .ok (false, ']' :: r) := by
  rw [nextItem, h]
  rfl

theorem nextItem_first {c : Char} (h : skipBlanks cs = c :: r) (hc : c ≠ ']') :
    nextItem false cs = .ok (true, c :: r) := by
  rw [nextItem, h]
  show (if (c == ']') = true then _ else _) = _
  rw [if_neg (by simpa using hc)]
  rfl

theorem nextItem_comma {c : Char} {r' : List Char} (h : skipBlanks cs = ',' :: r)
    (h' : skipBlanks r = c :: r') (hc : c ≠ ']') : nextItem true cs = .ok (true, c :: r') := by
  rw [nextItem, h]
  simp [h', hc]

theorem closeList_close (h : skipBlanks cs = ']' :: r) : closeList cs = .ok r := by
  rw [closeList, h]
  rfl

theorem nextName_close {filled : Bool} (h : skipBlanks cs = '}' :: r) :
    nextName filled cs = .ok (none, r) := by
  rw [nextName, h]
  rfl

theorem nextName_first {name : List Char} (h : skipBlanks cs = '"' :: r)
    (hn : readText r = .ok (name, rest)) :
    nextName false cs = .ok (some (String.ofList name), rest) := by
  simp [nextName, h, hn]

theorem nextName_comma {name r' : List Char} (h : skipBlanks cs = ',' :: r)
    (h' : skipBlanks r = '"' :: r') (hn : readText r' = .ok (name, rest)) :
    nextName true cs = .ok (some (String.ofList name), rest) := by
  simp [nextName, h, h', hn]

theorem skipColon_colon (h : skipBlanks cs = ':' :: r) : skipColon cs = .ok r := by
  rw [skipColon, h]
  rfl

end Steps

/-! ## Layouts -/

/-- Which blanks stand between the parts of a written document. -/
structure Layout where
  /-- What begins a line of some depth. -/
  gap : Nat → List Char
  /-- What follows a colon. -/
  space : List Char
  gap_blank : ∀ depth, ∀ c ∈ gap depth, isJsonBlank c = true
  space_blank : ∀ c ∈ space, isJsonBlank c = true

namespace Layout

/-- No blanks at all. -/
def compact : Layout := ⟨fun _ => [], [], by simp, by simp⟩

/-- A line for every part, and a blank behind every colon. -/
def pretty : Layout where
  gap := lineBreak
  space := [' ']
  gap_blank := by
    intro depth c hc
    rcases List.mem_cons.1 hc with rfl | hc
    · rfl
    · rw [(List.mem_replicate.1 hc).2]
      rfl
  space_blank := by
    intro c hc
    rw [List.mem_singleton.1 hc]
    rfl

mutual

/-- A document in a layout. -/
def chars (l : Layout) (depth : Nat) : Tree → List Char
  | .text s => textChars s.toList
  | .list [] => ['[', ']']
  | .list (t :: ts) =>
    '[' :: (l.gap (depth + 1) ++ (l.chars (depth + 1) t ++
      (l.moreItems (depth + 1) ts ++ (l.gap depth ++ [']']))))
  | .record [] => ['{', '}']
  | .record ((name, t) :: ms) =>
    '{' :: (l.gap (depth + 1) ++ (textChars name.toList ++ ':' :: (l.space ++
      (l.chars (depth + 1) t ++ (l.moreMembers (depth + 1) ms ++ (l.gap depth ++ ['}']))))))

/-- The items of a list behind the first one. -/
def moreItems (l : Layout) (depth : Nat) : List Tree → List Char
  | [] => []
  | t :: ts => ',' :: (l.gap depth ++ (l.chars depth t ++ l.moreItems depth ts))

/-- The members of a record behind the first one. -/
def moreMembers (l : Layout) (depth : Nat) : List (String × Tree) → List Char
  | [] => []
  | (name, t) :: ms =>
    ',' :: (l.gap depth ++ (textChars name.toList ++ ':' :: (l.space ++
      (l.chars depth t ++ l.moreMembers depth ms))))

end

end Layout

/-! ## The two written forms are layouts -/

mutual

theorem chars_compact (depth : Nat) : ∀ t : Tree, Layout.compact.chars depth t = compactChars t
  | .text s => by rw [Layout.chars, compactChars]
  | .list [] => by rw [Layout.chars, compactChars]; rfl
  | .list (t :: ts) => by
    rw [Layout.chars, compactChars, compactItems_cons (depth + 1) ts, chars_compact]
    simp [Layout.compact]
  | .record [] => by rw [Layout.chars, compactChars]; rfl
  | .record ((name, t) :: ms) => by
    rw [Layout.chars, compactChars, compactMembers_cons (depth + 1) ms, chars_compact]
    simp [Layout.compact]

theorem compactItems_cons (depth : Nat) : ∀ (ts : List Tree) (t : Tree),
    compactItems (t :: ts) = compactChars t ++ Layout.compact.moreItems depth ts
  | [], t => by rw [compactItems, Layout.moreItems, List.append_nil]
  | u :: us, t => by
    rw [compactItems, Layout.moreItems, chars_compact, compactItems_cons depth us]
    · rfl
    · simp

theorem compactMembers_cons (depth : Nat) :
    ∀ (ms : List (String × Tree)) (name : String) (t : Tree),
      compactMembers ((name, t) :: ms) =
        textChars name.toList ++ ':' :: (compactChars t ++ Layout.compact.moreMembers depth ms)
  | [], name, t => by rw [compactMembers, Layout.moreMembers, List.append_nil]
  | (m, u) :: ms, name, t => by
    rw [compactMembers, Layout.moreMembers, chars_compact, compactMembers_cons depth ms]
    · rfl
    · simp

end

mutual

theorem chars_pretty (depth : Nat) : ∀ t : Tree, Layout.pretty.chars depth t = prettyChars depth t
  | .text s => by rw [Layout.chars, prettyChars]
  | .list [] => by rw [Layout.chars, prettyChars]
  | .list (t :: ts) => by
    rw [Layout.chars, prettyChars, prettyItems_cons (depth + 1) ts, chars_pretty]
    simp [Layout.pretty]
  | .record [] => by rw [Layout.chars, prettyChars]
  | .record ((name, t) :: ms) => by
    rw [Layout.chars, prettyChars, prettyMembers_cons (depth + 1) ms, chars_pretty]
    simp [Layout.pretty]

theorem prettyItems_cons (depth : Nat) : ∀ (ts : List Tree) (t : Tree),
    prettyItems depth (t :: ts) =
      lineBreak depth ++ (prettyChars depth t ++ Layout.pretty.moreItems depth ts)
  | [], t => by rw [prettyItems, Layout.moreItems, List.append_nil]
  | u :: us, t => by
    rw [prettyItems, Layout.moreItems, chars_pretty, prettyItems_cons depth us]
    · simp [Layout.pretty]
    · simp

theorem prettyMembers_cons (depth : Nat) :
    ∀ (ms : List (String × Tree)) (name : String) (t : Tree),
      prettyMembers depth ((name, t) :: ms) =
        lineBreak depth ++ (textChars name.toList ++ ':' :: ' ' :: (prettyChars depth t ++
          Layout.pretty.moreMembers depth ms))
  | [], name, t => by
    rw [prettyMembers, Layout.moreMembers, List.append_nil, List.append_assoc]
  | (m, u) :: ms, name, t => by
    rw [prettyMembers, Layout.moreMembers, chars_pretty, prettyMembers_cons depth ms]
    · simp [Layout.pretty]
    · simp

end

/-! ## Reading a layout -/

/-- A written text begins with a quote, and is read to behind its second one. -/
theorem textChars_append (cs rest : List Char) :
    textChars cs ++ rest = '"' :: (cs.flatMap escapeChar ++ '"' :: rest) := by
  simp [textChars]

section Parts

variable {cs r rest : List Char}

theorem nextPart_list_close {items : List Tree} (h : skipBlanks cs = ']' :: r) :
    nextPart (.list items) cs = .ok (none, r) := by
  have hclose : closeList (']' :: r) = .ok r := closeList_close (skipBlanks_cons rfl r)
  rw [nextPart, nextItem_close h]
  simp only [hclose]

theorem nextPart_list_first {c : Char} (h : skipBlanks cs = c :: r) (hc : c ≠ ']') :
    nextPart (.list []) cs = .ok (some (.item []), c :: r) := by
  have hnext : nextItem (!([] : List Tree).isEmpty) cs = .ok (true, c :: r) := nextItem_first h hc
  rw [nextPart, hnext]

theorem nextPart_list_comma {t : Tree} {items : List Tree} {c : Char} {r' : List Char}
    (h : skipBlanks cs = ',' :: r) (h' : skipBlanks r = c :: r') (hc : c ≠ ']') :
    nextPart (.list (t :: items)) cs = .ok (some (.item (t :: items)), c :: r') := by
  have hnext : nextItem (!(t :: items).isEmpty) cs = .ok (true, c :: r') := nextItem_comma h h' hc
  rw [nextPart, hnext]

theorem nextPart_record_close {members : List (String × Tree)} (h : skipBlanks cs = '}' :: r) :
    nextPart (.record members) cs = .ok (none, r) := by
  rw [nextPart, nextName_close h]

theorem nextPart_record_first {name : String}
    (h : skipBlanks cs = textChars name.toList ++ ':' :: rest) :
    nextPart (.record []) cs = .ok (some (.member [] name), rest) := by
  rw [textChars_append] at h
  have hnext : nextName (!([] : List (String × Tree)).isEmpty) cs =
      .ok (some name, ':' :: rest) := by
    have := nextName_first h (readText_flatMap_escapeChar name.toList (':' :: rest))
    rwa [String.ofList_toList] at this
  have hcolon : skipColon (':' :: rest) = .ok rest := skipColon_colon (skipBlanks_cons rfl rest)
  rw [nextPart, hnext]
  simp only [hcolon]

theorem nextPart_record_comma {m : String × Tree} {members : List (String × Tree)} {name : String}
    (h : skipBlanks cs = ',' :: r) (h' : skipBlanks r = textChars name.toList ++ ':' :: rest) :
    nextPart (.record (m :: members)) cs = .ok (some (.member (m :: members) name), rest) := by
  rw [textChars_append] at h'
  have hnext : nextName (!(m :: members).isEmpty) cs = .ok (some name, ':' :: rest) := by
    have := nextName_comma h h' (readText_flatMap_escapeChar name.toList (':' :: rest))
    rwa [String.ofList_toList] at this
  have hcolon : skipColon (':' :: rest) = .ok rest := skipColon_colon (skipBlanks_cons rfl rest)
  rw [nextPart, hnext]
  simp only [hcolon]

end Parts

theorem readFrom_append {g : List Char} (hg : ∀ c ∈ g, isJsonBlank c = true)
    (stack : List Pending) (cs : List Char) : readFrom stack (g ++ cs) = readFrom stack cs := by
  rw [readFrom_eq, readFrom_eq, skipBlanks_append hg]

namespace Layout

variable (l : Layout)

theorem skipBlanks_gap (depth : Nat) (cs : List Char) :
    skipBlanks (l.gap depth ++ cs) = skipBlanks cs := skipBlanks_append (l.gap_blank depth) cs

/-- A written text is not blank where it begins. -/
theorem skipBlanks_textChars (cs rest : List Char) :
    skipBlanks (textChars cs ++ rest) = textChars cs ++ rest := by
  rw [textChars_append]
  exact skipBlanks_cons rfl _

/-- A written document begins with a character that is neither blank nor a closing bracket. -/
theorem exists_chars_eq (depth : Nat) (t : Tree) (rest : List Char) :
    ∃ c r, l.chars depth t ++ rest = c :: r ∧ isJsonBlank c = false ∧ c ≠ ']' := by
  match t with
  | .text s =>
    rw [chars, textChars_append]
    exact ⟨_, _, rfl, rfl, by decide⟩
  | .list [] | .list (_ :: _) | .record [] | .record (_ :: _) =>
    rw [chars]
    exact ⟨_, _, rfl, rfl, by decide⟩

/-- The first item of a list is reached across the blanks in front of it. -/
theorem nextPart_chars_first (depth depth' : Nat) (t : Tree) (rest : List Char) :
    nextPart (.list []) (l.gap depth ++ (l.chars depth' t ++ rest)) =
      .ok (some (.item []), l.chars depth' t ++ rest) := by
  obtain ⟨c, r, hcr, hblank, hc⟩ := l.exists_chars_eq depth' t rest
  rw [hcr]
  refine nextPart_list_first ?_ hc
  rw [skipBlanks_gap, skipBlanks_cons hblank]

/-- Every other item is reached across a comma and the blanks in front of it. -/
theorem nextPart_chars_comma (depth depth' : Nat) (u : Tree) (items : List Tree) (t : Tree)
    (rest : List Char) :
    nextPart (.list (u :: items)) (',' :: (l.gap depth ++ (l.chars depth' t ++ rest))) =
      .ok (some (.item (u :: items)), l.chars depth' t ++ rest) := by
  obtain ⟨c, r, hcr, hblank, hc⟩ := l.exists_chars_eq depth' t rest
  rw [hcr]
  refine nextPart_list_comma (skipBlanks_cons rfl _) ?_ hc
  rw [skipBlanks_gap, skipBlanks_cons hblank]

mutual

/-- Where a written document stands, reading goes on behind it with that document. -/
theorem readFrom_chars (depth : Nat) : ∀ (t : Tree) (stack : List Pending) (rest : List Char),
    readFrom stack (l.chars depth t ++ rest) = readBehind stack t rest
  | .text s, stack, rest => by
    have hblank : skipBlanks (textChars s.toList ++ rest) =
        '"' :: (s.toList.flatMap escapeChar ++ '"' :: rest) := by
      rw [textChars_append]
      exact skipBlanks_cons rfl _
    rw [chars, readFrom_text hblank (readText_flatMap_escapeChar s.toList rest),
      String.ofList_toList]
  | .list [], stack, rest => by
    rw [chars]
    show readFrom stack ('[' :: ']' :: rest) = _
    rw [readFrom_list (skipBlanks_cons rfl _),
      readInside_none (nextPart_list_close (skipBlanks_cons rfl rest))]
    rfl
  | .list (t :: ts), stack, rest => by
    rw [chars, List.cons_append, readFrom_list (skipBlanks_cons rfl _)]
    simp only [List.append_assoc]
    rw [readInside_some (l.nextPart_chars_first _ _ t _), readFrom_chars, readBehind_cons]
    exact readInside_moreItems (depth + 1) depth ts t [] stack rest
  | .record [], stack, rest => by
    rw [chars]
    show readFrom stack ('{' :: '}' :: rest) = _
    rw [readFrom_record (skipBlanks_cons rfl _),
      readInside_none (nextPart_record_close (skipBlanks_cons rfl rest))]
    rfl
  | .record ((name, t) :: ms), stack, rest => by
    rw [chars, List.cons_append, readFrom_record (skipBlanks_cons rfl _)]
    simp only [List.append_assoc, List.cons_append]
    rw [readInside_some (nextPart_record_first ((l.skipBlanks_gap _ _).trans
      (skipBlanks_textChars _ _))), readFrom_append l.space_blank, readFrom_chars, readBehind_cons]
    exact readInside_moreMembers (depth + 1) depth ms (name, t) [] stack rest

/-- The items behind the first one are read up to the end of the list. -/
theorem readInside_moreItems (depth depth' : Nat) : ∀ (ts : List Tree) (u : Tree)
    (items : List Tree) (stack : List Pending) (rest : List Char),
    readInside (.list (u :: items)) stack
        (l.moreItems depth ts ++ (l.gap depth' ++ ']' :: rest)) =
      readBehind stack (.list ((u :: items).reverse ++ ts)) rest
  | [], u, items, stack, rest => by
    have hclose : skipBlanks (l.gap depth' ++ ']' :: rest) = ']' :: rest :=
      (l.skipBlanks_gap _ _).trans (skipBlanks_cons rfl rest)
    rw [moreItems, List.append_nil]
    exact readInside_none (nextPart_list_close hclose)
  | t :: ts, u, items, stack, rest => by
    rw [moreItems]
    simp only [List.cons_append, List.append_assoc]
    rw [readInside_some (l.nextPart_chars_comma _ _ u items t _), readFrom_chars, readBehind_cons]
    refine (readInside_moreItems depth depth' ts t (u :: items) stack rest).trans ?_
    simp

/-- The members behind the first one are read up to the end of the record. -/
theorem readInside_moreMembers (depth depth' : Nat) : ∀ (ms : List (String × Tree))
    (m : String × Tree) (members : List (String × Tree)) (stack : List Pending)
    (rest : List Char),
    readInside (.record (m :: members)) stack
        (l.moreMembers depth ms ++ (l.gap depth' ++ '}' :: rest)) =
      readBehind stack (.record ((m :: members).reverse ++ ms)) rest
  | [], m, members, stack, rest => by
    have hclose : skipBlanks (l.gap depth' ++ '}' :: rest) = '}' :: rest :=
      (l.skipBlanks_gap _ _).trans (skipBlanks_cons rfl rest)
    rw [moreMembers, List.append_nil]
    exact readInside_none (nextPart_record_close hclose)
  | (name, t) :: ms, m, members, stack, rest => by
    rw [moreMembers]
    simp only [List.cons_append, List.append_assoc]
    rw [readInside_some (nextPart_record_comma (skipBlanks_cons rfl _) ((l.skipBlanks_gap _ _).trans
      (skipBlanks_textChars _ _))), readFrom_append l.space_blank, readFrom_chars, readBehind_cons]
    refine (readInside_moreMembers depth depth' ms (name, t) (m :: members) stack rest).trans ?_
    simp

end

/-! ## Reading lists of texts -/

theorem readItem_textChars (s : String) (rest : List Char) :
    readItem (textChars s.toList ++ rest) = .ok (s, rest) := by
  rw [textChars_append, readItem, readText_flatMap_escapeChar]
  simp only [String.ofList_toList]

theorem readItems_last {filled : Bool} {cs r rest : List Char}
    (hn : nextItem filled cs = .ok (false, r)) (hc : closeList r = .ok rest) :
    readItems filled cs = .ok ([], rest) := by
  rw [readItems]
  split
  all_goals simp_all

theorem readItems_cons {filled : Bool} {cs r r' rest : List Char} {s : String} {ss : List String}
    (hn : nextItem filled cs = .ok (true, r)) (hi : readItem r = .ok (s, r'))
    (hr : readItems true r' = .ok (ss, rest)) : readItems filled cs = .ok (s :: ss, rest) := by
  rw [readItems]
  split
  · simp_all
  · simp_all
  · rename_i r₁ hn'
    obtain rfl : r = r₁ := by simpa [hn] using hn'
    split
    · simp_all
    · rename_i s₁ r₂ hi'
      obtain ⟨rfl, rfl⟩ : s = s₁ ∧ r' = r₂ := by simpa [hi] using hi'
      rw [hr]

/-- The texts behind the first one are read up to the end of the list. -/
theorem readItems_moreItems (depth depth' : Nat) (ss : List String) (rest : List Char) :
    readItems true (l.moreItems depth (ss.map .text) ++ (l.gap depth' ++ ']' :: rest)) =
      .ok (ss, rest) := by
  induction ss with
  | nil =>
    have hclose : skipBlanks (l.gap depth' ++ ']' :: rest) = ']' :: rest :=
      (l.skipBlanks_gap _ _).trans (skipBlanks_cons rfl rest)
    exact readItems_last (nextItem_close hclose) (closeList_close (skipBlanks_cons rfl rest))
  | cons s ss ih =>
    rw [List.map_cons, moreItems, chars]
    simp only [List.cons_append, List.append_assoc]
    refine readItems_cons ?_ (readItem_textChars s _) ih
    rw [textChars_append]
    refine nextItem_comma (skipBlanks_cons rfl _) ?_ (by decide)
    rw [skipBlanks_gap]
    exact skipBlanks_cons rfl _

/-- A list of texts is read back from every layout, with any rest behind it. -/
theorem readTexts_chars (depth : Nat) (ss : List String) (rest : List Char) :
    readTexts (l.chars depth (.texts ss) ++ rest) = .ok (ss, rest) := by
  have hopen : ∀ r, skipBlanks ('[' :: r) = '[' :: r := skipBlanks_cons rfl
  cases ss with
  | nil =>
    rw [Tree.texts, List.map_nil, chars]
    show readTexts ('[' :: ']' :: rest) = _
    rw [readTexts, hopen]
    exact readItems_last (nextItem_close (skipBlanks_cons rfl rest))
      (closeList_close (skipBlanks_cons rfl rest))
  | cons s ss =>
    rw [Tree.texts, List.map_cons, chars, chars, List.cons_append, readTexts, hopen]
    simp only [List.append_assoc, List.cons_append, List.nil_append]
    refine readItems_cons ?_ (readItem_textChars s _)
      (l.readItems_moreItems (depth + 1) depth ss rest)
    rw [textChars_append]
    refine nextItem_first ?_ (by decide)
    rw [skipBlanks_gap]
    exact skipBlanks_cons rfl _

end Layout

/-! ## Whole texts -/

theorem readWhole_of_reader {α : Type} {reader : List Char → Except Fault (α × List Char)}
    {cs : List Char} {a : α} (h : reader cs = .ok (a, [])) :
    readWhole reader (String.ofList cs) = .ok a := by
  simp only [readWhole, String.toList_ofList, h]
  rfl

/-- A document is read back from its written form in every layout. -/
theorem Tree.read_layout (l : Layout) (t : Tree) : read (String.ofList (l.chars 0 t)) = .ok t := by
  apply readWhole_of_reader
  have hread := l.readFrom_chars 0 t [] []
  rwa [List.append_nil, readBehind_nil] at hread

theorem Tree.read_compact (t : Tree) : read t.compact = .ok t := by
  rw [Tree.compact, ← chars_compact 0]
  exact read_layout Layout.compact t

theorem Tree.read_pretty (t : Tree) : read t.pretty = .ok t := by
  rw [Tree.pretty, ← chars_pretty 0]
  exact read_layout Layout.pretty t

end SearchBar.Json
