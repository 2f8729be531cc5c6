import SearchBar.Json.Skip

/-!
# Reading lists of texts

The one kind of list this library wants is a list of texts.  The steps through a list and through
the members of a record are stated on their own, because a reader of a record with two such lists
takes them too.  `readWhole` asks that nothing but blanks follows what was read.
-/

namespace SearchBar.Json

/-- The fault of a value of a kind that was not wanted; its own form is checked first. -/
def unwanted (wanted : Wanted) (cs : List Char) : Fault :=
  match cs with
  | [] => .past .endInValue []
  | '[' :: _ => .before (.wrongType .list wanted) cs
  | '{' :: _ => .before (.wrongType .record wanted) cs
  | '"' :: r =>
    match readText r with
    | .error f => f
    | .ok (text, rest) => .before (.wrongType (.text (String.ofList text)) wanted) rest
  | 'n' :: r =>
    match readLiteral ['u', 'l', 'l'] r with
    | .error f => f
    | .ok rest => .before (.wrongType .null wanted) rest
  | 't' :: r =>
    match readLiteral ['r', 'u', 'e'] r with
    | .error f => f
    | .ok rest => .before (.wrongType (.boolean true) wanted) rest
  | 'f' :: r =>
    match readLiteral ['a', 'l', 's', 'e'] r with
    | .error f => f
    | .ok rest => .before (.wrongType (.boolean false) wanted) rest
  | c :: r =>
    if c == '-' || isDigit c then
      match readNumber (c :: r) with
      | .error f => f
      | .ok (n, rest) => .before (.wrongType (.number n) wanted) rest
    else .past .valueExpected (c :: r)

/-! ## Steps through a list -/

/-- Go on to the next item of a list, whose first item needs no comma.  The flag tells whether there
is an item; the characters left begin with it, or with the closing bracket. -/
def nextItem (filled : Bool) (cs : List Char) : Except Fault (Bool × List Char) :=
  match skipBlanks cs with
  | [] => .error (.past .endInList [])
  | c :: r =>
    if c == ']' then .ok (false, c :: r)
    else if !filled then .ok (true, c :: r)
    else if c == ',' then
      match skipBlanks r with
      | [] => .error (.past .endInValue [])
      | d :: r' =>
        if d == ']' then .error (.past .trailingComma (d :: r')) else .ok (true, d :: r')
    else .error (.past .commaOrListEndExpected (c :: r))

/-- Close a list from which no more items are wanted. -/
def closeList (cs : List Char) : Except Fault (List Char) :=
  match skipBlanks cs with
  | [] => .error (.past .endInList [])
  | c :: r =>
    if c == ']' then .ok r
    else if c == ',' then
      match skipBlanks r with
      | ']' :: r' => .error (.past .trailingComma (']' :: r'))
      | r' => .error (.past .trailingCharacters r')
    else .error (.past .trailingCharacters (c :: r))

theorem nextItem_length {filled more : Bool} {cs rest : List Char}
    (h : nextItem filled cs = .ok (more, rest)) : rest.length ≤ cs.length := by
  unfold nextItem at h
  split at h
  · simp at h
  · rename_i c r hs
    have hl := length_of_skipBlanks hs
    split at h
    · simp only [Except.ok.injEq, Prod.mk.injEq] at h
      rw [← h.2, List.length_cons]
      omega
    · split at h
      · simp only [Except.ok.injEq, Prod.mk.injEq] at h
        rw [← h.2, List.length_cons]
        omega
      · split at h
        · split at h
          · simp at h
          · rename_i d r' hs'
            have := length_of_skipBlanks hs'
            split at h
            · simp at h
            · simp only [Except.ok.injEq, Prod.mk.injEq] at h
              rw [← h.2, List.length_cons]
              omega
        · simp at h

theorem closeList_length {cs rest : List Char} (h : closeList cs = .ok rest) :
    rest.length < cs.length := by
  unfold closeList at h
  split at h
  · simp at h
  · rename_i c r hs
    have hl := length_of_skipBlanks hs
    split at h
    · simp only [Except.ok.injEq] at h
      rw [← h]
      exact hl
    · split at h
      · split at h <;> simp at h
      · simp at h

/-! ## Lists of texts -/

/-- Read one item of a list of texts, from its first character. -/
def readItem (cs : List Char) : Except Fault (String × List Char) :=
  match cs with
  | '"' :: r =>
    match readText r with
    | .error f => .error f
    | .ok (text, rest) => .ok (String.ofList text, rest)
  | _ => .error (unwanted .text cs)

theorem readItem_length {cs rest : List Char} {s : String} (h : readItem cs = .ok (s, rest)) :
    rest.length < cs.length := by
  unfold readItem at h
  split at h
  · split at h
    · simp at h
    · rename_i ht
      have := readText_length ht
      simp only [Except.ok.injEq, Prod.mk.injEq] at h
      rw [← h.2, List.length_cons]
      omega
  · simp at h

/-- Read the texts of a list to behind its closing bracket. -/
def readItems (filled : Bool) (cs : List Char) : Except Fault (List String × List Char) :=
  match hn : nextItem filled cs with
  | .error f => .error f
  | .ok (false, rest) =>
    match closeList rest with
    | .error f => .error f
    | .ok rest' => .ok ([], rest')
  | .ok (true, rest) =>
    have := nextItem_length hn
    match hi : readItem rest with
    | .error f => .error f
    | .ok (s, rest') =>
      have := readItem_length hi
      match readItems true rest' with
      | .error f => .error f
      | .ok (ss, rest'') => .ok (s :: ss, rest'')
termination_by cs.length

theorem readItems_length {filled : Bool} {cs rest : List Char} {ss : List String}
    (h : readItems filled cs = .ok (ss, rest)) : rest.length < cs.length := by
  fun_induction readItems filled cs generalizing ss rest with
  | case1 => simp at h
  | case2 => simp at h
  | case3 filled cs rest₁ hn rest₂ hc =>
    simp only [Except.ok.injEq, Prod.mk.injEq] at h
    have := nextItem_length hn
    have := closeList_length hc
    rw [← h.2]
    omega
  | case4 => simp at h
  | case5 => simp at h
  | case6 filled cs rest₁ hn _ s rest₂ hi _ ss₁ rest₃ hr ih =>
    have := ih hr
    simp only [Except.ok.injEq, Prod.mk.injEq] at h
    rw [← h.2]
    omega

/-- Read a list of texts. -/
def readTexts (cs : List Char) : Except Fault (List String × List Char) :=
  match skipBlanks cs with
  | [] => .error (.past .endInValue [])
  | '[' :: r => readItems false r
  | cs' => .error (unwanted .list cs')

theorem readTexts_length {cs rest : List Char} {ss : List String}
    (h : readTexts cs = .ok (ss, rest)) : rest.length < cs.length := by
  unfold readTexts at h
  split at h
  · simp at h
  · rename_i hs
    have := length_of_skipBlanks hs
    have := readItems_length h
    omega
  · simp at h

/-! ## Steps through a record -/

/-- Go on to the next member of a record, whose first member needs no comma: its name and what is
left behind the name, or no name and what is left behind the closing bracket. -/
def nextName (filled : Bool) (cs : List Char) : Except Fault (Option String × List Char) :=
  let named (r : List Char) : Except Fault (Option String × List Char) :=
    match readText r with
    | .error f => .error f
    | .ok (name, rest) => .ok (some (String.ofList name), rest)
  match skipBlanks cs with
  | [] => .error (.past .endInRecord [])
  | c :: r =>
    if c == '}' then .ok (none, r)
    else if !filled then
      if c == '"' then named r else .error (.past .nameExpected (c :: r))
    else if c == ',' then
      match skipBlanks r with
      | [] => .error (.past .endInValue [])
      | d :: r' =>
        if d == '"' then named r'
        else if d == '}' then .error (.past .trailingComma (d :: r'))
        else .error (.past .nameExpected (d :: r'))
    else .error (.past .commaOrRecordEndExpected (c :: r))

theorem nextName_length {filled : Bool} {cs rest : List Char} {name : Option String}
    (h : nextName filled cs = .ok (name, rest)) : rest.length < cs.length := by
  have named : ∀ r : List Char, (match readText r with
      | .error f => Except.error f
      | .ok (name, rest) => .ok (some (String.ofList name), rest)) = .ok (name, rest) →
        rest.length < r.length := by
    intro r hr
    split at hr
    · simp at hr
    · rename_i ht
      have := readText_length ht
      simp only [Except.ok.injEq, Prod.mk.injEq] at hr
      rw [← hr.2]
      exact this
  unfold nextName at h
  simp only at h
  split at h
  · simp at h
  · rename_i c r hs
    have hl := length_of_skipBlanks hs
    split at h
    · simp only [Except.ok.injEq, Prod.mk.injEq] at h
      rw [← h.2]
      exact hl
    · split at h
      · split at h
        · have := named _ h
          omega
        · simp at h
      · split at h
        · split at h
          · simp at h
          · rename_i d r' hs'
            have := length_of_skipBlanks hs'
            split at h
            · have := named _ h
              omega
            · split at h <;> simp at h
        · simp at h

/-! ## Whole texts -/

/-- Read a whole text with a reader: what it reads must be followed by blanks only. -/
def readWhole {α : Type} (reader : List Char → Except Fault (α × List Char)) (text : String) :
    Except Refusal α :=
  let cs := text.toList
  match reader cs with
  | .error f => .error (f.inText cs)
  | .ok (a, rest) =>
    match skipBlanks rest with
    | [] => .ok a
    | r => .error ((Fault.past .trailingCharacters r).inText cs)

end SearchBar.Json
