import SearchBar.Json.Numeral
import SearchBar.Json.Text

/-!
# Skipping JSON values

A value nobody asked for is still checked for its form, whatever its depth.  The brackets that are
open are kept in a list, so that a deep value needs no deep recursion, and the reading goes back
and forth between two places: in front of a value, and behind one.
-/

namespace SearchBar.Json

/-- Whether a character may stand between the parts of a JSON text. -/
def isJsonBlank (c : Char) : Bool := c == ' ' || c == '\n' || c == '\t' || c == '\r'

/-- A text from its first character that is no blank. -/
def skipBlanks (cs : List Char) : List Char := cs.dropWhile isJsonBlank

theorem skipBlanks_length (cs : List Char) : (skipBlanks cs).length ≤ cs.length :=
  length_dropWhile_le isJsonBlank cs

/-- Read the letters of a literal; those given are still to come. -/
def readLiteral : List Char → List Char → Except Fault (List Char)
  | [], cs => .ok cs
  | _ :: _, [] => .error (.before .endInValue [])
  | e :: es, c :: cs =>
    if c == e then readLiteral es cs else .error (.past .literalExpected (c :: cs))

theorem readLiteral_length {es cs rest : List Char} (h : readLiteral es cs = .ok rest) :
    rest.length + es.length = cs.length := by
  induction es generalizing cs with
  | nil =>
    rw [readLiteral, Except.ok.injEq] at h
    simp [h]
  | cons e es ih =>
    cases cs with
    | nil => simp [readLiteral] at h
    | cons c cs =>
      rw [readLiteral] at h
      split at h
      · have := ih h
        simp only [List.length_cons]
        omega
      · simp at h

/-- Skip a value that is neither a list nor a record. -/
def skipScalar (cs : List Char) : Except Fault (List Char) :=
  match cs with
  | [] => .error (.past .endInValue [])
  | '"' :: r => skipText r
  | 'n' :: r => readLiteral ['u', 'l', 'l'] r
  | 't' :: r => readLiteral ['r', 'u', 'e'] r
  | 'f' :: r => readLiteral ['a', 'l', 's', 'e'] r
  | c :: r =>
    if c == '-' || isDigit c then skipNumber (c :: r) else .error (.past .valueExpected (c :: r))

theorem skipScalar_length {cs rest : List Char} (h : skipScalar cs = .ok rest) :
    rest.length < cs.length := by
  unfold skipScalar at h
  split at h
  · simp at h
  · have := skipText_length h
    simp only [List.length_cons]
    omega
  · have := readLiteral_length h
    simp only [List.length_cons, List.length_nil] at this ⊢
    omega
  · have := readLiteral_length h
    simp only [List.length_cons, List.length_nil] at this ⊢
    omega
  · have := readLiteral_length h
    simp only [List.length_cons, List.length_nil] at this ⊢
    omega
  · split at h
    · exact skipNumber_length h
    · simp at h

/-! ## Lists and records -/

/-- The kinds of brackets. -/
inductive Bracket where
  | list
  | record
deriving DecidableEq, Repr, Inhabited

/-- The character that closes a bracket. -/
def Bracket.closing : Bracket → Char
  | .list => ']'
  | .record => '}'

/-- The problem of a text that ends inside a bracket. -/
def Bracket.endProblem : Bracket → Problem
  | .list => .endInList
  | .record => .endInRecord

/-- The problem of a character that neither goes on with a bracket nor closes it. -/
def Bracket.commaProblem : Bracket → Problem
  | .list => .commaOrListEndExpected
  | .record => .commaOrRecordEndExpected

/-- Skip the colon behind a name. -/
def skipColon (cs : List Char) : Except Fault (List Char) :=
  match skipBlanks cs with
  | [] => .error (.past .endInRecord [])
  | c :: r => if c == ':' then .ok r else .error (.past .colonExpected (c :: r))

theorem skipColon_length {cs rest : List Char} (h : skipColon cs = .ok rest) :
    rest.length < cs.length := by
  unfold skipColon at h
  have hb := skipBlanks_length cs
  split at h
  · simp at h
  · rename_i c r hs
    rw [hs, List.length_cons] at hb
    split at h
    · simp only [Except.ok.injEq] at h
      rw [← h]
      omega
    · simp at h

/-- Skip what comes before a value inside a bracket: in a record, a name and its colon. -/
def skipName : Bracket → List Char → Except Fault (List Char)
  | .list, cs => .ok cs
  | .record, cs =>
    match skipBlanks cs with
    | [] => .error (.past .endInRecord [])
    | c :: r =>
      if c == '"' then
        match skipText r with
        | .error f => .error f
        | .ok rest => skipColon rest
      else .error (.past .nameExpected (c :: r))

theorem skipName_length {b : Bracket} {cs rest : List Char} (h : skipName b cs = .ok rest) :
    rest.length ≤ cs.length := by
  cases b with
  | list =>
    rw [skipName, Except.ok.injEq] at h
    simp [h]
  | record =>
    rw [skipName] at h
    have hb := skipBlanks_length cs
    split at h
    · simp at h
    · rename_i c r hs
      rw [hs, List.length_cons] at hb
      split at h
      · split at h
        · simp at h
        · rename_i ht
          have := skipText_length ht
          have := skipColon_length h
          omega
      · simp at h

/-- Where the first character that is no blank stands, something less follows it. -/
theorem length_of_skipBlanks {cs r : List Char} {c : Char} (h : skipBlanks cs = c :: r) :
    r.length < cs.length := by
  have := skipBlanks_length cs
  rw [h, List.length_cons] at this
  omega

mutual

/-- Skip a value and then what follows it, up to the end of the outermost open bracket. -/
def skipFrom (stack : List Bracket) (cs : List Char) : Except Fault (List Char) :=
  match hb : skipBlanks cs with
  | [] => .error (.past .endInValue [])
  | c :: r =>
    have := length_of_skipBlanks hb
    if c == '[' then skipOn false (.list :: stack) r
    else if c == '{' then skipOn false (.record :: stack) r
    else
      match h : skipScalar (c :: r) with
      | .error f => .error f
      | .ok rest =>
        have : rest.length < r.length + 1 := skipScalar_length h
        skipOn true stack rest
termination_by 2 * cs.length
decreasing_by all_goals omega

/-- Skip what follows a value, or an opening bracket if nothing stands inside it yet. -/
def skipOn (filled : Bool) (stack : List Bracket) (cs : List Char) : Except Fault (List Char) :=
  match stack with
  | [] => .ok cs
  | b :: outer =>
    match hb : skipBlanks cs with
    | [] => .error (.past b.endProblem [])
    | c :: r =>
      have := length_of_skipBlanks hb
      if filled && c == ',' then
        match h : skipName b r with
        | .error f => .error f
        | .ok rest =>
          have := skipName_length h
          skipFrom (b :: outer) rest
      else if c == b.closing then skipOn true outer r
      else if filled then .error (.past b.commaProblem (c :: r))
      else
        match h : skipName b (c :: r) with
        | .error f => .error f
        | .ok rest =>
          have : rest.length ≤ r.length + 1 := skipName_length h
          skipFrom (b :: outer) rest
termination_by 2 * cs.length + 1
decreasing_by all_goals omega

end

/-- Skip a value. -/
def skipValue (cs : List Char) : Except Fault (List Char) := skipFrom [] cs

mutual

theorem skipFrom_length {stack : List Bracket} {cs rest : List Char}
    (h : skipFrom stack cs = .ok rest) : rest.length < cs.length := by
  rw [skipFrom] at h
  split at h
  · simp at h
  · rename_i c r hb
    have := length_of_skipBlanks hb
    split at h
    · have := skipOn_length h
      omega
    · split at h
      · have := skipOn_length h
        omega
      · split at h
        · simp at h
        · rename_i rest' hv
          have hl : rest'.length < r.length + 1 := skipScalar_length hv
          have := skipOn_length h
          omega
termination_by 2 * cs.length
decreasing_by all_goals omega

theorem skipOn_length {filled : Bool} {stack : List Bracket} {cs rest : List Char}
    (h : skipOn filled stack cs = .ok rest) : rest.length ≤ cs.length := by
  rw [skipOn.eq_def] at h
  split at h
  · simp only [Except.ok.injEq] at h
    simp [h]
  · split at h
    · simp at h
    · rename_i c r hb
      have := length_of_skipBlanks hb
      split at h
      · split at h
        · simp at h
        · rename_i rest' hn
          have hl := skipName_length hn
          have := skipFrom_length h
          omega
      · split at h
        · have := skipOn_length h
          omega
        · split at h
          · simp at h
          · split at h
            · simp at h
            · rename_i rest' hn
              have hl : rest'.length ≤ r.length + 1 := skipName_length hn
              have := skipFrom_length h
              omega
termination_by 2 * cs.length + 1
decreasing_by all_goals omega

end

/-- Skipping a value leaves fewer characters. -/
theorem skipValue_length {cs rest : List Char} (h : skipValue cs = .ok rest) :
    rest.length < cs.length := skipFrom_length h

end SearchBar.Json
