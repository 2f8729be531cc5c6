import SearchBar.Json.Texts
import SearchBar.Json.Tree

/-!
# Reading documents

A document is read from any text that spells it, whatever blanks stand between its parts.  The lists
and records that are open are kept in a list, each with what it holds so far, and the reading goes
back and forth between three places: in front of a value, behind one, and inside a bracket.
-/

namespace SearchBar.Json

/-- An open bracket with what stands inside it so far, the last one first. -/
inductive Open where
  | list (items : List Tree)
  | record (members : List (String × Tree))
deriving Inhabited

/-- The document that an open bracket becomes when it is closed. -/
def Open.close : Open → Tree
  | .list items => .list items.reverse
  | .record members => .record members.reverse

/-- An open bracket in which a value is still to come; in a record its name is known already. -/
inductive Pending where
  | item (items : List Tree)
  | member (members : List (String × Tree)) (name : String)
deriving Inhabited

/-- The open bracket once the value has come. -/
def Pending.fill : Pending → Tree → Open
  | .item items, t => .list (t :: items)
  | .member members name, t => .record ((name, t) :: members)

/-- Go on inside an open bracket: what is still to come there, or nothing if the bracket was closed,
and the characters left. -/
def nextPart (o : Open) (cs : List Char) : Except Fault (Option Pending × List Char) :=
  match o with
  | .list items =>
    match nextItem (!items.isEmpty) cs with
    | .error f => .error f
    | .ok (true, rest) => .ok (some (.item items), rest)
    | .ok (false, rest) =>
      match closeList rest with
      | .error f => .error f
      | .ok rest' => .ok (none, rest')
  | .record members =>
    match nextName (!members.isEmpty) cs with
    | .error f => .error f
    | .ok (none, rest) => .ok (none, rest)
    | .ok (some name, rest) =>
      match skipColon rest with
      | .error f => .error f
      | .ok rest' => .ok (some (.member members name), rest')

/-- Going on inside a bracket leaves no more characters, and fewer if the bracket was closed. -/
theorem nextPart_length {o : Open} {cs rest : List Char} {p : Option Pending}
    (h : nextPart o cs = .ok (p, rest)) :
    rest.length ≤ cs.length ∧ (p = none → rest.length < cs.length) := by
  cases o with
  | list items =>
    simp only [nextPart] at h
    split at h
    · simp at h
    · rename_i hn
      have := nextItem_length hn
      simp only [Except.ok.injEq, Prod.mk.injEq] at h
      obtain ⟨rfl, rfl⟩ := h
      exact ⟨this, by simp⟩
    · rename_i hn
      have := nextItem_length hn
      split at h
      · simp at h
      · rename_i hc
        have := closeList_length hc
        simp only [Except.ok.injEq, Prod.mk.injEq] at h
        obtain ⟨rfl, rfl⟩ := h
        exact ⟨by omega, fun _ => by omega⟩
  | record members =>
    simp only [nextPart] at h
    split at h
    · simp at h
    · rename_i hn
      have := nextName_length hn
      simp only [Except.ok.injEq, Prod.mk.injEq] at h
      obtain ⟨rfl, rfl⟩ := h
      exact ⟨by omega, fun _ => this⟩
    · rename_i hn
      have := nextName_length hn
      split at h
      · simp at h
      · rename_i hc
        have := skipColon_length hc
        simp only [Except.ok.injEq, Prod.mk.injEq] at h
        obtain ⟨rfl, rfl⟩ := h
        exact ⟨by omega, by simp⟩

mutual

/-- Read a value and then what follows it, up to the end of the outermost open bracket. -/
def readFrom (stack : List Pending) (cs : List Char) : Except Fault (Tree × List Char) :=
  match hb : skipBlanks cs with
  | [] => .error (.past .endInValue [])
  | c :: r =>
    have := length_of_skipBlanks hb
    if c == '[' then readInside (.list []) stack r
    else if c == '{' then readInside (.record []) stack r
    else
      match h : readItem (c :: r) with
      | .error f => .error f
      | .ok (s, rest) =>
        have : rest.length < r.length + 1 := readItem_length h
        readBehind stack (.text s) rest
termination_by 3 * cs.length
decreasing_by all_goals omega

/-- Read what follows inside an open bracket. -/
def readInside (o : Open) (stack : List Pending) (cs : List Char) :
    Except Fault (Tree × List Char) :=
  match h : nextPart o cs with
  | .error f => .error f
  | .ok (some p, rest) =>
    have := (nextPart_length h).1
    readFrom (p :: stack) rest
  | .ok (none, rest) =>
    have := (nextPart_length h).2 rfl
    readBehind stack o.close rest
termination_by 3 * cs.length + 1
decreasing_by all_goals omega

/-- Read what follows a value. -/
def readBehind (stack : List Pending) (t : Tree) (cs : List Char) :
    Except Fault (Tree × List Char) :=
  match stack with
  | [] => .ok (t, cs)
  | p :: outer => readInside (p.fill t) outer cs
termination_by 3 * cs.length + 2
decreasing_by all_goals omega

end

/-- Read a document. -/
def readTree (cs : List Char) : Except Fault (Tree × List Char) := readFrom [] cs

/-- The document that a text spells. -/
def Tree.read (text : String) : Except Refusal Tree := readWhole readTree text

/-! ## One step of the reading -/

theorem readFrom_eq (stack : List Pending) (cs : List Char) :
    readFrom stack cs =
      match skipBlanks cs with
      | [] => .error (.past .endInValue [])
      | c :: r =>
        if c == '[' then readInside (.list []) stack r
        else if c == '{' then readInside (.record []) stack r
        else
          match readItem (c :: r) with
          | .error f => .error f
          | .ok (s, rest) => readBehind stack (.text s) rest := by
  rw [readFrom]
  split
  · rename_i hb
    simp only [hb]
  · rename_i c r hb
    simp only [hb]
    congr 2
    split
    all_goals rename_i hi; simp only [hi]

theorem readFrom_list {stack : List Pending} {cs r : List Char} (h : skipBlanks cs = '[' :: r) :
    readFrom stack cs = readInside (.list []) stack r := by
  rw [readFrom_eq, h]
  rfl

theorem readFrom_record {stack : List Pending} {cs r : List Char} (h : skipBlanks cs = '{' :: r) :
    readFrom stack cs = readInside (.record []) stack r := by
  rw [readFrom_eq, h]
  rfl

theorem readFrom_text {stack : List Pending} {cs r text rest : List Char}
    (h : skipBlanks cs = '"' :: r) (ht : readText r = .ok (text, rest)) :
    readFrom stack cs = readBehind stack (.text (String.ofList text)) rest := by
  have hitem : readItem ('"' :: r) = .ok (String.ofList text, rest) := by rw [readItem, ht]
  rw [readFrom_eq, h]
  show (match readItem ('"' :: r) with
    | .error f => Except.error f
    | .ok (s, rest) => readBehind stack (.text s) rest) = _
  rw [hitem]

theorem readInside_some {o : Open} {stack : List Pending} {cs rest : List Char} {p : Pending}
    (h : nextPart o cs = .ok (some p, rest)) :
    readInside o stack cs = readFrom (p :: stack) rest := by
  rw [readInside]
  split
  all_goals simp_all

theorem readInside_none {o : Open} {stack : List Pending} {cs rest : List Char}
    (h : nextPart o cs = .ok (none, rest)) :
    readInside o stack cs = readBehind stack o.close rest := by
  rw [readInside]
  split
  all_goals simp_all

theorem readBehind_nil (t : Tree) (cs : List Char) : readBehind [] t cs = .ok (t, cs) := by
  rw [readBehind]

theorem readBehind_cons (p : Pending) (stack : List Pending) (t : Tree) (cs : List Char) :
    readBehind (p :: stack) t cs = readInside (p.fill t) stack cs := by
  rw [readBehind]

end SearchBar.Json
