import SearchBar.Json.Texts
import SearchBar.Options

/-!
# Reading parse options

Options are read from a JSON record with the members `keywords` and `ranges`, each a list of names
that may be missing; other members are skipped.  A list of at most two such lists is read the same
way, the first for the keywords.
-/

namespace SearchBar.Options

open Json (Fault)

/-- The two lists of names. -/
inductive Slot where
  | keywords
  | ranges
deriving DecidableEq, Repr, Inhabited

/-- The member name of a list of names. -/
def Slot.name : Slot → String
  | .keywords => "keywords"
  | .ranges => "ranges"

/-- The list that a member name stands for. -/
def Slot.ofName? (name : String) : Option Slot :=
  if name = Slot.keywords.name then some .keywords
  else if name = Slot.ranges.name then some .ranges
  else none

/-- The lists read so far. -/
structure Draft where
  keywords : Option (List String) := none
  ranges : Option (List String) := none

/-- The list of a slot, if it was read. -/
def Draft.get? (d : Draft) : Slot → Option (List String)
  | .keywords => d.keywords
  | .ranges => d.ranges

/-- The draft with a list read. -/
def Draft.set (d : Draft) (slot : Slot) (names : List String) : Draft :=
  match slot with
  | .keywords => { d with keywords := some names }
  | .ranges => { d with ranges := some names }

/-- The options of a draft; a list that was not read is empty. -/
def Draft.toOptions (d : Draft) : Options :=
  ⟨NameSet.ofList (d.keywords.getD []), NameSet.ofList (d.ranges.getD [])⟩

/-- The fault of a name that comes again.  The record is closed, if that is possible at once, before
the place is taken. -/
def repeatedFault (slot : Slot) (cs : List Char) : Fault :=
  match Json.skipBlanks cs with
  | '}' :: r => .before (.repeatedName slot.name) r
  | r => .before (.repeatedName slot.name) r

/-- Read the value of a member into the draft. -/
def readMember (draft : Draft) (name : String) (cs : List Char) :
    Except Fault (Draft × List Char) :=
  match Slot.ofName? name with
  | none =>
    match Json.skipColon cs with
    | .error f => .error f
    | .ok rest =>
      match Json.skipValue rest with
      | .error f => .error f
      | .ok rest' => .ok (draft, rest')
  | some slot =>
    if (draft.get? slot).isSome then .error (repeatedFault slot cs)
    else
      match Json.skipColon cs with
      | .error f => .error f
      | .ok rest =>
        match Json.readTexts rest with
        | .error f => .error f
        | .ok (names, rest') => .ok (draft.set slot names, rest')

theorem readMember_length {draft draft' : Draft} {name : String} {cs rest : List Char}
    (h : readMember draft name cs = .ok (draft', rest)) : rest.length < cs.length := by
  unfold readMember at h
  split at h
  · split at h
    · simp at h
    · rename_i hc
      have := Json.skipColon_length hc
      split at h
      · simp at h
      · rename_i hv
        have := Json.skipValue_length hv
        simp only [Except.ok.injEq, Prod.mk.injEq] at h
        rw [← h.2]
        omega
  · split at h
    · simp at h
    · split at h
      · simp at h
      · rename_i hc
        have := Json.skipColon_length hc
        split at h
        · simp at h
        · rename_i hv
          have := Json.readTexts_length hv
          simp only [Except.ok.injEq, Prod.mk.injEq] at h
          rw [← h.2]
          omega

/-- Read the members of a record to behind its closing bracket. -/
def readMembers (filled : Bool) (draft : Draft) (cs : List Char) :
    Except Fault (Draft × List Char) :=
  match hn : Json.nextName filled cs with
  | .error f => .error f
  | .ok (none, rest) => .ok (draft, rest)
  | .ok (some name, rest) =>
    have := Json.nextName_length hn
    match hm : readMember draft name rest with
    | .error f => .error f
    | .ok (draft', rest') =>
      have := readMember_length hm
      readMembers true draft' rest'
termination_by cs.length

/-- Read the lists of a list of at most two, and close it. -/
def readSlots (filled : Bool) (draft : Draft) : List Slot → List Char →
    Except Fault (Draft × List Char)
  | [], cs =>
    match Json.closeList cs with
    | .error f => .error f
    | .ok rest => .ok (draft, rest)
  | slot :: slots, cs =>
    match Json.nextItem filled cs with
    | .error f => .error f
    | .ok (false, rest) =>
      match Json.closeList rest with
      | .error f => .error f
      | .ok rest' => .ok (draft, rest')
    | .ok (true, rest) =>
      match Json.readTexts rest with
      | .error f => .error f
      | .ok (names, rest') => readSlots true (draft.set slot names) slots rest'

/-- Read options in either form. -/
def read (cs : List Char) : Except Fault (Options × List Char) :=
  let drafted (r : Except Fault (Draft × List Char)) : Except Fault (Options × List Char) :=
    match r with
    | .error f => .error f
    | .ok (draft, rest) => .ok (draft.toOptions, rest)
  match Json.skipBlanks cs with
  | [] => .error (.past .endInValue [])
  | '{' :: r => drafted (readMembers false {} r)
  | '[' :: r => drafted (readSlots false {} [.keywords, .ranges] r)
  | cs' => .error (Json.unwanted .options cs')

/-- The options that a JSON text holds. -/
def ofJson (text : String) : Except Json.Refusal Options := Json.readWhole read text

end SearchBar.Options
