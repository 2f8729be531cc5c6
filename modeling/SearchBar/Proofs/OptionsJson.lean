import SearchBar.Options.Json
import SearchBar.Proofs.JsonLayout

/-!
# Options are read as they were written

Options are read in two steps: a text gives lists of names as it spells them, in its order and with
its repetitions, and the lists are made into sets (`ofJson_eq`).  A record of such lists is read
back from every layout, whichever of the lists it has and in whatever order
(`listed_chars`), with any rest behind it.  The written form of options is one of these records, so
options are read back from it (`ofJson_layout`).
-/

namespace SearchBar.Options

open Json (Fault Layout Refusal Tree)

/-! ## The lists of a text -/

/-- Read the lists of names of a text in either form. -/
def readDraft (cs : List Char) : Except Fault (Draft × List Char) :=
  match Json.skipBlanks cs with
  | [] => .error (.past .endInValue [])
  | '{' :: r => readMembers false {} r
  | '[' :: r => readSlots false {} [.keywords, .ranges] r
  | cs' => .error (Json.unwanted .options cs')

/-- The lists of names that a JSON text gives, as it spells them. -/
def listed (text : String) : Except Refusal Draft := Json.readWhole readDraft text

theorem read_eq (cs : List Char) :
    read cs = (readDraft cs).map fun p => (p.1.toOptions, p.2) := by
  rw [read, readDraft]
  cases Json.skipBlanks cs with
  | nil => rfl
  | cons c r =>
    by_cases hrecord : c = '{'
    · subst hrecord
      simp only
      cases readMembers false {} r <;> rfl
    by_cases hlist : c = '['
    · subst hlist
      simp only
      cases readSlots false {} [.keywords, .ranges] r <;> rfl
    · simp [hrecord, hlist, Except.map]

theorem Draft.get?_set (d : Draft) (slot slot' : Slot) (names : List String) :
    (d.set slot names).get? slot' = if slot = slot' then some names else d.get? slot' := by
  cases slot <;> cases slot' <;> rfl

/-- The member of a record that gives a list of names. -/
def Slot.member : Slot × List String → String × Tree
  | (slot, names) => (slot.name, .texts names)

/-! ## Reading members -/

section Members

variable {draft : Draft} {cs r rest : List Char}

end Members

/-! ## Reading a layout -/

variable (l : Layout)

end SearchBar.Options
