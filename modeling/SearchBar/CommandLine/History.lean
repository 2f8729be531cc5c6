import SearchBar.CommandLine.Grammar

/-!
# The arguments of the history command

The limit is a whole number of at most 64 bits; a plus sign may stand in front of it.
-/

namespace SearchBar.CommandLine

/-- The options of the history command that have a value. -/
inductive HistoryOption where
  | limit
deriving DecidableEq, Repr, Inhabited

/-- The flags of the history command. -/
inductive HistoryFlag where
  | clear
  | help
deriving DecidableEq, Repr, Inhabited

/-- What the arguments have said so far. -/
structure HistoryDraft where
  limit : Option Nat := none
  clear : Bool := false
deriving DecidableEq, Repr, Inhabited

/-- How many queries are shown when no limit is given. -/
def defaultLimit : Nat := 20

/-- The largest limit: the largest whole number of 64 bits. -/
def maxLimit : Nat := 0xFFFFFFFFFFFFFFFF

/-- The digits of a limit, behind a plus sign if there is one. -/
def limitDigits : List Char → List Char
  | '+' :: ds => ds
  | ds => ds

/-- The limit that a text stands for. -/
def readLimit? (text : String) : Option Nat :=
  let ds := limitDigits text.toList
  if ds.isEmpty || !ds.all (fun c => '0' ≤ c && c ≤ '9') then none
  else
    let n := ds.foldl (fun n c => n * 10 + (c.toNat - 48)) 0
    if n ≤ maxLimit then some n else none

namespace HistoryDraft

/-- Add one thing to what was said so far. -/
def accept (d : HistoryDraft) : Item HistoryOption HistoryFlag → Except Stop HistoryDraft
  | .word _ => .error .unknownArgument
  | .option .limit value =>
    if d.limit.isSome then .error .argumentConflict
    else
      match readLimit? value with
      | none => .error .valueValidation
      | some n => .ok { d with limit := some n }
  | .flag .clear =>
    if d.clear then .error .argumentConflict else .ok { d with clear := true }
  | .flag .help => .error (.help .history)

/-- The arguments that a draft stands for. -/
def finish (d : HistoryDraft) : HistoryArguments := ⟨d.limit.getD defaultLimit, d.clear⟩

end HistoryDraft

/-- The options of the history command. -/
def historyGrammar : Grammar HistoryOption HistoryFlag HistoryDraft where
  short
    | 'n' => some (.option .limit)
    | 'h' => some (.flag .help)
    | _ => none
  long
    | "limit" => some (.option .limit)
    | "clear" => some (.flag .clear)
    | "help" => some (.flag .help)
    | _ => none
  takesWords := false
  accept := HistoryDraft.accept

/-- Read the arguments of the history command. -/
def readHistory (args : List String) : Except Stop HistoryArguments :=
  match historyGrammar.read {} args with
  | .error stop => .error stop
  | .ok draft => .ok draft.finish

end SearchBar.CommandLine
