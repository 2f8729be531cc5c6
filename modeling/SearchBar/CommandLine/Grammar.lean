import SearchBar.CommandLine.Command

/-!
# Reading options and words

How the arguments of a command are read: short options may be joined behind one dash, long ones
stand behind two, a value is attached or follows as an argument of its own, and behind `--`
everything is a word.

A value that follows is not taken in at once.  It waits until the next option or word comes, or the
end, and only then can turn out to be wrong; so what cannot be understood at all is reported before
a wrong value that came earlier.
-/

namespace SearchBar.CommandLine

/-- What the name of an option stands for. -/
inductive Switch (O F : Type) where
  /-- A flag, which has no value. -/
  | flag (f : F)
  /-- An option with a value. -/
  | option (o : O)

/-- One thing that the arguments say. -/
inductive Item (O F : Type) where
  | flag (f : F)
  | option (o : O) (value : String)
  | word (w : String)

/-- The options of a command, and how what the arguments say adds up. -/
structure Grammar (O F σ : Type) where
  short : Char → Option (Switch O F)
  long : String → Option (Switch O F)
  /-- Whether the command takes words. -/
  takesWords : Bool
  /-- Add one thing to what was said so far. -/
  accept : σ → Item O F → Except Stop σ

/-- The forms of an argument. -/
inductive Argument where
  /-- A word or a value: no dash in front, or a dash alone. -/
  | plain (text : String)
  /-- The two dashes behind which everything is a word. -/
  | separator
  /-- A long option, with its value if one is attached. -/
  | long (name : String) (value : Option String)
  /-- The characters behind a single dash. -/
  | cluster (letters : List Char)

/-- The form of an argument. -/
def Argument.ofString (s : String) : Argument :=
  match s.toList with
  | ['-', '-'] => .separator
  | '-' :: '-' :: rest =>
    match Text.cutChars '=' rest with
    | some (name, value) => .long (String.ofList name) (some (String.ofList value))
    | none => .long (String.ofList rest) none
  | '-' :: c :: rest => .cluster (c :: rest)
  | _ => .plain s

/-- What was said so far, and an option that was named last, with its value if that came as an
argument of its own. -/
structure Reading (O σ : Type) where
  said : σ
  waiting : Option (O × Option String) := none

variable {O F σ : Type}

namespace Grammar

/-- Take in the option that waits. -/
def settle (g : Grammar O F σ) (r : Reading O σ) : Except Stop σ :=
  match r.waiting with
  | none => .ok r.said
  | some (_, none) => .error .invalidValue
  | some (o, some value) => g.accept r.said (.option o value)

/-- Take in the option that waits, and then one more thing. -/
def take (g : Grammar O F σ) (r : Reading O σ) (item : Item O F) : Except Stop (Reading O σ) :=
  match g.settle r with
  | .error stop => .error stop
  | .ok said =>
    match g.accept said item with
    | .error stop => .error stop
    | .ok said' => .ok ⟨said', none⟩

/-- Let an option wait for its value. -/
def await (g : Grammar O F σ) (r : Reading O σ) (o : O) : Except Stop (Reading O σ) :=
  match g.settle r with
  | .error stop => .error stop
  | .ok said => .ok ⟨said, some (o, none)⟩

/-- Read a word. -/
def readWord (g : Grammar O F σ) (r : Reading O σ) (w : String) : Except Stop (Reading O σ) :=
  if g.takesWords then g.take r (.word w) else .error .unknownArgument

/-- Read a text that is the value of the option that waits for one, and otherwise a word. -/
def readPlain (g : Grammar O F σ) (r : Reading O σ) (text : String) :
    Except Stop (Reading O σ) :=
  match r.waiting with
  | some (o, none) => .ok { r with waiting := some (o, some text) }
  | _ => g.readWord r text

/-- Read a long option. -/
def readLong (g : Grammar O F σ) (r : Reading O σ) (name : String) (value : Option String) :
    Except Stop (Reading O σ) :=
  match g.long name, value with
  | none, _ => .error .unknownArgument
  | some (.flag f), none => g.take r (.flag f)
  | some (.flag _), some _ => .error .tooManyValues
  | some (.option o), none => g.await r o
  | some (.option o), some v => g.take r (.option o v)

/-- The value that is attached to a short option: what follows its letter, without one equals
sign. -/
def attached : List Char → List Char
  | '=' :: rest => rest
  | rest => rest

/-- Read the letters behind a single dash. -/
def readCluster (g : Grammar O F σ) (r : Reading O σ) : List Char → Except Stop (Reading O σ)
  | [] => .ok r
  | c :: rest =>
    match g.short c with
    | none => .error .unknownArgument
    | some (.flag f) =>
      match g.take r (.flag f) with
      | .error stop => .error stop
      | .ok r' => readCluster g r' rest
    | some (.option o) =>
      if rest.isEmpty then g.await r o
      else g.take r (.option o (String.ofList (attached rest)))

/-- Read words only. -/
def readWords (g : Grammar O F σ) (r : Reading O σ) : List String → Except Stop (Reading O σ)
  | [] => .ok r
  | w :: ws =>
    match g.readWord r w with
    | .error stop => .error stop
    | .ok r' => readWords g r' ws

/-- Read arguments one by one; the last option may still wait afterwards. -/
def readFrom (g : Grammar O F σ) (r : Reading O σ) : List String → Except Stop (Reading O σ)
  | [] => .ok r
  | a :: as =>
    let go (next : Except Stop (Reading O σ)) : Except Stop (Reading O σ) :=
      match next with
      | .error stop => .error stop
      | .ok r' => readFrom g r' as
    match Argument.ofString a with
    | .separator => g.readWords r as
    | .plain text => go (g.readPlain r text)
    | .long name value => go (g.readLong r name value)
    | .cluster letters => go (g.readCluster r letters)

/-- What all arguments say, starting from what nothing says. -/
def read (g : Grammar O F σ) (start : σ) (args : List String) : Except Stop σ :=
  match g.readFrom ⟨start, none⟩ args with
  | .error stop => .error stop
  | .ok r => g.settle r

end Grammar

end SearchBar.CommandLine
