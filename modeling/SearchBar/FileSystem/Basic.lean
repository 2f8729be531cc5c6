import SearchBar.FileSystem.Path

/-!
# File systems

A file system is a tree, given by what lies at each location.  Paths are followed step by step:
whatever a step is taken from has to be a directory, also when the step stays where it is, so that a
slash behind the name of a file is a fault.  What an operation runs into is one of a few faults;
names and whole paths that are too long are among them.

Apart from the tree, each location has an `Access`.  It says which operations are refused there,
for want of a permission or because a device fails, and how much of a file can be written.
-/

namespace SearchBar

/-- Why an operation on files failed. -/
inductive FileFault where
  | notFound
  | exists
  | notDirectory
  | isDirectory
  | nameTooLong
  /-- The path holds a null character, which ends every path. -/
  | nullInPath
  /-- Any other cause, such as a missing permission or a full device, with its number and text. -/
  | other (code : Nat) (text : String)
deriving DecidableEq, Repr, Inhabited

/-- The message of a fault. -/
def FileFault.message (f : FileFault) : String :=
  let numbered (code : Nat) (text : String) := text ++ " (os error " ++ toString code ++ ")"
  match f with
  | .notFound => numbered 2 "No such file or directory"
  | .exists => numbered 17 "File exists"
  | .notDirectory => numbered 20 "Not a directory"
  | .isDirectory => numbered 21 "Is a directory"
  | .nameTooLong => numbered 36 "File name too long"
  | .nullInPath => "file name contained an unexpected NUL byte"
  | .other code text => numbered code text

/-- The most bytes that a name may have. -/
def longestName : Nat := 255

/-- The most bytes that a path may have. -/
def longestPath : Nat := 4095

/-- Why a path names nothing in any file system, if that is so. -/
def FileFault.ofPath? (path : String) : Option FileFault :=
  if path = "" then some .notFound
  else if path.toList.contains '\x00' then some .nullInPath
  else if longestPath < path.utf8ByteSize then some .nameTooLong
  else none

/-- What lies at a location. -/
inductive Entry where
  | file (bytes : ByteArray)
  | directory
deriving Inhabited

/-- Whether an entry is a directory. -/
def Entry.isDirectory : Entry → Bool
  | .directory => true
  | .file _ => false

/-- A place in the tree: the names that lead to it from the root, the last one first. -/
abbrev Location := List String

/-! ## Access -/

/-- What can be done at a location, as far as the tree allows it.  A file that can be written, but
not read, is not among these. -/
inductive Access where
  /-- Everything. -/
  | free
  /-- Everything, but no more than so many bytes of a file get written. -/
  | scarce (room : Nat) (fault : FileFault)
  /-- A file can be read and a directory can be searched, but neither can be changed. -/
  | fixed (fault : FileFault)
  /-- Nothing. -/
  | closed (fault : FileFault)
deriving DecidableEq, Repr, Inhabited

namespace Access

/-- Why a file cannot be read, or a directory not be searched. -/
def lookFault? : Access → Option FileFault
  | .closed fault => some fault
  | .free | .scarce _ _ | .fixed _ => none

/-- Why a file or the entries of a directory cannot be changed. -/
def changeFault? : Access → Option FileFault
  | .fixed fault | .closed fault => some fault
  | .free | .scarce _ _ => none

/-- What becomes of bytes that are written to a file, and which of them get there. -/
def fill : Access → ByteArray → Except FileFault Unit × ByteArray
  | .scarce room fault, bytes =>
    if bytes.size ≤ room then (.ok (), bytes) else (.error fault, bytes.extract 0 room)
  | _, bytes => (.ok (), bytes)

/-- Nothing is refused to a reader that is not refused to a writer. -/
theorem lookFault?_of_changeFault? {a : Access} (h : a.changeFault? = none) :
    a.lookFault? = none := by
  cases a with
  | closed fault => cases h
  | _ => rfl

/-- Unless there is a fault, all the bytes get into a file. -/
theorem fill_ok {a : Access} {bytes kept : ByteArray} (h : a.fill bytes = (.ok (), kept)) :
    kept = bytes := by
  unfold fill at h
  split at h
  · split at h
    · exact (Prod.mk.inj h).2.symm
    · cases h
  · exact (Prod.mk.inj h).2.symm

end Access

/-! ## The tree -/

/-- What lies at each location below the root, what can be done there, and the directory at which
relative paths start. -/
structure FileSystem where
  lookup : Location → Option Entry
  workingDirectory : Location
  access : Location → Access := fun _ => .free

namespace FileSystem

/-- What lies at a location; the root is always a directory. -/
def entry? (fs : FileSystem) : Location → Option Entry
  | [] => some .directory
  | loc => fs.lookup loc

/-- The file system with something placed at a location. -/
def place (fs : FileSystem) (loc : Location) (e : Entry) : FileSystem :=
  { fs with lookup := fun l => if l = loc then some e else fs.lookup l }

/-- Why a segment cannot be followed from a location, if that is so.  A segment that is empty is
looked for nowhere, but has to follow a directory all the same. -/
def searchFault? (fs : FileSystem) (loc : Location) (segment : String) : Option FileFault :=
  match fs.entry? loc with
  | none => some .notFound
  | some (.file _) => some .notDirectory
  | some .directory => if segment = "" then none else (fs.access loc).lookFault?

/-- The location to which a segment leads from another one. -/
def next (fs : FileSystem) (loc : Location) (segment : String) : Except FileFault Location :=
  match fs.searchFault? loc segment with
  | some f => .error f
  | none =>
    if Path.isIdle segment then .ok loc
    else if segment = ".." then .ok loc.tail
    else if longestName < segment.utf8ByteSize then .error .nameTooLong
    else if (fs.entry? (segment :: loc)).isSome then .ok (segment :: loc)
    else .error .notFound

/-- Follow segments from a location to the location of something that exists. -/
def walk (fs : FileSystem) (start : Location) (segments : List String) :
    Except FileFault Location := segments.foldlM fs.next start

/-- The location at which a path starts. -/
def origin (fs : FileSystem) (path : String) : Location :=
  if Path.isAbsolute path then [] else fs.workingDirectory

/-- The location of what a path names. -/
def locate (fs : FileSystem) (path : String) : Except FileFault Location :=
  match FileFault.ofPath? path with
  | some f => .error f
  | none => fs.walk (fs.origin path) (Path.segments path)

/-- What a path names. -/
def find (fs : FileSystem) (path : String) : Except FileFault Entry :=
  match fs.locate path with
  | .error f => .error f
  | .ok loc =>
    match fs.entry? loc with
    | some e => .ok e
    | none => .error .notFound

/-- Whether a path names something. -/
def pathExists (fs : FileSystem) (path : String) : Bool :=
  match fs.find path with
  | .ok _ => true
  | .error _ => false

/-- Whether a path names a directory. -/
def isDirectory (fs : FileSystem) (path : String) : Bool :=
  match fs.find path with
  | .ok e => e.isDirectory
  | .error _ => false

/-- The bytes of a file. -/
def read (fs : FileSystem) (path : String) : Except FileFault ByteArray :=
  match fs.locate path with
  | .error f => .error f
  | .ok loc =>
    match (fs.access loc).lookFault? with
    | some f => .error f
    | none =>
      match fs.entry? loc with
      | none => .error .notFound
      | some .directory => .error .isDirectory
      | some (.file bytes) => .ok bytes

/-! ## Making files and directories -/

/-- Where a path would make something new. -/
inductive Target where
  /-- The path ends in a step that names no entry of a directory, like the root or `..`. -/
  | unnamed
  /-- A name in a directory; the flag tells whether a slash follows the name. -/
  | named (directory : Location) (name : String) (slash : Bool)

/-- The target of a path.  All steps before its last one have to exist. -/
def target (fs : FileSystem) (path : String) : Except FileFault Target :=
  match FileFault.ofPath? path with
  | some f => .error f
  | none =>
    let reversed := (Path.segments path).reverse
    match reversed.dropWhile (· == "") with
    | [] => .ok .unnamed
    | last :: before =>
      match fs.walk (fs.origin path) before.reverse with
      | .error f => .error f
      | .ok loc =>
        match fs.searchFault? loc last with
        | some f => .error f
        | none =>
          if last == "." || last == ".." then .ok .unnamed
          else .ok (.named loc last (reversed.head? == some ""))

/-- Why no file can be written under a name in a directory, if that is so.  One that is not there
yet changes the directory, too.  -/
def writeFault? (fs : FileSystem) (loc : Location) (name : String) : Option FileFault :=
  if longestName < name.utf8ByteSize then some .nameTooLong
  else
    let own := (fs.access (name :: loc)).changeFault?
    if (fs.entry? (name :: loc)).isSome then own else (fs.access loc).changeFault?.or own

/-- The location of the file that a path names, or would make, for it to be written. -/
def writable (fs : FileSystem) (path : String) : Except FileFault Location :=
  match fs.target path with
  | .error f => .error f
  | .ok .unnamed => .error .isDirectory
  | .ok (.named loc name slash) =>
    if slash || (fs.entry? (name :: loc)).any Entry.isDirectory then .error .isDirectory
    else
      match fs.writeFault? loc name with
      | some f => .error f
      | none => .ok (name :: loc)

/-- Write a file, in place of the one that is there.  If not all bytes can be written, then those
that could be are in the file. -/
def write (fs : FileSystem) (path : String) (bytes : ByteArray) :
    Except FileFault Unit × FileSystem :=
  match fs.writable path with
  | .error f => (.error f, fs)
  | .ok loc =>
    let (result, kept) := (fs.access loc).fill bytes
    (result, fs.place loc (.file kept))

/-- Make one directory. -/
def makeDir (fs : FileSystem) (path : String) : Except FileFault FileSystem :=
  match fs.target path with
  | .error f => .error f
  | .ok .unnamed => .error .exists
  | .ok (.named loc name _) =>
    if (fs.entry? (name :: loc)).isSome then .error .exists
    else if longestName < name.utf8ByteSize then .error .nameTooLong
    else
      match (fs.access loc).changeFault? with
      | some f => .error f
      | none => .ok (fs.place (name :: loc) .directory)

/-- Make one directory, unless it is there already. -/
def ensureDir (fs : FileSystem) (path : String) : Except FileFault Unit × FileSystem :=
  match fs.makeDir path with
  | .ok fs' => (.ok (), fs')
  | .error f => (if fs.isDirectory path then .ok () else .error f, fs)

/-- Make the first of some directories, after those behind it, each of which is the one that the
directory before it lies in, if it cannot be made without them.  What was made before a fault
stays. -/
def makeChain (fs : FileSystem) : List String → Except FileFault Unit × FileSystem
  | [] => (.ok (), fs)
  | path :: above =>
    match fs.makeDir path with
    | .error .notFound =>
      match makeChain fs above with
      | (.error f, fs') => (.error f, fs')
      | (.ok (), fs') => fs'.ensureDir path
    | _ => fs.ensureDir path

/-- Make the directories in which the last step of a path lies. -/
def makeParents (fs : FileSystem) (path : String) : Except FileFault Unit × FileSystem :=
  fs.makeChain (Path.parents path)

/-- The file system that holds nothing but a working directory and those above it. -/
def ofWorkingDirectory (loc : Location) : FileSystem where
  lookup l := if l.isSuffixOf loc then some .directory else none
  workingDirectory := loc

end FileSystem

end SearchBar
