import SearchBar.FileSystem.Basic

/-!
# Storage

What a program needs of the files around it: four operations in some monad.  A file system of this
library is one such storage, as the state that the operations change.
-/

namespace SearchBar

/-- Operations on files.  Those that can fail answer with a fault. -/
class Storage (m : Type → Type) where
  /-- Whether a path names something. -/
  pathExists : String → m Bool
  /-- The bytes of a file. -/
  read : String → m (Except FileFault ByteArray)
  /-- Make the directories in which the last step of a path lies. -/
  makeParents : String → m (Except FileFault Unit)
  /-- Write a file, in place of the one that is there.  A fault may leave a part of it. -/
  write : String → ByteArray → m (Except FileFault Unit)

instance : Storage (StateM FileSystem) where
  pathExists path := fun fs => (fs.pathExists path, fs)
  read path := fun fs => (fs.read path, fs)
  makeParents path := fun fs => fs.makeParents path
  write path bytes := fun fs => fs.write path bytes

end SearchBar
