import QuantityCalculator.Bindings
import QuantityCalculator.Error

/-!
Storing a document under a path, and a folder in memory that documents can be stored in.
-/

namespace QuantityCalculator

class Storage (m : Type → Type) where
  write (path text : String) : m (Except StorageError Unit)

/-- The files of a folder. It has no folders inside it. Nothing is known of the folders around it, and
what is written there is not kept. -/
structure Folder where
  files : Bindings String := []

namespace Folder

/-- Where the way to a file has come: to the folder itself, or to one around it. -/
inductive Side where
  | inside | outside
  deriving DecidableEq, Repr

def longestName : Nat := 255

def longestPath : Nat := 4095

/-- Looks for a folder of a name, as the way to a file goes through it. -/
def enter (f : Folder) (side : Side) (name : String) : Except StorageError Side :=
  if name = "." then .ok side
  else if name = ".." then .ok .outside
  else if longestName < name.utf8ByteSize then .error .nameTooLong
  else if side = .inside ∧ (f.files.get? name).isSome then .error .notADirectory
  else .error .noSuchFile

def locate (f : Folder) (path : String) : Except StorageError (Side × String) := do
  if path.toList.contains '\x00' then throw .nulInName
  if longestPath < path.utf8ByteSize then throw .nameTooLong
  let names := ((path.toList.splitOn '/').map String.ofList).filter (· ≠ "")
  match path.toList.head?, names.getLast? with
  | none, _ => throw .noSuchFile
  | _, none => throw .isADirectory
  | some first, some name =>
    let side ← names.dropLast.foldlM f.enter (if first = '/' then .outside else .inside)
    if name = "." ∨ name = ".." ∨ path.toList.getLast? = some '/' then throw .isADirectory
    if longestName < name.utf8ByteSize then throw .nameTooLong
    return (side, name)

def write (f : Folder) (path text : String) : Except StorageError Folder :=
  (f.locate path).map fun
    | (.inside, name) => ⟨f.files.insert name text⟩
    | (.outside, _) => f

instance : Storage (StateM Folder) where
  write path text := fun f =>
    match f.write path text with
    | .ok g => (.ok (), g)
    | .error e => (.error e, f)

end Folder

end QuantityCalculator
