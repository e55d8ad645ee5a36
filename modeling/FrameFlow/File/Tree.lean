import FrameFlow.File

/-!
Files kept in memory: one directory under a name of its own, with files in it and no other
directory. A path is taken part by part; empty parts and single points lead nowhere.
-/

namespace FrameFlow

structure FileTree where
  root : String
  files : List (String × List UInt8) := []

namespace FileTree

def missing : String := "No such file or directory (os error 2)"

def notDirectory : String := "Not a directory (os error 20)"

def isDirectory : String := "Is a directory (os error 21)"

def parts (path : String) : List String :=
  (path.splitOn "/").filter fun part => part != "" && part != "."

def file? (tree : FileTree) (name : String) : Option (List UInt8) :=
  (tree.files.find? (·.1 == name)).map (·.2)

/-- What opening a path gives. A directory can be opened, but not read. -/
def access (tree : FileTree) (path : String) : FileAccess :=
  match parts path with
  | [] => .opened [.failure isDirectory]
  | first :: rest =>
      if first = tree.root then
        match rest with
        | [] => .opened [.failure isDirectory]
        | name :: below =>
            match tree.file? name with
            | none => .refused missing
            | some bytes =>
                if below.isEmpty && !path.endsWith "/" then .opened [.bytes bytes]
                else .refused notDirectory
      else .refused missing

def creationFailure? (tree : FileTree) (path : String) : Option String :=
  match parts path with
  | [] => some isDirectory
  | first :: rest =>
      if first = tree.root then
        match rest with
        | [] => some isDirectory
        | [_] => if path.endsWith "/" then some isDirectory else none
        | name :: _ => some (if (tree.file? name).isSome then notDirectory else missing)
      else none

end FileTree

end FrameFlow
