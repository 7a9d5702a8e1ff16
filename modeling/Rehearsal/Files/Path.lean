import Rehearsal.Text.Split

/-!
Paths of files as texts, with slashes between the names of directories.
-/

namespace Rehearsal.Path

/-- Whether a path starts at the root. -/
def isAbsolute (path : String) : Bool :=
  path.toList.head? == some '/'

/-- Whether a path can only be that of a directory. -/
def endsInSlash (path : String) : Bool :=
  path.toList.getLast? == some '/'

/-- A path within a directory. An absolute path stays as it is. -/
def join (directory path : String) : String :=
  if isAbsolute path || directory.isEmpty then path
  else if endsInSlash directory then directory ++ path
  else directory ++ "/" ++ path

/-- The parts of a path between its slashes. The first part of an absolute path is empty. -/
def parts (path : String) : List String :=
  (Text.splitAt '/' path.toList).map String.ofList

/-- Whether a part leads nowhere else. -/
def isIdle (part : String) : Bool :=
  part.isEmpty || part == "."

/-- Drops the idle parts at the end. -/
def dropIdle (parts : List String) : List String :=
  (parts.reverse.dropWhile isIdle).reverse

/-- The path of the directory that a path lies in; the root and the empty path lie in none. -/
def parent? (path : String) : Option String :=
  match parts path with
  | [] => none
  | first :: rest =>
      match dropIdle rest with
      | [] => if first.isEmpty then none else some ""
      | inner =>
          match dropIdle inner.dropLast with
          | [] => some (if first.isEmpty then "/" else first)
          | outer => some (String.intercalate "/" (first :: outer))

/-- The extension of a name: what follows its last point, unless nothing stands before it. -/
def extension? (name : String) : Option String :=
  match (Text.splitAt '.' name.toList).reverse with
  | extension :: before :: more =>
      if before.isEmpty && more.isEmpty then none else some (String.ofList extension)
  | _ => none

/-- Whether the extension of a name is one of some, in any letter case. -/
def hasExtension (extensions : List String) (name : String) : Bool :=
  (extension? name).any fun extension => extensions.contains extension.toLower

end Rehearsal.Path
