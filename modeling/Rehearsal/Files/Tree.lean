import Rehearsal.Dict
import Rehearsal.Files

/-!
Files that are kept in memory, as a tree of directories with a working directory. The root is
always there.
-/

namespace Rehearsal

/-- What stands at a path of a tree. -/
inductive FileEntry where
  | directory
  | file (content : ByteArray)

/-- Whether two entries are the same: both directories, or files of the same content. -/
def FileEntry.same : FileEntry → FileEntry → Bool
  | directory, directory => true
  | file left, file right => left.data == right.data
  | _, _ => false

instance : BEq FileEntry := ⟨FileEntry.same⟩

/-- A tree of files. -/
structure FileTree where
  /-- Everything but the root, by the text of its absolute path. -/
  entries : Dict FileEntry := ∅
  /-- The names on the way from the root to where relative paths start. -/
  working : List String := []

namespace FileTree

/-- The text of an absolute path. -/
def textOf (names : List String) : String :=
  String.join (names.map fun name => "/" ++ name)

/-- What stands at the end of the names on the way from the root. -/
def entry? (tree : FileTree) (names : List String) : Option FileEntry :=
  if names.isEmpty then some .directory else tree.entries.get? (textOf names)

/-- Puts a directory or file at the end of the names on the way from the root. -/
def put (tree : FileTree) (names : List String) (entry : FileEntry) : FileTree :=
  { tree with entries := tree.entries.insert (textOf names) entry }

/-- Puts a directory or file somewhere below the end of some names, with directories on the
way. -/
def plantBelow (tree : FileTree) (names : List String) (entry : FileEntry)
    : List String → FileTree
  | [] => tree
  | [name] => tree.put (names ++ [name]) entry
  | name :: rest =>
      (tree.put (names ++ [name]) .directory).plantBelow (names ++ [name]) entry rest

/-- Puts a directory or file somewhere, with directories on the way. -/
def plant (tree : FileTree) (names : List String) (entry : FileEntry) : FileTree :=
  tree.plantBelow [] entry names

/-- What stands below a directory and did not stand there in an earlier tree, by its path from
there; a slash ends the path of a directory. -/
def changesSince (earlier tree : FileTree) (directory : List String)
    : List (String × FileEntry) :=
  let start := (textOf directory ++ "/").toList
  tree.entries.bindings.filterMap fun (path, entry) =>
    if !start.isPrefixOf path.toList || earlier.entries.get? path == some entry then none
    else
      let slash := if entry == .directory then "/" else ""
      some (String.ofList (path.toList.drop start.length) ++ slash, entry)

/-- Follows the parts of a path; all but the last must lead to directories. -/
def follow (tree : FileTree) (names : List String)
    : List String → Except FileFault (List String)
  | [] => .ok names
  | part :: rest =>
      match tree.entry? names with
      | none => .error .missing
      | some (.file _) => .error .notADirectory
      | some .directory =>
          if Path.isIdle part then tree.follow names rest
          else if part == ".." then tree.follow names.dropLast rest
          else tree.follow (names ++ [part]) rest

/-- The names on the way from the root to a path. -/
def locate (tree : FileTree) (path : String) : Except FileFault (List String) :=
  if path.isEmpty then .error .missing
  else tree.follow (if Path.isAbsolute path then [] else tree.working) (Path.parts path)

/-- The same for a path at which something is to be put: slashes at its end do not count. -/
def locateNew (tree : FileTree) (path : String) : Except FileFault (List String) :=
  let parts := ((Path.parts path).reverse.dropWhile String.isEmpty).reverse
  if path.isEmpty then .error .missing
  else tree.follow (if Path.isAbsolute path then [] else tree.working) parts

/-- What stands at a path. -/
def find? (tree : FileTree) (path : String) : Option FileEntry :=
  match tree.locate path with
  | .ok names => tree.entry? names
  | .error _ => none

/-- The names in a directory. -/
def namesIn (tree : FileTree) (directory : List String) : List String :=
  let start := (textOf directory ++ "/").toList
  tree.entries.keys.filterMap fun path =>
    let name := path.toList.drop start.length
    if start.isPrefixOf path.toList && !name.isEmpty && !name.contains '/' then
      some (String.ofList name)
    else none

/-- Lists a directory. -/
def names (tree : FileTree) (path : String) : Except FileFault (List String) := do
  let names ← tree.locate path
  match tree.entry? names with
  | none => throw .missing
  | some (.file _) => throw .notADirectory
  | some .directory => return tree.namesIn names

/-- Reads a file. -/
def read (tree : FileTree) (path : String) : Except FileFault ByteArray := do
  match tree.entry? (← tree.locate path) with
  | none => throw .missing
  | some .directory => throw .isADirectory
  | some (.file content) => return content

/-- Makes a directory. -/
def makeDirectory (tree : FileTree) (path : String) : Except FileFault FileTree := do
  let names ← tree.locateNew path
  if (tree.entry? names).isSome then throw .taken
  return tree.put names .directory

/-- Writes a file. -/
def write (tree : FileTree) (path text : String) : Except FileFault FileTree := do
  let names ← tree.locateNew path
  match tree.entry? names with
  | some .directory => throw .isADirectory
  | some (.file _) => if Path.endsInSlash path then throw .notADirectory
  | none => if Path.endsInSlash path then throw .isADirectory
  return tree.put names (.file text.toUTF8)

/-- Moves a file. -/
def rename (tree : FileTree) (source target : String) : Except FileFault FileTree := do
  let leaving ← tree.locate source
  let arriving ← tree.locate target
  match tree.entry? leaving, tree.entry? arriving with
  | none, _ => throw .missing
  | some _, some .directory => throw .isADirectory
  | some entry, _ =>
      let removed := { tree with entries := tree.entries.erase (textOf leaving) }
      return removed.put arriving entry

/-- A change of a tree, as an action. -/
def changing (change : FileTree → Except FileFault FileTree)
    : ExceptT FileFault (StateM FileTree) Unit :=
  ExceptT.mk fun tree =>
    match change tree with
    | .ok next => (.ok (), next)
    | .error fault => (.error fault, tree)

/-- A question to a tree, as an action. -/
def asking {α : Type} (ask : FileTree → Except FileFault α)
    : ExceptT FileFault (StateM FileTree) α :=
  ExceptT.mk fun tree => (ask tree, tree)

instance : Files (StateM FileTree) where
  kind? path := do
    return ((← get).find? path).map fun
      | .directory => .directory
      | .file _ => .file
  names path := asking fun tree => tree.names path
  read path := asking fun tree => tree.read path
  makeDirectory path := changing fun tree => tree.makeDirectory path
  write path text := changing fun tree => tree.write path text
  rename source target := changing fun tree => tree.rename source target

end FileTree

end Rehearsal
