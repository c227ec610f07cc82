import LogSelect.Files.Source

/-!
Trees of files, and what paths lead to in them.
-/

namespace LogSelect

inductive FileTree where
  | file (bytes : List Nat)
  | directory (entries : List (String × FileTree))

namespace FileTree

def byteLength (s : String) : Nat :=
  s.utf8ByteSize

def maxNameBytes : Nat := 255

def maxPathBytes : Nat := 4095

/-- Follow names from a place in a tree; `above` holds the directories on the way to it, the
nearest first.  The root is its own parent. -/
def follow (above : List FileTree) (tree : FileTree) : List String → Except FileError FileTree
  | [] => .ok tree
  | name :: rest =>
    match tree with
    | .file _ => .error .notADirectory
    | .directory entries =>
      if name = ".." then
        match above with
        | [] => follow [] tree rest
        | parent :: above => follow above parent rest
      else if maxNameBytes < byteLength name then .error .nameTooLong
      else
        match entries.lookup name with
        | none => .error .absent
        | some child => follow (tree :: above) child rest

def filesOf (entries : List (String × FileTree)) : List (String × List Nat) :=
  entries.filterMap fun
    | (name, .file bytes) => some (name, bytes)
    | (_, .directory _) => none

def content : FileTree → Content
  | .file bytes => .file bytes
  | .directory entries => .directory (filesOf entries)

end FileTree

/-- A tree of files, and the names that lead from its root to the directory where relative paths
begin. -/
structure Disk where
  root : FileTree
  here : List String

def Disk.source (disk : Disk) (path : Path) : Source :=
  if path.text.toList.contains '\x00' then .error .badName
  else if FileTree.maxPathBytes < FileTree.byteLength path.text then .error .nameTooLong
  else
    let start := if path.root = "" then disk.here else []
    (FileTree.follow [] disk.root (start ++ path.parts)).map FileTree.content

namespace FileTree

/-- A file or directory in the place of another.  An empty directory leaves a directory as it
is. -/
def replace : FileTree → FileTree → FileTree
  | .directory entries, .directory [] => .directory entries
  | _, item => item

def put (tree : FileTree) (item : FileTree) : List String → FileTree
  | [] => tree.replace item
  | name :: rest =>
    match tree with
    | .file bytes => .file bytes
    | .directory entries =>
      let below := (entries.lookup name).getD (.directory [])
      .directory ((entries.filter fun entry => entry.1 != name) ++ [(name, put below item rest)])

end FileTree

end LogSelect
