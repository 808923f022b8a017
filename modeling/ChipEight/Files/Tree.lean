import ChipEight.Files.Path

set_option autoImplicit false

namespace ChipEight

inductive FileNode where
  | file (content : Array UInt8)
  | directory

structure FileTree where
  entries : List (List String × FileNode)

namespace FileTree

-- Every directory above an entry is there as well.
def node? (tree : FileTree) (names : List String) : Option FileNode :=
  match tree.entries.find? fun (path, _) => path == names with
  | some (_, node) => some node
  | none =>
    if names.isEmpty || tree.entries.any fun (path, _) => names.isPrefixOf path then
      some .directory
    else
      none

inductive Place where
  | within (names : List String)
  | above

def Place.parent : Place → Place
  | within [] => above
  | within names => within names.dropLast
  | above => above

def Place.child? (tree : FileTree) (name : String) : Place → Option (Place × FileNode)
  | within names => (tree.node? (names ++ [name])).map fun node => (within (names ++ [name]), node)
  | above => none

def follow (tree : FileTree) (place : Place) (node : FileNode) :
    List String → Except FileError FileNode
  | [] => .ok node
  | name :: rest =>
    match node with
    | .file _ => .error .notDirectory
    | .directory =>
      if name = ".." then follow tree place.parent .directory rest
      else if 255 < name.utf8ByteSize then .error .nameTooLong
      else
        match place.child? tree name with
        | none => .error .missing
        | some (place, node) => follow tree place node rest

def read (tree : FileTree) (path : Path) : Except ReadProblem (Array UInt8) :=
  let start : Place := if path.root = "" then .within [] else .above
  if path.text.contains '\x00' then .error .nullInPath
  else if 4096 ≤ path.text.utf8ByteSize then .error (.file .nameTooLong)
  else
    match tree.follow start .directory path.names with
    | .error error => .error (.file error)
    | .ok .directory => .error (.file .isDirectory)
    | .ok (.file content) => .ok content

end FileTree

end ChipEight
