import ChipEight.Text.Quoted

set_option autoImplicit false

namespace ChipEight

structure Path where
  root : String
  names : List String
  deriving DecidableEq, Repr

namespace Path

-- One leading slash or more than two stand for the root; exactly two are a root of their own.
def rootOf (text : List Char) : String :=
  match (text.takeWhile (· == '/')).length with
  | 0 => ""
  | 2 => "//"
  | _ => "/"

def ofString (text : String) : Path where
  root := rootOf text.toList
  names := (text.splitOn "/").filter fun name => name != "" && name != "."

def text (path : Path) : String :=
  let shown := path.root ++ String.intercalate "/" path.names
  if shown.isEmpty then "." else shown

def name (path : Path) : String :=
  path.names.getLast?.getD ""

end Path

inductive FileError where
  | missing
  | permissionDenied
  | isDirectory
  | notDirectory
  | nameTooLong
  deriving DecidableEq, Repr

namespace FileError

def number : FileError → Nat
  | missing => 2
  | permissionDenied => 13
  | isDirectory => 21
  | notDirectory => 20
  | nameTooLong => 36

def explanation : FileError → String
  | missing => "No such file or directory"
  | permissionDenied => "Permission denied"
  | isDirectory => "Is a directory"
  | notDirectory => "Not a directory"
  | nameTooLong => "File name too long"

end FileError

inductive ReadProblem where
  | file (error : FileError)
  | nullInPath
  deriving DecidableEq, Repr

def ReadProblem.message (path : Path) : ReadProblem → String
  | file error =>
    s!"[Errno {error.number}] {error.explanation}: " ++ Text.quoted path.text
  | nullInPath => "embedded null byte"

end ChipEight
