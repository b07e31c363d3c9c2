namespace TriplesSql

inductive Entry where
  | text (s : String)
  | directory
  | missing
  | behindFile
  | nameTooLong
  | binary
  | denied
  deriving DecidableEq, Repr

namespace Entry

def isPresent : Entry → Bool
  | .text _ | .directory | .binary | .denied => true
  | .missing | .behindFile | .nameTooLong => false

def read : Entry → Except String String
  | .text s => .ok s
  | .directory => .error "Is a directory (os error 21)"
  | .missing => .error "No such file or directory (os error 2)"
  | .behindFile => .error "Not a directory (os error 20)"
  | .nameTooLong => .error "File name too long (os error 36)"
  | .binary => .error "stream did not contain valid UTF-8"
  | .denied => .error "Permission denied (os error 13)"

end Entry

/-- The files in and below a directory, and the directories below it that may hold no file. A path
is the list of its steps. -/
structure Directory where
  files : List (List String × String)
  folders : List (List String)

namespace Directory

def stepLimit : Nat := 255

def pathLimit : Nat := 4095

def parts (path : String) : List String := path.splitOn "/"

/-- Whether a part of a path leads on. An empty part and a point stay where they are. -/
def isStep (part : String) : Bool := part != "" && part != "."

/-- The steps of a path to a file that is there. Two points undo the step in front of them. -/
def steps (path : String) : List String :=
  ((parts path).filter isStep).foldl
    (fun here part => if part = ".." then here.dropLast else here ++ [part]) []

def ofPaths (files : List (String × String)) : Directory :=
  ⟨files.map fun (path, content) => (steps path, content), []⟩

/-- The root of a computer, as far as it is the same everywhere: the directories of the system, and
the file that is always empty. -/
def root : Directory :=
  ⟨[(["dev", "null"], "")],
    ["bin", "boot", "dev", "etc", "home", "lib", "media", "mnt", "opt", "proc", "root", "run",
      "sbin", "srv", "sys", "tmp", "usr", "var"].map ([·])⟩

def isDirectory (d : Directory) (path : List String) : Bool :=
  path.isEmpty || d.folders.contains path ||
    d.files.any fun (file, _) => path.isPrefixOf file && path.length < file.length

/-- Follows the parts of a path from the directory that steps lead to. Of the directory above all
only that it is there is known. -/
def follow (d : Directory) (here : List String) : List String → Entry
  | [] => .directory
  | part :: rest =>
    if !isStep part then d.follow here rest
    else if part = ".." then
      if here.isEmpty then (if rest.isEmpty then .directory else .missing)
      else d.follow here.dropLast rest
    else if stepLimit < part.utf8ByteSize then .nameTooLong
    else
      let path := here ++ [part]
      match d.files.lookup path with
      | some content => if rest.isEmpty then .text content else .behindFile
      | none => if d.isDirectory path then d.follow path rest else .missing

/-- What a path leads to. One that begins with a slash begins at the root. -/
def entry (d : Directory) (path : String) : Entry :=
  if pathLimit < path.utf8ByteSize then .nameTooLong
  else match parts path with
  | [""] => .missing
  | "" :: steps => root.follow [] steps
  | steps => d.follow [] steps

end Directory

end TriplesSql
