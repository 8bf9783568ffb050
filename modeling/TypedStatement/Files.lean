import TypedStatement.Text.Lines

/-!
# Files

A tree of files and directories, as paths see it.  Paths are relative to a working directory.
-/

namespace TypedStatement
set_option autoImplicit false

/-- What a path leads to. -/
inductive FileKind where
  | file (content : String)
  | directory
  deriving DecidableEq

inductive FileError where
  | missing
  | isDirectory
  /-- A file stands where the path needs a directory. -/
  | notDirectory
  deriving DecidableEq

def FileError.message : FileError → String
  | .missing => "No such file or directory (os error 2)"
  | .isDirectory => "Is a directory (os error 21)"
  | .notDirectory => "Not a directory (os error 20)"

/-- Files by the names on the way to them.  Every start of such a way is a directory. -/
structure FileTree where
  files : List (List String × String)
  /-- The working directory. -/
  here : List String

namespace FileTree

variable (tree : FileTree)

def lookup? (names : List String) : Option FileKind :=
  match tree.files.find? (·.1 == names) with
  | some (_, content) => some (.file content)
  | none =>
    if names.isPrefixOf tree.here || tree.files.any fun file => names.isPrefixOf file.1 then some .directory else none

/-- Follows the parts of a path from a place; only a directory leads on. -/
def follow (start : List String) : List String → Except FileError (List String)
  | [] => .ok start
  | part :: rest =>
    match tree.lookup? start with
    | none => .error .missing
    | some (.file _) => .error .notDirectory
    | some .directory =>
      if part = "" ∨ part = "." then follow start rest
      else if part = ".." then follow start.dropLast rest
      else follow (start ++ [part]) rest

def parts (path : String) : List String := Text.pieces '/' path

/-- Where the parts of a path are followed from. -/
def startOf (path : String) : List String :=
  if path.toList.head? = some '/' then [] else tree.here

/-- The names that a path stands for; nothing need be there. -/
def resolve (path : String) : Except FileError (List String) :=
  tree.follow (tree.startOf path) (parts path)

def kind? (path : String) : Option FileKind :=
  match tree.resolve path with
  | .ok names => tree.lookup? names
  | .error _ => none

/-- The tree with the content of a file replaced, or with a new file. -/
def put (names : List String) (content : String) : FileTree :=
  { tree with files := tree.files.filter (·.1 != names) ++ [(names, content)] }

/-- Writes a file.  A path that ends with a slash stands for a directory. -/
def write (path content : String) : Except FileError FileTree :=
  if (parts path).getLast? = some "" then
    match tree.follow (tree.startOf path) ((parts path).reverse.dropWhile (· == "")).reverse.dropLast with
    | .error error => .error error
    | .ok names =>
      match tree.lookup? names with
      | none => .error .missing
      | some (.file _) => .error .notDirectory
      | some .directory => .error .isDirectory
  else
    match tree.resolve path with
    | .error error => .error error
    | .ok names =>
      match tree.lookup? names with
      | some .directory => .error .isDirectory
      | _ => .ok (tree.put names content)

end FileTree
end TypedStatement
