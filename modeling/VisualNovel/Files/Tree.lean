import VisualNovel.Files.Path
import VisualNovel.Text.Newline
import VisualNovel.Text.Quoted
import VisualNovel.Text.Utf8

/-!
# File trees

A file system as a value: a tree of directories and files with a current
directory. Names are looked up one after another, so that a name below a file is
an error even if double dots follow it. Every failure is one of the causes below
and is reported with its number and the path.
-/

set_option autoImplicit false

namespace VisualNovel.Files

open VisualNovel.Text

inductive Cause where
  | noSuchFile
  | exists
  | notADirectory
  | isADirectory
  | nameTooLong
  deriving DecidableEq, Repr

def Cause.number : Cause → Nat
  | .noSuchFile => 2
  | .exists => 17
  | .notADirectory => 20
  | .isADirectory => 21
  | .nameTooLong => 36

def Cause.words : Cause → String
  | .noSuchFile => "No such file or directory"
  | .exists => "File exists"
  | .notADirectory => "Not a directory"
  | .isADirectory => "Is a directory"
  | .nameTooLong => "File name too long"

/-- A failure at a path, or the refusal of what cannot be one. -/
inductive FileError where
  | failed (cause : Cause) (path : String)
  | nullCharacter
  /-- Something of the given kind in place of a path. -/
  | notAPath (kind : String)
  deriving DecidableEq, Repr

def FileError.message : FileError → String
  | .failed cause path => s!"[Errno {cause.number}] {cause.words}: " ++ quoted path
  | .nullCharacter => "embedded null byte"
  | .notAPath kind => s!"expected str, bytes or os.PathLike object, not {kind}"

/-- The path that was given, or why what was given is none. -/
abbrev GivenPath := Except FileError Path

/-- A directory or a file. -/
inductive Node where
  | file (content : List UInt8)
  | directory (entries : List (String × Node))

def Node.empty : Node := .directory []

def Node.isDirectory : Node → Bool
  | .directory _ => true
  | .file _ => false

def setEntry (name : String) (node : Node) : List (String × Node) → List (String × Node)
  | [] => [(name, node)]
  | (first, old) :: rest =>
      if first = name then (name, node) :: rest else (first, old) :: setEntry name node rest

/-- A file system: what is below the root, and the names that lead to the current directory. -/
structure Tree where
  root : Node
  current : List String

/-- The longest name of a directory entry and the longest path, in octets. -/
def nameLimit : Nat := 255

/-- The length in octets at which a path is too long. -/
def pathLimit : Nat := 4096

/-- Looks up names below a node. `above` holds the directories passed on the way, the nearest
first, for double dots; at the root they stay there. -/
def Node.find (above : List Node) (node : Node) : List String → Except Cause Node
  | [] => .ok node
  | name :: names =>
      match node with
      | .file _ => .error .notADirectory
      | .directory entries =>
          if name = ".." then
            match above with
            | [] => Node.find [] node names
            | parent :: above => Node.find above parent names
          else if nameLimit < name.utf8ByteSize then .error .nameTooLong
          else
            match entries.lookup name with
            | none => .error .noSuchFile
            | some entry => Node.find (node :: above) entry names

def Tree.namesOf (tree : Tree) (path : Path) : List String :=
  if path.isAbsolute then path.names else tree.current ++ path.names

def holdsNull (text : String) : Bool :=
  text.toList.contains '\x00'

def Tree.find (tree : Tree) (path : Path) : Except FileError Node :=
  let text := path.toString
  if holdsNull text then .error .nullCharacter
  else if pathLimit ≤ text.utf8ByteSize then .error (.failed .nameTooLong text)
  else (tree.root.find [] (tree.namesOf path)).mapError fun cause => .failed cause text

/-- Whether a path names something. A path that cannot be looked up at all is an error. -/
def Tree.exists (tree : Tree) (path : Path) : Except FileError Bool :=
  match tree.find path with
  | .ok _ => .ok true
  | .error (.failed .nameTooLong text) => .error (.failed .nameTooLong text)
  | .error _ => .ok false

def Tree.read (tree : Tree) (path : Path) : Except FileError (List UInt8) := do
  match ← tree.find path with
  | .file content => return content
  | .directory _ => .error (.failed .isADirectory path.toString)

/-- Follows names without double dots and replaces what is there. Directories on the way are made
where they are missing; a file on the way is replaced by a directory. -/
def Node.put (node : Node) (content : Node) : List String → Node
  | [] => content
  | name :: names =>
      match node with
      | .file _ => .directory [(name, Node.put .empty content names)]
      | .directory entries =>
          let old := (entries.lookup name).getD .empty
          .directory (setEntry name (Node.put old content names) entries)

/-- Names with every double dot and the name before it taken out. -/
def plainNames (names : List String) : List String :=
  (names.foldl (fun passed name => if name = ".." then passed.drop 1 else name :: passed)
    []).reverse

def Tree.put (tree : Tree) (path : Path) (content : Node) : Tree :=
  { tree with root := tree.root.put content (plainNames (tree.namesOf path)) }

def Tree.makeDirectory (tree : Tree) (path : Path) : Except FileError Tree :=
  match tree.find path with
  | .ok _ => .error (.failed .exists path.toString)
  | .error (.failed .noSuchFile text) =>
      match tree.find path.parent with
      | .ok _ => .ok (tree.put path .empty)
      | .error _ => .error (.failed .noSuchFile text)
  | .error error => .error error

def Tree.ensureDirectory (tree : Tree) (path : Path) : Except FileError Tree :=
  match tree.makeDirectory path with
  | .ok tree => .ok tree
  | .error error =>
      match tree.find path with
      | .ok (.directory _) => .ok tree
      | _ => .error error

/-- Makes a directory and those that lead to it. Directories that are there are left alone. The
count bounds the number of names of the path. -/
def Tree.makeDirectories (tree : Tree) (path : Path) : Nat → Except FileError Tree
  | 0 => .ok tree
  | count + 1 =>
      match tree.ensureDirectory path with
      | .ok tree => .ok tree
      | .error (.failed .noSuchFile text) =>
          if path.parent = path then .error (.failed .noSuchFile text)
          else
            match tree.makeDirectories path.parent count with
            | .ok tree => tree.ensureDirectory path
            | .error error => .error error
      | .error error => .error error

def Tree.write (tree : Tree) (path : Path) (content : List UInt8) : Except FileError Tree :=
  match tree.find path with
  | .ok (.directory _) => .error (.failed .isADirectory path.toString)
  | .ok (.file _) => .ok (tree.put path (.file content))
  | .error (.failed .noSuchFile text) =>
      match tree.find path.parent with
      | .ok (.directory _) => .ok (tree.put path (.file content))
      | _ => .error (.failed .noSuchFile text)
  | .error error => .error error

def Tree.writeWithDirectories (tree : Tree) (path : Path) (content : List UInt8) :
    Except FileError Tree := do
  let tree ← tree.makeDirectories path.parent (path.names.length + 1)
  tree.write path content

inductive TextError where
  | file (error : FileError)
  | encoding (error : Utf8.Error)
  deriving DecidableEq, Repr

def TextError.message : TextError → String
  | .file error => error.message
  | .encoding error => error.message

/-- The text in the file that a path names, with line feeds as line ends. -/
def Tree.readText (tree : Tree) (path : Path) : Except TextError String :=
  match tree.read path with
  | .error error => .error (.file error)
  | .ok content =>
      match Utf8.decode content with
      | .error error => .error (.encoding error)
      | .ok text => .ok (withLineFeeds text)

end VisualNovel.Files
