import VisualNovel.Text.Split

/-!
# Paths

A path is a sequence of names below a root or below the current directory. Empty
names and single dots are left out when a path is read; double dots are kept. A
path that begins with exactly two slashes has a root of its own.
-/

set_option autoImplicit false

namespace VisualNovel.Files

open VisualNovel.Text

/-- Where a path begins. -/
inductive Anchor where
  | current
  | root
  | doubleRoot
  deriving DecidableEq, Repr

/-- A path in normal form. -/
structure Path where
  anchor : Anchor
  names : List String
  deriving DecidableEq, Repr

namespace Path

def anchorOf : List Char → Anchor
  | '/' :: '/' :: '/' :: _ => .root
  | '/' :: '/' :: _ => .doubleRoot
  | '/' :: _ => .root
  | _ => .current

def ofString (text : String) : Path where
  anchor := anchorOf text.toList
  names := ((pieces '/' text.toList).filter fun part => part ≠ [] && part ≠ ['.']).map String.ofList

def isAbsolute (path : Path) : Bool :=
  path.anchor ≠ .current

def toString (path : Path) : String :=
  let names := "/".intercalate path.names
  match path.anchor with
  | .current => if path.names.isEmpty then "." else names
  | .root => "/" ++ names
  | .doubleRoot => "//" ++ names

/-- A path seen from a directory: an absolute path stays as it is. -/
def below (directory path : Path) : Path :=
  if path.isAbsolute then path else ⟨directory.anchor, directory.names ++ path.names⟩

def parent (path : Path) : Path :=
  ⟨path.anchor, path.names.dropLast⟩

/-- The part of the last name after its last point, if there is something on both sides of it. -/
def suffix (path : Path) : String :=
  let name := (path.names.getLast?.getD "").toList
  let after := (name.reverse.takeWhile (· ≠ '.')).reverse
  let before := name.length - after.length - 1
  if after.length < name.length ∧ 0 < before ∧ after ≠ [] then String.ofList after else ""

end Path

end VisualNovel.Files
