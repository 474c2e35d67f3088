import VisualNovel.Files.Tree
import VisualNovel.Json.Reader
import VisualNovel.Novel.Reading

/-!
# Novel files

A novel file is text that holds one data value, the document. A file that cannot
be read, is no text, holds no value or not the value of a novel is an error of
the document. A value beyond the limits of reading is not: that failure is told
apart.
-/

set_option autoImplicit false

namespace VisualNovel.Novel

open VisualNovel.Files VisualNovel.Json

/-- What is wrong with a novel file. -/
inductive DocumentError where
  | unreadable (error : TextError) (source : String)
  | malformed (reason : Fault) (line : Nat) (source : String)
  | defective (defect : Defect)
  deriving DecidableEq, Repr

def DocumentError.message : DocumentError → String
  | .unreadable (.file error) _ => "Cannot read novel: " ++ error.message
  | .unreadable (.encoding error) _ => "Cannot decode novel: " ++ error.message
  | .malformed reason _ _ => "Invalid JSON: " ++ reason.message
  | .defective defect => defect.message

def DocumentError.location? : DocumentError → Option String
  | .unreadable _ _ => none
  | .malformed _ line _ => some s!"line {line}"
  | .defective defect => some defect.place.path

def DocumentError.source? : DocumentError → Option String
  | .unreadable _ source => some source
  | .malformed _ _ source => some source
  | .defective _ => none

def DocumentError.report (error : DocumentError) : String :=
  error.message ++
    (match error.location? with
      | some location => s!" (at {location})"
      | none => "") ++
    (match error.source? with
      | some source => s!"\n  >> {source}"
      | none => "")

/-- Why no novel was loaded. -/
inductive LoadError where
  | document (error : DocumentError)
  | limit (exceeded : Limit)
  deriving DecidableEq, Repr

def load (tree : Tree) (path : Path) : Except LoadError Novel × List UnknownWord :=
  match tree.readText path with
  | .error error => (.error (.document (.unreadable error path.toString)), [])
  | .ok text =>
      match Json.read text with
      | .error (.malformed reason _ line _) =>
          (.error (.document (.malformed reason line path.toString)), [])
      | .error (.limit exceeded) => (.error (.limit exceeded), [])
      | .ok value =>
          let (result, warnings) := Novel.ofValue value
          (result.mapError fun defect => .document (.defective defect), warnings)

end VisualNovel.Novel
