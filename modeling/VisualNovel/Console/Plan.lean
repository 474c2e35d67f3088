import VisualNovel.Console.Help
import VisualNovel.Console.Playthrough
import VisualNovel.Novel.Document
import VisualNovel.Novel.Problems
import VisualNovel.Settings.Preferences

/-!
# What a command comes to

A command loads its document first. A document that is not there or cannot be
loaded ends it. A check prints the problems found. A run reads the settings, and
what is left to do then is to play, on the console or in a window.
-/

set_option autoImplicit false

namespace VisualNovel.Console

open VisualNovel.Files VisualNovel.Json VisualNovel.Novel VisualNovel.Numeric

/-- Why a command fails outright. -/
inductive Failure where
  | file (error : FileError)
  | limit (exceeded : Limit)
  | number (error : RangeError)
  deriving DecidableEq, Repr

def Failure.message : Failure → String
  | .file error => error.message
  | .limit exceeded => exceeded.message
  | .number error => error.message

/-- What is left to do for a command. -/
inductive Plan where
  /-- Nothing, once the lines are printed: the command ends with a code. -/
  | done (lines : List String) (code : Nat)
  | failed (failure : Failure)
  /-- Playing on the console, by itself or on input, within a limit of turns if there is one. -/
  | console (novel : Novel) (preferences : Preferences) (auto : Bool)
    (turns : Option (Given Nat))
  | window (novel : Novel) (preferences : Preferences) (assets : Option GivenPath)

abbrev Planned := StateM (List String) Plan

/-- The number of turns after which playing without input stops unless told otherwise. -/
def autoTurns : Nat := 1000

def problemLine (found : Diagnostic) : String :=
  let place :=
    match found.place with
    | some place => place.path ++ ": "
    | none => ""
  s!"{found.severity.word}: " ++ place ++ found.problem.message

def checked (novel : Novel) : Plan :=
  let found := novel.problems
  .done (if found.isEmpty then ["OK"] else found.map problemLine)
    (if hasErrors (found.map fun diagnostic => diagnostic.severity) then 1 else 0)

def warn (warnings : List String) : StateM (List String) Unit :=
  modify fun earlier => earlier ++ warnings

/-- The turns that are left to a run, none if it may go on to its end. -/
def RunOptions.turns (options : RunOptions) : Option (Given Nat) :=
  match options.maxSteps with
  | some (.value steps) => some (.value steps.toNat)
  | some .nothing => some .nothing
  | none => if options.auto then some (.value autoTurns) else none

/-- The path that an option gives. What is given nothing is a list without values. -/
def Given.path : Given String → GivenPath
  | .value text => .ok (Path.ofString text)
  | .nothing => .error (.notAPath "list")

def planRunWith (tree : Tree) (novel : Novel) (options : RunOptions) (path : Path) : Planned := do
  let (settings, warnings) := Settings.load tree path
  warn (warnings.map (·.message))
  match settings with
  | .error (.file error) => return .failed (.file error)
  | .error (.limit exceeded) => return .failed (.limit exceeded)
  | .ok settings =>
      let (preferences, warnings) := Preferences.ofValue settings.toValue
      warn (warnings.map (·.message))
      match preferences with
      | .error error => return .failed (.number error)
      | .ok preferences =>
          let preferences := { preferences with muted := preferences.muted || options.muted }
          if options.window then
            return .window novel preferences (options.assets.map Given.path)
          else return .console novel preferences options.auto options.turns

def planRun (tree : Tree) (novel : Novel) (options : RunOptions) : Planned :=
  match (options.config.map Given.path).getD (.ok Settings.defaultPath) with
  | .ok path => planRunWith tree novel options path
  | .error error => return .failed (.file error)

def withDocument (tree : Tree) (document : String) (next : Novel → Planned) : Planned := do
  let path := Path.ofString document
  match tree.exists path with
  | .error error => return .failed (.file error)
  | .ok false => return .done ["Novel not found: " ++ path.toString] 2
  | .ok true =>
      let (novel, warnings) := Novel.load tree path
      warn (warnings.map (·.message))
      match novel with
      | .error (.document error) => return .done ["Invalid novel: " ++ error.report] 2
      | .error (.limit exceeded) => return .failed (.limit exceeded)
      | .ok novel => next novel

def Command.plan (tree : Tree) : Command → Planned
  | .help about => return .done (helpLines about) 0
  | .check document => withDocument tree document fun novel => return checked novel
  | .run document options => withDocument tree document fun novel => planRun tree novel options

def recite (novel : Novel) (preferences : Preferences) (auto : Bool)
    (turns : Option (Given Nat)) (inputs : List String) : Recital :=
  let playthrough := Playthrough.start novel preferences
  match auto, turns with
  | _, some .nothing => Playthrough.breakOff playthrough
  | true, some (.value turns) => Playthrough.playAlone turns playthrough
  | true, none => Playthrough.playAlone autoTurns playthrough
  | false, some (.value turns) => Playthrough.playAlong (some turns) playthrough inputs
  | false, none => Playthrough.playAlong none playthrough inputs

end VisualNovel.Console
