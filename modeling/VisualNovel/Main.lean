import VisualNovel.Console.Plan

/-!
# The command line

Reads the files that a command names, prints what it comes to, and asks for input
where a novel is played on the console.
-/

set_option autoImplicit false

namespace VisualNovel.Main

open VisualNovel.Console VisualNovel.Files

def filesOf : Command → List String
  | .help _ => []
  | .check document => [document]
  | .run document options =>
      match options.config with
      | none => [document, Settings.defaultPath.toString]
      | some (.value path) => [document, path]
      | some .nothing => [document]

/-- Reads a file into a tree. What cannot be opened is left out, and what cannot be read counts as
a directory. -/
def readInto (tree : Tree) (name : String) : IO Tree := do
  let path := Path.ofString name
  try
    let content ← IO.FS.readBinFile path.toString
    return tree.put path (.file content.toList)
  catch error =>
    match error with
    | .noFileOrDirectory _ _ _ => return tree
    | _ => return tree.put path .empty

/-- Plays on the lines of standard input. -/
partial def converse (input output : IO.FS.Stream) (turns : Option Nat)
    (playthrough : Playthrough) : IO UInt32 := do
  let (frame, shown, playthrough) := Playthrough.look playthrough
  output.putStr (String.join (shown.map (·.text)))
  if Playthrough.isLast frame || turns == some 0 then return 0
  output.putStr Printed.prompt.text
  output.flush
  let line ← input.getLine
  if line.isEmpty then return 0
  match Playthrough.obey frame line playthrough with
  | .stops printed => do
      output.putStr (String.join (printed.map (·.text)))
      return 0
  | .breaks error => do
      IO.eprintln error.message
      return 1
  | .goesOn printed playthrough => do
      output.putStr (String.join (printed.map (·.text)))
      converse input output (turns.map (· - 1)) playthrough

def printReports (playthrough : Playthrough) : IO Unit :=
  playthrough.world.warnings.reverse.forM fun warning => IO.eprintln warning.message

def converseFrom (novel : Novel) (preferences : Preferences) (turns : Option Nat) : IO UInt32 := do
  let playthrough := Playthrough.start novel preferences
  printReports playthrough
  converse (← IO.getStdin) (← IO.getStdout) turns playthrough

def carryOut : Plan → IO UInt32
  | .done lines code => do
      lines.forM IO.println
      return UInt32.ofNat code
  | .failed failure => do
      IO.eprintln failure.message
      return 1
  | .console novel preferences false none => converseFrom novel preferences none
  | .console novel preferences false (some (.value turns)) =>
      converseFrom novel preferences (some turns)
  | .console novel preferences auto turns => do
      let recital := recite novel preferences auto turns []
      printReports recital.playthrough
      IO.print (String.join (recital.printed.map (·.text)))
      match recital.error with
      | none => return 0
      | some error => do
          IO.eprintln error.message
          return 1
  | .window _ _ _ => do
      IO.eprintln "no display is available"
      return 1

end VisualNovel.Main

open VisualNovel.Console VisualNovel.Main in
def main (arguments : List String) : IO UInt32 := do
  match parse arguments with
  | .error refusal => do
      IO.eprintln refusal.message
      return 2
  | .ok command => do
      let tree ← (filesOf command).foldlM readInto ⟨.empty, []⟩
      let (plan, warnings) := (command.plan tree).run []
      warnings.forM IO.eprintln
      carryOut plan
