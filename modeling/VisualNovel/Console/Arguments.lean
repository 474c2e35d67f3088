import VisualNovel.Numeric.Numeral
import VisualNovel.Text.Split

/-!
# Command lines

A command line names a command with one document and options. Long options may be
shortened as far as they stay distinct, and take a value after an equals sign or
as the next argument. What looks like a negative number is no option. Two dashes
end the options; given as a value they are none. Without the name of a command the
document is played.
-/

set_option autoImplicit false

namespace VisualNovel.Console

open VisualNovel.Numeric VisualNovel.Text

inductive Flag where
  | help
  | logLevel
  | window
  | auto
  | maxSteps
  | muted
  | config
  | assets
  deriving DecidableEq, Repr

def Flag.name : Flag → String
  | .help => "--help"
  | .logLevel => "--log-level"
  | .window => "--pygame"
  | .auto => "--auto"
  | .maxSteps => "--max-steps"
  | .muted => "--muted"
  | .config => "--config"
  | .assets => "--assets"

def Flag.isValued : Flag → Bool
  | .logLevel | .maxSteps | .config | .assets => true
  | .help | .window | .auto | .muted => false

inductive CommandName where
  | run
  | check
  deriving DecidableEq, Repr

def CommandName.word : CommandName → String
  | .run => "run"
  | .check => "check"

def CommandName.find? (word : String) : Option CommandName :=
  [run, check].find? fun command => command.word == word

def mainFlags : List Flag := [.help, .logLevel]

def CommandName.flags : CommandName → List Flag
  | .run => [.help, .window, .auto, .maxSteps, .muted, .config, .assets]
  | .check => [.help]

inductive Refusal where
  | ambiguous (argument : String)
  | unexpectedValue (flag : Flag)
  | missingValue (flag : Flag)
  | badNumber (value : String)
  | unknownCommand (word : String)
  | missingDocument
  | unrecognized
  deriving DecidableEq, Repr

def Refusal.message : Refusal → String
  | .ambiguous argument => s!"ambiguous option: {argument}"
  | .unexpectedValue flag => s!"argument {flag.name}: ignored explicit argument"
  | .missingValue flag => s!"argument {flag.name}: expected one argument"
  | .badNumber value => s!"argument --max-steps: invalid int value: '{value}'"
  | .unknownCommand word => s!"argument cmd: invalid choice: '{word}'"
  | .missingDocument => "the following arguments are required: novel"
  | .unrecognized => "unrecognized arguments"

inductive Token where
  | plain (text : String)
  | flag (flag : Flag) (value : Option String)
  | unknown
  /-- The two dashes after which there are no options. -/
  | dashes
  deriving DecidableEq, Repr

def withoutLineEnd (characters : List Char) : List Char :=
  if characters.getLast? = some '\n' then characters.dropLast else characters

/-- Whether characters are a negative number, with or without a point. A line may end after it. -/
def isNegativeNumber : List Char → Bool
  | '-' :: rest =>
      let rest := withoutLineEnd rest
      let fraction := (rest.dropWhile (digitValue? · |>.isSome)).drop 1
      match rest.dropWhile (digitValue? · |>.isSome) with
      | [] => !rest.isEmpty
      | '.' :: _ => !fraction.isEmpty && fraction.all (digitValue? · |>.isSome)
      | _ => false
  | _ => false

def splitValue (argument : String) : String × Option String :=
  match splitAtFirst? '=' argument.toList with
  | none => (argument, none)
  | some (name, value) => (String.ofList name, some (String.ofList value))

/-- The short option for help with what is attached to it. Attached to it can only be itself, any
number of times. -/
def shortHelp (attached : String) : Token :=
  if attached ≠ "" && attached.toList.all (· = 'h') then .flag .help none
  else .flag .help (some attached)

def classifyDashed (flags : List Flag) (argument : String) : Except Refusal Token :=
  let (name, value) := splitValue argument
  let fitting := flags.filter fun flag => name.toList.isPrefixOf flag.name.toList
  match flags.find? fun flag => flag.name == name, argument.toList with
  | some flag, _ => .ok (.flag flag value)
  | none, '-' :: '-' :: _ =>
      match fitting with
      | [flag] => .ok (.flag flag value)
      | _ :: _ :: _ => .error (.ambiguous argument)
      | [] => .ok (if argument.contains ' ' then .plain argument else .unknown)
  | none, ['-', 'h'] => .ok (.flag .help none)
  | none, '-' :: 'h' :: attached =>
      .ok (shortHelp (if name = "-h" then value.getD "" else String.ofList attached))
  | none, characters =>
      .ok (if isNegativeNumber characters || argument.contains ' ' then .plain argument
        else .unknown)

def classify (flags : List Flag) : List String → Except Refusal (List Token)
  | [] => .ok []
  | "--" :: rest => .ok (.dashes :: rest.map .plain)
  | argument :: rest => do
      let token ←
        if argument.startsWith "-" && argument ≠ "-" then classifyDashed flags argument
        else .ok (.plain argument)
      return token :: (← classify flags rest)

/-- What an option was given. Two dashes in place of a value give it nothing. -/
inductive Given (α : Type) where
  | value (value : α)
  | nothing
  deriving DecidableEq, Repr

structure RunOptions where
  window : Bool := false
  auto : Bool := false
  maxSteps : Option (Given Int) := none
  muted : Bool := false
  config : Option (Given String) := none
  assets : Option (Given String) := none
  deriving DecidableEq, Repr

def RunOptions.mark (options : RunOptions) : Flag → RunOptions
  | .window => { options with window := true }
  | .auto => { options with auto := true }
  | .muted => { options with muted := true }
  | _ => options

def RunOptions.assign (options : RunOptions) (flag : Flag) (value : String) :
    Except Refusal RunOptions :=
  match flag, value with
  | .maxSteps, "--" => .ok { options with maxSteps := some .nothing }
  | .config, "--" => .ok { options with config := some .nothing }
  | .assets, "--" => .ok { options with assets := some .nothing }
  | .maxSteps, _ =>
      match readInteger value with
      | .ok steps => .ok { options with maxSteps := some (.value steps) }
      | .error _ => .error (.badNumber value)
  | .config, _ => .ok { options with config := some (.value value) }
  | .assets, _ => .ok { options with assets := some (.value value) }
  | _, _ => .ok options

/-- What a command line asks for. Help is about a command or about all. -/
inductive Command where
  | help (about : Option CommandName)
  | check (document : String)
  | run (document : String) (options : RunOptions)
  deriving DecidableEq, Repr

/-- What was read of the arguments of a command. -/
structure Parsed where
  document : Option String := none
  options : RunOptions := {}
  /-- Whether there was an argument without use. -/
  surplus : Bool := false

def Parsed.command (parsed : Parsed) (name : CommandName) : Except Refusal Command :=
  match parsed.document with
  | none => .error .missingDocument
  | some document =>
      if parsed.surplus then .error .unrecognized
      else
        match name with
        | .run => .ok (.run document parsed.options)
        | .check => .ok (.check document)

/-- Reads the arguments of a command from left to right. The dashes are part of the document's
argument when they stand next to it. -/
def parseCommand (name : CommandName) (parsed : Parsed) : List Token → Except Refusal Command
  | [] => parsed.command name
  | .flag .help none :: _ => .ok (.help (some name))
  | .flag flag (some value) :: rest =>
      if flag.isValued then do
        parseCommand name { parsed with options := ← parsed.options.assign flag value } rest
      else .error (.unexpectedValue flag)
  | .flag flag none :: .plain value :: rest =>
      if flag.isValued then do
        parseCommand name { parsed with options := ← parsed.options.assign flag value } rest
      else
        parseCommand name { parsed with options := parsed.options.mark flag } (.plain value :: rest)
  | .flag flag none :: rest =>
      if flag.isValued then .error (.missingValue flag)
      else parseCommand name { parsed with options := parsed.options.mark flag } rest
  | .dashes :: .plain text :: rest =>
      if parsed.document.isNone then
        parseCommand name { parsed with document := some text } rest
      else parseCommand name { parsed with surplus := true } rest
  | .plain text :: .dashes :: rest =>
      if parsed.document.isNone then
        parseCommand name { parsed with document := some text } rest
      else parseCommand name { parsed with surplus := true } rest
  | .plain text :: rest =>
      if parsed.document.isNone then
        parseCommand name { parsed with document := some text } rest
      else parseCommand name { parsed with surplus := true } rest
  | .dashes :: rest | .unknown :: rest => parseCommand name { parsed with surplus := true } rest

/-- Reads a command line up to its command, which takes all arguments from there. The arguments
are given both as they are and as they are taken. -/
def parseMain (surplus : Bool) : List (String × Token) → Except Refusal Command
  | [] => if surplus then .error .unrecognized else .ok (.help none)
  | (_, .flag .help none) :: _ => .ok (.help none)
  | (_, .flag flag (some _)) :: rest =>
      if flag.isValued then parseMain surplus rest else .error (.unexpectedValue flag)
  | (_, .flag _ none) :: (_, .plain _) :: rest => parseMain surplus rest
  | (_, .flag flag none) :: _ => .error (.missingValue flag)
  | (_, .unknown) :: rest => parseMain true rest
  | (_, .dashes) :: _ => .error .unrecognized
  | (word, .plain _) :: rest =>
      match CommandName.find? word with
      | none => .error (.unknownCommand word)
      | some name => do
          let tokens ← classify name.flags (rest.map Prod.fst)
          parseCommand name { surplus } tokens

def parse (arguments : List String) : Except Refusal Command := do
  let arguments :=
    match arguments with
    | first :: _ =>
        if (CommandName.find? first).isSome || first.startsWith "-" then arguments
        else "run" :: arguments
    | [] => arguments
  let tokens ← classify mainFlags arguments
  parseMain false (arguments.zip tokens)

end VisualNovel.Console
