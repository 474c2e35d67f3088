import VisualNovel.Files.Tree
import VisualNovel.Json.Reader
import VisualNovel.Json.Shown
import VisualNovel.Json.Writer
import VisualNovel.Playback.Timing

/-!
# Settings

Settings are kept in four sections, each an object. What a file or a value says is
laid over the defaults section by section: keys that the defaults lack are kept,
other sections are not, and a section that is no object counts for nothing. A
settings file that cannot be used leaves the defaults.
-/

set_option autoImplicit false

namespace VisualNovel

open VisualNovel.Files VisualNovel.Json VisualNovel.Playback VisualNovel.Novel

/-- The sections of the settings. -/
structure Settings where
  playback : Entries
  audio : Entries
  transitions : Entries
  window : Entries

namespace Settings

inductive Warning where
  | notASection (name : String)
  | unreadable (path error : String)
  | notAnObject (path : String)
  | unwritable (path error : String)
  | badInteger (shown : String) (fallback : Int)
  | badVolume (shown : String) (hundredths : Nat)
  | unknownTransition (word : String)
  | badTiming (word shown : String)
  deriving DecidableEq, Repr

def hundredthsText (hundredths : Nat) : String :=
  s!"{hundredths / 100}.{hundredths / 10 % 10}{hundredths % 10}"

def Warning.message : Warning → String
  | .notASection name => s!"Config section '{name}' is not an object; using defaults"
  | .unreadable path error => s!"Could not read config {path}: {error}; using defaults"
  | .notAnObject path => s!"Config {path} is not a JSON object; using defaults"
  | .unwritable path error => s!"Could not write config {path}: {error}"
  | .badInteger shown fallback => s!"Bad integer {shown}; using {fallback}"
  | .badVolume shown hundredths => s!"Bad volume {shown}; using {hundredthsText hundredths}"
  | .unknownTransition word => s!"Unknown transition '{word}' in config; ignored"
  | .badTiming word shown => s!"Bad timing for transition '{word}': {shown}"

def timingEntries (table : TimingTable) : Entries :=
  table.map fun (style, timing) =>
    (Novel.word style, .list [.integer timing.commit, .integer timing.clear])

def default : Settings where
  playback := [("typing_interval_ms", .integer 30)]
  audio :=
    [("music_volume", .number 0.3), ("voice_volume", .number 0.8), ("sfx_volume", .number 0.5),
      ("muted", .bool false)]
  transitions := timingEntries defaultTimings
  window :=
    [("width", .integer 1280), ("height", .integer 720), ("fps", .integer 60),
      ("font_path", .null)]

def mergeSection (name : String) (defaults : Entries) (value : Value) : Entries × List Warning :=
  match value with
  | .object sections =>
      match Entries.get sections name with
      | .object extra => (Entries.update defaults extra, [])
      | .null => (defaults, [])
      | _ => (defaults, [.notASection name])
  | _ => (defaults, [])

/-- A value laid over the defaults. -/
def merge (value : Value) : Settings × List Warning :=
  let (playback, playbackWarnings) := mergeSection "playback" default.playback value
  let (audio, audioWarnings) := mergeSection "audio" default.audio value
  let (transitions, transitionsWarnings) := mergeSection "transitions" default.transitions value
  let (window, windowWarnings) := mergeSection "window" default.window value
  (⟨playback, audio, transitions, window⟩,
    playbackWarnings ++ audioWarnings ++ transitionsWarnings ++ windowWarnings)

def toValue (settings : Settings) : Value :=
  .object
    [("playback", .object settings.playback), ("audio", .object settings.audio),
      ("transitions", .object settings.transitions), ("window", .object settings.window)]

/-- Why no settings could be found out at all: the file cannot be looked for, or its value is
nested too deep. -/
inductive LoadError where
  | file (error : FileError)
  | limit (exceeded : Limit)
  deriving DecidableEq, Repr

def defaultPath : Path := ⟨.current, ["save", "config.json"]⟩

/-- The settings that the text of a file gives. -/
def ofText (path text : String) : Except LoadError Settings × List Warning :=
  match Json.read text with
  | .error (.limit .listNesting) => (.error (.limit .listNesting), [])
  | .error (.limit .objectNesting) => (.error (.limit .objectNesting), [])
  | .error error => (.ok default, [.unreadable path error.message])
  | .ok (.object sections) =>
      let (settings, warnings) := merge (.object sections)
      (.ok settings, warnings)
  | .ok _ => (.ok default, [.notAnObject path])

/-- The settings in a file, the defaults if there is none. -/
def load (tree : Tree) (path : Path) : Except LoadError Settings × List Warning :=
  match tree.exists path with
  | .error error => (.error (.file error), [])
  | .ok false => (.ok default, [])
  | .ok true =>
      match tree.readText path with
      | .error error => (.ok default, [.unreadable path.toString error.message])
      | .ok text => ofText path.toString text

/-- What comes of settings that were not written. Failures are reported, except that a path which
no file system takes is an error. -/
def unwritten (path : Path) (warnings : List Warning) :
    FileError → Except FileError (Option Tree) × List Warning
  | .nullCharacter => (.error .nullCharacter, warnings)
  | error => (.ok none, warnings ++ [.unwritable path.toString error.message])

/-- Writes a value, merged over the defaults, to a file. The result is none if that failed. -/
def save (tree : Tree) (path : Path) (value : Value) :
    Except FileError (Option Tree) × List Warning :=
  match tree.makeDirectories path.parent (path.names.length + 1) with
  | .error error => unwritten path [] error
  | .ok tree =>
      let (settings, warnings) := merge value
      match tree.write path (Text.Utf8.encode settings.toValue.write) with
      | .error error => unwritten path warnings error
      | .ok tree => (.ok (some tree), warnings)

end Settings

end VisualNovel
