import VisualNovel.Agenda.Basic
import VisualNovel.Agenda.Script
import VisualNovel.Clock.Clockwork
import VisualNovel.Clock.Schedule
import VisualNovel.Clock.Timeline
import VisualNovel.Console.Arguments
import VisualNovel.Console.Help
import VisualNovel.Console.Plan
import VisualNovel.Console.Playthrough
import VisualNovel.Console.Transcript
import VisualNovel.Event.Broadcast
import VisualNovel.Event.Bus
import VisualNovel.Files.Path
import VisualNovel.Files.Tree
import VisualNovel.Json.Coercion
import VisualNovel.Json.Reader
import VisualNovel.Json.Shown
import VisualNovel.Json.Value
import VisualNovel.Json.Writer
import VisualNovel.Layout.Wrap
import VisualNovel.Main
import VisualNovel.Media.Base64
import VisualNovel.Media.Host
import VisualNovel.Media.Percent
import VisualNovel.Media.Reference
import VisualNovel.Novel.Basic
import VisualNovel.Novel.Document
import VisualNovel.Novel.Place
import VisualNovel.Novel.Problems
import VisualNovel.Novel.Reading
import VisualNovel.Novel.Vocabulary
import VisualNovel.Novel.Writing
import VisualNovel.Numeric.Binary64
import VisualNovel.Numeric.Numeral
import VisualNovel.Numeric.Range
import VisualNovel.Numeric.Shortest
import VisualNovel.Numeric.Spelling
import VisualNovel.Playback.Event
import VisualNovel.Playback.Frame
import VisualNovel.Playback.Gesture
import VisualNovel.Playback.Moves
import VisualNovel.Playback.Position
import VisualNovel.Playback.Report
import VisualNovel.Playback.Reveal
import VisualNovel.Playback.Session
import VisualNovel.Playback.Stage
import VisualNovel.Playback.Timing
import VisualNovel.Playback.Typewriter
import VisualNovel.Playback.Typing
import VisualNovel.Settings.Preferences
import VisualNovel.Settings.Sections
import VisualNovel.Sound.Clip
import VisualNovel.Sound.Coordinator
import VisualNovel.Sound.Desk
import VisualNovel.Sound.Mixer
import VisualNovel.Sound.Rehearsal
import VisualNovel.Sound.Report
import VisualNovel.Sound.Slot
import VisualNovel.Text.Blank
import VisualNovel.Text.Digit
import VisualNovel.Text.Hexadecimal
import VisualNovel.Text.Name
import VisualNovel.Text.Newline
import VisualNovel.Text.Printable
import VisualNovel.Text.Quoted
import VisualNovel.Text.Split
import VisualNovel.Text.Utf8
import VisualNovel.Window.Call
import VisualNovel.Window.Color
import VisualNovel.Window.Font
import VisualNovel.Window.Geometry
import VisualNovel.Window.Host
import VisualNovel.Window.Loop
import VisualNovel.Window.Painter
import VisualNovel.Window.Picture
import VisualNovel.Window.Pointer
import VisualNovel.Window.Report
import VisualNovel.Window.Scaling
import VisualNovel.Window.Show
import VisualNovel.Proofs.Agenda.Completion
import VisualNovel.Proofs.Clock.Orderly
import VisualNovel.Proofs.Clock.Draining
import VisualNovel.Proofs.Playback.Player
import VisualNovel.Proofs.Playback.Player.Clock
import VisualNovel.Proofs.Playback.Player.Typing
import VisualNovel.Proofs.Playback.Player.Line
import VisualNovel.Proofs.Playback.Player.Coherence
import VisualNovel.Proofs.Playback.Player.Ticks
import VisualNovel.Proofs.Playback.Player.Moves
import VisualNovel.Proofs.Playback.Player.Turns
import VisualNovel.Proofs.Playback.History
import VisualNovel.Proofs.Playback.Simulation
import VisualNovel.Proofs.Playback.Requests
import VisualNovel.Proofs.Playback.Standing
import VisualNovel.Proofs.Playback.Coupling
import VisualNovel.Proofs.Novel.Identifiers
import VisualNovel.Proofs.Playback.Progress
import VisualNovel.Proofs.Playback.Player.Course
import VisualNovel.Proofs.Playback.Crossing
import VisualNovel.Proofs.Playback.Player.Landing
import VisualNovel.Proofs.Playback.Traversal
import VisualNovel.Proofs.Sound.Mirrors
import VisualNovel.Proofs.Sound.Ledger
import VisualNovel.Proofs.Sound.Ownership
import VisualNovel.Proofs.Clock.Pacing
import VisualNovel.Proofs.Clock.Happenings
import VisualNovel.Proofs.Clock.Discipline
import VisualNovel.Proofs.Clock.Monotony
import VisualNovel.Proofs.Playback.Player.Utterance
import VisualNovel.Proofs.Playback.Player.Score
import VisualNovel.Proofs.Playback.Frames
import VisualNovel.Proofs.Playback.Audience
import VisualNovel.Proofs.Sound.Attunement
import VisualNovel.Proofs.Playback.Accompaniment
import VisualNovel.Proofs.Playback.Soundtrack
import VisualNovel.Proofs.Playback.Player.Prompt
import VisualNovel.Proofs.Playback.Effort
import VisualNovel.Proofs.Novel.Places
import VisualNovel.Proofs.Novel.Loading
import VisualNovel.Proofs.Playback.Player.Heading
import VisualNovel.Proofs.Playback.Rundown
import VisualNovel.Proofs.Playback.Player.Along
import VisualNovel.Proofs.Playback.Linear
import VisualNovel.Proofs.Console.Listening
import VisualNovel.Proofs.Console.Presenting
import VisualNovel.Proofs.Console.Recital
import VisualNovel.Proofs.Playback.Refusals
import VisualNovel.Proofs.Playback.Unfolding
import VisualNovel.Proofs.Sound.Filing
import VisualNovel.Proofs.Clock.Tending
import VisualNovel.Proofs.Playback.Outline
import VisualNovel.Proofs.Playback.Conducting
import VisualNovel.Proofs.Playback.Sealing
import VisualNovel.Proofs.Playback.Independence
import VisualNovel.Proofs.Playback.Finality
import VisualNovel.Proofs.Playback.Decisions
import VisualNovel.Proofs.Playback.Urgency
import VisualNovel.Proofs.Playback.Continuity
import VisualNovel.Proofs.Playback.Timekeeping
import VisualNovel.Proofs.Playback.Ongoing
import VisualNovel.Proofs.Playback.Ending
import VisualNovel.Proofs.Playback.Menus
import VisualNovel.Proofs.Console.Picking
import VisualNovel.Proofs.Settings.Usable
import VisualNovel.Proofs.Layout.Wrapping
import VisualNovel.Proofs.Novel.Diagnosis
import VisualNovel.Proofs.Playback.Presentation
import VisualNovel.Proofs.Playback.Residence
import VisualNovel.Proofs.Layout.Breaking
import VisualNovel.Proofs.Layout.Revealing
import VisualNovel.Proofs.Playback.Typewriter
import VisualNovel.Proofs.Playback.Typing.Ticking
import VisualNovel.Proofs.Playback.Typing.Recording
import VisualNovel.Proofs.Playback.Typing.Discipline
import VisualNovel.Proofs.Clock.Nesting
import VisualNovel.Proofs.Playback.Sparing
import VisualNovel.Proofs.Playback.Orderliness
import VisualNovel.Proofs.Playback.Cadence
import VisualNovel.Proofs.Playback.Punctuality
import VisualNovel.Proofs.Sound.Muting
import VisualNovel.Proofs.Console.Enduring
import VisualNovel.Proofs.Playback.Idling
import VisualNovel.Proofs.Event.Delivery
import VisualNovel.Proofs.Playback.Lengths
import VisualNovel.Proofs.Playback.Gestures
import VisualNovel.Proofs.Text.Utf8
import VisualNovel.Proofs.Media.Embedding
import VisualNovel.Proofs.Media.Resolution
import VisualNovel.Proofs.Files.Walking
import VisualNovel.Proofs.Files.Writing
import VisualNovel.Proofs.Json.Breaking
import VisualNovel.Proofs.Json.Equality
import VisualNovel.Proofs.Settings.Reloading
import VisualNovel.Proofs.Playback.Composition
import VisualNovel.Proofs.Novel.Naming
import VisualNovel.Proofs.Json.Limits
import VisualNovel.Proofs.Console.Loading
import VisualNovel.Proofs.Window.Colors
import VisualNovel.Proofs.Clock.Flushing
import VisualNovel.Proofs.Clock.Revocation
import VisualNovel.Proofs.Console.Redrawing
