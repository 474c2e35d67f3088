import VisualNovel.Layout.Wrap
import VisualNovel.Numeric.Range
import VisualNovel.Playback.Frame
import VisualNovel.Playback.Timing
import VisualNovel.Window.Font
import VisualNovel.Window.Picture
import VisualNovel.Window.Scaling

/-!
# Showing frames

How a frame is drawn: background and sprite, the panel with the line revealed so
far, the menu, the cover of a transition, the card at the end, and the bar above
all. What is animated depends on the time in milliseconds at which it is drawn.
-/

set_option autoImplicit false

namespace VisualNovel.Window.Painter

open VisualNovel.Layout VisualNovel.Novel VisualNovel.Numeric VisualNovel.Playback

def barHeight : Int := 44

def panelRect : Rect := ⟨40, 510, 1200, 180⟩

def textMargin : Int := 28

def gray (level : Int) : Color := .plain ⟨level, level, level⟩

def frameColor : Color := .plain ⟨200, 220, 255⟩

def wave (oscillate : Float → Float) (height period : Float) (now : Int) :
    Except RangeError Int := do
  integerPart (height * oscillate ((← floatOfInteger now) / period))

def flashStrength (now : Int) : Except RangeError Int := do
  integerPart (150.0 + 105.0 * ((← floatOfInteger now) / 120.0).sin)

/-- The hue of a character of a rainbow, given the number of characters before. -/
def rainbowAngle (now : Int) (position : Nat) : Except RangeError Float := do
  return remainder ((← floatOfInteger now) / 8.0 + nearest false (18 * position) 1) 360

def showBackground (frame : Frame) : Painting Unit := do
  match frame.background with
  | none => return
  | some style =>
      match named? style.imageUrl with
      | none => return
      | some url =>
          match ← picture? url with
          | some surface =>
              blitBackground canvas surface (Fit.ofStyle style.size) (Anchor.ofWord style.position)
          | none =>
              let label := if frame.sceneName.isEmpty then Text.cut 40 url else frame.sceneName
              blit canvas (← standIn (.background label) .white) ⟨0, 0⟩

def showSprite (frame : Frame) : Painting Unit := do
  match named? frame.spriteUrl with
  | none => return
  | some url =>
      if frame.speaker.isNarrator then return
      let surface ←
        match ← picture? url with
        | some surface => pure surface
        | none => standIn (.sprite frame.speaker.name) (Rgb.parse frame.speaker.color .white)
      let surface ← scaleToHeight surface (.integer 576)
      blit canvas surface
        ⟨(canvasSize.width - surface.size.width) / 2, canvasSize.height - surface.size.height⟩

def showSpeaker (frame : Frame) : Painting Unit := do
  let expression := (named? frame.expression).map fun expression => s!" ({expression})"
  let name ← render (← get).smallFont (frame.speaker.name ++ expression.getD "") (.plain .white)
  let tag : Rect := ⟨panelRect.x + 16, panelRect.y - 34, name.size.width + 28, 38⟩
  fillRect canvas (Rgb.parse frame.speaker.color .white) tag 6
  blitAround canvas name tag.center

/-- Draws the characters of a line in the colors of the rainbow. The position counts the
characters before. -/
def showRainbow (font : Font) (now : Int) (y : Int) :
    List Char → (x : Int) → (position : Nat) → Painting Unit
  | [], _, _ => return
  | character :: rest, x, position => do
      let angle ← within (rainbowAngle now position)
      let surface ← render font (String.singleton character) (.hue angle)
      blit canvas surface ⟨x, y⟩
      showRainbow font now y rest (x + surface.size.width) (position + 1)

def showLines (font : Font) (effect : Option TextEffect) (strength now x : Int) :
    List (List Char) → (y : Int) → (position : Nat) → Painting Unit
  | [], _, _ => return
  | line :: rest, y, position => do
      if effect = some .rainbow then showRainbow font now y line x position
      else
        let surface ← render font (String.ofList line) (gray 240)
        if strength < 255 then call (.alpha surface.label strength)
        blit canvas surface ⟨x, y⟩
      let height := (← get).host.lineHeight font.pixels
      showLines font effect strength now x rest (y + height) (position + line.length)

def showText (frame : Frame) (now : Int) : Painting Unit := do
  let painter ← get
  let theme : Theme := ⟨some frame.theme.fontFamily, some frame.theme.fontSize⟩
  let font ← themeFont theme painter.fontPath (.number 1.0) false
  let width (characters : List Char) : Int :=
    (painter.host.textSize font.pixels (String.ofList characters)).width
  let text := frame.text.toList
  let spans := wrapSpans text width (panelRect.width - 2 * textMargin)
  let lines := revealedLines text spans frame.revealed
  let isShaken := frame.textEffect = some .shake
  let right ← if isShaken then within (wave Float.sin 3.0 25.0 now) else pure 0
  let down ← if isShaken then within (wave Float.cos 2.0 31.0 now) else pure 0
  let strength ← if frame.textEffect = some .flash then within (flashStrength now) else pure 255
  let x := panelRect.x + textMargin + right
  let y := panelRect.y + 30 + down
  showLines font frame.textEffect strength now x lines y 0
  let last := ((lines.getLast?).map width).getD 0
  if frame.textEffect = some .typewriter && !frame.fullyRevealed && now / 400 % 2 == 0 then
    let height := painter.host.lineHeight font.pixels
    let rows : Int := (max 1 lines.length : Nat)
    blit canvas (← render font "|" (gray 240)) ⟨x + last + 2, y + (rows - 1) * height⟩

def showPanel (frame : Frame) (now : Int) : Painting Unit := do
  blit canvas (← sheet panelRect.size (.veil .black 170)) panelRect.corner
  call (.rect canvas.label (.plain .white) panelRect 1 8)
  offer .panel panelRect
  showSpeaker frame
  showText frame now
  if frame.fullyRevealed && frame.choices.isEmpty then
    let hint ← render (← get).smallFont "▼" (gray 230)
    let lift ← within (wave Float.sin 3.0 200.0 now)
    blit canvas hint ⟨panelRect.right - 36, panelRect.bottom - 34 + lift⟩

def canvasPoint? (painter : Painter) (point : Point) : Option Point := do
  let transform ← painter.transform
  let area := transform.area
  if area.x ≤ point.x ∧ point.x ≤ area.right ∧ area.y ≤ point.y ∧ point.y ≤ area.bottom ∧
      0.0 < transform.scale then
    let place (distance : Int) : Except RangeError Int := do
      integerPart ((← floatOfInteger distance) / transform.scale)
    return ⟨← (place (point.x - area.x)).toOption, ← (place (point.y - area.y)).toOption⟩
  else none

def showEntries (mouse : Option Point) : List Choice → (y : Int) → Painting Unit
  | [], _ => return
  | choice :: rest, y => do
      let button : Rect := ⟨320, y, 640, 52⟩
      let isHovered := mouse.any button.contains
      let color := if isHovered then .veil ⟨90, 140, 220⟩ 210 else .veil ⟨20, 20, 30⟩ 200
      blit canvas (← sheet button.size color) button.corner
      call (.rect canvas.label frameColor button 2 8)
      blitAround canvas (← render (← get).smallFont choice.text (.plain .white)) button.center
      offer (.choice choice.id) button
      showEntries mouse rest (y + 66)

def showMenu (frame : Frame) : Painting Unit := do
  let painter ← get
  let count : Int := frame.choices.length
  let top := (panelRect.y - (count * 52 + (count - 1) * 14)) / 2
  showEntries (painter.canvasPoint? painter.mouse) frame.choices (max (barHeight + 20) top)

/-- How far the cover of a transition has come, from zero to one. -/
def coverage (since now ramp : Int) : Except RangeError Float :=
  (ratio (now - since) ramp).map clampUnit

def drawCover (style : Option Transition) (progress : Float) : Painting Unit := do
  let width ← within (scaledLength canvasSize.width progress)
  match style with
  | some .slide => fillRect canvas .black ⟨0, 0, width, canvasSize.height⟩ 0
  | some .zoom => do
      let height ← within (scaledLength canvasSize.height progress)
      fillRect canvas .black (Rect.around ⟨640, 360⟩ ⟨width, height⟩) 0
  | _ => do
      let color := if style = some .flash then Rgb.white else .black
      let strength ← within (scaledLength 255 progress)
      blit canvas (← sheet canvasSize (.veil color strength)) ⟨0, 0⟩

/-- Draws the cover of a transition as far as it has come since it was drawn first. -/
def showTransition (timings : TimingTable) (frame : Frame) (now : Int) : Painting Unit := do
  if frame.transitionVisible then
    let since := (← get).coveredSince.getD now
    modify fun painter => { painter with coveredSince := some since }
    let commit := (timings.timingFor frame.transitionStyle).commit
    let progress ← within (coverage since now (if commit = 0 then 500 else commit))
    drawCover frame.transitionStyle progress
  else modify fun painter => { painter with coveredSince := none }

def showEndButton (target : Target) (label : String) (x : Int) : Painting Unit := do
  let button := Rect.around ⟨x, 440⟩ ⟨180, 48⟩
  fillRect canvas ⟨60, 70, 110⟩ button 8
  call (.rect canvas.label frameColor button 2 8)
  blitAround canvas (← render (← get).smallFont label (.plain .white)) button.center
  offer target button

def showEnd (frame : Frame) : Painting Unit := do
  blit canvas (← sheet canvasSize (.veil .black 180)) ⟨0, 0⟩
  blitAround canvas (← render (← get).bigFont "The End" (.plain ⟨255, 235, 130⟩)) ⟨640, 300⟩
  if !frame.novelTitle.isEmpty then
    blitAround canvas (← render (← get).smallFont frame.novelTitle (gray 235)) ⟨640, 360⟩
  showEndButton .endReplay "Replay" 530
  showEndButton .endClose "Close" 750

/-- Draws a button of the bar left of a column. Gives the column for the next one. -/
def showBarButton (target : Target) (label : String) (right : Int) : Painting Int := do
  let text ← render (← get).smallFont label (.plain .white)
  let width := text.size.width + 20
  let button : Rect := ⟨right - width, 6, width, barHeight - 12⟩
  fillRect canvas ⟨70, 70, 90⟩ button 6
  blitAround canvas text button.center
  offer target button
  return button.x - 8

def showBar (frame : Frame) : Painting Unit := do
  blit canvas (← sheet ⟨canvasSize.width, barHeight⟩ (.veil .black 140)) ⟨0, 0⟩
  let scene := if frame.sceneName.isEmpty then "" else "  -  " ++ frame.sceneName
  blit canvas (← render (← get).smallFont (frame.novelTitle ++ scene) (gray 240)) ⟨14, 10⟩
  let left ← showBarButton .close "X" (canvasSize.width - 10)
  let _ ← showBarButton .mute (if frame.muted then "Unmute" else "Mute") left

/-- Brings the canvas onto the screen, as large as it fits, in the middle. -/
def flip : Painting Unit := do
  let screen := (← get).screen
  let across ← within (ratio screen.width canvasSize.width)
  let down ← within (ratio screen.height canvasSize.height)
  let scale := if down < across then down else across
  let width ← within (scaledLength canvasSize.width scale)
  let height ← within (scaledLength canvasSize.height scale)
  let size : Size := ⟨width, height⟩
  call (.scale canvas.label size)
  let corner := place size screen .middle
  modify fun painter =>
    { painter with transform := some ⟨scale, ⟨corner.x, corner.y, size.width, size.height⟩⟩ }
  call (.fill "screen" (.plain .black))
  call (.blit "screen" (canvas.label ++ "@" ++ size.text) corner)
  call .flip

/-- Draws a frame at a time. -/
def present (timings : TimingTable) (now : Int) (frame : Frame) : Painting Unit := do
  modify fun painter => { painter with targets := [] }
  call (.fill canvas.label (.veil ⟨15, 23, 42⟩ 255))
  if frame.status = .noScene then
    blitAround canvas
      (← render (← get).smallFont "This novel has no scenes." (gray 230)) ⟨640, 360⟩
  else
    showBackground frame
    if !frame.finished then
      showSprite frame
      if frame.status = .ready then showPanel frame now
      else offer .panel ⟨0, 0, canvasSize.width, canvasSize.height⟩
      if frame.showChoices then showMenu frame
    showTransition timings frame now
    if frame.finished then showEnd frame
  showBar frame
  flip

end VisualNovel.Window.Painter
