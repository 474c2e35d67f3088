import VisualNovel.Novel.Basic
import VisualNovel.Window.Painter

/-!
# Pictures

A picture is loaded by its reference once, also if that fails. In place of a
missing background comes a grid with the name of the scene, in place of a missing
sprite a board in the color and with the name of the character.
-/

set_option autoImplicit false

namespace VisualNovel.Window.Painter

open VisualNovel.Files VisualNovel.Media VisualNovel.Novel VisualNovel.Text

def octetsOf (tree : Tree) (source : Source) : Except String (List UInt8) :=
  match source.content with
  | .data _ octets => .ok octets
  | .file path => (tree.read (Path.ofString path)).mapError FileError.message

def loadSource (source : Source) : Painting (Except String Surface) := do
  let painter ← get
  call (.load source.label source.hint)
  match octetsOf painter.tree source >>= painter.host.pictureSize with
  | .error reason => return .error reason
  | .ok size => return .ok (← newSurface ("image " ++ size.text) size)

def loadPicture (url : String) : Painting (Except String Surface) := do
  let painter ← get
  match openReference painter.tree painter.assets url with
  | .ok source => loadSource source
  | .error error =>
      if error.isRefusal then throw (.reference error) else return .error error.message

def picture? (url : String) : Painting (Option Surface) := do
  match (← get).pictures.lookup url with
  | some kept => return kept
  | none => do
      let loaded ← loadPicture url
      match loaded with
      | .error reason => warn (.badImage url reason)
      | .ok _ => pure ()
      modify fun painter =>
        { painter with pictures := (url, loaded.toOption) :: painter.pictures }
      return loaded.toOption

def gridSteps (limit : Int) : List Int :=
  (List.range ((limit.toNat + 63) / 64)).map fun (step : Nat) => 64 * (step : Int)

def drawGrid (label : String) : Painting Surface := do
  let color := Color.plain ⟨70, 70, 70⟩
  let grid ← sheet canvasSize (.plain ⟨40, 40, 40⟩)
  for x in gridSteps canvasSize.width do
    call (.line grid.label color ⟨x, 0⟩ ⟨x, canvasSize.height⟩ 1)
  for y in gridSteps canvasSize.height do
    call (.line grid.label color ⟨0, y⟩ ⟨canvasSize.width, y⟩ 1)
  if !label.isEmpty then
    blit grid (← render (← get).smallFont (cut 80 label) (.plain .white)) ⟨16, 56⟩
  return grid

def drawBoard (name : String) (color : Rgb) : Painting Surface := do
  let board ← sheet ⟨400, 720⟩ (.veil ⟨80, 80, 120⟩ 200)
  call (.rect board.label (.plain color) ⟨0, 0, 400, 720⟩ 4 0)
  blitAround board (← render (← get).smallFont name (.plain .white)) ⟨200, 40⟩
  return board

/-- What comes in place of a missing picture. It is drawn once, in the color asked for first. -/
def standIn (kind : StandIn) (color : Rgb) : Painting Surface := do
  match (← get).standIns.lookup kind with
  | some surface => return surface
  | none => do
      let surface ←
        match kind with
        | .background label => drawGrid label
        | .sprite name => drawBoard name color
      modify fun painter => { painter with standIns := (kind, surface) :: painter.standIns }
      return surface

def forgetPictures (painter : Painter) : Painter :=
  { painter with pictures := [] }

end VisualNovel.Window.Painter
