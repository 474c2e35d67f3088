/-!
# The words of a document

The closed sets of words that a document may use: how a scene is entered, how a
line is lettered, and how texts and backgrounds are styled. Each set lists its
members with the word that names them.
-/

set_option autoImplicit false

namespace VisualNovel.Novel

class Vocabulary (α : Type) where
  /-- What the set is called in reports. -/
  title : String
  members : List α
  word : α → String

def Vocabulary.find? {α : Type} [Vocabulary α] (word : String) : Option α :=
  (Vocabulary.members (α := α)).find? fun member => Vocabulary.word member == word

inductive Transition where
  | fade
  | flash
  | slide
  | zoom
  | none
  deriving DecidableEq, Repr

instance : Vocabulary Transition where
  title := "Transition"
  members := [.fade, .flash, .slide, .zoom, .none]
  word
    | .fade => "fade"
    | .flash => "flash"
    | .slide => "slide"
    | .zoom => "zoom"
    | .none => "none"

inductive TextEffect where
  | typewriter
  | shake
  | flash
  | rainbow
  deriving DecidableEq, Repr

instance : Vocabulary TextEffect where
  title := "TextEffect"
  members := [.typewriter, .shake, .flash, .rainbow]
  word
    | .typewriter => "typewriter"
    | .shake => "shake"
    | .flash => "flash"
    | .rainbow => "rainbow"

inductive FontFamily where
  | sans
  | serif
  | mono
  | handwritten
  | retro
  | futuristic
  | readable
  deriving DecidableEq, Repr

instance : Vocabulary FontFamily where
  title := "FontFamily"
  members := [.sans, .serif, .mono, .handwritten, .retro, .futuristic, .readable]
  word
    | .sans => "sans"
    | .serif => "serif"
    | .mono => "mono"
    | .handwritten => "handwritten"
    | .retro => "retro"
    | .futuristic => "futuristic"
    | .readable => "readable"

inductive FontSize where
  | small
  | medium
  | large
  deriving DecidableEq, Repr

instance : Vocabulary FontSize where
  title := "FontSize"
  members := [.small, .medium, .large]
  word
    | .small => "sm"
    | .medium => "md"
    | .large => "lg"

inductive BackgroundSize where
  | cover
  | contain
  | stretch
  deriving DecidableEq, Repr

instance : Vocabulary BackgroundSize where
  title := "BackgroundSize"
  members := [.cover, .contain, .stretch]
  word
    | .cover => "cover"
    | .contain => "contain"
    | .stretch => "stretch"

inductive BackgroundPosition where
  | center
  | top
  | bottom
  | left
  | right
  deriving DecidableEq, Repr

instance : Vocabulary BackgroundPosition where
  title := "BackgroundPosition"
  members := [.center, .top, .bottom, .left, .right]
  word
    | .center => "center"
    | .top => "top"
    | .bottom => "bottom"
    | .left => "left"
    | .right => "right"

abbrev word {α : Type} [Vocabulary α] (member : α) : String :=
  Vocabulary.word member

theorem find?_word_transition (style : Transition) :
    Vocabulary.find? (word style) = some style := by
  cases style <;> decide

end VisualNovel.Novel
