import VisualNovel.Files.Tree
import VisualNovel.Media.Base64
import VisualNovel.Media.Host
import VisualNovel.Media.Percent
import VisualNovel.Text.Name

/-!
# Media references

A document refers to its pictures and sounds by texts: data written into the
reference itself, locators of local files, or plain paths. A path is looked for as
it is and then below the directory of assets. It is an error to look below assets
that are no directory's path at all. References of other schemes are not
supported.
-/

set_option autoImplicit false

namespace VisualNovel.Media

open VisualNovel.Files VisualNovel.Text

inductive Content where
  | file (path : String)
  | data (mediaType : String) (octets : List UInt8)
  deriving DecidableEq, Repr

structure Source where
  url : String
  content : Content
  deriving DecidableEq, Repr

abbrev DataError := Base64.Error

/-- Why a reference leads nowhere. -/
inductive ReferenceError where
  | empty
  | noComma
  | undecodable (error : DataError)
  | unsupported (scheme : String)
  | notFound (url : String)
  deriving DecidableEq, Repr

def ReferenceError.message : ReferenceError → String
  | .empty => "empty media reference"
  | .noComma => "malformed data URI (no comma)"
  | .undecodable error => "undecodable data URI: " ++ error.message
  | .unsupported scheme => s!"unsupported scheme '{scheme}'"
  | .notFound url => s!"file not found: {url}"

/-- Why a reference was not opened: it leads nowhere, its host is refused, or the file system
refuses to look for it. -/
inductive OpenError where
  | reference (error : ReferenceError)
  | host (error : Host.Error)
  | file (error : FileError)
  deriving DecidableEq, Repr

def OpenError.message : OpenError → String
  | .reference error => error.message
  | .host error => error.message
  | .file error => error.message

def OpenError.isRefusal : OpenError → Bool
  | .host _ | .file (.notAPath _) => true
  | .reference _ | .file _ => false

/-- A short name for the kind of the data, for loaders that need one. -/
def Source.hint (source : Source) : String :=
  match source.content with
  | .data mediaType _ =>
      match splitAtFirst? '/' mediaType.toList with
      | some (_, subtype) => String.ofList (beforeFirst '+' subtype)
      | none => ""
  | .file path => (Path.ofString path).suffix

/-- What a loader of the source is given: a path or a number of octets. -/
def Source.label (source : Source) : String :=
  match source.content with
  | .file path => path
  | .data _ octets => s!"bytes:{octets.length}"

/-- The scheme of a reference in small letters: at least two characters before a colon, a letter
first. -/
def scheme? (characters : List Char) : Option String :=
  let isLetter (character : Char) : Bool := character.isAlpha
  let isMark (character : Char) : Bool :=
    character.isAlphanum || character = '+' || character = '.' || character = '-'
  let name := characters.takeWhile isMark
  match name, characters.dropWhile isMark with
  | first :: _ :: _, ':' :: _ =>
      if isLetter first then some (String.ofList (name.map Char.toLower)) else none
  | _, _ => none

def decodeData (characters : List Char) : Except ReferenceError Content :=
  match splitAtFirst? ',' characters with
  | none => .error .noComma
  | some (header, payload) =>
      let payload := String.ofList payload
      match pieces ';' header with
      | [] => .ok (.data "text/plain" (Percent.toOctets payload))
      | mediaType :: parameters =>
          let mediaType := if mediaType.isEmpty then "text/plain" else String.ofList mediaType
          if parameters.contains "base64".toList then
            match Base64.decode (Percent.toText payload) with
            | .ok octets => .ok (.data mediaType octets)
            | .error error => .error (.undecodable error)
          else .ok (.data mediaType (Percent.toOctets payload))

def locatorPath (characters : List Char) : Except Host.Error String :=
  let characters := characters.filter fun character =>
    character ≠ '\t' && character ≠ '\r' && character ≠ '\n'
  let isEnd (character : Char) : Bool :=
    character = '/' || character = '?' || character = '#'
  match characters with
  | '/' :: '/' :: rest => do
      Host.check (rest.takeWhile (!isEnd ·))
      return Percent.toText
        (String.ofList (beforeFirst '?' (beforeFirst '#' (rest.dropWhile (!isEnd ·)))))
  | _ =>
      return Percent.toText (String.ofList (beforeFirst '?' (beforeFirst '#' characters)))

/-- The place of a file as it is or below the directory of assets. -/
def findFile? (tree : Tree) (assets : Option GivenPath) (path : Path) :
    Except FileError (Option Path) := do
  if ← tree.exists path then return some path
  match assets with
  | none => return none
  | some assets =>
      if path.isAbsolute then return none
      else
        let below := (← assets).below path
        return if ← tree.exists below then some below else none

def openFile (tree : Tree) (assets : Option GivenPath) (url path : String) :
    Except OpenError Source :=
  match findFile? tree assets (Path.ofString path) with
  | .error error => .error (.file error)
  | .ok none => .error (.reference (.notFound url))
  | .ok (some found) => .ok ⟨url, .file found.toString⟩

def openReference (tree : Tree) (assets : Option GivenPath) (url : String) :
    Except OpenError Source :=
  if url.isEmpty then .error (.reference .empty)
  else
    match scheme? url.toList with
    | none => openFile tree assets url url
    | some "data" =>
        match decodeData (url.toList.drop 5) with
        | .ok content => .ok ⟨url, content⟩
        | .error error => .error (.reference error)
    | some "file" =>
        match locatorPath (url.toList.drop 5) with
        | .error error => .error (.host error)
        | .ok path => openFile tree assets url path
    | some scheme => .error (.reference (.unsupported scheme))

end VisualNovel.Media
