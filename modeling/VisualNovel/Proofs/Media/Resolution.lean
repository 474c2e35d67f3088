import VisualNovel.Media.Reference

/-!
# How references fail

A reference leads to data or to a file that is there, or it leads nowhere and the
error says so. Only a locator of a file may fail otherwise: where its host is
refused, the refusal is the error.
-/

set_option autoImplicit false

namespace VisualNovel.Media

open VisualNovel.Files VisualNovel.Text

def authority? (characters : List Char) : Option (List Char) :=
  match characters.filter fun character =>
    character ≠ '\t' && character ≠ '\r' && character ≠ '\n' with
  | '/' :: '/' :: rest => some (rest.takeWhile fun character =>
      !(character = '/' || character = '?' || character = '#'))
  | _ => none

/-- A reference is a locator of a file on a host that is refused. -/
def Refused (url : String) (reason : Host.Error) : Prop :=
  scheme? url.toList = some "file" ∧
    ∃ authority, authority? (url.toList.drop 5) = some authority ∧
      Host.check authority = .error reason

def target? (url : String) : Option String :=
  if url.isEmpty then none
  else
    match scheme? url.toList with
    | none => some url
    | some "file" => (locatorPath (url.toList.drop 5)).toOption
    | some _ => none

/-- Where a path is looked for: as it is and below the directory of assets. -/
def places (assets : Option Path) (path : Path) : List Path :=
  match assets with
  | none => [path]
  | some assets => if path.isAbsolute then [path] else [path, assets.below path]

/-- What a reference may lead to: data where its scheme says so, otherwise a file that is in one
of its places. -/
inductive Leads (tree : Tree) (assets : Option Path) (url : String) : Content → Prop where
  | data {mediaType : String} {octets : List UInt8} :
      scheme? url.toList = some "data" → Leads tree assets url (.data mediaType octets)
  | file {text : String} {place : Path} :
      target? url = some text → place ∈ places assets (.ofString text) →
      tree.exists place = .ok true → Leads tree assets url (.file place.toString)

def Resolves (tree : Tree) (assets : Option Path) (url : String)
    (outcome : Except OpenError Source) : Prop :=
  (∃ content, outcome = .ok ⟨url, content⟩ ∧ Leads tree assets url content) ∨
    ∃ reason, outcome = .error (.reference reason)

variable {tree : Tree} {assets : Option Path} {url text : String} {path : Path}
  {characters : List Char} {reason : Host.Error}

private theorem locatorPath_error_iff : locatorPath characters = .error reason ↔
    ∃ authority, authority? characters = some authority ∧
      Host.check authority = .error reason := by
  unfold locatorPath authority?
  dsimp only
  generalize (characters.filter fun character =>
    character ≠ '\t' && character ≠ '\r' && character ≠ '\n') = plain
  split
  · next rest =>
      simp only [Option.some.injEq, exists_eq_left']
      cases Host.check (rest.takeWhile fun character =>
        !(character = '/' || character = '?' || character = '#')) with
      | error other => simp [bind, Except.bind]
      | ok => simp [bind, Except.bind, pure, Except.pure]
  · simp [pure, Except.pure]

/-- Where the file system tells of every place whether something is there, a path is found in one
of them or nowhere. -/
theorem findFile?_places
    (told : ∀ place ∈ places assets path, ∃ there, tree.exists place = .ok there) :
    findFile? tree (assets.map .ok) path = .ok none ∨
      ∃ place ∈ places assets path, tree.exists place = .ok true ∧
        findFile? tree (assets.map .ok) path = .ok (some place) := by
  have first : path ∈ places assets path := by
    unfold places
    split
    · simp
    · split <;> simp
  obtain ⟨there, looked⟩ := told path first
  unfold findFile?
  rw [looked]
  cases there with
  | true => exact .inr ⟨path, first, looked, rfl⟩
  | false =>
      cases assets with
      | none => exact .inl rfl
      | some assets =>
          cases absolute : path.isAbsolute with
          | true => exact .inl (by simp [bind, Except.bind, pure, Except.pure])
          | false =>
              have second : assets.below path ∈ places (some assets) path := by
                simp [places, absolute]
              obtain ⟨below, lookedBelow⟩ := told _ second
              cases below with
              | true =>
                  refine .inr ⟨_, second, lookedBelow, ?_⟩
                  simp [bind, Except.bind, pure, Except.pure, lookedBelow]
              | false =>
                  exact .inl (by
                    simp [bind, Except.bind, pure, Except.pure, lookedBelow])

/-! ## Opening -/

theorem resolves_openFile (target : target? url = some text)
    (told : ∀ place ∈ places assets (.ofString text), ∃ there, tree.exists place = .ok there) :
    Resolves tree assets url (openFile tree (assets.map .ok) url text) := by
  unfold openFile
  rcases findFile?_places told with nowhere | ⟨place, listed, there, found⟩
  · rw [nowhere]
    exact .inr ⟨_, rfl⟩
  · rw [found]
    exact .inl ⟨_, rfl, .file target listed there⟩

/-- Whatever is decoded of a reference is data. -/
theorem decodeData_ok {content : Content} (decoded : decodeData characters = .ok content) :
    ∃ mediaType octets, content = .data mediaType octets := by
  unfold decodeData at decoded
  split at decoded
  · contradiction
  dsimp only at decoded
  split at decoded
  · exact ⟨_, _, (Except.ok.inj decoded).symm⟩
  split at decoded
  · split at decoded
    · exact ⟨_, _, (Except.ok.inj decoded).symm⟩
    · contradiction
  · exact ⟨_, _, (Except.ok.inj decoded).symm⟩

private theorem openReference_refused (tree : Tree) (given : Option GivenPath)
    (refused : Refused url reason) : openReference tree given url = .error (.host reason) := by
  obtain ⟨file, refusal⟩ := refused
  have some : url.isEmpty = false := by
    cases empty : url.isEmpty with
    | true =>
        obtain rfl := String.isEmpty_iff.mp empty
        contradiction
    | false => rfl
  unfold openReference
  rw [some, if_neg Bool.false_ne_true, file]
  simp only [locatorPath_error_iff.mpr refusal]

/-- A reference that no host refuses leads where it should, or is reported. -/
private theorem resolves_of_accepted
    (told : ∀ text, target? url = some text → ∀ place ∈ places assets (.ofString text),
      ∃ there, tree.exists place = .ok there)
    (accepted : ∀ reason, ¬ Refused url reason) :
    Resolves tree assets url (openReference tree (assets.map .ok) url) := by
  cases empty : url.isEmpty with
  | true => exact .inr ⟨.empty, by simp [openReference, empty]⟩
  | false =>
      have target : target? url = match scheme? url.toList with
          | none => some url
          | some "file" => (locatorPath (url.toList.drop 5)).toOption
          | some _ => none := by
        rw [target?, empty, if_neg Bool.false_ne_true]
      unfold openReference
      rw [empty, if_neg Bool.false_ne_true]
      split
      · next plain =>
          rw [plain] at target
          exact resolves_openFile target (told url target)
      · next data =>
          cases decoded : decodeData (url.toList.drop 5) with
          | ok content =>
              obtain ⟨mediaType, octets, rfl⟩ := decodeData_ok decoded
              exact .inl ⟨_, rfl, .data data⟩
          | error error => exact .inr ⟨error, rfl⟩
      · next file =>
          cases located : locatorPath (url.toList.drop 5) with
          | error reason =>
              exact absurd ⟨file, locatorPath_error_iff.mp located⟩ (accepted reason)
          | ok text =>
              have target : target? url = some text := by
                rw [target, file]
                exact congrArg Except.toOption located
              exact resolves_openFile target (told text target)
      · exact .inr ⟨_, rfl⟩

/-- Where the file system tells of the places of a reference whether something is there, opening
it leads to something or fails because it leads nowhere, unless it is a locator of a file of which
the host is refused. Then that is the error. -/
theorem opens_or_leads_nowhere
    (told : ∀ text, target? url = some text → ∀ place ∈ places assets (.ofString text),
      ∃ there, tree.exists place = .ok there) :
    (∀ reason, Refused url reason →
        openReference tree (assets.map .ok) url = .error (.host reason)) ∧
      ((∀ reason, ¬ Refused url reason) →
        Resolves tree assets url (openReference tree (assets.map .ok) url)) :=
  ⟨fun _ => openReference_refused tree _, resolves_of_accepted told⟩

def harbour : Tree where
  root := .directory [("assets", .directory [("fog bank.png", .file [])])]
  current := []

/-- A locator of the picture, with an escape, in capital letters, and with a part of it named. -/
theorem opens_or_leads_nowhere_below_assets :
    (∀ reason, ¬ Refused "FILE:fog%20bank.png#night" reason) ∧
      openReference harbour ((some (.ofString "assets")).map .ok) "FILE:fog%20bank.png#night" =
        .ok ⟨"FILE:fog%20bank.png#night", .file "assets/fog bank.png"⟩ ∧
      Resolves harbour (some (.ofString "assets")) "FILE:fog%20bank.png#night"
        (openReference harbour ((some (.ofString "assets")).map .ok)
          "FILE:fog%20bank.png#night") := by
  have target : target? "FILE:fog%20bank.png#night" = some "fog bank.png" := by decide +kernel
  have told : ∀ text, target? "FILE:fog%20bank.png#night" = some text →
      ∀ place ∈ places (some (.ofString "assets")) (.ofString text),
        ∃ there, harbour.exists place = .ok there := by
    intro text same place listed
    obtain rfl := Option.some.inj (target.symm.trans same)
    have both : place = .ofString "fog bank.png" ∨ place = .ofString "assets/fog bank.png" := by
      have listing : places (some (.ofString "assets")) (.ofString "fog bank.png") =
          [.ofString "fog bank.png", .ofString "assets/fog bank.png"] := by decide +kernel
      simpa [listing] using listed
    rcases both with rfl | rfl
    · exact ⟨false, rfl⟩
    · exact ⟨true, rfl⟩
  have opened : (openReference harbour ((some (.ofString "assets")).map .ok)
      "FILE:fog%20bank.png#night").toOption =
        some ⟨"FILE:fog%20bank.png#night", .file "assets/fog bank.png"⟩ := by decide +kernel
  have accepted (reason : Host.Error) : ¬ Refused "FILE:fog%20bank.png#night" reason := by
    rintro ⟨_, authority, named, _⟩
    have none : authority? ("FILE:fog%20bank.png#night".toList.drop 5) = none := by decide +kernel
    exact nomatch none.symm.trans named
  have resolves := (opens_or_leads_nowhere told).2 accepted
  cases outcome : openReference harbour ((some (.ofString "assets")).map .ok)
      "FILE:fog%20bank.png#night" with
  | error error =>
      rw [outcome] at opened
      contradiction
  | ok source =>
      rw [outcome] at opened resolves
      obtain rfl := Option.some.inj opened
      exact ⟨accepted, rfl, resolves⟩

/-- A bracket that does not close is no address of a host, and the reference neither leads to
anything nor is reported to lead nowhere. -/
theorem open_bracket_refused :
    openReference harbour none "file://[quay/fog.png" = .error (.host .brackets) ∧
      ¬ ∀ (tree : Tree) (assets : Option Path) (url : String),
        (∀ text, target? url = some text → ∀ place ∈ places assets (.ofString text),
          ∃ there, tree.exists place = .ok there) →
        Resolves tree assets url (openReference tree (assets.map .ok) url) := by
  have refused : openReference harbour none "file://[quay/fog.png" = .error (.host .brackets) :=
    openReference_refused harbour none
      ⟨by decide +kernel, ['[', 'q', 'u', 'a', 'y'], by decide +kernel, rfl⟩
  refine ⟨refused, fun claimed => ?_⟩
  have nothing : target? "file://[quay/fog.png" = none := by decide +kernel
  have resolves := claimed harbour none "file://[quay/fog.png"
    fun text same => nomatch nothing.symm.trans same
  rw [Option.map_none, refused] at resolves
  rcases resolves with ⟨_, opened, _⟩ | ⟨_, failed⟩
  · contradiction
  · cases failed

end VisualNovel.Media
