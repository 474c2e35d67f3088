import VisualNovel.Console.Plan
import VisualNovel.Proofs.Json.Breaking
import VisualNovel.Proofs.Json.Limits
import VisualNovel.Proofs.Text.Utf8

/-!
# Documents that cannot be loaded

A file that can be read holds a novel, or what is wrong with it is reported and the
command ends with its code. What exceeds the limits of reading is neither: there the
command itself fails.
-/

set_option autoImplicit false

namespace VisualNovel.Console

open VisualNovel.Files VisualNovel.Json VisualNovel.Novel VisualNovel.Numeric VisualNovel.Text

variable {tree : Tree} {document : String} {content : List UInt8}

inductive Command.Loads (document : String) : Command → Prop
  | check : Loads document (.check document)
  | run (options : RunOptions) : Loads document (.run document options)

def Command.onwards (tree : Tree) (novel : Novel) : Command → Planned
  | .help about => return .done (helpLines about) 0
  | .check _ => return checked novel
  | .run _ options => planRun tree novel options

theorem Command.Loads.plan_eq {command : Command} (loads : command.Loads document) :
    command.plan tree = withDocument tree document fun novel => command.onwards tree novel := by
  cases loads <;> rfl

/-- A document is a novel, and commands go on with it. -/
structure Accepted (tree : Tree) (document : String) (novel : Novel) : Prop where
  load : (Novel.load tree (Path.ofString document)).1 = .ok novel
  plan : ∀ command, Command.Loads document command → ∀ warnings, ∃ added,
    (command.plan tree).run warnings = (command.onwards tree novel).run (warnings ++ added)

/-- A document is none, and commands report what is wrong with it and end with the code two. -/
structure Rejected (tree : Tree) (document : String) (error : DocumentError) : Prop where
  load : (Novel.load tree (Path.ofString document)).1 = .error (.document error)
  plan : ∀ command, Command.Loads document command → ∀ warnings,
    ((command.plan tree).run warnings).1 = .done ["Invalid novel: " ++ error.report] 2

/-- A document goes beyond a limit of reading, and commands fail of it. -/
structure Overrun (tree : Tree) (document : String) (limit : Limit) : Prop where
  exceeds : ∃ text, tree.readText (Path.ofString document) = .ok text ∧
    Exceeds nestingLimit ⟨0, .ready⟩ text.toList limit
  load : (Novel.load tree (Path.ofString document)).1 = .error (.limit limit)
  plan : ∀ command, Command.Loads document command → ∀ warnings,
    ((command.plan tree).run warnings).1 = .failed (.limit limit)

private theorem exists_of_read (readable : tree.read (Path.ofString document) = .ok content) :
    tree.exists (Path.ofString document) = .ok true := by
  unfold Tree.read at readable
  unfold Tree.exists
  cases found : tree.find (Path.ofString document) with
  | ok node => rfl
  | error error =>
      rw [found] at readable
      cases readable

/-- What a command does with a document that can be read. -/
theorem withDocument_run (readable : tree.read (Path.ofString document) = .ok content)
    (next : Novel → Planned) (warnings : List String) :
    (withDocument tree document next).run warnings =
      let (result, added) := Novel.load tree (Path.ofString document)
      let warnings := warnings ++ added.map (·.message)
      match result with
      | .error (.document error) => (.done ["Invalid novel: " ++ error.report] 2, warnings)
      | .error (.limit exceeded) => (.failed (.limit exceeded), warnings)
      | .ok novel => (next novel).run warnings := by
  unfold withDocument
  dsimp only
  rw [exists_of_read readable]
  generalize Novel.load tree (Path.ofString document) = loaded
  obtain ⟨result, added⟩ := loaded
  cases result with
  | ok novel => rfl
  | error error => cases error <;> rfl

private theorem exceeds_of_load {path : Path} {limit : Limit}
    (stopped : (Novel.load tree path).1 = .error (.limit limit)) :
    ∃ text, tree.readText path = .ok text ∧
      Exceeds nestingLimit ⟨0, .ready⟩ text.toList limit := by
  unfold Novel.load at stopped
  split at stopped
  · cases stopped
  · next text same =>
      refine ⟨text, same, exceeds_of_read ?_⟩
      split at stopped
      · cases stopped
      · next exceeded read =>
          cases stopped
          exact read
      · next value read =>
          dsimp only at stopped
          generalize Novel.ofValue value = built at stopped
          obtain ⟨result, added⟩ := built
          cases result <;> cases stopped

section

variable (readable : tree.read (Path.ofString document) = .ok content)

include readable

private theorem accepted_of_load {novel : Novel}
    (loaded : (Novel.load tree (Path.ofString document)).1 = .ok novel) :
    Accepted tree document novel := by
  refine ⟨loaded, fun command loads warnings => ?_⟩
  rw [loads.plan_eq, withDocument_run readable]
  dsimp only
  rw [loaded]
  exact ⟨_, rfl⟩

private theorem rejected_of_load {error : DocumentError}
    (failed : (Novel.load tree (Path.ofString document)).1 = .error (.document error)) :
    Rejected tree document error := by
  refine ⟨failed, fun command loads warnings => ?_⟩
  rw [loads.plan_eq, withDocument_run readable]
  dsimp only
  rw [failed]

private theorem overrun_of_load {limit : Limit}
    (stopped : (Novel.load tree (Path.ofString document)).1 = .error (.limit limit)) :
    Overrun tree document limit := by
  refine ⟨exceeds_of_load stopped, stopped, fun command loads warnings => ?_⟩
  rw [loads.plan_eq, withDocument_run readable]
  dsimp only
  rw [stopped]

/-- A file that can be read is a novel, or it is rejected with a report, or it goes beyond a limit
of reading. -/
theorem accepted_or_rejected :
    (∃ novel, Accepted tree document novel) ∨ (∃ error, Rejected tree document error) ∨
      ∃ limit, Overrun tree document limit := by
  cases outcome : (Novel.load tree (Path.ofString document)).1 with
  | ok novel => exact .inl ⟨novel, accepted_of_load readable outcome⟩
  | error error =>
      cases error with
      | document error => exact .inr (.inl ⟨error, rejected_of_load readable outcome⟩)
      | limit limit => exact .inr (.inr ⟨limit, overrun_of_load readable outcome⟩)

end

def folder (text : String) : Tree where
  root := .directory [("novel.json", .file (Utf8.encode text))]
  current := []

theorem read_folder (text : String) :
    (folder text).read (Path.ofString "novel.json") = .ok (Utf8.encode text) := rfl

private theorem readText_folder {text : String} (unbroken : '\r' ∉ text.toList) :
    (folder text).readText (Path.ofString "novel.json") = .ok text := by
  unfold Tree.readText
  rw [read_folder]
  dsimp only
  rw [Utf8.decode_encode]
  exact congrArg Except.ok (withLineFeeds_of_notMem unbroken)

theorem accepted_or_rejected_unclosed :
    (folder "\x7b").read (Path.ofString "novel.json") = .ok (Utf8.encode "\x7b") ∧
    ∃ error, Rejected (folder "\x7b") "novel.json" error ∧
      error.report = "Invalid JSON: Expecting property name enclosed in double quotes " ++
        "(at line 1)\n  >> novel.json" := by
  have readable := read_folder "\x7b"
  have malformed : Json.read "\x7b" = .error (.malformed .expectingPropertyName 1 1 2) := rfl
  have failed : (Novel.load (folder "\x7b") (Path.ofString "novel.json")).1 =
      .error (.document (.malformed .expectingPropertyName 1 "novel.json")) := by
    unfold Novel.load
    rw [readText_folder (by decide)]
    dsimp only
    rw [malformed]
    rfl
  refine ⟨readable, ?_⟩
  rcases accepted_or_rejected readable with ⟨novel, accepted⟩ | ⟨error, rejected⟩ | ⟨limit, overrun⟩
  · cases failed.symm.trans accepted.load
  · cases failed.symm.trans rejected.load
    exact ⟨_, rejected, by decide +kernel⟩
  · cases failed.symm.trans overrun.load

private theorem overrun_of_read {text : String} {limit : Limit} (unbroken : '\r' ∉ text.toList)
    (stopped : Json.read text = .error (.limit limit)) :
    Overrun (folder text) "novel.json" limit := by
  refine overrun_of_load (read_folder text) ?_
  unfold Novel.load
  rw [readText_folder unbroken]
  dsimp only
  rw [stopped]

/-- An integer with more digits than are read, and lists nested deeper than is read: neither is a
novel, and neither is rejected. How many brackets that takes depends on `nestingLimit`; the digits
are too many whatever that bound is. -/
theorem overrun_by_digits_and_brackets :
    Overrun (folder (String.ofList (List.replicate 4301 '1'))) "novel.json"
      (.integerDigits 4301) ∧
    Overrun (folder (String.ofList (List.replicate 991 '['))) "novel.json" .listNesting := by
  have unbroken (count : Nat) {character : Char} (other : character ≠ '\r') :
      '\r' ∉ (String.ofList (List.replicate count character)).toList := by
    simp [other.symm]
  constructor
  · have digit : ∀ character ∈ List.replicate 4301 '1', character.isDigit = true := by
      intro character member
      cases List.eq_of_mem_replicate member
      rfl
    have leading : (List.replicate 4301 '1').head? ≠ some '0' := by simp
    have long : integerDigitLimit < (List.replicate 4301 '1').length := by
      rw [List.length_replicate]
      decide
    have stopped := read_digits digit leading long
    rw [List.length_replicate] at stopped
    exact overrun_of_read (unbroken 4301 (by decide)) stopped
  · have stopped := read_brackets (by decide : nestingLimit < 991) []
    rw [List.append_nil] at stopped
    exact overrun_of_read (unbroken 991 (by decide)) stopped

end VisualNovel.Console
