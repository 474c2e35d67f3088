import Mathlib.Data.List.SplitBy
import VisualNovel.Proofs.Sound.Ownership

/-!
# What channels are asked for

Of each call a channel hears one of four things: nothing, that it is to be silent,
that it is to play something anew, or that it is to go on with something. What a
channel opens and stops in the course of many demands is told by the demands alone.
-/

set_option autoImplicit false

namespace VisualNovel.Sound

open VisualNovel.Novel

inductive Demand where
  | leave
  | silence
  | anew (url : String)
  | goOn (url : String)

def Demand.ofLine (url : Option String) : Demand :=
  match named? url with
  | none => .silence
  | some url => .anew url

def Demand.ofScene (url : Option String) : Demand :=
  match named? url with
  | none => .silence
  | some url => .goOn url

def isBare (scene : Option Scene) : Bool :=
  ((scene.map (·.dialogues)).getD []).isEmpty

namespace Coordinator.Call

def demand (channel : Channel) : Call → Demand
  | .enterScene scene =>
      match channel with
      | .music => .ofScene (scene.bind (·.bgmUrl))
      | .voice | .sfx => if isBare scene then .silence else .leave
  | .enterDialogue dialogue =>
      match channel with
      | .music => .leave
      | .voice => .ofLine (dialogue.bind (·.voiceUrl))
      | .sfx => .ofLine (dialogue.bind (·.sfxUrl))
  | .finish =>
      match channel with
      | .music => .leave
      | .voice | .sfx => .silence
  | .close => .silence
  | .setMuted _ | .toggleMute => .leave

end Coordinator.Call

/-! ## Demands and clips -/

def Action.marks (channel : Channel) : Action → Bool
  | .openClip track => track.channel = channel
  | .order track .stop => track.channel = channel
  | _ => false

def Action.stops (track : Track) : Action → Bool
  | .order other .stop => other = track
  | _ => false

def Action.opening? : Action → Option String
  | .openClip track => some track.url
  | _ => none

def stopping (held : Option Track) : List Action :=
  held.toList.map (.order · .stop)

/-- How a channel that holds a clip or none meets a demand: what is opened and stopped, and what
it holds then. -/
inductive Meets : Option Track → Demand → List Action → Option Track → Prop where
  | leaves {held : Option Track} : Meets held .leave [] held
  | silences {held : Option Track} : Meets held .silence (stopping held) none
  | plays {held : Option Track} {track : Track} :
      Meets held (.anew track.url) (stopping held ++ [.openClip track]) (some track)
  | goesOn {track : Track} : Meets (some track) (.goOn track.url) [] (some track)
  | turns {held : Option Track} {track : Track} : held.map (·.url) ≠ some track.url →
      Meets held (.goOn track.url) (stopping held ++ [.openClip track]) (some track)

namespace Demand

def ends (url : String) : Demand → Bool
  | .leave => false
  | .silence | .anew _ => true
  | .goOn other => other ≠ url

def opens (held : Option String) : Demand → Option String
  | .leave | .silence => none
  | .anew url => some url
  | .goOn url => if held = some url then none else some url

def leaves (held : Option String) : Demand → Option String
  | .leave => held
  | .silence => none
  | .anew url | .goOn url => some url

def opened : Option String → List Demand → List String
  | _, [] => []
  | held, demand :: demands => (demand.opens held).toList ++ opened (demand.leaves held) demands

end Demand

variable {held after : Option Track} {demand : Demand} {actions : List Action} {track : Track}

@[simp] theorem opening?_openClip : (Action.openClip track).opening? = some track.url :=
  rfl

theorem any_stopping (held : Option Track) (track : Track) :
    (stopping held).any (·.stops track) = true ↔ held = some track := by
  cases held <;> simp [stopping, Action.stops]

theorem opening?_stopping (held : Option Track) :
    (stopping held).filterMap Action.opening? = [] := by
  cases held <;> rfl

/-- A clip is stopped on just the demands that end it. -/
theorem Meets.stops_iff (meets : Meets held demand actions after) (track : Track) :
    actions.any (·.stops track) = true ↔ held = some track ∧ demand.ends track.url = true := by
  cases meets with
  | leaves => simp [Demand.ends]
  | silences =>
      rw [any_stopping]
      simp [Demand.ends]
  | plays =>
      rw [List.any_append, Bool.or_eq_true, any_stopping]
      simp [Action.stops, Demand.ends]
  | goesOn =>
      simp only [List.any_nil, Bool.false_eq_true, Option.some.injEq, Demand.ends, ne_eq,
        decide_not, Bool.not_eq_true', decide_eq_false_iff_not, false_iff, not_and, not_not]
      rintro rfl
      rfl
  | @turns held other apart =>
      rw [List.any_append, Bool.or_eq_true, any_stopping]
      simp only [Action.stops, List.any_cons, List.any_nil, Bool.or_false, Bool.false_eq_true,
        or_false, Demand.ends, ne_eq, decide_not, Bool.not_eq_true', decide_eq_false_iff_not,
        iff_self_and]
      rintro rfl same
      exact apart (congrArg some same.symm)

theorem Meets.opens (meets : Meets held demand actions after) :
    actions.filterMap Action.opening? = (demand.opens (held.map (·.url))).toList ∧
      after.map (·.url) = demand.leaves (held.map (·.url)) := by
  cases meets with
  | leaves => exact ⟨rfl, rfl⟩
  | silences => exact ⟨opening?_stopping held, rfl⟩
  | plays =>
      rw [List.filterMap_append, opening?_stopping]
      exact ⟨rfl, rfl⟩
  | goesOn => simp [Demand.opens, Demand.leaves]
  | turns apart =>
      rw [List.filterMap_append, opening?_stopping]
      simp [Demand.opens, Demand.leaves, apart]

theorem Meets.held_of_open (meets : Meets held demand actions after)
    (opens : .openClip track ∈ actions) : after = some track := by
  have never : .openClip track ∉ stopping held := by
    cases held <;> simp [stopping]
  cases meets with
  | leaves | goesOn => simp at opens
  | silences => exact absurd opens never
  | plays | turns =>
      rcases List.mem_append.mp opens with stopped | opened
      · exact absurd stopped never
      · cases List.mem_singleton.mp opened
        rfl

theorem Meets.keeps (meets : Meets (some track) demand actions after)
    (goes : demand.ends track.url = false) : after = some track := by
  cases meets with
  | leaves | goesOn => rfl
  | silences | plays => simp [Demand.ends] at goes
  | @turns _ other apart =>
      have same : other.url = track.url := by simpa [Demand.ends] using goes
      exact absurd (congrArg some same.symm) apart

theorem Meets.anew (meets : Meets held .silence actions after) (track : Track) :
    Meets held (.anew track.url) (actions ++ [.openClip track]) (some track) := by
  cases meets
  exact .plays

theorem Meets.turn {url : String} (meets : Meets held (.anew url) actions after)
    (apart : held.map (·.url) ≠ some url) : Meets held (.goOn url) actions after := by
  cases meets
  exact .turns apart

theorem Meets.stay {url : String} (meets : Meets held .leave actions after)
    (same : held.map (·.url) = some url) : Meets held (.goOn url) actions after := by
  cases meets
  obtain ⟨track, rfl, rfl⟩ := Option.map_eq_some_iff.mp same
  exact .goesOn

/-! ## Courses -/

inductive Course : Option Track → List (Demand × List Action) → Option Track → Prop where
  | nil {held : Option Track} : Course held [] held
  | cons {held between after : Option Track} {demand : Demand} {actions : List Action}
      {rest : List (Demand × List Action)} : Meets held demand actions between →
        Course between rest after → Course held ((demand, actions) :: rest) after

namespace Course

variable {course : List (Demand × List Action)}

theorem opens (runs : Course held course after) :
    (course.flatMap (·.2)).filterMap Action.opening? =
      Demand.opened (held.map (·.url)) (course.map (·.1)) := by
  induction runs with
  | nil => rfl
  | cons meets _ hypothesis =>
      obtain ⟨opened, left⟩ := meets.opens
      rw [left] at hypothesis
      rw [List.flatMap_cons, List.filterMap_append, opened, hypothesis]
      rfl

/-- A clip is stopped on the first demand that ends it. -/
theorem findIdx?_stops (runs : Course (some track) course after) :
    (course.findIdx? fun entry => entry.2.any (·.stops track)) =
      course.findIdx? fun entry => entry.1.ends track.url := by
  -- the clip is held until its end, so the induction is on the course with what is held in it
  generalize loaded : some track = held at runs
  induction runs with
  | nil => rfl
  | @cons _ between _ demand actions rest meets _ hypothesis =>
      subst loaded
      rw [List.findIdx?_cons, List.findIdx?_cons]
      cases ending : demand.ends track.url with
      | true =>
          have stopped := (meets.stops_iff track).mpr ⟨rfl, ending⟩
          simp [stopped]
      | false =>
          have going : actions.any (·.stops track) = false := by
            rw [← Bool.not_eq_true, meets.stops_iff, ending]
            simp
          have kept := meets.keeps ending
          simp [going, hypothesis kept.symm]

theorem split {before : List (Demand × List Action)} {later : List (Demand × List Action)}
    (runs : Course held (before ++ (demand, actions) :: later) after) :
    ∃ first second, Meets first demand actions second ∧ Course second later after := by
  induction before generalizing held with
  | nil =>
      cases runs with
      | cons meets rest => exact ⟨_, _, meets, rest⟩
  | cons entry before hypothesis =>
      cases runs with
      | cons _ rest => exact hypothesis rest

end Course

/-! ## Blocks -/

/-- The references of the maximal blocks of the same reference in a row, in order. -/
def blocks (urls : List (Option String)) : List String :=
  (urls.splitBy (· == ·)).filterMap fun block => block.head?.join

def changes : Option String → List (Option String) → List String
  | _, [] => []
  | last, url :: urls =>
      if last = url then changes url urls else url.toList ++ changes url urls

private theorem filterMap_block {last : Option String} {begun : List (Option String)}
    (equal : ∀ url ∈ begun, url = last) :
    [(last :: begun).reverse].filterMap (fun block => block.head?.join) = last.toList := by
  have first : (last :: begun).reverse.head? = some last := by
    rw [List.head?_reverse, List.getLast?_eq_some_getLast (List.cons_ne_nil _ _)]
    rcases List.mem_cons.mp (List.getLast_mem (List.cons_ne_nil last begun)) with same | listed
    · rw [same]
    · rw [equal _ listed]
  simp only [List.filterMap_cons, first, Option.join_some, List.filterMap_nil]
  cases last <;> rfl

/-- What the splitting into blocks comes to, with a block begun and the blocks before it. -/
theorem filterMap_splitBy (urls : List (Option String)) {last : Option String}
    {begun : List (Option String)} (done : List (List (Option String)))
    (equal : ∀ url ∈ begun, url = last) :
    (List.splitBy.loop (· == ·) urls last begun done).filterMap (fun block => block.head?.join) =
      done.reverse.filterMap (fun block => block.head?.join) ++
        (last.toList ++ changes last urls) := by
  induction urls generalizing last begun done with
  | nil =>
      rw [List.splitBy.loop, List.reverse_cons, List.filterMap_append, filterMap_block equal,
        changes, List.append_nil]
  | cons next urls hypothesis =>
      rw [List.splitBy.loop, changes]
      by_cases same : last = next
      · subst same
        rw [beq_self_eq_true, if_pos rfl]
        exact hypothesis done (by simpa using equal)
      · have apart : (last == next) = false := by simpa using same
        rw [apart, if_neg same, hypothesis _ (by simp), List.reverse_cons, List.filterMap_append,
          filterMap_block equal, List.append_assoc]

theorem blocks_eq_changes (urls : List (Option String)) : blocks urls = changes none urls := by
  cases urls with
  | nil => rfl
  | cons url urls =>
      have looped := @filterMap_splitBy urls url [] [] (by simp)
      unfold blocks changes
      rw [List.splitBy, looped]
      split
      · next empty =>
          subst empty
          rfl
      · rfl

end VisualNovel.Sound
