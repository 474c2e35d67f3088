import VisualNovel.Proofs.Sound.Serving

/-!
# Traces of calls

The trace of many calls has each of them with what was asked of the device on it, and
that is all that was asked. Where the device refused nothing the trace tells how often
a clip is opened, and when each is stopped.
-/

set_option autoImplicit false

namespace VisualNovel.Sound

open VisualNovel.Novel

variable {β : Type} [Device β]

def openings (channel : Channel) (actions : List Action) : List String :=
  (actions.filter (Action.marks channel)).filterMap Action.opening?

namespace Coordinator

def asked (coordinator : Coordinator β) (call : Call) : List Action :=
  let journal := (coordinator.answer call).desk.journal
  (journal.take (journal.length - coordinator.desk.journal.length)).reverse

def trace : Coordinator β → List Call → List (Call × List Action)
  | _, [] => []
  | coordinator, call :: calls =>
      (call, coordinator.asked call) :: (coordinator.answer call).trace calls

namespace Call

def Settled (calls : List Call) : Prop :=
  .close ∉ calls.dropLast

def score? : Call → Option (Option String)
  | .enterScene scene => some (scene.bind (·.bgmUrl))
  | _ => none

def line? (channel : Channel) : Call → Option String
  | .enterDialogue dialogue =>
      match channel with
      | .music => none
      | .voice => dialogue.bind (·.voiceUrl)
      | .sfx => dialogue.bind (·.sfxUrl)
  | _ => none

def ends (channel : Channel) (url : String) : Call → Bool
  | .enterScene scene =>
      match channel with
      | .music => scene.bind (·.bgmUrl) ≠ some url
      | .voice | .sfx => isBare scene
  | .enterDialogue _ | .finish => channel ≠ .music
  | .close => true
  | .setMuted _ | .toggleMute => false

def Referenced : Call → Prop
  | .enterScene scene => named? (scene.bind (·.bgmUrl)) = scene.bind (·.bgmUrl)
  | .enterDialogue dialogue =>
      named? (dialogue.bind (·.voiceUrl)) = dialogue.bind (·.voiceUrl) ∧
        named? (dialogue.bind (·.sfxUrl)) = dialogue.bind (·.sfxUrl)
  | _ => True

variable {call : Call} {calls : List Call} {channel : Channel}

private theorem ends_demand (referenced : call.Referenced) (channel : Channel) (url : String) :
    (call.demand channel).ends url = call.ends channel url := by
  cases call with
  | enterScene scene =>
      have named : named? (scene.bind (·.bgmUrl)) = scene.bind (·.bgmUrl) := referenced
      cases channel with
      | music =>
          simp only [demand, ends, Demand.ofScene, named]
          cases scene.bind (·.bgmUrl) <;> simp [Demand.ends]
      | voice | sfx =>
          simp only [demand, ends]
          cases isBare scene <;> rfl
  | enterDialogue dialogue =>
      cases channel with
      | music => rfl
      | voice | sfx =>
          simp only [demand, Demand.ofLine]
          split <;> rfl
  | finish | close => cases channel <;> rfl
  | setMuted | toggleMute => rfl

theorem Settled.tail (settled : Settled (call :: calls)) : Settled calls := by
  cases calls with
  | nil => exact List.not_mem_nil
  | cons next calls =>
      rw [Settled, List.dropLast_cons_of_ne_nil (List.cons_ne_nil _ _)] at settled
      exact fun closes => settled (List.mem_cons_of_mem _ closes)

theorem Settled.last (settled : Settled (.close :: calls)) : calls = [] := by
  cases calls with
  | nil => rfl
  | cons next calls =>
      rw [Settled, List.dropLast_cons_of_ne_nil (List.cons_ne_nil _ _)] at settled
      exact absurd List.mem_cons_self settled

/-- Music is opened anew only where it changes. -/
theorem opened_music (settled : Settled calls) (referenced : ∀ call ∈ calls, call.Referenced)
    (held : Option String) :
    Demand.opened held (calls.map (·.demand .music)) = changes held (calls.filterMap score?) := by
  induction calls generalizing held with
  | nil => rfl
  | cons call calls hypothesis =>
      have here := referenced call List.mem_cons_self
      have later := hypothesis settled.tail fun next listed =>
        referenced next (List.mem_cons_of_mem _ listed)
      cases call with
      | enterScene scene =>
          have named : named? (scene.bind (·.bgmUrl)) = scene.bind (·.bgmUrl) := here
          have scores : (Call.enterScene scene :: calls).filterMap score? =
              scene.bind (·.bgmUrl) :: calls.filterMap score? := rfl
          rw [List.map_cons, Demand.opened, later, scores, changes]
          simp only [demand, Demand.ofScene, named]
          cases scene.bind (·.bgmUrl) with
          | none =>
              simp only [Demand.opens, Demand.leaves, Option.toList_none, List.nil_append]
              split
              · rfl
              · rfl
          | some url =>
              simp only [Demand.opens, Demand.leaves]
              split
              · rfl
              · rfl
      | enterDialogue | finish | setMuted | toggleMute => exact later held
      | close =>
          obtain rfl := settled.last
          rfl

/-- A line opens its own sound anew. -/
private theorem opens_line (other : channel ≠ .music) (referenced : call.Referenced)
    (held : Option String) : (call.demand channel).opens held = call.line? channel := by
  cases call with
  | enterDialogue dialogue =>
      obtain ⟨voice, sfx⟩ :
          named? (dialogue.bind (·.voiceUrl)) = dialogue.bind (·.voiceUrl) ∧
            named? (dialogue.bind (·.sfxUrl)) = dialogue.bind (·.sfxUrl) := referenced
      cases channel with
      | music => exact absurd rfl other
      | voice =>
          simp only [demand, Demand.ofLine, line?, voice]
          cases dialogue.bind (·.voiceUrl) <;> rfl
      | sfx =>
          simp only [demand, Demand.ofLine, line?, sfx]
          cases dialogue.bind (·.sfxUrl) <;> rfl
  | enterScene scene =>
      cases channel with
      | music => exact absurd rfl other
      | voice | sfx =>
          simp only [demand, line?]
          cases isBare scene <;> rfl
  | finish =>
      cases channel with
      | music => exact absurd rfl other
      | voice | sfx => rfl
  | setMuted | toggleMute | close => rfl

theorem opened_line (other : channel ≠ .music) (referenced : ∀ call ∈ calls, call.Referenced)
    (held : Option String) :
    Demand.opened held (calls.map (·.demand channel)) = calls.filterMap (line? channel) := by
  induction calls generalizing held with
  | nil => rfl
  | cons call calls hypothesis =>
      have here := referenced call List.mem_cons_self
      have later := hypothesis fun next listed => referenced next (List.mem_cons_of_mem _ listed)
      rw [List.map_cons, Demand.opened, opens_line other here, later, List.filterMap_cons]
      cases call.line? channel <;> rfl

end Call

def heardOn (channel : Channel) (entry : Call × List Action) : Demand × List Action :=
  (entry.1.demand channel, entry.2.filter (Action.marks channel))

open Call

variable {clean : β → Prop} {coordinator : Coordinator β} {call : Call} {calls : List Call}
  {actions : List Action} {before later : List (Call × List Action)}

private theorem calls_trace (coordinator : Coordinator β) (calls : List Call) :
    (coordinator.trace calls).map (·.1) = calls := by
  induction calls generalizing coordinator with
  | nil => rfl
  | cons call calls hypothesis => exact congrArg (call :: ·) (hypothesis _)

private theorem asked_of_adds
    (adds : coordinator.desk.Adds (coordinator.answer call).desk actions) :
    coordinator.asked call = actions := by
  have length : (actions.reverse ++ coordinator.desk.journal).length -
      coordinator.desk.journal.length = actions.reverse.length := by
    rw [List.length_append, Nat.add_sub_cancel]
  simp only [asked, adds.journal]
  rw [length, List.take_left, List.reverse_reverse]

theorem run_append (coordinator : Coordinator β) (first second : List Call) :
    coordinator.run (first ++ second) = (coordinator.run first).run second :=
  List.foldl_append

theorem isOpen_run (isOpen : coordinator.closed = false) (going : .close ∉ calls) :
    (coordinator.run calls).closed = false := by
  induction calls generalizing coordinator with
  | nil => exact isOpen
  | cons call calls hypothesis =>
      rw [List.mem_cons, not_or] at going
      exact hypothesis ((closed_answer coordinator (Ne.symm going.1)).trans isOpen) going.2

section Candid

variable [Faithful β] (candid : Candid clean) (isOpen : coordinator.closed = false)

include candid isOpen

/-- After calls the device is clean only if it was before. -/
theorem clean_of_run (settled : Settled calls)
    (still : clean (coordinator.run calls).desk.device) : clean coordinator.desk.device := by
  induction calls generalizing coordinator with
  | nil => exact still
  | cons call calls hypothesis =>
      refine (leads_answer candid isOpen call).back ?_
      by_cases closes : call = .close
      · subst closes
        obtain rfl := settled.last
        exact still
      · exact hypothesis ((closed_answer coordinator closes).trans isOpen) settled.tail still

variable (ready : coordinator.Ready)

include ready

theorem Ready.grants (call : Call) (still : clean (coordinator.answer call).desk.device) :
    coordinator.Grants (fun channel => call.demand channel) (coordinator.asked call)
      (coordinator.answer call) := by
  obtain ⟨_, made, grants⟩ := (leads_answer candid isOpen call).serves still ready
  rw [asked_of_adds grants.adds]
  exact grants

/-- After a call there is nothing more to come, or the coordinator is as ready as before. -/
theorem Ready.next (settled : Settled (call :: calls))
    (still : clean (coordinator.run (call :: calls)).desk.device) :
    clean (coordinator.answer call).desk.device ∧
      ((call = .close ∧ calls = []) ∨ ((coordinator.answer call).Ready ∧
        (coordinator.answer call).closed = false ∧ Settled calls)) := by
  by_cases closes : call = .close
  · subst closes
    obtain rfl := settled.last
    exact ⟨still, .inl ⟨rfl, rfl⟩⟩
  · have goesOn := (closed_answer coordinator closes).trans isOpen
    have between := clean_of_run candid goesOn settled.tail still
    obtain ⟨ready, _⟩ := (leads_answer candid isOpen call).serves between ready
    exact ⟨between, .inr ⟨ready, goesOn, settled.tail⟩⟩

theorem Ready.course (settled : Settled calls)
    (still : clean (coordinator.run calls).desk.device) (channel : Channel) :
    ∃ after, Course (coordinator.held channel) ((coordinator.trace calls).map (heardOn channel))
      after := by
  induction calls generalizing coordinator with
  | nil => exact ⟨_, .nil⟩
  | cons call calls hypothesis =>
      obtain ⟨between, next⟩ := ready.next candid isOpen settled still
      have meets := (ready.grants candid isOpen call between).meets channel
      obtain ⟨-, rfl⟩ | ⟨ready, isOpen, settled⟩ := next
      · exact ⟨_, .cons meets .nil⟩
      · obtain ⟨after, rest⟩ := hypothesis isOpen ready settled still
        exact ⟨after, .cons meets rest⟩

/-- The journal of a device holds what was asked on each call, if nothing was refused. -/
theorem Ready.journal (settled : Settled calls)
    (still : clean (coordinator.run calls).desk.device) :
    (coordinator.run calls).desk.journal.reverse =
      coordinator.desk.journal.reverse ++ (coordinator.trace calls).flatMap (·.2) := by
  induction calls generalizing coordinator with
  | nil => simp [run, trace]
  | cons call calls hypothesis =>
      obtain ⟨between, next⟩ := ready.next candid isOpen settled still
      have adds := (ready.grants candid isOpen call between).adds
      have here : (coordinator.answer call).desk.journal.reverse =
          coordinator.desk.journal.reverse ++ coordinator.asked call := by
        rw [adds.journal, List.reverse_append, List.reverse_reverse]
      have rest : ((coordinator.answer call).run calls).desk.journal.reverse =
          (coordinator.answer call).desk.journal.reverse ++
            ((coordinator.answer call).trace calls).flatMap (·.2) := by
        obtain ⟨-, rfl⟩ | ⟨ready, isOpen, settled⟩ := next
        · simp [run, trace]
        · exact hypothesis isOpen ready settled still
      rw [here, List.append_assoc] at rest
      exact rest

/-- Where a trace is split, an open coordinator answers the call. -/
theorem Ready.split (settled : Settled calls)
    (still : clean (coordinator.run calls).desk.device)
    (split : coordinator.trace calls = before ++ (call, actions) :: later) :
    ∃ (between : Coordinator β) (rest : List Call), between.Ready ∧ between.closed = false ∧
      clean (between.run (call :: rest)).desk.device ∧ between.asked call = actions ∧
      (between.answer call).trace rest = later ∧ Settled (call :: rest) := by
  induction before generalizing coordinator calls with
  | nil =>
      cases calls with
      | nil => cases split
      | cons first calls =>
          obtain ⟨same, rest⟩ := List.cons.inj split
          obtain ⟨rfl, asks⟩ := Prod.mk.inj same
          exact ⟨coordinator, calls, ready, isOpen, still, asks, rest, settled⟩
  | cons entry before hypothesis =>
      cases calls with
      | nil => cases split
      | cons first calls =>
          obtain ⟨-, rest⟩ := List.cons.inj split
          obtain ⟨-, ⟨-, rfl⟩ | ⟨ready, isOpen, settled⟩⟩ :=
            ready.next candid isOpen settled still
          · simp [trace] at rest
          · exact hypothesis isOpen ready settled still rest

theorem Ready.openings (settled : Settled calls)
    (still : clean (coordinator.run calls).desk.device) (channel : Channel) :
    openings channel ((coordinator.trace calls).flatMap (·.2)) =
      Demand.opened ((coordinator.held channel).map (·.url)) (calls.map (·.demand channel)) := by
  obtain ⟨_, course⟩ := ready.course candid isOpen settled still channel
  have opens := course.opens
  rw [List.map_map, List.flatMap_map] at opens
  have demands : (coordinator.trace calls).map (Prod.fst ∘ heardOn channel) =
      calls.map (·.demand channel) := by
    rw [← congrArg (List.map (·.demand channel)) (calls_trace coordinator calls), List.map_map]
    rfl
  rw [demands] at opens
  rw [Sound.openings, List.filter_flatMap]
  exact opens

end Candid

/-- A clip is stopped only on calls that end it, and it is stopped on the first of them. -/
structure Timely (trace : List (Call × List Action)) : Prop where
  only {call : Call} {actions : List Action} {before later : List (Call × List Action)}
    (split : trace = before ++ (call, actions) :: later) (track : Track) :
    actions.any (·.stops track) = true → call.ends track.channel track.url = true
  first {call : Call} {actions : List Action} {before later : List (Call × List Action)}
    (split : trace = before ++ (call, actions) :: later) (track : Track) :
    .openClip track ∈ actions → actions.any (·.stops track) = false ∧
      later.findIdx? (fun entry => entry.2.any (·.stops track)) =
        later.findIdx? fun entry => entry.1.ends track.channel track.url

omit [Device β] in
theorem any_stops (actions : List Action) (track : Track) :
    (actions.filter (Action.marks track.channel)).any (·.stops track) =
      actions.any (·.stops track) := by
  rw [List.any_filter]
  congr 1
  funext action
  cases action with
  | openClip | shutDown => simp [Action.stops]
  | order other order =>
      cases order with
      | stop =>
          by_cases same : other = track
          · simp [Action.stops, Action.marks, same]
          · simp [Action.stops, same]
      | play | pause | resume | setVolume | setMuted => simp [Action.stops]

omit [Device β] in
private theorem findIdx?_ends (referenced : ∀ entry ∈ later, entry.1.Referenced) (channel : Channel)
    (url : String) :
    (later.findIdx? ((fun entry => entry.1.ends url) ∘ heardOn channel)) =
      later.findIdx? fun entry => entry.1.ends channel url := by
  induction later with
  | nil => rfl
  | cons entry later hypothesis =>
      have here := ends_demand (referenced entry List.mem_cons_self) channel url
      have rest := hypothesis fun other listed => referenced other (List.mem_cons_of_mem _ listed)
      rw [List.findIdx?_cons, List.findIdx?_cons, ← here, rest]
      rfl

/-- Clips are stopped on the first call that ends them, if nothing was refused. -/
theorem Ready.timely [Faithful β] (candid : Candid clean) (isOpen : coordinator.closed = false)
    (ready : coordinator.Ready) (settled : Settled calls)
    (still : clean (coordinator.run calls).desk.device)
    (referenced : ∀ call ∈ calls, call.Referenced) : Timely (coordinator.trace calls) := by
  have named (entry : Call × List Action) (listed : entry ∈ coordinator.trace calls) :
      entry.1.Referenced := by
    apply referenced
    rw [← calls_trace coordinator calls]
    exact List.mem_map_of_mem listed
  constructor
  · intro call actions before later split track stopped
    obtain ⟨between, rest, ready, isOpen, still, rfl, -, settled⟩ :=
      ready.split candid isOpen settled still split
    have here := (ready.next candid isOpen settled still).1
    have meets := (ready.grants candid isOpen call here).meets track.channel
    have named : call.Referenced :=
      named (call, _) (split ▸ List.mem_append_right _ List.mem_cons_self)
    rw [← any_stops] at stopped
    rw [← ends_demand named]
    exact ((meets.stops_iff track).mp stopped).2
  · intro call actions before later split track opened
    obtain ⟨between, rest, ready, isOpen, still, rfl, rfl, settled⟩ :=
      ready.split candid isOpen settled still split
    obtain ⟨here, next⟩ := ready.next candid isOpen settled still
    have grants := ready.grants candid isOpen call here
    have meets := grants.meets track.channel
    have held := meets.held_of_open (List.mem_filter.mpr ⟨opened, by simp [Action.marks]⟩)
    constructor
    · -- what was held before the call has a lower number
      rw [← any_stops, ← Bool.not_eq_true, meets.stops_iff]
      rintro ⟨already, -⟩
      exact Nat.not_lt.mpr (grants.adds.fresh track opened)
        (ready.bound track.channel track already).2
    · obtain ⟨-, rfl⟩ | ⟨ready, isOpen, settled⟩ := next
      · rfl
      · -- from here on the channel holds the clip, until a demand ends it
        obtain ⟨_, course⟩ := ready.course candid isOpen settled still track.channel
        rw [held] at course
        have stops := course.findIdx?_stops
        rw [List.findIdx?_map, List.findIdx?_map] at stops
        have asks : (fun entry : Call × List Action => entry.2.any (·.stops track)) =
            (fun entry => entry.2.any (·.stops track)) ∘ heardOn track.channel := by
          funext entry
          exact (any_stops entry.2 track).symm
        rw [asks, stops]
        apply findIdx?_ends
        intro entry listed
        exact named entry (split ▸ List.mem_append_right _ (List.mem_cons_of_mem _ listed))

end Coordinator

end VisualNovel.Sound
