import VisualNovel.Proofs.Clock.Tending
import VisualNovel.Proofs.Playback.Decisions
import VisualNovel.Proofs.Playback.Outline

/-!
# The timers of a player

A player sets at most two timers at a time: one for the line being typed, which the
typewriter keeps, and one for the next phase of the transition under way. When the
line is stopped and no transition is under way, none of its timers is left.
-/

set_option autoImplicit false

namespace VisualNovel.Playback

open VisualNovel.Agenda VisualNovel.Clock VisualNovel.Novel VisualNovel.Sound

variable {β κ η : Type}

namespace Alarm

def isStrike : Alarm κ → Bool
  | .strike _ => true
  | _ => false

def isPhase : Alarm κ → Bool
  | .commit _ _ _ | .clear _ => true
  | _ => false

def isRing : Alarm κ → Bool
  | .ring _ => true
  | _ => false

private theorem idle_of_keeps {timeline : Timeline (Alarm κ)}
    (strikes : timeline.Keeps isStrike none)
    (phases : timeline.Keeps isPhase none) (rings : timeline.Keeps isRing none) :
    timeline.pending = [] := by
  apply List.eq_nil_iff_forall_not_mem.mpr
  intro timer member
  cases payload : timer.payload with
  | strike => cases strikes timer member (by rw [payload]; rfl)
  | commit | clear => cases phases timer member (by rw [payload]; rfl)
  | ring => cases rings timer member (by rw [payload]; rfl)

end Alarm

namespace Typewriter

/-- Of the timers on a timeline only those of the typewriter are touched, and it keeps the number
of the one that is left. -/
structure Minds (timeline : Timeline (Alarm κ)) (timer : Option Nat) (typed : Typed (Alarm κ)) :
    Prop where
  numbered : timeline.Numbered → typed.timeline.Numbered
  strikes : timeline.Keeps Alarm.isStrike timer →
    typed.timeline.Keeps Alarm.isStrike typed.typewriter.timer
  others {kind : Alarm κ → Bool} {kept : Option Nat} :
    (∀ generation, kind (.strike generation) = false) → timeline.Keeps kind kept →
    typed.timeline.Keeps kind kept

variable {typewriter next : Typewriter} {timeline : Timeline (Alarm κ)} {timer : Option Nat}

private theorem minds_still (forgets : next.timer = timer) :
    Minds timeline timer (⟨next, timeline⟩ : Typed (Alarm κ)) where
  numbered numbered := numbered
  strikes keeps := forgets ▸ keeps
  others _ keeps := keeps

theorem minds_cancel? (forgets : next.timer = none) :
    Minds timeline timer (⟨next, timeline.cancel? timer⟩ : Typed (Alarm κ)) where
  numbered numbered := numbered.tends (Timeline.Tends.refl.cancel? timer)
  strikes keeps := forgets ▸ keeps.cleared
  others _ keeps := keeps.cancel? timer

private theorem minds_setTimer (typewriter : Typewriter) (timeline : Timeline (Alarm κ)) :
    Minds timeline none (typewriter.setTimer .strike timeline) where
  numbered numbered := numbered.later _ _ _
  strikes free := free.later _ _ _
  others other keeps := keeps.later_other _ _ (other _)

theorem Minds.trans {middle typed : Typed (Alarm κ)} (first : Minds timeline timer middle)
    (second : Minds middle.timeline middle.typewriter.timer typed) :
    Minds timeline timer typed where
  numbered numbered := second.numbered (first.numbered numbered)
  strikes keeps := second.strikes (first.strikes keeps)
  others other keeps := second.others other (first.others other keeps)

theorem minds_cancel (typewriter : Typewriter) (timeline : Timeline (Alarm κ)) :
    Minds timeline typewriter.timer (typewriter.cancel timeline) := by
  rw [cancel_eq]
  exact minds_cancel? rfl

theorem minds_start (typewriter : Typewriter) (timeline : Timeline (Alarm κ)) (text : String) :
    Minds timeline typewriter.timer (typewriter.start .strike text timeline).2 := by
  by_cases atOnce : text.length = 0 ∨ typewriter.interval ≤ 0
  · obtain ⟨reveal, _, starts⟩ := start_at_once .strike typewriter timeline atOnce
    rw [starts]
    exact minds_cancel? rfl
  · obtain ⟨nonempty, takesTime⟩ := not_or.mp atOnce
    rw [start_later .strike typewriter timeline nonempty takesTime]
    have cancelled : Minds timeline typewriter.timer
        (⟨{ typewriter with
            reveal := Reveal.ofText text
            timer := none
            generation := typewriter.generation + 1 },
          timeline.cancel? typewriter.timer⟩ : Typed (Alarm κ)) := minds_cancel? rfl
    exact cancelled.trans (minds_setTimer _ _)

theorem minds_skip? {skipped : Signal × Typed (Alarm κ)}
    (skips : typewriter.skip? timeline = some skipped) :
    Minds timeline typewriter.timer skipped.2 := by
  rw [skip?_eq] at skips
  split at skips
  · contradiction
  · obtain rfl := Option.some.inj skips
    exact minds_cancel? rfl

/-- The timer that reveals the next character has gone off when it does so. -/
theorem minds_strike (typewriter : Typewriter) (timeline : Timeline (Alarm κ))
    (generation : Nat) :
    Minds timeline none (typewriter.strike .strike generation timeline).2 := by
  unfold strike
  split
  · dsimp only
    split
    · exact minds_still rfl
    · exact minds_setTimer _ _
  · exact ⟨fun numbered => numbered, fun free => free.any _, fun _ keeps => keeps⟩

end Typewriter

structure Footing where
  transitioning : Bool
  finished : Bool
  stopped : Bool
  closed : Bool

namespace Session

structure Clocked (session : Session β κ η) : Prop where
  numbered : session.timeline.Numbered
  strikes : session.timeline.Keeps Alarm.isStrike session.world.typewriter.timer
  phases : session.timeline.Keeps Alarm.isPhase session.world.transition
  rings : session.timeline.Keeps Alarm.isRing none
  crossing : session.world.position.transitioning = false →
    session.timeline.Keeps Alarm.isPhase none

variable {session middle next : Session β κ η}

theorem clocked_of_idle (idle : session.timeline.pending = []) : session.Clocked where
  numbered := ⟨by simp [idle], by simp [idle]⟩
  strikes := Timeline.keeps_of_idle idle
  phases := Timeline.keeps_of_idle idle
  rings := Timeline.keeps_of_idle idle
  crossing _ := Timeline.keeps_of_idle idle

theorem Clocked.of_same (clocked : session.Clocked) (timeline : next.timeline = session.timeline)
    (timer : next.world.typewriter.timer = session.world.typewriter.timer)
    (transition : next.world.transition = session.world.transition)
    (transitioning : next.world.position.transitioning = session.world.position.transitioning) :
    next.Clocked where
  numbered := timeline ▸ clocked.numbered
  strikes := timeline ▸ timer ▸ clocked.strikes
  phases := timeline ▸ transition ▸ clocked.phases
  rings := timeline ▸ clocked.rings
  crossing settled := timeline ▸ clocked.crossing (transitioning ▸ settled)

def footing (session : Session β κ η) : Footing where
  transitioning := session.world.position.transitioning
  finished := session.world.position.finished
  stopped := session.world.stopped
  closed := session.world.closed

structure Passes (session next : Session β κ η) : Prop where
  clocked : session.Clocked → next.Clocked
  footing : next.footing = session.footing
  free : session.timeline.Keeps Alarm.isPhase none → next.timeline.Keeps Alarm.isPhase none

theorem Passes.transitioning (passes : session.Passes next) :
    next.world.position.transitioning = session.world.position.transitioning :=
  congrArg Footing.transitioning passes.footing

theorem Passes.refl (session : Session β κ η) : session.Passes session :=
  ⟨fun clocked => clocked, rfl, fun free => free⟩

theorem Passes.trans (first : session.Passes middle) (second : middle.Passes next) :
    session.Passes next :=
  ⟨fun clocked => second.clocked (first.clocked clocked),
    second.footing.trans first.footing, fun free => second.free (first.free free)⟩

theorem Passes.after (later : middle.Passes next) (earlier : session.Passes middle) :
    session.Passes next :=
  earlier.trans later

theorem passes_of_same (timeline : next.timeline = session.timeline)
    (timer : next.world.typewriter.timer = session.world.typewriter.timer)
    (transition : next.world.transition = session.world.transition)
    (footing : next.footing = session.footing) : session.Passes next where
  clocked clocked :=
    clocked.of_same timeline timer transition (congrArg Footing.transitioning footing)
  footing := footing
  free free := timeline ▸ free

/-! ## Lines -/

theorem passes_withTyped {typed : Typed (Alarm κ)} {timer : Option Nat}
    (minds : Typewriter.Minds session.timeline timer typed)
    (kept : session.Clocked → session.timeline.Keeps Alarm.isStrike timer) :
    session.Passes (withTyped session typed) where
  clocked clocked := {
    numbered := minds.numbered clocked.numbered
    strikes := minds.strikes (kept clocked)
    phases := minds.others (fun _ => rfl) clocked.phases
    rings := minds.others (fun _ => rfl) clocked.rings
    crossing := fun settled => minds.others (fun _ => rfl) (clocked.crossing settled) }
  footing := rfl
  free := minds.others fun _ => rfl

theorem passes_typed {typed : Typed (Alarm κ)}
    (minds : Typewriter.Minds session.timeline session.world.typewriter.timer typed) :
    session.Passes (withTyped session typed) :=
  passes_withTyped minds fun clocked => clocked.strikes

theorem passes_stopTyping (session : Session β κ η) : session.Passes (stopTyping session) :=
  passes_typed (Typewriter.minds_cancel _ _)

theorem passes_heed (session : Session β κ η) (signals : List Signal) :
    session.Passes (heed session signals).1 := by
  induction signals generalizing session with
  | nil => exact .refl session
  | cons signal signals hypothesis =>
      cases signal with
      | progress revealed => exact (hypothesis _).after (passes_of_same rfl rfl rfl rfl)
      | complete skipped => exact (hypothesis _).after (passes_of_same rfl rfl rfl rfl)

theorem Types.passes {move : Move β κ η} (types : session.Types move) :
    session.Passes move.1 := by
  cases types with
  | begins dialogue _ _ =>
      refine (passes_heed _ _).after ((passes_typed ?_).after (passes_of_same rfl rfl rfl rfl))
      exact Typewriter.minds_start _ _ _
  | skips _ skips =>
      exact (passes_heed _ _).after (passes_typed (Typewriter.minds_skip? skips))

theorem passes_strike (due : session.timeline.Keeps Alarm.isStrike none) (generation : Nat) :
    session.Passes (strike session generation).1 :=
  (passes_withTyped (Typewriter.minds_strike _ _ _) fun _ => due).trans (passes_heed _ _)

theorem passes_enterDialogue (session : Session β κ η) :
    session.Passes (enterDialogue session).1 := by
  unfold enterDialogue
  cases session.world.dialogue? with
  | none => exact (passes_stopTyping _).after (passes_of_same rfl rfl rfl rfl)
  | some dialogue => exact passes_of_same rfl rfl rfl rfl

/-- Without a line being typed or a transition under way there are no timers. -/
theorem Clocked.idle_stopTyping (clocked : session.Clocked)
    (settled : session.world.position.transitioning = false) :
    (stopTyping session).timeline.pending = [] := by
  have kept := (passes_stopTyping session).clocked clocked
  have free : (stopTyping session).timeline.Keeps Alarm.isStrike none := by
    have forgets : (stopTyping session).world.typewriter.timer = none := by
      show (session.world.typewriter.cancel session.timeline).typewriter.timer = none
      rw [Typewriter.cancel_eq]
    exact forgets ▸ kept.strikes
  exact Alarm.idle_of_keeps free (kept.crossing settled) kept.rings

/-! ## Transitions -/

theorem Clocked.cancelTransition (clocked : session.Clocked) :
    (cancelTransition session).Clocked ∧
      (Session.cancelTransition session).timeline.Keeps Alarm.isPhase none := by
  have cancels : (Session.cancelTransition session).timeline =
      session.timeline.cancel? session.world.transition := rfl
  have free : (Session.cancelTransition session).timeline.Keeps Alarm.isPhase none :=
    cancels ▸ clocked.phases.cleared
  refine ⟨⟨?_, ?_, free, ?_, fun _ => free⟩, free⟩
  · exact cancels ▸ clocked.numbered.tends (Timeline.Tends.refl.cancel? _)
  · exact cancels ▸ clocked.strikes.cancel? _
  · exact cancels ▸ clocked.rings.cancel? _

theorem Clocked.beginTransition (clocked : session.Clocked) (target : Int) :
    (beginTransition session target).1.Clocked ∧
      (Session.beginTransition session target).1.world.position.transitioning = true ∧
      (Session.beginTransition session target).1.timeline.Keeps Alarm.isPhase none := by
  have shown : (stopTyping session).Passes (withPosition (stopTyping session) fun position =>
      { position with revealed := position.textLength }) := passes_of_same rfl rfl rfl rfl
  have stopped := ((passes_stopTyping session).trans shown).clocked clocked
  obtain ⟨cancelled, free⟩ := stopped.cancelTransition
  exact ⟨⟨cancelled.numbered, cancelled.strikes, cancelled.phases, cancelled.rings,
    fun settled => absurd settled (by simp [Session.beginTransition, withPosition, withStage])⟩,
    rfl, free⟩

theorem Clocked.setPhase (clocked : session.Clocked)
    (crossing : session.world.position.transitioning = true)
    (free : session.timeline.Keeps Alarm.isPhase none) (delay : Int) (label : String)
    {alarm : Alarm κ} (phase : alarm.isPhase = true) :
    (setPhase session delay label alarm).Clocked where
  numbered := clocked.numbered.later _ _ _
  strikes := clocked.strikes.later_other _ _ (by cases alarm <;> first | rfl | contradiction)
  phases := free.later _ _ _
  rings := clocked.rings.later_other _ _ (by cases alarm <;> first | rfl | contradiction)
  crossing settled := absurd (crossing.symm.trans settled) (by simp)

/-- The timers that are left when one goes off are those that the player knows. -/
theorem Clocked.takeDue {time : Int} {timer : Timer (Alarm κ)} {after : Timeline (Alarm κ)}
    (clocked : session.Clocked) (taken : session.timeline.takeDue? time = some (timer, after)) :
    Clocked { session with timeline := after } ∧ timer.payload.isRing = false ∧
      (timer.payload.isStrike = true → after.Keeps Alarm.isStrike none) ∧
      (timer.payload.isPhase = true →
        session.world.position.transitioning = true ∧ after.Keeps Alarm.isPhase none) := by
  obtain ⟨waiting, numbered, _⟩ := clocked.numbered.takeDue taken
  have member : timer ∈ session.timeline.pending := waiting ▸ List.mem_cons_self
  refine ⟨⟨numbered, ?_, ?_, ?_, ?_⟩, ?_, ?_, ?_⟩
  · exact clocked.strikes.takeDue taken
  · exact clocked.phases.takeDue taken
  · exact clocked.rings.takeDue taken
  · exact fun settled => (clocked.crossing settled).takeDue taken
  · cases rings : timer.payload.isRing with
    | false => rfl
    | true => cases clocked.rings timer member rings
  · exact clocked.strikes.gone clocked.numbered taken
  · intro phase
    refine ⟨?_, clocked.phases.gone clocked.numbered taken phase⟩
    cases crossing : session.world.position.transitioning with
    | true => rfl
    | false => cases clocked.crossing crossing timer member phase

end Session

end VisualNovel.Playback
