import VisualNovel.Proofs.Agenda.Completion
import VisualNovel.Proofs.Event.Registration

/-!
# Who hears an event

An event is told to those who are registered for its name when it is sent, one after
another, each with what was sent, whatever they do meanwhile. They may change who is
registered, send events themselves, or fail: whoever sent the event goes on when all
have been told.
-/

set_option autoImplicit false

namespace VisualNovel.Event

open VisualNovel.Agenda

variable {α π η : Type}

def occasions : BusTask α π η → Broadcast α η → List (Occasion α π)
  | .request made, broadcast => [⟨.asked made, broadcast.bus⟩]
  | .deliver name listener payload, broadcast => [⟨.called name listener payload, broadcast.bus⟩]
  | .script _ _, _ => []

private theorem occasions_cases (task : BusTask α π η) (broadcast : Broadcast α η) :
    occasions task broadcast = [] ∨ ∃ deed, occasions task broadcast = [⟨deed, broadcast.bus⟩] := by
  cases task with
  | request | deliver => exact .inr ⟨_, rfl⟩
  | script => exact .inl rfl

/-! ## The course of events -/

mutual

/-- What happens in the course of a script that finds some notes and leaves others: everything it
asks for is met, and then it goes on. -/
inductive Follows (listens : α → π → BusScript α π η) :
    BusScript α π η → η → List (Occasion α π) → η → Prop where
  | done {notes : η} : Follows listens .done notes [] notes
  | fail {notes : η} : Follows listens .fail notes [] notes
  | note {change : η → η} {next : BusScript α π η} {notes left : η}
      {seen : List (Occasion α π)} :
      Follows listens next (change notes) seen left →
      Follows listens (.note change next) notes seen left
  | recall {next : η → BusScript α π η} {notes left : η} {seen : List (Occasion α π)} :
      Follows listens (next notes) notes seen left →
      Follows listens (.recall next) notes seen left
  | ask {made : BusRequest α π} {next : Unit → BusScript α π η} {bus : Bus α}
      {notes middle left : η} {meeting seen : List (Occasion α π)} :
      Meets listens made bus notes meeting middle → Follows listens (next ()) middle seen left →
      Follows listens (.ask made next) notes (⟨.asked made, bus⟩ :: (meeting ++ seen)) left

/-- What happens when a bus meets what it is asked for: an event goes to those it finds registered
for its name. -/
inductive Meets (listens : α → π → BusScript α π η) :
    BusRequest α π → Bus α → η → List (Occasion α π) → η → Prop where
  | subscribe {name : String} {listener : α} {bus : Bus α} {notes : η} :
      Meets listens (.subscribe name listener) bus notes [] notes
  | unsubscribe {name : String} {listener : α} {bus : Bus α} {notes : η} :
      Meets listens (.unsubscribe name listener) bus notes [] notes
  | clear {bus : Bus α} {notes : η} : Meets listens .clear bus notes [] notes
  | emit {name : String} {payload : π} {bus : Bus α} {notes left : η}
      {seen : List (Occasion α π)} :
      Calls listens name payload (bus.heard name) notes seen left →
      Meets listens (.emit name payload) bus notes seen left

inductive Calls (listens : α → π → BusScript α π η) :
    String → π → List α → η → List (Occasion α π) → η → Prop where
  | nil {name : String} {payload : π} {notes : η} : Calls listens name payload [] notes [] notes
  | cons {name : String} {payload : π} {listener : α} {rest : List α} {bus : Bus α}
      {notes middle left : η} {doing seen : List (Occasion α π)} :
      Follows listens (listens listener payload) notes doing middle →
      Calls listens name payload rest middle seen left →
      Calls listens name payload (listener :: rest) notes
        (⟨.called name listener payload, bus⟩ :: (doing ++ seen)) left

end

variable {listens : α → π → BusScript α π η} {script : BusScript α π η} {notes left middle : η}
  {seen meeting : List (Occasion α π)}

private theorem Follows.of_done (ends : script.proceed notes = (.done, left)) :
    Follows listens script notes [] left := by
  induction script generalizing notes with
  | done =>
      cases ends
      exact .done
  | fail | ask => simp [Script.proceed] at ends
  | note change rest hypothesis => exact .note (hypothesis ends)
  | «recall» rest hypothesis => exact .recall (hypothesis notes ends)

private theorem Follows.of_failed (ends : script.proceed notes = (.failed, left)) :
    Follows listens script notes [] left := by
  induction script generalizing notes with
  | fail =>
      cases ends
      exact .fail
  | done | ask => simp [Script.proceed] at ends
  | note change rest hypothesis => exact .note (hypothesis ends)
  | «recall» rest hypothesis => exact .recall (hypothesis notes ends)

private theorem Follows.of_asks {made : BusRequest α π} {next : Unit → BusScript α π η}
    {bus : Bus α}
    {between : η} (pauses : script.proceed notes = (.asks made next, between))
    (meets : Meets listens made bus between meeting middle)
    (follows : Follows listens (next ()) middle seen left) :
    Follows listens script notes (⟨.asked made, bus⟩ :: (meeting ++ seen)) left := by
  induction script generalizing notes with
  | done | fail => simp [Script.proceed] at pauses
  | note change rest hypothesis => exact .note (hypothesis pauses)
  | «recall» rest hypothesis => exact .recall (hypothesis notes pauses)
  | ask asked rest _ =>
      cases pauses
      exact .ask meets follows

namespace Broadcast

variable [DecidableEq α] {broadcast final : Broadcast α η} {budget : Nat}

theorem step_done {name : String} (ends : script.proceed broadcast.notes = (.done, left)) :
    step listens (.script name script) broadcast = ({ broadcast with notes := left }, []) := by
  simp only [step, ends]

theorem step_failed {name : String} (ends : script.proceed broadcast.notes = (.failed, left)) :
    step listens (.script name script) broadcast =
      ({ broadcast with notes := left, failures := name :: broadcast.failures }, []) := by
  simp only [step, ends]

private theorem step_asks {name : String} {made : BusRequest α π} {next : Unit → BusScript α π η}
    (pauses : script.proceed broadcast.notes = (.asks made next, left)) :
    step listens (.script name script) broadcast =
      ({ broadcast with notes := left }, [.request made, .script name (next ())]) := by
  simp only [step, pauses]

def Courses (listens : α → π → BusScript α π η) (budget : Nat) : Prop :=
  ∀ {name : String} {script : BusScript α π η} {broadcast final : Broadcast α η},
    run (step listens) budget [.script name script] broadcast = some final →
    Follows listens script broadcast.notes
      (watch occasions (step listens) budget [.script name script] broadcast) final.notes

/-- A run that delivers an event calls its listeners one after another. -/
private theorem calls_of_run {name : String} {payload : π} {listeners : List α}
    (smaller : ∀ less < budget, Courses listens less)
    (finished : run (step listens) budget
      (listeners.map fun listener => .deliver name listener payload) broadcast = some final) :
    Calls listens name payload listeners broadcast.notes
      (watch occasions (step listens) budget
        (listeners.map fun listener => .deliver name listener payload) broadcast) final.notes := by
  induction listeners generalizing budget broadcast with
  | nil =>
      rw [List.map_nil, run_nil] at finished
      cases finished
      cases budget <;> exact .nil
  | cons listener rest hypothesis =>
      cases budget with
      | zero => simp [run] at finished
      | succ budget =>
          rw [List.map_cons, run_cons] at finished
          obtain ⟨spent, kept, between, enough, first, second, watched⟩ :=
            run_append occasions finished
          have called : occasions (.deliver name listener payload) broadcast =
              [⟨.called name listener payload, broadcast.bus⟩] := rfl
          rw [List.map_cons, watch, watched, called, List.singleton_append]
          have doing := smaller spent (by omega) first
          have others := hypothesis (fun less below => smaller less (by omega)) second
          exact .cons doing others

private theorem meets_of_run {made : BusRequest α π}
    (smaller : ∀ less < budget, Courses listens less)
    (finished : run (step listens) budget [.request made] broadcast = some final) :
    ∃ meeting, watch occasions (step listens) budget [.request made] broadcast =
        ⟨.asked made, broadcast.bus⟩ :: meeting ∧
      Meets listens made broadcast.bus broadcast.notes meeting final.notes := by
  cases budget with
  | zero => simp [run] at finished
  | succ budget =>
      rw [run_cons, List.append_nil] at finished
      rw [watch, List.append_nil]
      refine ⟨_, rfl, ?_⟩
      cases made with
      | subscribe | unsubscribe | clear =>
          simp only [step, run_nil, Option.some.injEq] at finished
          subst finished
          cases budget <;> constructor
      | emit name payload =>
          exact .emit (calls_of_run (fun less below => smaller less (by omega)) finished)

/-- Every script that comes to its end takes its course, by induction on the budget. -/
private theorem courses (listens : α → π → BusScript α π η) (budget : Nat) :
    Courses listens budget := by
  -- by induction on the budget: whatever a script leads to is done with less
  induction budget using Nat.strongRecOn with
  | ind budget hypothesis =>
      intro name script broadcast final finished
      cases budget with
      | zero => simp [run] at finished
      | succ budget =>
          rw [run_cons, List.append_nil] at finished
          rw [watch, List.append_nil]
          have unseen : occasions (.script name script) broadcast = [] := rfl
          rw [unseen, List.nil_append]
          cases paused : script.proceed broadcast.notes with
          | mk pause notes =>
              cases pause with
              | done =>
                  rw [step_done paused, run_nil] at finished
                  cases finished
                  rw [step_done paused]
                  cases budget <;> exact .of_done paused
              | failed =>
                  rw [step_failed paused, run_nil] at finished
                  cases finished
                  rw [step_failed paused]
                  cases budget <;> exact .of_failed paused
              | asks made next =>
                  rw [step_asks paused] at finished ⊢
                  obtain ⟨spent, kept, between, enough, first, second, watched⟩ :=
                    @run_append _ _ _ _ [.request made] _ _ _ occasions _ finished
                  obtain ⟨meeting, seen, meets⟩ :=
                    meets_of_run (fun less below => hypothesis less (by omega)) first
                  have follows := hypothesis kept (by omega) second
                  have whole := Follows.of_asks paused meets follows
                  rw [← List.cons_append, ← seen, ← watched] at whole
                  exact whole

/-! ## What a bus keeps meanwhile -/

/-- A bus keeps just what happened. -/
structure Accounts (past : List (Occasion α π)) (bus : Bus α) : Prop
    extends Registers past bus, Tallies past bus

variable {past : List (Occasion α π)}

private theorem bus_script (listens : α → π → BusScript α π η) (name : String)
    (script : BusScript α π η) (broadcast : Broadcast α η) :
    (step listens (.script name script) broadcast).1.bus = broadcast.bus := by
  cases paused : script.proceed broadcast.notes with
  | mk pause notes =>
      cases pause with
      | done => rw [step_done paused]
      | failed => rw [step_failed paused]
      | asks made next => rw [step_asks paused]

/-- The books of a bus stay right with every task. -/
theorem Accounts.step (accounts : Accounts past broadcast.bus)
    (listens : α → π → BusScript α π η) (task : BusTask α π η) :
    Accounts (past ++ occasions task broadcast) (step listens task broadcast).1.bus := by
  have names := accounts.listenerNames
  rw [map_fst_listeners] at names
  cases task with
  | request made =>
      cases made with
      | subscribe name listener =>
          exact ⟨accounts.toRegisters.subscribe rfl,
            accounts.toTallies.still rfl (nodup_map_fst_adjust names ..) rfl rfl⟩
      | unsubscribe name listener =>
          refine ⟨accounts.toRegisters.unsubscribe rfl,
            accounts.toTallies.still ?_ ?_ rfl rfl⟩
          · simp only [Broadcast.step, Bus.unsubscribe]
            split <;> rfl
          · simp only [Broadcast.step, Bus.unsubscribe]
            split
            · exact nodup_map_fst_adjust names ..
            · exact names
      | emit name payload =>
          refine ⟨accounts.toRegisters.still (fun _ => rfl) ?_ ?_, accounts.toTallies.emit rfl⟩
          · exact fun _ _ impossible => by cases impossible
          · rintro _ _ (removes | removes) <;> cases removes
      | clear => exact ⟨registers_clear broadcast.bus rfl, tallies_clear broadcast.bus rfl⟩
  | deliver name listener payload =>
      refine ⟨accounts.toRegisters.still (fun _ => rfl) ?_ ?_,
        accounts.toTallies.still rfl names rfl rfl⟩
      · exact fun _ _ impossible => by cases impossible
      · rintro _ _ (removes | removes) <;> cases removes
  | script name script =>
      have unseen : occasions (.script name script) broadcast = [] := rfl
      rw [unseen, List.append_nil, bus_script]
      exact accounts

/-- The books of a bus are right at every moment of a run. -/
private theorem accounts_of_completes {tasks : List (BusTask α π η)} {seen : List (Occasion α π)}
    (completes : Completes occasions (step listens) tasks broadcast seen final)
    (accounts : Accounts past broadcast.bus) :
    (∀ before occasion after, seen = before ++ occasion :: after →
      Accounts (past ++ before) occasion.bus) ∧ Accounts (past ++ seen) final.bus := by
  induction completes generalizing past with
  | nil =>
      rw [List.append_nil]
      refine ⟨fun before occasion after split => ?_, accounts⟩
      exact absurd split.symm
        (List.append_ne_nil_of_right_ne_nil before (List.cons_ne_nil occasion after))
  | @cons task _ broadcast _ later _ hypothesis =>
      obtain ⟨always, last⟩ := hypothesis (accounts.step listens task)
      rw [List.append_assoc] at last
      refine ⟨fun before occasion after split => ?_, last⟩
      rcases occasions_cases task broadcast with none | ⟨deed, one⟩
      · rw [none, List.append_nil] at always
        rw [none, List.nil_append] at split
        exact always before occasion after split
      · rw [one] at always split
        cases before with
        | nil =>
            obtain ⟨rfl, -⟩ := List.cons.inj split
            rw [List.append_nil]
            exact accounts
        | cons first before =>
            obtain ⟨rfl, rest⟩ := List.cons.inj split
            rw [List.append_cons]
            exact always before occasion after rest

/-- However listeners react to events, sending, changing who is registered, altering the payloads
that they keep among their notes and failing: every event goes to those whom the bus finds
registered for its name when it is sent, each once, in their order and with what was sent, and
whoever sent it goes on. That altering a payload leaves those of the others as they were is due to
payloads being values. All the while the bus keeps just who subscribed and was not removed, and
counts what was sent. -/
theorem delivers_by_snapshot {name : String} {program : BusScript α π η}
    {seen : List (Occasion α π)}
    (completes : Completes occasions (step listens) [.script name program] broadcast seen final)
    (fresh : broadcast.bus = {}) :
    Follows listens program broadcast.notes seen final.notes ∧
      (∀ before occasion after, seen = before ++ occasion :: after →
        Accounts before occasion.bus) ∧
      Accounts seen final.bus := by
  have accounts : Accounts ([] : List (Occasion α π)) broadcast.bus := by
    rw [fresh]
    exact ⟨registers_nil, tallies_nil⟩
  obtain ⟨budget, finished, watched⟩ := completes_iff.mp completes
  refine ⟨?_, accounts_of_completes completes accounts⟩
  rw [← watched]
  exact courses listens budget finished

/-! ## A small gathering -/

def calls (seen : List (Occasion α π)) : List (String × α × π) :=
  seen.filterMap fun occasion =>
    match occasion.deed with
    | .called name listener payload => some (name, listener, payload)
    | .asked _ => none

abbrev Letter := List (String × Nat)

/-- One listener adds to all payloads that were kept; another removes itself, brings in a third,
sends an event and fails; the third clears everything. -/
def gossip : String → Letter → BusScript String Letter (List Letter)
  | "scribe", letter =>
      .note (fun kept => (letter :: kept).map (adjust "read" 0 (· + 1))) .done
  | "rogue", letter =>
      .ask (.unsubscribe "news" "rogue") fun _ => .ask (.subscribe "news" "heir") fun _ =>
        .ask (.emit "rumour" letter) fun _ => .fail
  | "heir", _ => .ask .clear fun _ => .done
  | _, _ => .done

def gathering : BusScript String Letter (List Letter) :=
  .ask (.subscribe "news" "scribe") fun _ => .ask (.subscribe "news" "rogue") fun _ =>
    .ask (.subscribe "news" "scribe") fun _ => .ask (.subscribe "rumour" "scribe") fun _ =>
      .ask (.emit "news" [("day", 1)]) fun _ => .ask (.emit "news" [("day", 2)]) fun _ =>
        .ask (.unsubscribe "news" "scribe") fun _ => .ask (.emit "news" []) fun _ => .done

theorem delivers_by_snapshot_at_gathering : ∃ seen final,
    Completes occasions (step gossip) [.script "" gathering] ⟨{}, [], []⟩ seen final ∧
      calls seen = [("news", "scribe", [("day", 1)]), ("news", "rogue", [("day", 1)]),
        ("rumour", "scribe", [("day", 1)]), ("news", "scribe", [("day", 2)]),
        ("news", "heir", [("day", 2)])] ∧
      final.notes = [[("day", 2), ("read", 1)], [("day", 1), ("read", 2)],
        [("day", 1), ("read", 3)]] ∧
      final.failures = ["news"] ∧ final.bus.statistics = ⟨[("news", 1)], [], 1⟩ ∧
      Follows gossip gathering [] seen final.notes ∧ Accounts seen final.bus := by
  have completes : Completes occasions (step gossip) [.script "" gathering] ⟨{}, [], []⟩ _ _ :=
    completes_iff.mpr ⟨60, rfl, rfl⟩
  obtain ⟨follows, _, accounts⟩ := delivers_by_snapshot completes rfl
  exact ⟨_, _, completes, rfl, rfl, rfl, rfl, follows, accounts⟩

end Broadcast

end VisualNovel.Event
