import Mathlib.Algebra.GroupWithZero.Nat
import Mathlib.Data.List.Nodup
import VisualNovel.Event.Broadcast

/-!
# What a bus keeps

At every moment of a broadcast the listeners for a name are those that subscribed
and have not been removed since, each once, in the order in which they subscribed;
and the statistics count the events since everything was cleared and the listeners
that there are.
-/

set_option autoImplicit false

namespace VisualNovel.Event

variable {α β π η : Type}

/-! ## Entries by name -/

theorem map_fst_adjust (name : String) (missing : β) (change : β → β)
    (entries : List (String × β)) :
    (adjust name missing change entries).map (·.1) =
      if name ∈ entries.map (·.1) then entries.map (·.1) else entries.map (·.1) ++ [name] := by
  induction entries with
  | nil => rfl
  | cons entry rest hypothesis =>
      obtain ⟨first, value⟩ := entry
      by_cases same : first = name
      · simp [adjust, same]
      · have apart : name ≠ first := fun equal => same equal.symm
        simp only [adjust, same, if_false, List.map_cons, hypothesis, List.mem_cons, apart,
          false_or]
        split <;> rfl

theorem nodup_map_fst_adjust {entries : List (String × β)} (distinct : (entries.map (·.1)).Nodup)
    (name : String) (missing : β) (change : β → β) :
    ((adjust name missing change entries).map (·.1)).Nodup := by
  rw [map_fst_adjust]
  split
  · exact distinct
  · next fresh =>
      rw [← List.concat_eq_append]
      exact distinct.concat fresh

private theorem sum_adjust_succ (name : String) (counts : List (String × Nat)) :
    ((adjust name 0 (· + 1) counts).map (·.2)).sum = (counts.map (·.2)).sum + 1 := by
  induction counts with
  | nil => rfl
  | cons entry rest hypothesis =>
      obtain ⟨first, value⟩ := entry
      by_cases same : first = name
      · simp only [adjust, same, if_true, List.map_cons, List.sum_cons]
        omega
      · simp only [adjust, same, if_false, List.map_cons, List.sum_cons, hypothesis]
        omega

private theorem lookup_map_snd {γ : Type} (name : String) (change : β → γ)
    (entries : List (String × β)) :
    (entries.map fun entry => (entry.1, change entry.2)).lookup name =
      (entries.lookup name).map change := by
  induction entries with
  | nil => rfl
  | cons entry rest hypothesis =>
      obtain ⟨first, value⟩ := entry
      cases same : name == first <;> simp [List.lookup_cons, same, hypothesis]

/-! ## Buses -/

namespace Bus

theorem total_eq_sum (bus : Bus α) : bus.total = (bus.counts.map (·.2)).sum := by
  rw [List.sum_eq_foldl, List.foldl_map]
  rfl

theorem length_heard (bus : Bus α) (name : String) :
    (bus.statistics.listeners.lookup name).getD 0 = (bus.heard name).length := by
  have listed := lookup_map_snd name List.length bus.listeners
  unfold statistics heard
  rw [listed]
  cases bus.listeners.lookup name <;> rfl

variable [DecidableEq α]

theorem heard_subscribe (bus : Bus α) (name other : String) (listener : α) :
    (bus.subscribe name listener).heard other =
      if other = name ∧ listener ∉ bus.heard other then bus.heard other ++ [listener]
      else bus.heard other := by
  by_cases same : other = name
  · subst same
    rw [heard_subscribe_self]
    by_cases known : listener ∈ bus.heard other <;> simp [known]
  · rw [if_neg fun both => same both.1]
    unfold subscribe heard
    rw [lookup_adjust_of_ne same]

theorem heard_unsubscribe (bus : Bus α) (name other : String) (listener : α) :
    (bus.unsubscribe name listener).heard other =
      if other = name then (bus.heard other).erase listener else bus.heard other := by
  unfold unsubscribe
  by_cases same : other = name
  · subst same
    rw [if_pos rfl]
    split
    · unfold heard
      rw [lookup_adjust_self, Option.getD_some]
    · next unknown => exact (List.erase_of_not_mem unknown).symm
  · rw [if_neg same]
    split
    · unfold heard
      rw [lookup_adjust_of_ne same]
    · rfl

end Bus

/-! ## Occasions -/

inductive Deed (α π : Type) where
  | asked (made : BusRequest α π)
  | called (name : String) (listener : α) (payload : π)

structure Occasion (α π : Type) where
  deed : Deed α π
  bus : Bus α

namespace Deed

/-- A listener is removed for a name, by itself or with everything. -/
def Removes (deed : Deed α π) (name : String) (listener : α) : Prop :=
  deed = .asked (.unsubscribe name listener) ∨ deed = .asked .clear

def clears : Deed α π → Bool
  | .asked .clear => true
  | _ => false

def sends : Deed α π → Bool
  | .asked (.emit _ _) => true
  | _ => false

def sendsTo (name : String) : Deed α π → Bool
  | .asked (.emit other _) => other == name
  | _ => false

end Deed

/-- A listener has subscribed to a name and was not removed since. -/
def Enrolled (past : List (Occasion α π)) (name : String) (listener : α) : Prop :=
  ∃ before bus since, past = before ++ ⟨.asked (.subscribe name listener), bus⟩ :: since ∧
    ∀ occasion ∈ since, ¬occasion.deed.Removes name listener

/-- A listener was there for a name when another one was not, and has stayed since. -/
def Ahead (past : List (Occasion α π)) (name : String) (first second : α) : Prop :=
  ∃ before since, past = before ++ since ∧ Enrolled before name first ∧
    ¬Enrolled before name second ∧ ∀ occasion ∈ since, ¬occasion.deed.Removes name first

def sinceClear (past : List (Occasion α π)) : List (Occasion α π) :=
  past.reverse.takeWhile fun occasion => !occasion.deed.clears

def sent (past : List (Occasion α π)) (name : String) : Nat :=
  (sinceClear past).countP fun occasion => occasion.deed.sendsTo name

variable {past : List (Occasion α π)} {occasion : Occasion α π} {bus : Bus α} {name : String}
  {listener first second : α}

/-- A listener is enrolled if it has just subscribed, or was enrolled and was not removed. -/
theorem enrolled_snoc :
    Enrolled (past ++ [occasion]) name listener ↔
      occasion.deed = .asked (.subscribe name listener) ∨
        Enrolled past name listener ∧ ¬occasion.deed.Removes name listener := by
  constructor
  · rintro ⟨before, bus, since, split, stays⟩
    rcases List.eq_nil_or_concat since with rfl | ⟨earlier, last, rfl⟩
    · obtain ⟨-, same⟩ := List.append_inj' split rfl
      rw [List.singleton_inj.mp same]
      exact .inl rfl
    · rw [List.concat_eq_append] at split stays
      rw [← List.cons_append, ← List.append_assoc] at split
      obtain ⟨same, latest⟩ := List.append_inj' split rfl
      obtain rfl := List.singleton_inj.mp latest
      refine .inr ⟨⟨before, bus, earlier, same, ?_⟩, ?_⟩
      · exact fun occasion member => stays occasion (List.mem_append_left _ member)
      · exact stays occasion (List.mem_append_right _ List.mem_cons_self)
  · rintro (subscribes | ⟨⟨before, bus, since, rfl, stays⟩, kept⟩)
    · obtain ⟨_, bus⟩ := occasion
      obtain rfl := subscribes
      exact ⟨past, bus, [], rfl, fun _ member => absurd member List.not_mem_nil⟩
    · refine ⟨before, bus, since ++ [occasion], by simp, ?_⟩
      intro other member
      rcases List.mem_append.mp member with member | member
      · exact stays other member
      · obtain rfl := List.mem_singleton.mp member
        exact kept

theorem Ahead.snoc (ahead : Ahead past name first second)
    (kept : ¬occasion.deed.Removes name first) :
    Ahead (past ++ [occasion]) name first second := by
  obtain ⟨before, since, rfl, there, notThere, stays⟩ := ahead
  refine ⟨before, since ++ [occasion], by simp, there, notThere, ?_⟩
  intro other member
  rcases List.mem_append.mp member with member | member
  · exact stays other member
  · obtain rfl := List.mem_singleton.mp member
    exact kept

theorem sinceClear_snoc (past : List (Occasion α π)) (occasion : Occasion α π) :
    sinceClear (past ++ [occasion]) =
      if occasion.deed.clears then [] else occasion :: sinceClear past := by
  unfold sinceClear
  rw [List.reverse_append, List.reverse_singleton, List.singleton_append, List.takeWhile_cons]
  cases occasion.deed.clears <;> rfl

/-! ## Registers -/

/-- The listeners of a bus are those that what happened leaves enrolled, in their order. -/
structure Registers (past : List (Occasion α π)) (bus : Bus α) : Prop where
  once (name : String) : (bus.heard name).Nodup
  enrolled (name : String) (listener : α) :
    listener ∈ bus.heard name ↔ Enrolled past name listener
  ordered (name : String) : (bus.heard name).Pairwise (Ahead past name)

theorem registers_nil : Registers ([] : List (Occasion α π)) {} where
  once _ := .nil
  enrolled _ _ := by
    constructor
    · intro listed
      exact absurd listed List.not_mem_nil
    · rintro ⟨before, bus, since, split, _⟩
      exact absurd split.symm (List.append_ne_nil_of_right_ne_nil before (List.cons_ne_nil _ since))
  ordered _ := .nil

/-- Where nobody is enrolled or removed, the register stays. -/
theorem Registers.still (registers : Registers past bus) {other : Bus α}
    (same : ∀ name, other.heard name = bus.heard name)
    (plain : ∀ name listener, occasion.deed ≠ .asked (.subscribe name listener))
    (kept : ∀ name listener, ¬occasion.deed.Removes name listener) :
    Registers (past ++ [occasion]) other where
  once name := same name ▸ registers.once name
  enrolled name listener := by
    rw [same, registers.enrolled, enrolled_snoc]
    simp only [plain, kept, not_false_eq_true, and_true, false_or]
  ordered name := by
    rw [same]
    exact (registers.ordered name).imp fun ahead => ahead.snoc (kept _ _)

theorem registers_clear (bus : Bus α) (deed : occasion.deed = .asked .clear) :
    Registers (past ++ [occasion]) bus.clear where
  once _ := .nil
  enrolled name listener := by
    rw [enrolled_snoc, deed]
    constructor
    · intro listed
      exact absurd listed List.not_mem_nil
    · rintro (other | ⟨_, kept⟩)
      · cases other
      · exact absurd (.inr rfl) kept
  ordered _ := .nil

/-! ## Statistics -/

/-- The statistics of a bus count what happened since everything was cleared. -/
structure Tallies (past : List (Occasion α π)) (bus : Bus α) : Prop where
  events (name : String) : bus.statistics.events.lookup name =
    if sent past name = 0 then none else some (sent past name)
  total : bus.statistics.total = (sinceClear past).countP fun occasion => occasion.deed.sends
  eventNames : (bus.statistics.events.map (·.1)).Nodup
  listenerNames : (bus.statistics.listeners.map (·.1)).Nodup
  sum : bus.statistics.total = (bus.statistics.events.map (·.2)).sum
  listeners (name : String) :
    (bus.statistics.listeners.lookup name).getD 0 = (bus.heard name).length

theorem map_fst_listeners (bus : Bus α) :
    bus.statistics.listeners.map (·.1) = bus.listeners.map (·.1) :=
  List.map_map

private theorem Deed.sendsTo_eq_false {deed : Deed α π} (quiet : deed.sends = false)
    (name : String) :
    deed.sendsTo name = false := by
  unfold sends at quiet
  unfold sendsTo
  split <;> simp_all

private theorem Deed.clears_eq_false {deed : Deed α π} (sends : deed.sends = true) :
    deed.clears = false := by
  unfold Deed.sends at sends
  unfold clears
  split <;> simp_all

theorem tallies_nil : Tallies ([] : List (Occasion α π)) {} :=
  ⟨fun _ => rfl, rfl, .nil, .nil, Bus.total_eq_sum _, Bus.length_heard _⟩

theorem tallies_clear (bus : Bus α) (deed : occasion.deed = .asked .clear) :
    Tallies (past ++ [occasion]) bus.clear := by
  have forgotten : sinceClear (past ++ [occasion]) = [] := by
    rw [sinceClear_snoc, deed]
    rfl
  refine ⟨fun name => ?_, ?_, .nil, .nil, Bus.total_eq_sum _, Bus.length_heard _⟩
  · rw [sent, forgotten]
    rfl
  · rw [forgotten]
    rfl

/-- Where nothing is sent or cleared, the counts stay. -/
theorem Tallies.still (tallies : Tallies past bus) {other : Bus α}
    (counts : other.counts = bus.counts) (names : (other.listeners.map (·.1)).Nodup)
    (plain : occasion.deed.clears = false) (quiet : occasion.deed.sends = false) :
    Tallies (past ++ [occasion]) other := by
  have since : sinceClear (past ++ [occasion]) = occasion :: sinceClear past := by
    rw [sinceClear_snoc, plain]
    rfl
  have total : other.statistics.total = bus.statistics.total := by
    simp only [Bus.statistics, Bus.total, counts]
  refine ⟨fun name => ?_, ?_, ?_, ?_, Bus.total_eq_sum _, Bus.length_heard _⟩
  · have same : sent (past ++ [occasion]) name = sent past name := by
      rw [sent, since, List.countP_cons_of_neg (by simp [Deed.sendsTo_eq_false quiet]), sent]
    rw [same, ← tallies.events name]
    exact congrArg (List.lookup name) counts
  · rw [since, List.countP_cons_of_neg (by simp [quiet]), total]
    exact tallies.total
  · exact (congrArg (fun entries => (entries.map (·.1)).Nodup) counts).mpr tallies.eventNames
  · rw [map_fst_listeners]
    exact names

theorem Tallies.emit {payload : π} (tallies : Tallies past bus)
    (deed : occasion.deed = .asked (.emit name payload)) :
    Tallies (past ++ [occasion]) (bus.count name) := by
  have sends : occasion.deed.sends = true := by
    rw [deed]
    rfl
  have since : sinceClear (past ++ [occasion]) = occasion :: sinceClear past := by
    rw [sinceClear_snoc, Deed.clears_eq_false sends]
    rfl
  have named (other : String) : occasion.deed.sendsTo other = (name == other) := by
    rw [deed]
    rfl
  refine ⟨fun other => ?_, ?_, ?_, ?_, Bus.total_eq_sum _, Bus.length_heard _⟩
  · have counted : sent (past ++ [occasion]) other =
        sent past other + if name = other then 1 else 0 := by
      rw [sent, since, List.countP_cons, named, sent]
      simp only [beq_iff_eq]
    have before := tallies.events other
    have after : (bus.count name).statistics.events = adjust name 0 (· + 1) bus.counts := rfl
    have counts : bus.statistics.events = bus.counts := rfl
    rw [counts] at before
    rw [counted, after]
    by_cases same : name = other
    · subst same
      rw [lookup_adjust_self, before, if_pos rfl, if_neg (Nat.succ_ne_zero _)]
      split
      · next none => rw [none]; rfl
      · rfl
    · rw [lookup_adjust_of_ne fun equal => same equal.symm, before, if_neg same, Nat.add_zero]
  · have earlier : bus.total = _ := tallies.total
    have later : (bus.count name).statistics.total = bus.total + 1 := by
      have counted : (bus.count name).total = bus.total + 1 := by
        rw [Bus.total_eq_sum, Bus.total_eq_sum]
        exact sum_adjust_succ name bus.counts
      exact counted
    rw [since, List.countP_cons, if_pos sends, later, earlier]
  · exact nodup_map_fst_adjust tallies.eventNames name 0 _
  · exact tallies.listenerNames

/-! ## Subscribing and unsubscribing -/

variable [DecidableEq α]

/-- Subscribing keeps the listeners those that are enrolled, in their order. -/
theorem Registers.subscribe (registers : Registers past bus)
    (deed : occasion.deed = .asked (.subscribe name listener)) :
    Registers (past ++ [occasion]) (bus.subscribe name listener) := by
  have kept (other : String) (someone : α) : ¬occasion.deed.Removes other someone := by
    rw [deed]
    rintro (removes | removes) <;> cases removes
  have still (other : String) : (bus.heard other).Pairwise (Ahead (past ++ [occasion]) other) :=
    (registers.ordered other).imp fun ahead => ahead.snoc (kept _ _)
  constructor
  · intro other
    rw [Bus.heard_subscribe]
    split
    · next fresh =>
        rw [← List.concat_eq_append]
        exact (registers.once other).concat fresh.2
    · exact registers.once other
  · intro other someone
    have known := registers.enrolled other someone
    rw [Bus.heard_subscribe, enrolled_snoc, deed, ← known]
    have kept := kept other someone
    rw [deed] at kept
    simp only [kept, not_false_eq_true, and_true, Deed.asked.injEq, BusRequest.subscribe.injEq]
    split <;> grind
  · intro other
    rw [Bus.heard_subscribe]
    split
    · next fresh =>
        refine List.pairwise_append.mpr ⟨still other, List.pairwise_singleton _ _, ?_⟩
        intro earlier listed latest same
        obtain rfl := List.mem_singleton.mp same
        refine ⟨past, [occasion], rfl, (registers.enrolled other earlier).mp listed,
          fun there => fresh.2 ((registers.enrolled other latest).mpr there), ?_⟩
        intro mark member
        obtain rfl := List.mem_singleton.mp member
        exact kept _ _
    · exact still other

theorem Registers.unsubscribe (registers : Registers past bus)
    (deed : occasion.deed = .asked (.unsubscribe name listener)) :
    Registers (past ++ [occasion]) (bus.unsubscribe name listener) := by
  have removes (other : String) (someone : α) :
      occasion.deed.Removes other someone ↔ other = name ∧ someone = listener := by
    rw [deed, Deed.Removes]
    simp only [Deed.asked.injEq, BusRequest.unsubscribe.injEq, reduceCtorEq, or_false]
    exact and_congr eq_comm eq_comm
  constructor
  · intro other
    rw [Bus.heard_unsubscribe]
    split
    · exact (registers.once other).erase _
    · exact registers.once other
  · intro other someone
    have plain : occasion.deed ≠ .asked (.subscribe other someone) := by
      rw [deed]
      exact fun impossible => by cases impossible
    rw [Bus.heard_unsubscribe, enrolled_snoc, removes, ← registers.enrolled]
    simp only [plain, false_or]
    split
    · next same =>
        rw [(registers.once other).mem_erase_iff]
        simp only [same, true_and]
        exact and_comm
    · next apart => simp [apart]
  · intro other
    rw [Bus.heard_unsubscribe]
    split
    · refine ((registers.ordered other).sublist List.erase_sublist).imp_of_mem ?_
      intro earlier later listed _ ahead
      refine ahead.snoc fun gone => ?_
      rw [((removes other earlier).mp gone).2, (registers.once other).mem_erase_iff] at listed
      exact listed.1 rfl
    · next apart =>
        refine (registers.ordered other).imp fun ahead => ahead.snoc fun gone => ?_
        exact apart ((removes other _).mp gone).1

end VisualNovel.Event
