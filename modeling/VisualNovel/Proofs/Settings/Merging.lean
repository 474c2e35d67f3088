import VisualNovel.Settings.Sections

/-!
# Settings laid over the defaults

What was laid over the defaults once is not changed by being laid over them again:
its sections have every key once, with those of the defaults in front. Whatever is
found in a file, the settings that come of it are of this kind.
-/

set_option autoImplicit false

namespace VisualNovel

open VisualNovel.Files VisualNovel.Json

namespace Json

def Entries.keys (entries : Entries) : List String :=
  entries.map Prod.fst

variable {entries before rest extra : Entries} {key : String} {value : Value}

private theorem Entries.insert_append (absent : key ∉ before.keys) :
    Entries.insert (before ++ rest) key value = before ++ rest.insert key value := by
  induction before with
  | nil => rfl
  | cons entry before hypothesis =>
      obtain ⟨first, old⟩ := entry
      simp only [Entries.keys, List.map_cons, List.mem_cons, not_or] at absent
      rw [List.cons_append, Entries.insert, if_neg (Ne.symm absent.1), hypothesis absent.2,
        List.cons_append]

private theorem Entries.keys_insert (entries : Entries) (key : String) (value : Value) :
    (entries.insert key value).keys =
      if key ∈ entries.keys then entries.keys else entries.keys ++ [key] := by
  induction entries with
  | nil => rfl
  | cons entry entries hypothesis =>
      obtain ⟨first, old⟩ := entry
      by_cases same : first = key
      · simp [Entries.insert, Entries.keys, same]
      · unfold Entries.keys at hypothesis ⊢
        simp only [Entries.insert, if_neg same, List.map_cons, hypothesis, List.mem_cons,
          Ne.symm same, false_or]
        split <;> rfl

private theorem Entries.nodup_insert (nodup : entries.keys.Nodup) :
    (entries.insert key value).keys.Nodup := by
  rw [Entries.keys_insert]
  split
  · exact nodup
  · next absent =>
      refine List.nodup_append.mpr ⟨nodup, by simp, ?_⟩
      rintro other member _ last rfl
      obtain rfl := List.mem_singleton.mp last
      exact absent member

private theorem Entries.prefix_insert (entries : Entries) (key : String) (value : Value) :
    entries.keys <+: (entries.insert key value).keys := by
  rw [Entries.keys_insert]
  split
  · exact List.prefix_rfl
  · exact List.prefix_append _ _

/-- Every key is there once, with those of other entries in front. -/
structure Entries.Covers (entries merged : Entries) : Prop where
  nodup : merged.keys.Nodup
  leads : entries.keys <+: merged.keys

private theorem Entries.covers_update (nodup : entries.keys.Nodup) (extra : Entries) :
    entries.Covers (entries.update extra) := by
  have covers {merged : Entries} (covered : entries.Covers merged) :
      entries.Covers (extra.foldl (fun merged entry => merged.insert entry.1 entry.2) merged) := by
    induction extra generalizing merged with
    | nil => exact covered
    | cons entry extra hypothesis =>
        exact hypothesis ⟨Entries.nodup_insert covered.nodup,
          covered.leads.trans (Entries.prefix_insert _ _ _)⟩
  exact covers ⟨nodup, List.prefix_rfl⟩

/-- Entries with keys of their own come last, in order, when they are inserted one by one. -/
private theorem Entries.foldl_insert (nodup : Entries.keys (before ++ extra) |>.Nodup)
    (leads : rest.keys <+: extra.keys) :
    extra.foldl (fun merged entry => merged.insert entry.1 entry.2) (before ++ rest) =
      before ++ extra := by
  -- by induction on what is still to be set: each entry takes the place of the next one that is
  -- there, or comes last
  induction extra generalizing before rest with
  | nil =>
      have none : rest = [] := by simpa [Entries.keys] using leads
      rw [none]
      rfl
  | cons entry extra hypothesis =>
      obtain ⟨key, value⟩ := entry
      have absent : key ∉ Entries.keys before := by
        have apart := (List.nodup_append.mp
          (by simpa [Entries.keys] using nodup :
            (Entries.keys before ++ Entries.keys ((key, value) :: extra)).Nodup)).2.2
        exact fun member => apart key member key List.mem_cons_self rfl
      have next : ∃ tail, rest.insert key value = (key, value) :: tail ∧
          Entries.keys tail <+: Entries.keys extra := by
        cases rest with
        | nil => exact ⟨[], rfl, List.nil_prefix⟩
        | cons old rest =>
            obtain ⟨first, old⟩ := old
            obtain ⟨same, others⟩ := List.cons_prefix_cons.mp leads
            obtain rfl : first = key := same
            exact ⟨rest, by simp [Entries.insert], others⟩
      obtain ⟨tail, inserted, others⟩ := next
      rw [List.foldl_cons, Entries.insert_append absent, inserted, List.append_cons,
        hypothesis (by simpa using nodup) others, ← List.append_cons]

private theorem Entries.update_of_covers {merged : Entries} (covers : entries.Covers merged) :
    entries.update merged = merged := by
  show merged.foldl (fun merged entry => merged.insert entry.1 entry.2) ([] ++ entries) = merged
  exact Entries.foldl_insert covers.nodup covers.leads

end Json

namespace Settings

def Merged (settings : Settings) : Prop :=
  ∃ value, settings = (merge value).1

theorem covers_mergeSection (name : String) {defaults : Entries} (nodup : defaults.keys.Nodup)
    (value : Value) : defaults.Covers (mergeSection name defaults value).1 := by
  have same : defaults.Covers defaults := ⟨nodup, List.prefix_rfl⟩
  unfold mergeSection
  split
  · split
    · exact Entries.covers_update nodup _
    · exact same
    · exact same
  · exact same

theorem mergeSection_object {name : String} {defaults merged sections : Entries}
    (covers : defaults.Covers merged) (here : Entries.get sections name = .object merged) :
    mergeSection name defaults (.object sections) = (merged, []) := by
  simp only [mergeSection, here, Entries.update_of_covers covers]

/-- Laying merged settings over the defaults again leaves them as they are. -/
theorem Merged.merge_toValue {settings : Settings} (merged : settings.Merged) :
    merge settings.toValue = (settings, []) := by
  obtain ⟨value, rfl⟩ := merged
  have playback := covers_mergeSection "playback" (by decide : default.playback.keys.Nodup) value
  have audio := covers_mergeSection "audio" (by decide : default.audio.keys.Nodup) value
  have transitions :=
    covers_mergeSection "transitions" (by decide : default.transitions.keys.Nodup) value
  have window := covers_mergeSection "window" (by decide : default.window.keys.Nodup) value
  unfold merge toValue
  dsimp only
  rw [mergeSection_object playback rfl, mergeSection_object audio rfl,
    mergeSection_object transitions rfl, mergeSection_object window rfl]
  rfl

theorem merged_default : default.Merged :=
  ⟨.null, rfl⟩

/-- Settings that are loaded come of a value, or there was none. -/
theorem merged_load {tree : Tree} {path : Path} {settings : Settings}
    (loaded : (load tree path).1 = .ok settings) : settings.Merged := by
  unfold load at loaded
  split at loaded
  · cases loaded
  · cases loaded
    exact merged_default
  · split at loaded
    · cases loaded
      exact merged_default
    · next text _ =>
        unfold ofText at loaded
        split at loaded
        · cases loaded
        · cases loaded
        · cases loaded
          exact merged_default
        · next sections _ =>
            cases loaded
            exact ⟨.object sections, rfl⟩
        · cases loaded
          exact merged_default

end Settings

end VisualNovel
