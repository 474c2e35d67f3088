import VisualNovel.Files.Tree

/-!
# Walks through a file tree

Looking up names is a walk from the root on which double dots lead back. Putting
something at a place changes the nodes on the straight way to it, and a walk that
does not go beyond it leads where it led before.
-/

set_option autoImplicit false

namespace VisualNovel.Files

variable {root node content : Node} {above : List Node} {passed target names more : List String}
  {entries : List (String × Node)} {name : String}

namespace Node

/-- Where a walk from the root comes to by names that it passes, the latest first. -/
inductive Reaches (root : Node) : List String → List Node → Node → Prop where
  | root : Reaches root [] [] root
  | down {passed : List String} {above : List Node} {entries : List (String × Node)}
      {name : String} {entry : Node} :
      Reaches root passed above (.directory entries) → entries.lookup name = some entry →
      Reaches root (name :: passed) (.directory entries :: above) entry

theorem Reaches.unique {otherAbove : List Node} {other : Node}
    (first : Reaches root passed above node) (second : Reaches root passed otherAbove other) :
    above = otherAbove ∧ node = other := by
  induction first generalizing otherAbove other with
  | root =>
      cases second
      exact ⟨rfl, rfl⟩
  | down _ found hypothesis =>
      cases second with
      | down before foundToo =>
          obtain ⟨rfl, same⟩ := hypothesis before
          cases same
          exact ⟨rfl, Option.some.inj (found.symm.trans foundToo)⟩

/-- A walk that goes beyond a place passes a directory there. -/
theorem Reaches.passes {beyond : List String} (reaches : Reaches root (beyond ++ passed) above node)
    (some : beyond ≠ []) : ∃ above entries, Reaches root passed above (.directory entries) := by
  induction beyond generalizing above node with
  | nil => exact absurd rfl some
  | cons name beyond hypothesis =>
      cases reaches with
      | down before _ =>
          cases beyond with
          | nil => exact ⟨_, _, before⟩
          | cons other beyond => exact hypothesis before (List.cons_ne_nil _ _)

/-! ## Putting something in its place -/

theorem lookup_setEntry (entries : List (String × Node)) (name other : String) (node : Node) :
    (setEntry name node entries).lookup other =
      if other = name then some node else entries.lookup other := by
  have apart {first second : String} (different : first ≠ second) : (first == second) = false := by
    simpa using different
  induction entries with
  | nil =>
      by_cases same : other = name
      · simp [setEntry, same]
      · simp [setEntry, List.lookup_cons, same, apart same]
  | cons entry entries hypothesis =>
      obtain ⟨first, old⟩ := entry
      by_cases here : first = name
      · subst here
        by_cases same : other = first
        · simp [setEntry, same]
        · simp [setEntry, List.lookup_cons, same, apart same]
      · by_cases same : other = first
        · subst same
          simp [setEntry, here]
        · simp [setEntry, here, List.lookup_cons, apart same, hypothesis]

/-- A node as it is after something was put at a place, where a walk has passed some names. -/
def Becomes (content : Node) (target passed : List String) (node next : Node) : Prop :=
  (∀ rest, target = passed.reverse ++ rest → next = node.put content rest) ∧
    (¬ passed.reverse <+: target → next = node)

/-- A walk that does not go beyond the place where something is put leads where it led. -/
theorem Reaches.put (reaches : Reaches root passed above node) (content : Node)
    (within : ∀ rest, passed.reverse = target ++ rest → rest = []) :
    ∃ above next, Reaches (root.put content target) passed above next ∧
      Becomes content target passed node next := by
  induction reaches with
  | root =>
      refine ⟨_, _, .root, fun rest same => ?_, fun outside => absurd List.nil_prefix outside⟩
      rw [same]
      rfl
  | @down passed above entries name entry before found hypothesis =>
      -- the walk has not come to the place yet
      have short (rest : List String) : passed.reverse ≠ target ++ rest := by
        intro same
        have beyond := within (rest ++ [name]) (by simp [same])
        simp at beyond
      obtain ⟨above, next, reached, along, aside⟩ := hypothesis fun rest same =>
        absurd same (short rest)
      by_cases leads : passed.reverse <+: target
      · obtain ⟨rest, rfl⟩ := leads
        cases rest with
        | nil => exact absurd (by simp) (short [])
        | cons first rest =>
            rw [along _ rfl, Node.put] at reached
            by_cases same : name = first
            · subst same
              refine ⟨_, entry.put content rest, .down reached ?_, fun others here => ?_,
                fun outside => ?_⟩
              · rw [lookup_setEntry, if_pos rfl, found]
                rfl
              · have same : rest = others := by simpa using here
                rw [same]
              · exact absurd ⟨rest, by simp⟩ outside
            · refine ⟨_, entry, .down reached ?_, fun others here => ?_, fun _ => rfl⟩
              · rw [lookup_setEntry, if_neg same, found]
              · exact absurd (by simpa using here : first = name ∧ rest = others).1 (Ne.symm same)
      · rw [aside leads] at reached
        refine ⟨_, entry, .down reached found, fun others here => ?_, fun _ => rfl⟩
        exact absurd ⟨[name] ++ others, by simp [here]⟩ leads

/-! ## Walks -/

def pass (passed names : List String) : List String :=
  names.foldl (fun passed name => if name = ".." then passed.drop 1 else name :: passed) passed

theorem pass_concat (other : name ≠ "..") (passed names : List String) :
    pass passed (names ++ [name]) = name :: pass passed names := by
  simp [pass, other]

theorem reverse_plainNames (names : List String) : (plainNames names).reverse = pass [] names :=
  List.reverse_reverse _

variable {result next : Node} {aboveThere : List Node}

theorem find_name (other : name ≠ "..") (above : List Node) (names : List String) :
    (Node.directory entries).find above (name :: names) =
      if nameLimit < name.utf8ByteSize then .error .nameTooLong
      else
        match entries.lookup name with
        | none => .error .noSuchFile
        | some entry => entry.find (.directory entries :: above) names := by
  rw [Node.find.eq_def]
  exact if_neg other

theorem find_down (other : name ≠ "..") (short : ¬ nameLimit < name.utf8ByteSize)
    (found : entries.lookup name = some node) (above : List Node) (names : List String) :
    (Node.directory entries).find above (name :: names) =
      node.find (.directory entries :: above) names := by
  rw [find_name other, if_neg short, found]

/-- What is found by names is what a walk reaches by them, and further names are looked up from
there. -/
theorem Reaches.find (reaches : Reaches root passed above node)
    (found : node.find above names = .ok result) :
    ∃ aboveThen, Reaches root (pass passed names) aboveThen result ∧
      ∀ more, node.find above (names ++ more) = result.find aboveThen more := by
  induction names generalizing passed above node with
  | nil =>
      obtain rfl := Except.ok.inj found
      exact ⟨above, reaches, fun _ => rfl⟩
  | cons name names hypothesis =>
      cases node with
      | file => contradiction
      | directory entries =>
          by_cases back : name = ".."
          · subst back
            cases reaches with
            | root => exact hypothesis .root found
            | down before _ => exact hypothesis before found
          · rw [find_name back] at found
            split at found
            · contradiction
            · next short =>
                cases here : entries.lookup name with
                | none =>
                    rw [here] at found
                    contradiction
                | some entry =>
                    rw [here] at found
                    obtain ⟨aboveThen, reached, further⟩ := hypothesis (reaches.down here) found
                    refine ⟨aboveThen, ?_, fun more => ?_⟩
                    · simpa [pass, back] using reached
                    · rw [List.cons_append, find_down back short here, further]

/-- A walk that fails goes on failing, whatever names come after. -/
private theorem find_error {cause : Cause} (failed : node.find above names = .error cause)
    (more : List String) : node.find above (names ++ more) = .error cause := by
  induction names generalizing node above with
  | nil => cases failed
  | cons name names hypothesis =>
      cases node with
      | file => exact failed
      | directory entries =>
          by_cases back : name = ".."
          · subst back
            cases above <;> exact hypothesis failed
          · rw [find_name back] at failed
            rw [List.cons_append, find_name back]
            split
            · next long =>
                rw [if_pos long] at failed
                exact failed
            · next short =>
                rw [if_neg short] at failed
                cases here : entries.lookup name with
                | none => simpa [here] using failed
                | some entry =>
                    rw [here] at failed
                    exact hypothesis failed

/-- What names lead through is a directory. -/
theorem find_front {front : List String} (found : root.find [] (front ++ [name]) = .ok result) :
    ∃ entries, root.find [] front = .ok (.directory entries) := by
  cases through : root.find [] front with
  | error cause =>
      rw [find_error through] at found
      cases found
  | ok middle =>
      obtain ⟨_, _, further⟩ := Reaches.root.find through
      rw [further] at found
      cases middle with
      | file => cases found
      | directory entries => exact ⟨entries, rfl⟩

def Closed (root : Node) (target : List String) : Prop :=
  ∀ above entries, ¬ Reaches root target.reverse above (.directory entries)

theorem Closed.within (closed : Closed root target) (reaches : Reaches root passed above node) :
    ∀ rest, passed.reverse = target ++ rest → rest = [] := by
  intro rest same
  cases rest with
  | nil => rfl
  | cons first rest =>
      obtain rfl : passed = (first :: rest).reverse ++ target.reverse := by
        rw [← List.reverse_append, ← same, List.reverse_reverse]
      obtain ⟨_, _, passes⟩ := reaches.passes (by simp)
      exact absurd passes (closed _ _)

theorem Closed.becomes (closed : Closed root target) (here : Reaches root passed above node)
    (there : Reaches (root.put content target) passed aboveThere next) :
    Becomes content target passed node next := by
  obtain ⟨_, _, reached, becomes⟩ := here.put content (closed.within here)
  obtain ⟨-, rfl⟩ := there.unique reached
  exact becomes

/-- A directory that a walk reaches is still one after something was put elsewhere. -/
theorem Closed.directory_put (closed : Closed root target)
    (here : Reaches root passed above (.directory entries))
    (becomes : Becomes content target passed (.directory entries) next) :
    ∃ others, next = .directory others := by
  by_cases leads : passed.reverse <+: target
  · obtain ⟨rest, rfl⟩ := leads
    cases rest with
    | nil => exact absurd (by simpa using here) (closed above entries)
    | cons first rest => exact ⟨_, becomes.1 _ rfl⟩
  · exact ⟨entries, becomes.2 leads⟩

/-- Where nothing at a place is a directory, whatever is found is still reached by the same names
after something was put there. -/
theorem Closed.find_put (closed : Closed root target) (here : Reaches root passed above node)
    (there : Reaches (root.put content target) passed aboveThere next)
    (found : node.find above names = .ok result) :
    ∃ aboveThen nextThen, Reaches (root.put content target) (pass passed names) aboveThen nextThen ∧
      ∀ more, next.find aboveThere (names ++ more) = nextThen.find aboveThen more := by
  induction names generalizing passed above node aboveThere next with
  | nil => exact ⟨_, _, there, fun _ => rfl⟩
  | cons name names hypothesis =>
      cases node with
      | file => contradiction
      | directory entries =>
          by_cases back : name = ".."
          · subst back
            obtain ⟨others, made⟩ := closed.directory_put here (closed.becomes here there)
            cases here with
            | root =>
                cases there
                obtain ⟨aboveThen, nextThen, reached, further⟩ := hypothesis .root .root found
                refine ⟨aboveThen, nextThen, reached, fun more => ?_⟩
                rw [made] at further ⊢
                exact further more
            | down before _ =>
                subst made
                cases there with
                | down beforeThere _ => exact hypothesis before beforeThere found
          · rw [find_name back] at found
            split at found
            · contradiction
            · next short =>
                cases entry : entries.lookup name with
                | none =>
                    rw [entry] at found
                    contradiction
                | some child =>
                    rw [entry] at found
                    have below := here.down entry
                    obtain ⟨_, _, reached, _⟩ := below.put content (closed.within below)
                    cases reached with
                    | down beforeThere entryThere =>
                        obtain ⟨rfl, rfl⟩ := there.unique beforeThere
                        obtain ⟨aboveThen, nextThen, reached, further⟩ :=
                          hypothesis below (beforeThere.down entryThere) found
                        refine ⟨aboveThen, nextThen, ?_, fun more => ?_⟩
                        · simpa [pass, back] using reached
                        · rw [List.cons_append, find_down back short entryThere, further]

/-- What was found before is found as it is after something was put at a place. -/
theorem Closed.found_put (closed : Closed root target) (found : root.find [] names = .ok result)
    (content : Node) : ∃ above aboveThen next, Reaches root (pass [] names) above result ∧
      Becomes content target (pass [] names) result next ∧
      ∀ more, (root.put content target).find [] (names ++ more) = next.find aboveThen more := by
  obtain ⟨above, here, _⟩ := Reaches.root.find found
  obtain ⟨aboveThen, next, there, further⟩ := closed.find_put .root .root found
  exact ⟨above, aboveThen, next, here, closed.becomes here there, further⟩

end Node

end VisualNovel.Files
