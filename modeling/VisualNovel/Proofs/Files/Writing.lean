import VisualNovel.Proofs.Files.Walking

/-!
# What is written is there

A file is written where there is one already, or where there is nothing in a
directory. It is read as it was written, and the directories that lead to it are
there afterwards.
-/

set_option autoImplicit false

namespace VisualNovel.Files

namespace Node

variable {root result : Node} {above : List Node} {names : List String}
  {entries : List (String × Node)} {name : String}

/-! ## Vacant places -/

/-- Names lead to a file, or to nothing that a directory could not hold. -/
inductive Vacant (root : Node) : List String → Prop where
  | taken {names : List String} {octets : List UInt8} :
      root.find [] names = .ok (.file octets) → Vacant root names
  | missing {front : List String} {name : String} {entries : List (String × Node)} :
      root.find [] front = .ok (.directory entries) →
      root.find [] (front ++ [name]) = .error .noSuchFile → Vacant root (front ++ [name])

private theorem missing_name
    (missing : (Node.directory entries).find above [name] = .error .noSuchFile) :
    name ≠ ".." ∧ ¬ nameLimit < name.utf8ByteSize ∧ entries.lookup name = none := by
  by_cases back : name = ".."
  · subst back
    cases above <;> contradiction
  · rw [find_name back] at missing
    refine ⟨back, ?_⟩
    split at missing
    · cases missing
    · next short =>
        cases here : entries.lookup name with
        | none => exact ⟨short, rfl⟩
        | some entry =>
            rw [here] at missing
            cases missing

/-- What is vacant holds no directory, with double dots taken out. -/
theorem Vacant.closed (vacant : Vacant root names) : Closed root (plainNames names) := by
  intro aboveHere here reaches
  rw [reverse_plainNames] at reaches
  cases vacant with
  | taken found =>
      obtain ⟨_, reached, _⟩ := Reaches.root.find found
      exact nomatch (reaches.unique reached).2
  | missing found missing =>
      obtain ⟨_, reached, further⟩ := Reaches.root.find found
      rw [further] at missing
      obtain ⟨other, _, absent⟩ := missing_name missing
      rw [pass_concat other] at reaches
      cases reaches with
      | down before there =>
          obtain ⟨-, same⟩ := before.unique reached
          cases same
          exact nomatch absent.symm.trans there

/-- What is put at a vacant place is found there. -/
theorem Vacant.find_put (vacant : Vacant root names) (content : Node) :
    (root.put content (plainNames names)).find [] names = .ok content := by
  have closed := vacant.closed
  cases vacant with
  | taken found =>
      obtain ⟨_, _, next, _, becomes, further⟩ := closed.found_put found content
      have here := further []
      have same : next = content := becomes.1 [] (by simp [← reverse_plainNames])
      rw [List.append_nil] at here
      rw [here, same]
      rfl
  | @missing front name entries found missing =>
      obtain ⟨_, _, beyond⟩ := Reaches.root.find found
      rw [beyond] at missing
      obtain ⟨other, short, absent⟩ := missing_name missing
      obtain ⟨_, _, next, _, becomes, further⟩ := closed.found_put found content
      have last : plainNames (front ++ [name]) = (pass [] front).reverse ++ [name] := by
        rw [← List.reverse_cons, ← pass_concat other]
        rfl
      have same : next = .directory (setEntry name content entries) := by
        rw [becomes.1 [name] last, Node.put, Node.put]
      rw [further, same, find_down other short (by rw [lookup_setEntry, if_pos rfl])]
      rfl

/-- A directory that holds a vacant place still does after something was put there. -/
theorem Vacant.front_put {front : List String} (vacant : Vacant root (front ++ [name]))
    (content : Node) : ∃ entries, (root.put content (plainNames (front ++ [name]))).find [] front =
      .ok (.directory entries) := by
  have closed := vacant.closed
  obtain ⟨entries, found⟩ : ∃ entries, root.find [] front = .ok (.directory entries) := by
    generalize names_eq : front ++ [name] = names at vacant
    cases vacant with
    | taken found => exact find_front (names_eq ▸ found)
    | missing found _ =>
        obtain ⟨rfl, -⟩ := List.append_inj' names_eq rfl
        exact ⟨_, found⟩
  obtain ⟨_, _, next, here, becomes, further⟩ := closed.found_put found content
  obtain ⟨others, rfl⟩ := closed.directory_put here becomes
  have there := further []
  rw [List.append_nil] at there
  exact ⟨others, there⟩

end Node

/-! ## Files -/

structure Path.Fine (path : Path) : Prop where
  plain : holdsNull path.toString = false
  short : ¬ pathLimit ≤ path.toString.utf8ByteSize

namespace Tree

variable {tree after : Tree} {path : Path} {octets : List UInt8} {node : Node} {name : String}
  {entries : List (String × Node)}

private theorem find_of_fine (fine : path.Fine) : tree.find path =
    (tree.root.find [] (tree.namesOf path)).mapError fun cause =>
      .failed cause path.toString := by
  unfold Tree.find
  simp only [fine.plain, Bool.false_eq_true, if_false, fine.short]

/-- Only what can be looked up is found or missed. -/
theorem fine_of_find (found : (∃ node, tree.find path = .ok node) ∨
    ∃ text, tree.find path = .error (.failed .noSuchFile text)) : path.Fine := by
  cases null : holdsNull path.toString with
  | true => simp [Tree.find, null] at found
  | false =>
      refine ⟨null, fun long => ?_⟩
      simp [Tree.find, null, long] at found

theorem find_ok_iff (fine : path.Fine) : tree.find path = .ok node ↔
    tree.root.find [] (tree.namesOf path) = .ok node := by
  rw [find_of_fine fine]
  cases tree.root.find [] (tree.namesOf path) with
  | error cause => exact ⟨nofun, nofun⟩
  | ok found =>
      show Except.ok found = .ok node ↔ Except.ok found = .ok node
      rw [Except.ok.injEq, Except.ok.injEq]

private theorem find_missing_iff (fine : path.Fine) {text : String} :
    tree.find path = .error (.failed .noSuchFile text) ↔
      tree.root.find [] (tree.namesOf path) = .error .noSuchFile ∧ text = path.toString := by
  rw [find_of_fine fine]
  cases tree.root.find [] (tree.namesOf path) with
  | error cause =>
      show Except.error (FileError.failed cause path.toString) = .error (.failed .noSuchFile text) ↔
        Except.error cause = .error .noSuchFile ∧ text = path.toString
      simp [eq_comm]
  | ok found => exact ⟨nofun, fun missing => nomatch missing.1⟩

private theorem parent_eq_self (nameless : path.names = []) : path.parent = path := by
  obtain ⟨anchor, names⟩ := path
  obtain rfl : names = [] := nameless
  rfl

private theorem namesOf_parent (tree : Tree) {front : List String}
    (names : path.names = front ++ [name]) :
    ∃ before, tree.namesOf path = before ++ [name] ∧ tree.namesOf path.parent = before := by
  have anchored : path.parent.isAbsolute = path.isAbsolute := rfl
  have left : path.parent.names = front := by simp [Path.parent, names]
  unfold namesOf
  rw [anchored, left, names]
  split
  · exact ⟨_, rfl, rfl⟩
  · exact ⟨tree.current ++ front, by simp, rfl⟩

/-- A file is written at a place that is vacant. -/
theorem vacant_of_write (written : tree.write path octets = .ok after) :
    path.Fine ∧ tree.root.Vacant (tree.namesOf path) ∧ after = tree.put path (.file octets) := by
  unfold write at written
  cases found : tree.find path with
  | ok node =>
      have fine := fine_of_find (.inl ⟨node, found⟩)
      rw [found] at written
      cases node with
      | directory entries => cases written
      | file old =>
          exact ⟨fine, .taken ((find_ok_iff fine).mp found), (Except.ok.inj written).symm⟩
  | error error =>
      rw [found] at written
      split at written
      · contradiction
      · contradiction
      · next text missed =>
          cases missed
          have fine := fine_of_find (.inr ⟨_, found⟩)
          obtain ⟨missing, -⟩ := (find_missing_iff fine).mp found
          split at written
          · next entries there =>
              have fineParent := fine_of_find (.inl ⟨_, there⟩)
              refine ⟨fine, ?_, (Except.ok.inj written).symm⟩
              rcases List.eq_nil_or_concat path.names with nameless | ⟨front, name, names⟩
              · rw [parent_eq_self nameless, found] at there
                cases there
              · rw [List.concat_eq_append] at names
                obtain ⟨before, whole, above⟩ := tree.namesOf_parent names
                rw [whole] at missing ⊢
                exact .missing (above ▸ (find_ok_iff fineParent).mp there) missing
          · cases written
      · cases written

theorem find_write (written : tree.write path octets = .ok after) :
    after.find path = .ok (.file octets) := by
  obtain ⟨fine, vacant, rfl⟩ := vacant_of_write written
  exact (find_ok_iff fine).mpr (vacant.find_put _)

/-- What was written is read. -/
theorem read_write (written : tree.write path octets = .ok after) :
    after.read path = .ok octets := by
  unfold read
  rw [find_write written]
  rfl

theorem exists_write (written : tree.write path octets = .ok after) :
    after.exists path = .ok true := by
  unfold «exists»
  rw [find_write written]

/-- What was written can be written over. -/
theorem write_again (written : tree.write path octets = .ok after) (others : List UInt8) :
    ∃ again, after.write path others = .ok again := by
  unfold write
  rw [find_write written]
  exact ⟨_, rfl⟩

/-! ## Directories -/

variable {middle : Tree} {count : Nat}

private theorem makeDirectories_of_find (there : tree.find path = .ok (.directory entries))
    (count : Nat) :
    tree.makeDirectories path (count + 1) = .ok tree := by
  unfold makeDirectories ensureDirectory makeDirectory
  simp only [there]

private theorem fine_of_makeDirectories (made : tree.makeDirectories path (count + 1) = .ok after) :
    path.Fine := by
  cases found : tree.find path with
  | ok node => exact fine_of_find (.inl ⟨node, found⟩)
  | error error =>
      unfold makeDirectories ensureDirectory makeDirectory at made
      simp only [found] at made
      cases error with
      | failed cause text =>
          cases cause with
          | noSuchFile => exact fine_of_find (.inr ⟨text, found⟩)
          | «exists» | notADirectory | isADirectory | nameTooLong => cases made
      | nullCharacter | notAPath => cases made

/-- No directory is made of a path that is its own parent: it has to be one already. -/
theorem find_of_makeDirectories_self (self : path.parent = path)
    (made : tree.makeDirectories path (count + 1) = .ok after) :
    ∃ entries, after.find path = .ok (.directory entries) := by
  unfold makeDirectories ensureDirectory makeDirectory at made
  simp only [self, if_true] at made
  cases found : tree.find path with
  | ok node =>
      rw [found] at made
      cases node with
      | directory entries =>
          obtain rfl := Except.ok.inj made
          exact ⟨entries, found⟩
      | file => cases made
  | error error =>
      rw [found] at made
      cases error with
      | failed cause text => cases cause <;> cases made
      | nullCharacter | notAPath => cases made

/-- Once a file was written, the directories that lead to it are there. -/
theorem makeDirectories_write (made : tree.makeDirectories path.parent (count + 1) = .ok middle)
    (written : middle.write path octets = .ok after) (others : Nat) :
    after.makeDirectories path.parent (others + 1) = .ok after := by
  have fine := fine_of_makeDirectories made
  obtain ⟨_, vacant, rfl⟩ := vacant_of_write written
  rcases List.eq_nil_or_concat path.names with nameless | ⟨front, name, names⟩
  · have self := parent_eq_self nameless
    rw [self] at made
    obtain ⟨entries, there⟩ := find_of_makeDirectories_self (by rw [self]) made
    simp [write, there] at written
  · rw [List.concat_eq_append] at names
    obtain ⟨before, whole, above⟩ := middle.namesOf_parent names
    rw [whole] at vacant
    obtain ⟨entries, found⟩ := vacant.front_put (.file octets)
    have there : (middle.put path (.file octets)).root.find [] (middle.namesOf path.parent) =
        .ok (.directory entries) := by
      rw [above, put, whole, found]
    exact makeDirectories_of_find ((find_ok_iff fine).mpr there) others

end Tree

end VisualNovel.Files
