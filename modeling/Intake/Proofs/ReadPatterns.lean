import Intake.Proofs.Filters
import Intake.Proofs.PatternSearch

/-!
# Patterns that are read

The rule `pattern` accepts a string exactly if its pattern stands for a part of the string
(`pattern_decides`). Searching asks of a pattern that the bounds of its repetitions are in order
(`Pattern.Bounded`). Each part that is read keeps this for all that has been read, in the groups that are
still open as well (`Reading.Bounded.part?`), since a counted repetition with its bounds the other way round
is refused.
-/

set_option autoImplicit false

namespace Intake

namespace Pattern

/-! ## Rows and alternatives -/

/-- A row of bounded patterns is bounded. -/
theorem bounded_seqs {patterns : List Pattern} (each : ∀ pattern ∈ patterns, pattern.Bounded) :
    (seqs patterns).Bounded := by
  fun_induction seqs patterns with
  | case1 => trivial
  | case2 pattern => exact each pattern List.mem_cons_self
  | case3 pattern rest _ ih =>
    obtain ⟨first, others⟩ := List.forall_mem_cons.mp each
    exact ⟨first, ih others⟩

/-- A choice of bounded patterns is bounded. -/
theorem bounded_alts {patterns : List Pattern} (each : ∀ pattern ∈ patterns, pattern.Bounded) :
    (alts patterns).Bounded := by
  fun_induction alts patterns with
  | case1 => trivial
  | case2 pattern => exact each pattern List.mem_cons_self
  | case3 pattern rest _ ih =>
    obtain ⟨first, others⟩ := List.forall_mem_cons.mp each
    exact ⟨first, ih others⟩

/-! ## Groups -/

/-- The patterns of all parts of a group are bounded. -/
structure Branches.Bounded (branches : Branches) : Prop where
  /-- Those of the complete branches. -/
  complete : ∀ item ∈ branches.complete, item.pattern.Bounded
  /-- Those of the parts of the current branch. -/
  current : ∀ item ∈ branches.current, item.pattern.Bounded

namespace Branches.Bounded

variable {branches : Branches} {item : Item}

/-- A group begins without parts. -/
theorem start : Branches.Bounded {} :=
  ⟨nofun, nofun⟩

/-- A bounded part keeps the group bounded. -/
theorem push (bounded : branches.Bounded) (item_bounded : item.pattern.Bounded) :
    (branches.push item).Bounded :=
  ⟨bounded.complete, List.forall_mem_cons.mpr ⟨item_bounded, bounded.current⟩⟩

/-- The current branch is a bounded pattern. -/
theorem branch (bounded : branches.Bounded) : branches.branch.pattern.Bounded := by
  apply bounded_seqs
  intro pattern member
  obtain ⟨item, listed, rfl⟩ := List.mem_map.mp member
  exact bounded.current item (List.mem_reverse.mp listed)

/-- To begin another branch keeps the group bounded. -/
theorem nextBranch (bounded : branches.Bounded) : branches.nextBranch.Bounded :=
  ⟨List.forall_mem_cons.mpr ⟨bounded.branch, bounded.complete⟩, nofun⟩

/-- All branches together are a bounded pattern. -/
theorem whole (bounded : branches.Bounded) : branches.whole.pattern.Bounded := by
  apply bounded_alts
  intro pattern member
  obtain ⟨item, listed, rfl⟩ := List.mem_map.mp member
  rcases List.mem_cons.mp (List.mem_reverse.mp listed) with rfl | earlier
  · exact bounded.branch
  · exact bounded.complete item earlier

end Branches.Bounded

/-! ## Parts -/

/-- The patterns of all that has been read are bounded. -/
structure Reading.Bounded (reading : Reading) : Prop where
  /-- Those of the innermost group. -/
  branches : reading.branches.Bounded
  /-- Those of the groups around it. -/
  outer : ∀ group ∈ reading.outer, group.2.Bounded

/-- A set of characters has no repetition. -/
theorem bounded_chars (set : CharSet) : (Pattern.chars set).Bounded :=
  trivial

/-- An assertion has no repetition. -/
theorem bounded_assertion (condition : Assertion) : (Pattern.assertion condition).Bounded :=
  trivial

/-- An atom has no repetition. -/
theorem Atom.bounded_pattern (atom : Atom) (options : Options) : (atom.pattern options).Bounded := by
  cases atom with
  | literal c => exact bounded_chars _
  | set members => exact bounded_chars _
  | assertion condition => exact bounded_assertion condition

/-- A counted repetition has its bounds in order. -/
theorem least_le_of_bounds? {options : Options} {cs rest : List Char} {least : ℕ} {most : Option ℕ}
    (read : bounds? options cs = some ((least, most), rest)) : ∀ bound, most = some bound → least ≤ bound := by
  unfold bounds? at read
  obtain ⟨⟨first, cs⟩, -, read⟩ := Option.bind_eq_some_iff.mp read
  dsimp only at read
  split at read
  · cases read
    exact fun bound same => (Option.some.inj same).le
  · split at read
    · cases read
      exact nofun
    · obtain ⟨⟨second, cs⟩, -, read⟩ := Option.bind_eq_some_iff.mp read
      dsimp only at read
      split at read
      · split_ifs at read with ordered
        cases read
        exact fun bound same => Option.some.inj same ▸ ordered
      · cases read
  · cases read

namespace Reading.Bounded

variable {reading next : Reading} {c : Char} {cs rest : List Char}

/-- A bounded part keeps the reading bounded. -/
theorem push (bounded : reading.Bounded) {pattern : Pattern} (pattern_bounded : pattern.Bounded)
    (depth : ℕ) : (reading.push pattern depth).Bounded :=
  ⟨bounded.branches.push pattern_bounded, bounded.outer⟩

/-- To open a group keeps the reading bounded. -/
theorem openGroup (bounded : reading.Bounded) (options : Options) :
    (reading.openGroup options).Bounded :=
  ⟨.start, List.forall_mem_cons.mpr ⟨bounded.branches, bounded.outer⟩⟩

/-- To repeat the last part keeps the reading bounded, if the bounds of the repetition are in order. -/
theorem repeatLast? (bounded : reading.Bounded) {least : ℕ} {most : Option ℕ}
    (ordered : ∀ bound, most = some bound → least ≤ bound)
    (read : Pattern.repeatLast? reading least most = some next) : next.Bounded := by
  unfold Pattern.repeatLast? at read
  split at read
  · rename_i last before current
    split_ifs at read
    cases read
    obtain ⟨last_bounded, others⟩ := List.forall_mem_cons.mp (current ▸ bounded.branches.current)
    exact ⟨⟨bounded.branches.complete, List.forall_mem_cons.mpr ⟨⟨ordered, last_bounded⟩, others⟩⟩,
      bounded.outer⟩
  · cases read

/-- To open a group with a name keeps the reading bounded. -/
theorem namedGroup? (bounded : reading.Bounded)
    (read : Pattern.namedGroup? reading cs = some (next, rest)) : next.Bounded := by
  unfold Pattern.namedGroup? at read
  dsimp only at read
  split at read
  · split_ifs at read
    cases read
    have opened := bounded.openGroup reading.options
    exact ⟨opened.branches, opened.outer⟩
  · cases read

/-- To open a group of any kind keeps the reading bounded. -/
theorem group? (bounded : reading.Bounded) (read : Pattern.group? reading cs = some (next, rest)) :
    next.Bounded := by
  unfold Pattern.group? at read
  split at read
  iterate 4 cases read
  · exact bounded.namedGroup? read
  · exact bounded.namedGroup? read
  · split at read
    · cases read
      exact bounded.openGroup _
    · cases read
      exact ⟨bounded.branches.push trivial, bounded.outer⟩
    · cases read
  · cases read
    exact bounded.openGroup _

/-- To close a group keeps the reading bounded. -/
theorem closeGroup? (bounded : reading.Bounded) (read : Pattern.closeGroup? reading = some next) :
    next.Bounded := by
  unfold Pattern.closeGroup? at read
  split at read
  · rename_i options branches outer found
    cases read
    obtain ⟨around, others⟩ := List.forall_mem_cons.mp (found ▸ bounded.outer)
    exact ⟨around.push bounded.branches.whole, others⟩
  · cases read

/-- **One part more.** -/
theorem part? (bounded : reading.Bounded) (read : Pattern.part? reading c cs = some (next, rest)) :
    next.Bounded := by
  unfold Pattern.part? at read
  dsimp only at read
  -- One case for each character that begins a part, in the order in which they are tried.
  split at read
  · exact bounded.group? read
  · obtain ⟨closed, closed_ok, same⟩ := Option.map_eq_some_iff.mp read
    cases same
    exact bounded.closeGroup? closed_ok
  · cases read
    exact ⟨bounded.branches.nextBranch, bounded.outer⟩
  · obtain ⟨⟨members, depth, rest⟩, -, same⟩ := Option.map_eq_some_iff.mp read
    cases same
    exact bounded.push (Pattern.bounded_chars members) depth
  · obtain ⟨repeated, repeated_ok, same⟩ := Option.map_eq_some_iff.mp read
    cases same
    exact bounded.repeatLast? (fun bound _ => bound.zero_le) repeated_ok
  · obtain ⟨repeated, repeated_ok, same⟩ := Option.map_eq_some_iff.mp read
    cases same
    exact bounded.repeatLast? (by simp) repeated_ok
  · obtain ⟨repeated, repeated_ok, same⟩ := Option.map_eq_some_iff.mp read
    cases same
    exact bounded.repeatLast? (by simp) repeated_ok
  · obtain ⟨⟨⟨least, most⟩, rest⟩, bounds_ok, read⟩ := Option.bind_eq_some_iff.mp read
    obtain ⟨repeated, repeated_ok, same⟩ := Option.bind_eq_some_iff.mp read
    cases same
    exact bounded.repeatLast? (least_le_of_bounds? bounds_ok) repeated_ok
  · obtain ⟨⟨atom, rest⟩, -, same⟩ := Option.map_eq_some_iff.mp read
    cases same
    exact bounded.push (atom.bounded_pattern _) 0
  · obtain ⟨members, -, same⟩ := Option.map_eq_some_iff.mp read
    cases same
    exact bounded.push (Pattern.bounded_chars members) 0
  · cases read
    exact bounded.push (Pattern.bounded_assertion _) 0
  · cases read
    exact bounded.push (Pattern.bounded_assertion _) 0
  · cases read
    exact bounded.push (Atom.bounded_pattern _ _) 0

end Reading.Bounded

/-- What is read to the end of the text is bounded: by induction on the steps of the reader. -/
theorem bounded_of_parts? {bound : ℕ} {reading : Reading} {cs : List Char} {whole : Item}
    (bounded : reading.Bounded) (read : parts? bound reading cs = some whole) : whole.pattern.Bounded := by
  induction bound generalizing reading cs with
  | zero => cases read
  | succ bound ih =>
    unfold parts? at read
    split at read
    · split_ifs at read
      cases read
      exact bounded.branches.whole
    · split at read
      · rename_i part_ok
        exact ih (bounded.part? part_ok) read
      · cases read

/-- **Patterns that are read are bounded.** -/
theorem bounded_of_read? {s : String} {pattern : Pattern} (read : read? s = some pattern) :
    pattern.Bounded := by
  have start : Reading.Bounded {} := ⟨.start, nofun⟩
  unfold read? at read
  dsimp only at read
  split at read
  · rename_i whole whole_ok
    split_ifs at read
    cases read
    exact bounded_of_parts? start whole_ok
  · cases read

end Pattern

/-! ## The rule -/

/-- The rule `pattern` decides as the search does, with any engine. -/
theorem Keyword.pattern_decides_isFound [Engines] {source : String} {isFound : String → Bool}
    (search : Engines.search source = .ok isFound) (s : String) :
    Keyword.pattern.Decides (.string source) (.string s) (isFound s = true) := by
  have made : Keyword.pattern.constraint (.string source) = .ok (.pattern source isFound) := by
    simp [Keyword.constraint, Keyword.stringParam, Except.bind, Keyword.matchingPattern, search, Except.map]
  rw [Keyword.decides_iff made]
  exact Iff.rfl

/-- **Patterns are searched for.** The rule `pattern`, made in any schema with a text that denotes a pattern,
lets a string through if the pattern stands for some part of it at the place where this part is, and
otherwise refuses it. -/
theorem pattern_decides {source : String} {pattern : Pattern} (read : Pattern.read? source = some pattern)
    (s : String) :
    Keyword.pattern.Decides (.string source) (.string s)
      (∃ past text rest, s.toList = past ++ (text ++ rest) ∧
        pattern.meaning past.getLast? text rest) := by
  have search : Engines.search source = .ok pattern.isFoundIn := by
    simp only [Engines.search, read]
  rw [← Pattern.isFoundIn_iff (Pattern.bounded_of_read? read) s]
  exact Keyword.pattern_decides_isFound search s

end Intake
