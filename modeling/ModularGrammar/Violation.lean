import ModularGrammar.NameSet

/-! # Violations

What verification reports when a declared interface does not fit its grammar.

* `ViolationKind`: which check failed, in the order in which the checks run;
* `Violation`: a kind together with every offending name, `Violation.ofNames` being the one way in
  which verification makes one;
* `Violation.sorted`: the names in order, where repeats stand side by side and all but one can be dropped;
* `Violation.message`: the wording.
-/

set_option autoImplicit false

namespace ModularGrammar

/-- The checks, in the order in which they run. Only the first failure is reported. -/
inductive ViolationKind where
  /-- Two or more productions carry the name. -/
  | redefinition
  /-- The name is referenced, but neither defined nor imported. -/
  | missingImport
  /-- The import is defined in the grammar itself, or nothing refers to it. -/
  | uselessImport
  /-- The name is defined, but neither referenced nor exported. -/
  | missingExport
  /-- The export is referenced in the grammar itself, or nothing defines it. -/
  | uselessExport
deriving DecidableEq, Inhabited

namespace ViolationKind

def all : List ViolationKind :=
  [.redefinition, .missingImport, .uselessImport, .missingExport, .uselessExport]

def words : ViolationKind → String
  | .redefinition => "redefinition"
  | .missingImport => "missing import"
  | .uselessImport => "useless import"
  | .missingExport => "missing export"
  | .uselessExport => "useless export"

def tag : ViolationKind → String
  | .redefinition => "redefinition"
  | .missingImport => "missing-import"
  | .uselessImport => "useless-import"
  | .missingExport => "missing-export"
  | .uselessExport => "useless-export"

def ofTag? (word : String) : Option ViolationKind := all.find? fun kind => kind.tag == word

theorem ofTag?_tag (kind : ViolationKind) : ofTag? kind.tag = some kind := by
  cases kind <;> decide

end ViolationKind

structure Violation where
  kind : ViolationKind
  names : List String
deriving DecidableEq, Inhabited

namespace Violation

/-! ## Sorting names -/

/-- Puts a name before the first one of a sorted list that it does not come after. -/
def insertSorted (x : String) : List String → List String
  | [] => [x]
  | y :: ys => if x ≤ y then x :: y :: ys else y :: insertSorted x ys

/-- The names in ascending order, with their repeats. -/
def sorted (names : List String) : List String := names.foldr insertSorted []

theorem insertSorted_perm (x : String) (l : List String) : (insertSorted x l).Perm (x :: l) := by
  induction l with
  | nil => exact .refl _
  | cons y ys ih =>
    unfold insertSorted
    split
    · exact .refl _
    · exact (ih.cons y).trans (.swap x y ys)

theorem pairwise_insertSorted {x : String} {l : List String} (h : l.Pairwise (· ≤ ·)) :
    (insertSorted x l).Pairwise (· ≤ ·) := by
  induction l with
  | nil => simp [insertSorted]
  | cons y ys ih =>
    obtain ⟨hy, hys⟩ := List.pairwise_cons.1 h
    unfold insertSorted
    split
    next hxy =>
      refine List.pairwise_cons.2 ⟨fun z hz => ?_, h⟩
      rcases List.mem_cons.1 hz with e | e
      · exact e ▸ hxy
      · exact String.le_trans hxy (hy z e)
    next hxy =>
      have hyx : y ≤ x := (String.le_total x y).resolve_left hxy
      refine List.pairwise_cons.2 ⟨fun z hz => ?_, ih hys⟩
      rcases List.mem_cons.1 ((insertSorted_perm x ys).mem_iff.1 hz) with e | e
      · exact e ▸ hyx
      · exact hy z e

theorem sorted_perm (names : List String) : (sorted names).Perm names := by
  induction names with
  | nil => exact .refl _
  | cons x xs ih => exact (insertSorted_perm x (sorted xs)).trans (ih.cons x)

theorem pairwise_sorted (names : List String) : (sorted names).Pairwise (· ≤ ·) := by
  induction names with
  | nil => exact .nil
  | cons x xs ih => exact pairwise_insertSorted ih

/-! ## Keeping one of each run -/

-- Repeats that do not stand side by side stay.
example : ["b", "a", "a", "b"].eraseReps = ["b", "a", "b"] := by decide

theorem eraseReps_cons_self (x : String) (l : List String) :
    (x :: x :: l).eraseReps = (x :: l).eraseReps := by
  simp [List.eraseReps, List.eraseRepsBy, List.eraseRepsBy.loop]

/-- What a run is added to does not matter for how it goes on. -/
theorem eraseRepsBy_loop (x : String) (l acc : List String) :
    List.eraseRepsBy.loop (· == ·) x l acc =
      acc.reverse ++ List.eraseRepsBy.loop (· == ·) x l [] := by
  induction l generalizing x acc with
  | nil => simp [List.eraseRepsBy.loop]
  | cons y l ih =>
    simp only [List.eraseRepsBy.loop]
    split
    · exact ih x acc
    · rw [ih y (x :: acc), ih y [x], List.reverse_cons, List.append_assoc]
      rfl

theorem eraseReps_cons_of_ne {x y : String} (h : x ≠ y) (l : List String) :
    (x :: y :: l).eraseReps = x :: (y :: l).eraseReps := by
  have hne : (x == y) = false := by simpa using h
  simp only [List.eraseReps, List.eraseRepsBy, List.eraseRepsBy.loop, hne]
  exact eraseRepsBy_loop y l [x]

theorem mem_eraseReps {z : String} {l : List String} : z ∈ l.eraseReps ↔ z ∈ l := by
  induction l with
  | nil => exact Iff.rfl
  | cons x l ih =>
    cases l with
    | nil => exact Iff.rfl
    | cons y l =>
      by_cases h : x = y
      · subst h
        rw [eraseReps_cons_self, ih]
        simp
      · rw [eraseReps_cons_of_ne h, List.mem_cons, ih, ← List.mem_cons]

/-- In a sorted list all repeats of a name stand side by side, so no two of them are kept. -/
theorem ascending_eraseReps {l : List String} (h : l.Pairwise (· ≤ ·)) :
    l.eraseReps.Pairwise (· < ·) := by
  induction l with
  | nil => exact .nil
  | cons x l ih =>
    cases l with
    | nil => exact List.pairwise_singleton _ x
    | cons y l =>
      obtain ⟨hx, htail⟩ := List.pairwise_cons.1 h
      by_cases hxy : x = y
      · subst hxy
        rw [eraseReps_cons_self]
        exact ih htail
      · rw [eraseReps_cons_of_ne hxy]
        refine List.pairwise_cons.2 ⟨fun z hz => ?_, ih htail⟩
        have hlt : x < y := Std.lt_of_le_of_ne (hx y List.mem_cons_self) hxy
        rcases List.mem_cons.1 (mem_eraseReps.1 hz) with e | e
        · exact e ▸ hlt
        · exact Std.lt_of_lt_of_le hlt ((List.pairwise_cons.1 htail).1 z e)

/-! ## Violations of names -/

/-- The violation of the listed names, which may come in any order and repeat: it lists each of them
once, in ascending order. -/
def ofNames (kind : ViolationKind) (names : List String) : Violation :=
  ⟨kind, (sorted names).eraseReps⟩

@[simp] theorem mem_names_ofNames {kind : ViolationKind} {names : List String} {x : String} :
    x ∈ (ofNames kind names).names ↔ x ∈ names :=
  mem_eraseReps.trans (sorted_perm names).mem_iff

theorem ascending_names_ofNames (kind : ViolationKind) (names : List String) :
    (ofNames kind names).names.Pairwise (· < ·) :=
  ascending_eraseReps (pairwise_sorted names)

/-- Names that come as a set already are listed as they are. -/
theorem ofNames_toList (kind : ViolationKind) (s : NameSet) : ofNames kind s.toList = ⟨kind, s.toList⟩ := by
  have hnames : (ofNames kind s.toList).names = s.toList :=
    NameSet.eq_of_ascending (ascending_names_ofNames kind _) s.ascending fun _ => mem_names_ofNames
  exact congrArg (Violation.mk kind) hnames

/-! ## Wording -/

def message (v : Violation) : String := v.kind.words ++ ": " ++ ", ".intercalate v.names

end Violation

end ModularGrammar
