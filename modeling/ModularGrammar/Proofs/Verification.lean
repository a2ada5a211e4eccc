import ModularGrammar.Proofs.Occurrence

/-! # What verification answers

Each check has its set of offending names, written with the definitions and references of the grammar and
the declared names. Verification reports the first check whose set has a member, with all of that set.

* `ViolationKind.place`: the order of the checks;
* `Grammar.offenders`: the five sets;
* `Violation.Reports`: what it is to report the first of a family of sets that has a member;
* `Grammar.verify_iff_offenders`: the answer of verification for every grammar and every declaration.
-/

set_option autoImplicit false

namespace ModularGrammar

/-! ## The order of the checks -/

namespace ViolationKind

/-- The place of a check among the five. -/
def place : ViolationKind → Nat
  | .redefinition => 0
  | .missingImport => 1
  | .uselessImport => 2
  | .missingExport => 3
  | .uselessExport => 4

theorem place_injective {kind kind' : ViolationKind} (h : kind.place = kind'.place) : kind = kind' := by
  cases kind <;> cases kind' <;> first | rfl | cases h

theorem mem_all (kind : ViolationKind) : kind ∈ all := by
  cases kind <;> decide

theorem all_ascending : all.Pairwise fun kind kind' => kind.place < kind'.place := by
  decide

/-- A search through the checks stops at the first that fits. -/
theorem find?_all_eq_some {f : ViolationKind → Bool} {kind : ViolationKind}
    (h : all.find? f = some kind) :
    f kind = true ∧ ∀ earlier : ViolationKind, earlier.place < kind.place → f earlier = false := by
  obtain ⟨hkind, before, after, hall, hbefore⟩ := List.find?_eq_some_iff_append.1 h
  refine ⟨hkind, ?_⟩
  intro earlier hlt
  have hsorted := all_ascending
  rw [hall, List.pairwise_append, List.pairwise_cons] at hsorted
  have hmem := mem_all earlier
  rw [hall, List.mem_append, List.mem_cons] at hmem
  rcases hmem with hmem | rfl | hmem
  · simpa using hbefore earlier hmem
  · omega
  · have hgt := hsorted.2.1.1 earlier hmem
    omega

end ViolationKind

/-! ## Offending names -/

namespace Grammar

/-- The names that offend against a check. -/
def offenders (g : Grammar) (declared : Interface) : ViolationKind → Set String
  | .redefinition => g.repeated
  | .missingImport => g.references \ (declared.imports.members ∪ g.definitions)
  | .uselessImport =>
      (declared.imports.members ∩ g.definitions) ∪ (declared.imports.members \ g.references)
  | .missingExport => g.definitions \ (g.references ∪ declared.exports.members)
  | .uselessExport =>
      (declared.exports.members ∩ g.references) ∪ (declared.exports.members \ g.definitions)

theorem members_offending (g : Grammar) (declared : Interface) (kind : ViolationKind) :
    (g.offending declared kind).members = g.offenders declared kind := by
  ext x
  cases kind with
  | redefinition => exact mem_redefined_iff
  | missingImport =>
    simp [offending, offenders, NameSet.contains, mem_names_iff, mem_referenced_iff]
  | uselessImport =>
    simp [offending, offenders, NameSet.contains, mem_names_iff, mem_referenced_iff, and_or_left]
  | missingExport =>
    simp [offending, offenders, NameSet.contains, mem_names_iff, mem_referenced_iff]
  | uselessExport =>
    simp [offending, offenders, NameSet.contains, mem_names_iff, mem_referenced_iff, and_or_left]

theorem offending_isEmpty_iff (g : Grammar) (declared : Interface) (kind : ViolationKind) :
    (g.offending declared kind).isEmpty = true ↔ g.offenders declared kind = ∅ := by
  rw [NameSet.isEmpty_iff, ← members_offending, Set.eq_empty_iff_forall_notMem]
  rfl

end Grammar

/-! ## Reports -/

/-- The violation is of the first kind whose set has a member, and it lists that set, each name once and
in ascending order. -/
structure Violation.Reports (v : Violation) (offenders : ViolationKind → Set String) : Prop where
  nonempty : (offenders v.kind).Nonempty
  first : ∀ earlier : ViolationKind, earlier.place < v.kind.place → offenders earlier = ∅
  ascending : v.names.Pairwise (· < ·)
  mem_names : ∀ x, x ∈ v.names ↔ x ∈ offenders v.kind

/-- There is at most one report of a family of sets. -/
theorem Violation.Reports.unique {v w : Violation} {offenders : ViolationKind → Set String}
    (hv : v.Reports offenders) (hw : w.Reports offenders) : v = w := by
  have hle : ∀ {u u' : Violation}, u.Reports offenders → u'.Reports offenders →
      u.kind.place ≤ u'.kind.place := by
    intro u u' hu hu'
    by_contra hlt
    have hempty := hu.first u'.kind (by omega)
    exact hu'.nonempty.ne_empty hempty
  have hkind : v.kind = w.kind :=
    ViolationKind.place_injective (Nat.le_antisymm (hle hv hw) (hle hw hv))
  have hnames : v.names = w.names := by
    apply NameSet.eq_of_ascending hv.ascending hw.ascending
    intro x
    rw [hv.mem_names, hw.mem_names, hkind]
  obtain ⟨kind, names⟩ := v
  obtain ⟨kind', names'⟩ := w
  cases hkind
  cases hnames
  rfl

namespace Grammar
variable {g : Grammar} {declared : Interface}

theorem verify_eq_ok_iff {result : Grammar} :
    g.verify declared = .ok result ↔ result = g ∧ ∀ kind, g.offenders declared kind = ∅ := by
  rw [verify_eq]
  split
  next hnone =>
    have hall : ∀ kind, g.offenders declared kind = ∅ := by
      intro kind
      have h := List.find?_eq_none.1 hnone kind (ViolationKind.mem_all kind)
      exact (g.offending_isEmpty_iff declared kind).1 (by simpa using h)
    rw [Except.ok.injEq]
    exact ⟨fun h => ⟨h.symm, hall⟩, fun h => h.1.symm⟩
  next kind hsome =>
    have hkind := (ViolationKind.find?_all_eq_some hsome).1
    constructor
    · intro h
      cases h
    · intro hresult
      obtain ⟨-, hall⟩ := hresult
      rw [(g.offending_isEmpty_iff declared kind).2 (hall kind)] at hkind
      cases hkind

theorem reports_of_verify_eq_error {v : Violation} (h : g.verify declared = .error v) :
    v.Reports (g.offenders declared) := by
  rw [verify_eq] at h
  split at h
  next => cases h
  next kind hsome =>
    obtain ⟨hkind, hearlier⟩ := ViolationKind.find?_all_eq_some hsome
    cases h
    refine ⟨?_, ?_, Violation.ascending_names_ofNames kind _, ?_⟩
    · rw [Set.nonempty_iff_ne_empty]
      intro hempty
      have h := (g.offending_isEmpty_iff declared kind).2 hempty
      simp [h] at hkind
    · intro earlier hlt
      exact (g.offending_isEmpty_iff declared earlier).1 (by simpa using hearlier earlier hlt)
    · intro x
      rw [Violation.mem_names_ofNames, NameSet.mem_toList, ← NameSet.mem_members, members_offending]
      rfl

theorem verify_eq_error_iff {v : Violation} :
    g.verify declared = .error v ↔ v.Reports (g.offenders declared) := by
  constructor
  · exact reports_of_verify_eq_error
  · intro hv
    cases hverify : g.verify declared with
    | ok result =>
      have hempty := (verify_eq_ok_iff.1 hverify).2 v.kind
      exact absurd hempty hv.nonempty.ne_empty
    | error w => rw [hv.unique (reports_of_verify_eq_error hverify)]

/-- Verification gives the grammar itself when no check has an offending name, and otherwise the report of
the first check that has one. -/
theorem verify_iff_offenders (g : Grammar) (declared : Interface) :
    (∀ result, g.verify declared = .ok result ↔
      result = g ∧ ∀ kind, g.offenders declared kind = ∅) ∧
    ∀ v, g.verify declared = .error v ↔ v.Reports (g.offenders declared) :=
  ⟨fun _ => verify_eq_ok_iff, fun _ => verify_eq_error_iff⟩

end Grammar

end ModularGrammar
