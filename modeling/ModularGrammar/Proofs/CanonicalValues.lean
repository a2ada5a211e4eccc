import ModularGrammar.Proofs.CheckLines

/-! # Values made of names

Violations and interfaces are made from lists of names. Neither the order of a list nor its repeats can be
told from the value, and lists of other names make another value.

* `NameSet.ofList_eq_iff`, `Interface.ofLists_eq_iff`, `Violation.ofNames_eq_iff`: the lists that make the
  same value;
* `Grammar.eq_ofNames_of_verify_eq_error`: what verification returns is made from any list of the offending
  names;
* `Violation.message_inj`: violations that read alike are the same;
* `Violation.values_canonical`: all of these.
-/

set_option autoImplicit false

namespace ModularGrammar

/-! ## Lists that make the same value -/

theorem NameSet.ofList_eq_iff {l m : List String} : ofList l = ofList m ↔ ∀ x, x ∈ l ↔ x ∈ m := by
  constructor
  · intro h x
    rw [← mem_ofList, h, mem_ofList]
  · intro h
    ext x
    rw [mem_ofList, mem_ofList, h x]

theorem Interface.ofLists_eq_iff {imports imports' exports exports' : List String} :
    ofLists imports exports = ofLists imports' exports' ↔
      (∀ x, x ∈ imports ↔ x ∈ imports') ∧ ∀ x, x ∈ exports ↔ x ∈ exports' := by
  rw [ofLists, ofLists, Interface.mk.injEq, NameSet.ofList_eq_iff, NameSet.ofList_eq_iff]

namespace Violation
variable {kind kind' : ViolationKind} {names names' : List String}

theorem ofNames_eq_iff :
    ofNames kind names = ofNames kind' names' ↔ kind = kind' ∧ ∀ x, x ∈ names ↔ x ∈ names' := by
  constructor
  · intro h
    refine ⟨congrArg Violation.kind h, fun x => ?_⟩
    rw [← @mem_names_ofNames kind names, h, mem_names_ofNames]
  · rintro ⟨rfl, h⟩
    -- Both lists are ascending, and an ascending list is determined by its members.
    have hnames : (ofNames kind names).names = (ofNames kind names').names := by
      apply NameSet.eq_of_ascending (ascending_names_ofNames kind names)
        (ascending_names_ofNames kind names')
      intro x
      rw [mem_names_ofNames, mem_names_ofNames, h x]
    exact congrArg (Violation.mk kind) hnames

theorem ofNames_names_ofNames : ofNames kind (ofNames kind names).names = ofNames kind names :=
  ofNames_eq_iff.2 ⟨rfl, fun _ => mem_names_ofNames⟩

end Violation

/-! ## What verification returns -/

theorem Grammar.eq_ofNames_of_verify_eq_error {g : Grammar} {declared : Interface} {v : Violation}
    {names : List String} (hverify : g.verify declared = .error v)
    (hnames : ∀ x, x ∈ names ↔ x ∈ g.offenders declared v.kind) : v = .ofNames v.kind names := by
  have hreports := reports_of_verify_eq_error hverify
  have hmade : (Violation.ofNames v.kind names).Reports (g.offenders declared) := by
    refine ⟨hreports.nonempty, hreports.first, Violation.ascending_names_ofNames v.kind names, ?_⟩
    intro x
    exact Violation.mem_names_ofNames.trans (hnames x)
  exact hreports.unique hmade

/-! ## Messages -/

namespace Violation

/-- The kind and the names are read back from a message, so that another violation has another one. -/
theorem message_inj {v w : Violation} (hv : v.names ≠ []) (hw : w.names ≠ [])
    (hnames : ∀ x ∈ v.names ++ w.names, ¬ [',', ' '] <:+: x.toList) :
    v.message = w.message ↔ v = w := by
  constructor
  · intro h
    have hread := readVerdict?_message hv fun x hx => hnames x (List.mem_append_left _ hx)
    rw [h, readVerdict?_message hw fun x hx => hnames x (List.mem_append_right _ hx)] at hread
    cases hread
    rfl
  · rintro rfl
    rfl

-- No names read like one empty name, and a name that holds the separator like two names.
example : (⟨.missingImport, []⟩ : Violation).message = (⟨.missingImport, [""]⟩ : Violation).message ∧
    (⟨.missingImport, ["a, b"]⟩ : Violation).message = (⟨.missingImport, ["a", "b"]⟩ : Violation).message := by
  decide

/-! ## Canonical values -/

/-- A violation lists the names that it is made from, each once and in ascending order, so that it is the
same just for the same kind and the same names, and is made again from its own names. Likewise an interface
is the same just for the same imports and the same exports. What verification returns is made from the
offending names, in whatever order and however often they are listed. And violations of some names, none of
which holds the separator, are the same just if their messages are. -/
theorem values_canonical :
    (∀ kind names, (ofNames kind names).kind = kind ∧ (ofNames kind names).names.Pairwise (· < ·) ∧
      ∀ x, x ∈ (ofNames kind names).names ↔ x ∈ names) ∧
    (∀ kind kind' names names', ofNames kind names = ofNames kind' names' ↔
      kind = kind' ∧ ∀ x, x ∈ names ↔ x ∈ names') ∧
    (∀ kind names, ofNames kind (ofNames kind names).names = ofNames kind names) ∧
    (∀ imports imports' exports exports',
      Interface.ofLists imports exports = Interface.ofLists imports' exports' ↔
        (∀ x, x ∈ imports ↔ x ∈ imports') ∧ ∀ x, x ∈ exports ↔ x ∈ exports') ∧
    (∀ (g : Grammar) declared v names, g.verify declared = .error v →
      (∀ x, x ∈ names ↔ x ∈ g.offenders declared v.kind) → v = ofNames v.kind names) ∧
    ∀ v w : Violation, v.names ≠ [] → w.names ≠ [] →
      (∀ x ∈ v.names ++ w.names, ¬ [',', ' '] <:+: x.toList) → (v = w ↔ v.message = w.message) := by
  refine ⟨?_, ?_, ?_, ?_, ?_, ?_⟩
  · intro kind names
    exact ⟨rfl, ascending_names_ofNames kind names, fun x => mem_names_ofNames⟩
  · intro kind kind' names names'
    exact ofNames_eq_iff
  · intro kind names
    exact ofNames_names_ofNames
  · intro imports imports' exports exports'
    exact Interface.ofLists_eq_iff
  · intro g declared v names hverify hnames
    exact Grammar.eq_ofNames_of_verify_eq_error hverify hnames
  · intro v w hv hw hnames
    exact (message_inj hv hw hnames).symm

/-- Two names are missing, and one of them is listed first and last. In the messages names that hold a comma
or a blank alone come apart. -/
theorem values_canonical_of_missing_imports :
    (⟨[⟨"A", [.ref "C", .seq [.ref "B", .ref "C"]]⟩]⟩ : Grammar).verify ∅ =
      .error ⟨.missingImport, ["B", "C"]⟩ ∧
    (∀ x, x ∈ ["C", "B", "C"] ↔
      x ∈ (⟨[⟨"A", [.ref "C", .seq [.ref "B", .ref "C"]]⟩]⟩ : Grammar).offenders ∅ .missingImport) ∧
    (⟨.missingImport, ["B", "C"]⟩ : Violation) = ofNames .missingImport ["C", "B", "C"] ∧
    (∀ x ∈ ["a,", " b"] ++ ["a", ",", "b"], ¬ [',', ' '] <:+: x.toList) ∧
    (⟨.uselessExport, ["a,", " b"]⟩ : Violation).message ≠
      (⟨.uselessExport, ["a", ",", "b"]⟩ : Violation).message := by
  have hverify : (⟨[⟨"A", [.ref "C", .seq [.ref "B", .ref "C"]]⟩]⟩ : Grammar).verify ∅ =
      .error ⟨.missingImport, ["B", "C"]⟩ := rfl
  have hnames : ∀ x, x ∈ ["C", "B", "C"] ↔
      x ∈ (⟨[⟨"A", [.ref "C", .seq [.ref "B", .ref "C"]]⟩]⟩ : Grammar).offenders ∅ .missingImport := by
    intro x
    have hlisted := (Grammar.reports_of_verify_eq_error hverify).mem_names x
    rw [← hlisted]
    simp only [List.mem_cons, List.not_mem_nil, or_false]
    grind
  have hapart : ∀ x ∈ ["a,", " b"] ++ ["a", ",", "b"], ¬ [',', ' '] <:+: x.toList := by decide
  obtain ⟨-, -, -, -, hreturned, hread⟩ := values_canonical
  refine ⟨hverify, hnames, hreturned _ _ _ _ hverify hnames, hapart, ?_⟩
  rw [ne_eq, ← hread ⟨.uselessExport, ["a,", " b"]⟩ ⟨.uselessExport, ["a", ",", "b"]⟩ (by decide)
    (by decide) hapart]
  decide

end Violation

end ModularGrammar
