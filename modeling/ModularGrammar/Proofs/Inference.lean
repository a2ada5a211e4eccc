import Mathlib.Order.BooleanAlgebra.Set
import ModularGrammar.Catalog
import ModularGrammar.Proofs.Verification
import ModularGrammar.Report

/-! # Verification against the inferred interface

The inferred interface of a grammar is the only one that fits it, and what verification reports of any
other declaration is a difference of the two.

* `Interface.drift`: what a declaration lacks or has too much of, by the check that reports it;
* `Grammar.offenders_eq_drift`: over distinct names the offending names are the drift from the inferred
  interface;
* `Grammar.verify_eq_ok_iff_infer`: a declaration is accepted just if it is the inferred one;
* `Grammar.verify_iff_drift`: verification as a comparison with inference, and the two reports that come
  of it.
-/

set_option autoImplicit false

namespace ModularGrammar

namespace Interface

/-- What sets a declaration apart from a fitting interface, by the check that reports it. -/
def drift (fitting declared : Interface) : ViolationKind → Set String
  | .redefinition => ∅
  | .missingImport => fitting.imports.members \ declared.imports.members
  | .uselessImport => declared.imports.members \ fitting.imports.members
  | .missingExport => fitting.exports.members \ declared.exports.members
  | .uselessExport => declared.exports.members \ fitting.exports.members

theorem ext {i j : Interface} (himports : i.imports = j.imports) (hexports : i.exports = j.exports) :
    i = j := by
  obtain ⟨imports, exports⟩ := i
  cases himports
  cases hexports
  rfl

theorem eq_of_members {i j : Interface} (himports : i.imports.members = j.imports.members)
    (hexports : i.exports.members = j.exports.members) : i = j :=
  Interface.ext (NameSet.eq_of_members himports) (NameSet.eq_of_members hexports)

theorem drift_eq_empty_iff {fitting declared : Interface} :
    (∀ kind, fitting.drift declared kind = ∅) ↔ declared = fitting := by
  constructor
  · intro h
    have hmissing := Set.sdiff_eq_empty.1 (h .missingImport)
    have huseless := Set.sdiff_eq_empty.1 (h .uselessImport)
    have hmissing' := Set.sdiff_eq_empty.1 (h .missingExport)
    have huseless' := Set.sdiff_eq_empty.1 (h .uselessExport)
    apply Interface.ext
    · exact NameSet.ext fun x => ⟨fun hx => huseless hx, fun hx => hmissing hx⟩
    · exact NameSet.ext fun x => ⟨fun hx => huseless' hx, fun hx => hmissing' hx⟩
  · rintro rfl kind
    cases kind with
    | redefinition => rfl
    | _ => exact Set.sdiff_self

theorem mem_imports_infer {g : Grammar} {x : String} :
    x ∈ (infer g).imports ↔ x ∈ g.references ∧ x ∉ g.definitions := by
  rw [imports_infer, NameSet.mem_diff, Grammar.mem_referenced_iff, Grammar.mem_names_iff]

theorem mem_exports_infer {g : Grammar} {x : String} :
    x ∈ (infer g).exports ↔ x ∈ g.definitions ∧ x ∉ g.references := by
  rw [exports_infer, NameSet.mem_diff, Grammar.mem_referenced_iff, Grammar.mem_names_iff]

theorem members_imports_infer (g : Grammar) :
    (infer g).imports.members = g.references \ g.definitions :=
  Set.ext fun _ => mem_imports_infer

theorem members_exports_infer (g : Grammar) :
    (infer g).exports.members = g.definitions \ g.references :=
  Set.ext fun _ => mem_exports_infer

end Interface

namespace Grammar
variable {g : Grammar} {declared : Interface}

theorem offenders_eq_drift (h : g.Distinct) (declared : Interface) :
    g.offenders declared = (Interface.infer g).drift declared := by
  have himports := Interface.members_imports_infer g
  have hexports := Interface.members_exports_infer g
  funext kind
  cases kind with
  | redefinition =>
    rw [offenders, Interface.drift]
    exact g.repeated_eq_empty_iff.2 h
  | missingImport =>
    rw [offenders, Interface.drift, himports, Set.sdiff_sdiff, Set.union_comm]
  | uselessImport =>
    rw [offenders, Interface.drift, himports, Set.sdiff_sdiff_right, Set.union_comm]
  | missingExport =>
    rw [offenders, Interface.drift, hexports, Set.sdiff_sdiff]
  | uselessExport =>
    rw [offenders, Interface.drift, hexports, Set.sdiff_sdiff_right, Set.union_comm]

theorem verify_eq_ok_iff_infer :
    g.verify declared = .ok g ↔ g.Distinct ∧ declared = Interface.infer g := by
  rw [verify_eq_ok_iff]
  constructor
  · intro hverified
    obtain ⟨-, hall⟩ := hverified
    have hdistinct : g.Distinct := g.repeated_eq_empty_iff.1 (hall .redefinition)
    rw [offenders_eq_drift hdistinct] at hall
    exact ⟨hdistinct, Interface.drift_eq_empty_iff.1 hall⟩
  · intro hfits
    obtain ⟨hdistinct, hinfer⟩ := hfits
    refine ⟨rfl, ?_⟩
    rw [offenders_eq_drift hdistinct]
    exact Interface.drift_eq_empty_iff.2 hinfer

/-- A repeated name is reported whatever the declaration is. -/
theorem verify_of_not_distinct (h : ¬ g.Distinct) (declared : Interface) :
    g.verify declared = .error ⟨.redefinition, g.redefined.toList⟩ := by
  rw [verify_eq_error_iff]
  refine ⟨?_, ?_, g.redefined.ascending, ?_⟩
  · rw [Set.nonempty_iff_ne_empty]
    exact fun hempty => h (g.repeated_eq_empty_iff.1 hempty)
  · intro earlier hlt
    exact absurd hlt (Nat.not_lt_zero _)
  · intro x
    exact mem_redefined_iff

theorem ok_ofModule_iff (m : GrammarModule) :
    (CheckOutcome.ofModule m).ok = true ↔ m.grammar.verify m.interface = .ok m.grammar := by
  rw [CheckOutcome.ofModule_eq, GrammarModule.verify_eq]
  cases hverify : m.grammar.verify m.interface with
  | ok result =>
    obtain ⟨rfl, -⟩ := verify_eq_ok_iff.1 hverify
    simp [violation?]
  | error v => simp [violation?]

theorem agrees_ofModule_iff (m : GrammarModule) :
    (InterfaceReport.ofModule m).agrees = true ↔ m.interface = Interface.infer m.grammar := by
  rw [InterfaceReport.ofModule_eq, InterfaceReport.agrees, decide_eq_true_eq]

/-- Over distinct names verification reports the drift from the inferred interface, and accepts that
interface alone. Over repeated names it reports those, whatever is declared. So a module passes the check
just if its interface report agrees and its names are distinct. -/
theorem verify_iff_drift :
    (∀ g : Grammar, g.Distinct → ∀ declared : Interface,
      (∀ v, g.verify declared = .error v ↔ v.Reports ((Interface.infer g).drift declared)) ∧
      (g.verify declared = .ok g ↔ ∀ kind, (Interface.infer g).drift declared kind = ∅) ∧
      (g.verify declared = .ok g ↔ declared.imports = (Interface.infer g).imports ∧
        declared.exports = (Interface.infer g).exports)) ∧
    (∀ g : Grammar, ¬ g.Distinct → ∃ names : List String,
      names.Pairwise (· < ·) ∧ (∀ x, x ∈ names ↔ x ∈ g.repeated) ∧
      ∀ declared : Interface, g.verify declared = .error ⟨.redefinition, names⟩) ∧
    ∀ m : GrammarModule, (CheckOutcome.ofModule m).ok = true ↔
      (InterfaceReport.ofModule m).agrees = true ∧ m.grammar.Distinct := by
  refine ⟨?_, ?_, ?_⟩
  · intro g hdistinct declared
    have hinfer : g.verify declared = .ok g ↔ declared = Interface.infer g := by
      rw [verify_eq_ok_iff_infer, and_iff_right hdistinct]
    refine ⟨?_, ?_, ?_⟩
    · intro v
      rw [verify_eq_error_iff, offenders_eq_drift hdistinct]
    · rw [hinfer, Interface.drift_eq_empty_iff]
    · rw [hinfer]
      constructor
      · rintro rfl
        exact ⟨rfl, rfl⟩
      · intro hsame
        obtain ⟨himports, hexports⟩ := hsame
        exact Interface.ext himports hexports
  · intro g hrepeated
    exact ⟨g.redefined.toList, g.redefined.ascending, fun x => mem_redefined_iff,
      verify_of_not_distinct hrepeated⟩
  · intro m
    rw [ok_ofModule_iff, agrees_ofModule_iff, verify_eq_ok_iff_infer, and_comm]

/-- The import of a name that is defined, exported and self-recursive is reported, and a repeated name
before it. -/
theorem reports_drift_of_shadowing_import :
    (⟨[⟨"A", [.ref "A", .ref "B"]⟩]⟩ : Grammar).Distinct ∧
    (Violation.mk .uselessImport ["A"]).Reports
      ((Interface.infer ⟨[⟨"A", [.ref "A", .ref "B"]⟩]⟩).drift (.ofLists ["A", "B"] ["A"])) ∧
    ¬ (⟨[⟨"A", [.ref "B"]⟩, ⟨"A", [.ref "A"]⟩]⟩ : Grammar).Distinct ∧
    ∃ names : List String, names.Pairwise (· < ·) ∧
      (∀ x, x ∈ names ↔ x ∈ (⟨[⟨"A", [.ref "B"]⟩, ⟨"A", [.ref "A"]⟩]⟩ : Grammar).repeated) ∧
      ∀ declared : Interface,
        (⟨[⟨"A", [.ref "B"]⟩, ⟨"A", [.ref "A"]⟩]⟩ : Grammar).verify declared =
          .error ⟨.redefinition, names⟩ :=
  ⟨by decide, ((verify_iff_drift.1 _ (by decide) _).1 _).1 (by rfl), by decide,
    verify_iff_drift.2.1 _ (by decide)⟩

end Grammar

/-! ## The catalog -/

/-- Every module of the catalog declares the interface that its grammar needs. -/
theorem Catalog.verify_eq_ok {m : GrammarModule} (hm : m ∈ Catalog.modules) :
    m.verify = .ok m.grammar := by
  have hall : ∀ m ∈ Catalog.modules, m.grammar.Distinct ∧ m.interface = Interface.infer m.grammar := by
    decide +kernel
  rw [GrammarModule.verify_eq]
  exact Grammar.verify_eq_ok_iff_infer.2 (hall m hm)

end ModularGrammar
