import Mathlib.Data.Set.Card
import ModularGrammar.GrammarModule
import ModularGrammar.Proofs.CheckLines
import ModularGrammar.Proofs.Inference
import ModularGrammar.Proofs.QuotedNames

/-! # The events of a verification

Verification reports how far it comes, and ends with a warning just if it fails.

* `Event.Record`: what a listener gets of an event, and `Event.Record.told?` the violation read from it;
* `warningOf`: the warning that goes with a result;
* `Checked.Faithful`: a computation reports nothing but the warning of its result, which checks one after
  another keep up (`faithful_require_bind`);
* `GrammarModule.events_of_repeated`, `events_of_distinct`: all events of a verification, in order;
* `GrammarModule.events_tell_result`: these events, their texts, their counts and the result.
-/

set_option autoImplicit false

namespace ModularGrammar

/-! ## What listeners get -/

structure Event.Record where
  level : Level
  target : String
  message : String
  fields : List (String × String)
deriving DecidableEq

def Event.record (e : Event) : Record := ⟨e.level, e.target, e.message, e.fields⟩

/-- The violation that the fields of a record tell, its names read from the list of them. -/
def Event.Record.told? (r : Record) : Option Violation := do
  let words ← r.fields.lookup "kind"
  let list ← r.fields.lookup "names"
  return ⟨← ViolationKind.ofWords? words.toList, ← Quoted.readList? list⟩

/-! ## Warnings -/

/-- The warning that goes with a result, if it is a failure. -/
def warningOf {α : Type} : Except Violation α → List Event
  | .ok _ => []
  | .error v => [.checkFailed v]

/-- What a listener gets of a warning. -/
def Violation.warning (v : Violation) : Event.Record :=
  ⟨.warn, "grammar::verify", "grammar module check failed",
    [("kind", v.kind.words), ("names", Quoted.list v.names)]⟩

theorem map_record_warningOf {α : Type} (result : Except Violation α) :
    (warningOf result).map Event.record = (violation? result).toList.map Violation.warning := by
  cases result <;> rfl

/-- A warning tells its violation, whatever the names hold. -/
theorem Violation.told?_warning (v : Violation) : v.warning.told? = some v := by
  have hkind : v.warning.fields.lookup "kind" = some v.kind.words := rfl
  have hnames : v.warning.fields.lookup "names" = some (Quoted.list v.names) := rfl
  rw [Event.Record.told?, hkind, hnames]
  simp only [Option.bind_eq_bind, Option.bind_some, ViolationKind.ofWords?_words, Quoted.readList?_list]
  rfl

theorem checkFailed_mem_warningOf_iff {α : Type} {result : Except Violation α} {v : Violation} :
    .checkFailed v ∈ warningOf result ↔ result = .error v := by
  cases result with
  | ok a => simp [warningOf]
  | error w =>
    simp only [warningOf, List.mem_singleton, Event.checkFailed.injEq, Except.error.injEq]
    exact eq_comm

/-- The computation reports nothing but the warning of its result. -/
def Checked.Faithful {α : Type} (c : Checked α) : Prop := c.run.events = warningOf c.run.value

theorem Checked.faithful_pure {α : Type} (a : α) : Faithful (pure a) := rfl

theorem Checked.faithful_require_bind {α : Type} {kind : ViolationKind} {s : NameSet}
    {next : Unit → Checked α} (hnext : Faithful (next ())) : Faithful (require kind s >>= next) := by
  rw [Faithful, events_require_bind, value_require_bind]
  split
  · exact hnext
  · rfl

/-! ## Counts -/

theorem ncard_setOf_mem {l : List String} (h : l.Nodup) : {x | x ∈ l}.ncard = l.length := by
  have hfinset : {x | x ∈ l} = (l.toFinset : Set String) := by
    ext x
    simp
  rw [hfinset, Set.ncard_coe_finset, List.toFinset_card_of_nodup h]

theorem NameSet.size_eq_ncard (s : NameSet) : s.size = s.members.ncard :=
  (ncard_setOf_mem (NameSet.nodup_of_ascending s.ascending)).symm

theorem NameSet.finite_members (s : NameSet) : s.members.Finite :=
  s.toList.finite_toSet

namespace Grammar
variable {g : Grammar} {declared : Interface}

theorem members_names (g : Grammar) : g.names.members = g.definitions :=
  Set.ext fun _ => mem_names_iff

theorem members_referenced (g : Grammar) : g.referenced.members = g.references :=
  Set.ext fun _ => mem_referenced_iff

theorem ncard_definitions (h : g.Distinct) : g.definitions.ncard = g.size := by
  have hnames : g.definitions = {x | x ∈ g.productions.map (·.name)} := by
    ext x
    simp [definitions]
  have hnodup : (g.productions.map (·.name)).Nodup := List.pairwise_map.2 h
  rw [hnames, ncard_setOf_mem hnodup, List.length_map, size]

/-- Definitions and imports together are all names there are, and so are references and exports. -/
theorem ncard_balance {result : Grammar} (h : g.verify declared = .ok result) :
    g.definitions.ncard + declared.imports.members.ncard =
      g.references.ncard + declared.exports.members.ncard := by
  obtain ⟨rfl, -⟩ := verify_eq_ok_iff.1 h
  obtain ⟨-, rfl⟩ := verify_eq_ok_iff_infer.1 h
  have hdefinitions : result.definitions.Finite := members_names result ▸ NameSet.finite_members _
  have hreferences : result.references.Finite := members_referenced result ▸ NameSet.finite_members _
  rw [Interface.members_imports_infer, Interface.members_exports_infer, add_comm,
    Set.ncard_sdiff_add_ncard _ _ hreferences hdefinitions, add_comm,
    Set.ncard_sdiff_add_ncard _ _ hdefinitions hreferences, Set.union_comm]

/-! ## Verification step by step -/

/-- The checks that are left once no name is defined twice. -/
def interfaceChecks (g : Grammar) (declared : Interface) : Checked Grammar := do
  require .missingImport (g.offending declared .missingImport)
  require .uselessImport (g.offending declared .uselessImport)
  require .missingExport (g.offending declared .missingExport)
  require .uselessExport (g.offending declared .uselessExport)
  return g

theorem faithful_interfaceChecks (g : Grammar) (declared : Interface) :
    (g.interfaceChecks declared).Faithful := by
  refine Checked.faithful_require_bind ?_
  refine Checked.faithful_require_bind ?_
  refine Checked.faithful_require_bind ?_
  exact Checked.faithful_require_bind (Checked.faithful_pure g)

theorem events_verification_of_not_distinct (h : ¬ g.Distinct) (declared : Interface) :
    (g.verification declared).run.events = [.checkFailed ⟨.redefinition, g.redefined.toList⟩] := by
  have hrepeated : (g.offending declared .redefinition).isEmpty = false := by
    rw [← Bool.not_eq_true, offending_isEmpty_iff]
    exact fun hempty => h (g.repeated_eq_empty_iff.1 hempty)
  rw [verification, events_require_bind, hrepeated, if_neg Bool.false_ne_true, Violation.ofNames_toList]
  rfl

theorem events_verification_of_distinct (h : g.Distinct) (declared : Interface) :
    (g.verification declared).run.events =
      [.collectedReferences g.size g.referenced.size,
        .verifyingInterface g.names.size g.referenced.size declared.imports.size declared.exports.size] ++
      warningOf (g.verify declared) := by
  have hunique : (g.offending declared .redefinition).isEmpty = true :=
    (g.offending_isEmpty_iff declared _).2 (g.repeated_eq_empty_iff.2 h)
  have hchecks := g.faithful_interfaceChecks declared
  have hvalue : g.verify declared = (g.interfaceChecks declared).run.value := by
    rw [verify, verification, value_require_bind, if_pos hunique]
    rfl
  rw [verification, events_require_bind, if_pos hunique, hvalue, ← hchecks]
  rfl

end Grammar

namespace GrammarModule
variable {m : GrammarModule}

/-! ## The events of a module -/

theorem events_eq (m : GrammarModule) :
    m.events = .verifyingModule m.name :: (m.grammar.verification m.interface).run.events := rfl

theorem events_of_repeated (h : ¬ m.grammar.Distinct) :
    ∃ v, m.verify = .error v ∧ v.kind = .redefinition ∧
      m.events = [.verifyingModule m.name, .checkFailed v] := by
  refine ⟨⟨.redefinition, m.grammar.redefined.toList⟩, ?_, rfl, ?_⟩
  · rw [verify_eq, Grammar.verify_of_not_distinct h]
  · rw [events_eq, Grammar.events_verification_of_not_distinct h]

theorem events_of_distinct (h : m.grammar.Distinct) :
    m.events =
      [.verifyingModule m.name,
        .collectedReferences m.grammar.size m.grammar.references.ncard,
        .verifyingInterface m.grammar.definitions.ncard m.grammar.references.ncard
          m.interface.imports.members.ncard m.interface.exports.members.ncard] ++
      warningOf m.verify := by
  rw [events_eq, Grammar.events_verification_of_distinct h, verify_eq, NameSet.size_eq_ncard,
    NameSet.size_eq_ncard, NameSet.size_eq_ncard, NameSet.size_eq_ncard, Grammar.members_names,
    Grammar.members_referenced]
  rfl

/-- Whatever happens before it, the events end with the warning of the result, and there is no other. -/
theorem exists_events_eq_append_warningOf (m : GrammarModule) :
    ∃ before, m.events = before ++ warningOf m.verify ∧ ∀ e ∈ before, e.level ≠ .warn := by
  by_cases h : m.grammar.Distinct
  · refine ⟨_, events_of_distinct h, ?_⟩
    simp [Event.level]
  · obtain ⟨v, hverify, -, hevents⟩ := events_of_repeated h
    refine ⟨[.verifyingModule m.name], ?_, ?_⟩
    · rw [hevents, hverify]
      rfl
    · simp [Event.level]

theorem level_eq_warn_of_mem_warningOf {α : Type} {result : Except Violation α} {e : Event}
    (h : e ∈ warningOf result) : ∃ v, result = .error v ∧ e = .checkFailed v := by
  cases result with
  | ok a => cases h
  | error v => exact ⟨v, rfl, List.mem_singleton.1 h⟩

/-- A warning is the last event, and carries the violation that verification returns. -/
theorem warning_is_last {before after : List Event} {e : Event} (hevents : m.events = before ++ e :: after)
    (hwarn : e.level = .warn) : after = [] ∧ ∃ v, m.verify = .error v ∧ e = .checkFailed v := by
  obtain ⟨quiet, heq, hquiet⟩ := m.exists_events_eq_append_warningOf
  have hmem : e ∈ warningOf m.verify := by
    have hmem : e ∈ m.events := by simp [hevents]
    rw [heq, List.mem_append] at hmem
    exact hmem.resolve_left fun h => hquiet e h hwarn
  obtain ⟨v, hverify, rfl⟩ := level_eq_warn_of_mem_warningOf hmem
  refine ⟨?_, v, hverify, rfl⟩
  rcases List.eq_nil_or_concat after with hnil | ⟨rest, last, rfl⟩
  · exact hnil
  · -- Were there a later event, the warning would be among those before the last one.
    have hquietly : before ++ .checkFailed v :: rest = quiet := by
      rw [hevents, hverify, List.concat_eq_append, ← List.cons_append, ← List.append_assoc] at heq
      exact (List.append_inj' heq rfl).1
    exact absurd hwarn (hquiet _ (by simp [← hquietly]))

theorem checkFailed_mem_events_iff {v : Violation} :
    .checkFailed v ∈ m.events ↔ m.verify = .error v := by
  obtain ⟨quiet, heq, hquiet⟩ := m.exists_events_eq_append_warningOf
  rw [heq, List.mem_append, checkFailed_mem_warningOf_iff]
  exact or_iff_right fun h => hquiet _ h rfl

/-- A listener reads from the warnings the violation that verification returns, if any, and nothing else. -/
theorem map_told?_warnings (m : GrammarModule) :
    ((m.events.map Event.record).filter fun r => r.level = .warn).map Event.Record.told? =
      (violation? m.verify).toList.map some := by
  obtain ⟨quiet, heq, hquiet⟩ := m.exists_events_eq_append_warningOf
  have hnone : (quiet.map Event.record).filter (fun r => r.level = .warn) = [] := by
    rw [List.filter_eq_nil_iff, List.forall_mem_map]
    intro e he
    rw [decide_eq_true_eq]
    exact hquiet e he
  have hall : ((violation? m.verify).toList.map Violation.warning).filter (fun r => r.level = .warn) =
      (violation? m.verify).toList.map Violation.warning := by
    rw [List.filter_eq_self, List.forall_mem_map]
    exact fun _ _ => rfl
  rw [heq, List.map_append, List.filter_append, hnone, List.nil_append, map_record_warningOf, hall,
    List.map_map]
  exact List.map_congr_left fun v _ => v.told?_warning

/-- The events of a verification tell its result. A repeated name is reported at once; otherwise the
references and the interface are counted, and a warning follows just if a check fails. A warning is the
last event and carries the violation returned, which a listener reads back from its fields. The counts are
those of the sets of names: there are as many definitions as productions, and in a verified module
definitions and imports are as many as references and exports. -/
theorem events_tell_result (m : GrammarModule) :
    (¬ m.grammar.Distinct → ∃ v, m.verify = .error v ∧ v.kind = .redefinition ∧
      m.events = [.verifyingModule m.name, .checkFailed v] ∧
      m.events.map Event.record =
        [⟨.debug, "grammar::verify", "verifying module", [("module", m.name)]⟩, v.warning]) ∧
    (m.grammar.Distinct → m.grammar.definitions.ncard = m.grammar.size ∧
      m.events =
        [.verifyingModule m.name,
          .collectedReferences m.grammar.size m.grammar.references.ncard,
          .verifyingInterface m.grammar.definitions.ncard m.grammar.references.ncard
            m.interface.imports.members.ncard m.interface.exports.members.ncard] ++
        warningOf m.verify ∧
      m.events.map Event.record =
        [⟨.debug, "grammar::verify", "verifying module", [("module", m.name)]⟩,
          ⟨.debug, "grammar::symbols", "collected referenced non-terminals",
            [("productions", toString m.grammar.size),
              ("referenced", toString m.grammar.references.ncard)]⟩,
          ⟨.debug, "grammar::verify", "verifying grammar module",
            [("defined", toString m.grammar.definitions.ncard),
              ("referenced", toString m.grammar.references.ncard),
              ("imported", toString m.interface.imports.members.ncard),
              ("exported", toString m.interface.exports.members.ncard)]⟩] ++
        (violation? m.verify).toList.map Violation.warning) ∧
    (∀ v, .checkFailed v ∈ m.events ↔ m.verify = .error v) ∧
    ((m.events.map Event.record).filter fun r => r.level = .warn).map Event.Record.told? =
      (violation? m.verify).toList.map some ∧
    (∀ before e after, m.events = before ++ e :: after → e.level = .warn →
      after = [] ∧ ∃ v, m.verify = .error v ∧ e = .checkFailed v) ∧
    ∀ result, m.verify = .ok result →
      m.grammar.definitions.ncard + m.interface.imports.members.ncard =
        m.grammar.references.ncard + m.interface.exports.members.ncard := by
  refine ⟨?_, ?_, fun v => checkFailed_mem_events_iff, m.map_told?_warnings,
    fun _ _ _ => warning_is_last, ?_⟩
  · intro hrepeated
    obtain ⟨v, hverify, hkind, hevents⟩ := events_of_repeated hrepeated
    refine ⟨v, hverify, hkind, hevents, ?_⟩
    rw [hevents]
    rfl
  · intro hdistinct
    have hevents := events_of_distinct hdistinct
    refine ⟨Grammar.ncard_definitions hdistinct, hevents, ?_⟩
    rw [hevents, List.map_append, map_record_warningOf]
    rfl
  · intro result hverified
    exact Grammar.ncard_balance hverified

/-- A module that refers to itself and to a missing name ends with a warning, which tells that name. A
repeated name is reported before anything is counted. And once the missing name is imported the counts
balance. -/
theorem events_tell_result_of_missing_import :
    (⟨[⟨"A", [.ref "A", .ref "B"]⟩]⟩ : Grammar).Distinct ∧
    (GrammarModule.mk "m" ⟨[⟨"A", [.ref "A", .ref "B"]⟩]⟩ (.ofLists [] ["A"])).verify =
      .error ⟨.missingImport, ["B"]⟩ ∧
    (⟨[⟨"A", [.ref "A", .ref "B"]⟩]⟩ : Grammar).definitions.ncard = 1 ∧
    .checkFailed ⟨.missingImport, ["B"]⟩ ∈
      (GrammarModule.mk "m" ⟨[⟨"A", [.ref "A", .ref "B"]⟩]⟩ (.ofLists [] ["A"])).events ∧
    (((GrammarModule.mk "m" ⟨[⟨"A", [.ref "A", .ref "B"]⟩]⟩ (.ofLists [] ["A"])).events.map
        Event.record).filter fun r => r.level = .warn).map Event.Record.told? =
      [some ⟨.missingImport, ["B"]⟩] ∧
    ¬ (⟨[⟨"A", []⟩, ⟨"A", []⟩]⟩ : Grammar).Distinct ∧
    (∃ v : Violation, v.kind = .redefinition ∧
      (GrammarModule.mk "m" ⟨[⟨"A", []⟩, ⟨"A", []⟩]⟩ ∅).events = [.verifyingModule "m", .checkFailed v]) ∧
    (GrammarModule.mk "m" ⟨[⟨"A", [.ref "A", .ref "B"]⟩]⟩ (.ofLists ["B"] ["A"])).verify =
      .ok ⟨[⟨"A", [.ref "A", .ref "B"]⟩]⟩ ∧
    (⟨[⟨"A", [.ref "A", .ref "B"]⟩]⟩ : Grammar).definitions.ncard +
        (Interface.ofLists ["B"] ["A"]).imports.members.ncard =
      (⟨[⟨"A", [.ref "A", .ref "B"]⟩]⟩ : Grammar).references.ncard +
        (Interface.ofLists ["B"] ["A"]).exports.members.ncard := by
  have hdistinct : (⟨[⟨"A", [.ref "A", .ref "B"]⟩]⟩ : Grammar).Distinct := by decide
  have hrepeated : ¬ (⟨[⟨"A", []⟩, ⟨"A", []⟩]⟩ : Grammar).Distinct := by decide
  obtain ⟨-, hcounted, hwarned, htold, -, -⟩ :=
    events_tell_result ⟨"m", ⟨[⟨"A", [.ref "A", .ref "B"]⟩]⟩, .ofLists [] ["A"]⟩
  obtain ⟨hreported, -, -, -, -, -⟩ := events_tell_result ⟨"m", ⟨[⟨"A", []⟩, ⟨"A", []⟩]⟩, ∅⟩
  obtain ⟨-, -, -, -, -, hbalance⟩ :=
    events_tell_result ⟨"m", ⟨[⟨"A", [.ref "A", .ref "B"]⟩]⟩, .ofLists ["B"] ["A"]⟩
  obtain ⟨v, -, hkind, hevents, -⟩ := hreported hrepeated
  exact ⟨hdistinct, rfl, (hcounted hdistinct).1, (hwarned _).2 rfl, htold, hrepeated, ⟨v, hkind, hevents⟩,
    rfl, hbalance _ rfl⟩

end GrammarModule

end ModularGrammar
