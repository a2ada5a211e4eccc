import ModularGrammar.Proofs.Inference

/-! # Merging verified modules

The interface of a grammar that is put together from verified modules is told by their interfaces and
definitions alone. An import is dropped when another module defines the name, whether that module exports
it or not; an export is dropped when another module imports the name.

* `Grammar.Merges`: the productions of a grammar are those of a list of modules, in any order;
* `Interface.merged`: the interface of the modules put together;
* `Grammar.verify_merged`: it is the only one that fits, unless two modules define a name.
-/

set_option autoImplicit false

namespace ModularGrammar

/-! ## Merged interfaces -/

def NameSet.unions (sets : List NameSet) : NameSet := sets.foldr NameSet.union ∅

@[simp] theorem NameSet.mem_unions {sets : List NameSet} {x : String} :
    x ∈ unions sets ↔ ∃ s ∈ sets, x ∈ s := by
  induction sets with
  | nil => simp [unions]
  | cons s sets ih =>
    rw [show unions (s :: sets) = s.union (unions sets) from rfl, mem_union, ih,
      List.exists_mem_cons_iff]

/-- The imports that no module defines, and the exports that no module imports. -/
def Interface.merged (ms : List GrammarModule) : Interface where
  imports := (NameSet.unions (ms.map (·.interface.imports))).diff
    (NameSet.unions (ms.map (·.grammar.names)))
  exports := (NameSet.unions (ms.map (·.interface.exports))).diff
    (NameSet.unions (ms.map (·.interface.imports)))

theorem Interface.mem_imports_merged {ms : List GrammarModule} {x : String} :
    x ∈ (merged ms).imports ↔
      (∃ m ∈ ms, x ∈ m.interface.imports) ∧ ¬ ∃ m ∈ ms, x ∈ m.grammar.definitions := by
  simp [merged, Grammar.mem_names_iff]

theorem Interface.mem_exports_merged {ms : List GrammarModule} {x : String} :
    x ∈ (merged ms).exports ↔
      (∃ m ∈ ms, x ∈ m.interface.exports) ∧ ¬ ∃ m ∈ ms, x ∈ m.interface.imports := by
  simp [merged]

/-! ## Merged grammars -/

/-- The productions of the grammar are those of the modules, in any order. -/
def Grammar.Merges (g : Grammar) (ms : List GrammarModule) : Prop :=
  g.productions.Perm (ms.flatMap (·.grammar.productions))

namespace Grammar.Merges
variable {g : Grammar} {ms : List GrammarModule} {x : String}

theorem mem_productions (h : g.Merges ms) {p : Production} :
    p ∈ g.productions ↔ ∃ m ∈ ms, p ∈ m.grammar.productions := by
  rw [h.mem_iff, List.mem_flatMap]

theorem mem_definitions (h : g.Merges ms) :
    x ∈ g.definitions ↔ ∃ m ∈ ms, x ∈ m.grammar.definitions := by
  constructor
  · intro hdefined
    obtain ⟨p, hp, hname⟩ := hdefined
    obtain ⟨m, hm, hpm⟩ := h.mem_productions.1 hp
    exact ⟨m, hm, p, hpm, hname⟩
  · intro hdefined
    obtain ⟨m, hm, p, hpm, hname⟩ := hdefined
    exact ⟨p, h.mem_productions.2 ⟨m, hm, hpm⟩, hname⟩

theorem mem_references (h : g.Merges ms) :
    x ∈ g.references ↔ ∃ m ∈ ms, x ∈ m.grammar.references := by
  constructor
  · intro hreferenced
    obtain ⟨p, hp, hx⟩ := hreferenced
    obtain ⟨m, hm, hpm⟩ := h.mem_productions.1 hp
    exact ⟨m, hm, p, hpm, hx⟩
  · intro hreferenced
    obtain ⟨m, hm, p, hpm, hx⟩ := hreferenced
    exact ⟨p, h.mem_productions.2 ⟨m, hm, hpm⟩, hx⟩

/-- Modules with distinct names repeat only what two of them define. -/
theorem mem_repeated (h : g.Merges ms) (hdistinct : ∀ m ∈ ms, m.grammar.Distinct) :
    x ∈ g.repeated ↔ Twice ms fun m => x ∈ m.grammar.definitions := by
  have hparts : ∀ m ∈ ms, ¬ Twice m.grammar.productions fun p => p.name = x := by
    intro m hm htwice
    exact distinct_iff_notMem_repeated.1 (hdistinct m hm) x htwice
  exact (twice_congr_of_perm h).trans (twice_flatMap hparts)

end Grammar.Merges

namespace Interface

section Merges
variable {g : Grammar} {ms : List GrammarModule} {x : String}

theorem mem_imports_iff_of_fits {m : GrammarModule} (h : m.interface = infer m.grammar) :
    x ∈ m.interface.imports ↔ x ∈ m.grammar.references ∧ x ∉ m.grammar.definitions := by
  rw [h, mem_imports_infer]

theorem mem_exports_iff_of_fits {m : GrammarModule} (h : m.interface = infer m.grammar) :
    x ∈ m.interface.exports ↔ x ∈ m.grammar.definitions ∧ x ∉ m.grammar.references := by
  rw [h, mem_exports_infer]

theorem mem_imports_infer_iff_merged (hmerges : g.Merges ms)
    (hfits : ∀ m ∈ ms, m.interface = infer m.grammar) :
    x ∈ (infer g).imports ↔ x ∈ (merged ms).imports := by
  rw [mem_imports_infer, hmerges.mem_references, hmerges.mem_definitions, mem_imports_merged]
  constructor
  · intro hneeded
    obtain ⟨⟨m, hm, href⟩, hundefined⟩ := hneeded
    have hlocal : x ∉ m.grammar.definitions := fun hdef => hundefined ⟨m, hm, hdef⟩
    exact ⟨⟨m, hm, (mem_imports_iff_of_fits (hfits m hm)).2 ⟨href, hlocal⟩⟩, hundefined⟩
  · intro hmerged
    obtain ⟨⟨m, hm, himport⟩, hundefined⟩ := hmerged
    exact ⟨⟨m, hm, ((mem_imports_iff_of_fits (hfits m hm)).1 himport).1⟩, hundefined⟩

/-- Only the declared imports of the modules count for the merged exports, not all their references: a
name that a module refers to without importing it is defined there, and so in no other module. -/
theorem mem_exports_infer_iff_merged (hmerges : g.Merges ms)
    (hfits : ∀ m ∈ ms, m.interface = infer m.grammar)
    (hdisjoint : ¬ Twice ms fun m => x ∈ m.grammar.definitions) :
    x ∈ (infer g).exports ↔ x ∈ (merged ms).exports := by
  rw [mem_exports_infer, hmerges.mem_references, hmerges.mem_definitions, mem_exports_merged]
  constructor
  · intro hprovided
    obtain ⟨⟨m, hm, hdef⟩, hunused⟩ := hprovided
    have hlocal : x ∉ m.grammar.references := fun href => hunused ⟨m, hm, href⟩
    refine ⟨⟨m, hm, (mem_exports_iff_of_fits (hfits m hm)).2 ⟨hdef, hlocal⟩⟩, ?_⟩
    intro himported
    obtain ⟨n, hn, himport⟩ := himported
    exact hunused ⟨n, hn, ((mem_imports_iff_of_fits (hfits n hn)).1 himport).1⟩
  · intro hmerged
    obtain ⟨⟨m, hm, hexport⟩, hunimported⟩ := hmerged
    obtain ⟨hdef, hlocal⟩ := (mem_exports_iff_of_fits (hfits m hm)).1 hexport
    refine ⟨⟨m, hm, hdef⟩, ?_⟩
    intro hreferenced
    obtain ⟨n, hn, href⟩ := hreferenced
    -- `n` does not import what it refers to, so it defines it, and `m` and `n` are one module.
    have hdefn : x ∈ n.grammar.definitions := by
      by_contra hundefined
      exact hunimported ⟨n, hn, (mem_imports_iff_of_fits (hfits n hn)).2 ⟨href, hundefined⟩⟩
    have hsame := eq_of_not_twice hdisjoint hm hn hdef hdefn
    rw [hsame] at hlocal
    exact hlocal href

theorem infer_eq_merged (hmerges : g.Merges ms) (hfits : ∀ m ∈ ms, m.interface = infer m.grammar)
    (hdisjoint : ∀ x, ¬ Twice ms fun m => x ∈ m.grammar.definitions) : infer g = merged ms := by
  apply Interface.ext
  · ext x
    exact mem_imports_infer_iff_merged hmerges hfits
  · ext x
    exact mem_exports_infer_iff_merged hmerges hfits (hdisjoint x)

end Merges

end Interface

theorem pairwise_disjoint_definitions_iff {ms : List GrammarModule} :
    ms.Pairwise (fun m n => m.grammar.definitions ∩ n.grammar.definitions = ∅) ↔
      ∀ x, ¬ Twice ms fun m => x ∈ m.grammar.definitions := by
  simp only [not_twice_iff, List.pairwise_iff_forall_sublist, Set.eq_empty_iff_forall_notMem]
  constructor
  · intro h x m n hmn hx
    exact h hmn x hx
  · intro h m n hmn x hx
    exact h x hmn hx

namespace Grammar

/-- Modules that define no name in common merge to a grammar that the merged interface alone fits. The
names that two of them define are reported otherwise, whatever is declared. -/
theorem verify_merged (ms : List GrammarModule) (g : Grammar)
    (hverified : ∀ m ∈ ms, m.verify = .ok m.grammar) (hmerges : g.Merges ms) :
    (ms.Pairwise (fun m n => m.grammar.definitions ∩ n.grammar.definitions = ∅) →
      Interface.infer g = Interface.merged ms ∧
      ∀ declared, g.verify declared = .ok g ↔ declared = Interface.merged ms) ∧
    ((∃ x, Twice ms fun m => x ∈ m.grammar.definitions) →
      ∃ names : List String, names.Pairwise (· < ·) ∧
        (∀ x, x ∈ names ↔ Twice ms fun m => x ∈ m.grammar.definitions) ∧
        ∀ declared, g.verify declared = .error ⟨.redefinition, names⟩) := by
  have hfits : ∀ m ∈ ms, m.grammar.Distinct ∧ m.interface = Interface.infer m.grammar := by
    intro m hm
    have h := hverified m hm
    rw [GrammarModule.verify_eq] at h
    exact verify_eq_ok_iff_infer.1 h
  have hrepeated : ∀ x, x ∈ g.repeated ↔ Twice ms fun m => x ∈ m.grammar.definitions := fun x =>
    hmerges.mem_repeated fun m hm => (hfits m hm).1
  constructor
  · intro hdisjoint
    have hnone := pairwise_disjoint_definitions_iff.1 hdisjoint
    have hinfer := Interface.infer_eq_merged hmerges (fun m hm => (hfits m hm).2) hnone
    have hdistinct : g.Distinct := by
      rw [← repeated_eq_empty_iff, Set.eq_empty_iff_forall_notMem]
      intro x hx
      exact hnone x ((hrepeated x).1 hx)
    refine ⟨hinfer, ?_⟩
    intro declared
    rw [verify_eq_ok_iff_infer, and_iff_right hdistinct, hinfer]
  · intro hclash
    obtain ⟨x, htwice⟩ := hclash
    have hindistinct : ¬ g.Distinct := by
      rw [← repeated_eq_empty_iff]
      intro hempty
      exact Set.eq_empty_iff_forall_notMem.1 hempty x ((hrepeated x).2 htwice)
    have hnames : ∀ y, y ∈ g.redefined.toList ↔ Twice ms fun m => y ∈ m.grammar.definitions :=
      fun y => mem_redefined_iff.trans (hrepeated y)
    exact ⟨g.redefined.toList, g.redefined.ascending, hnames, verify_of_not_distinct hindistinct⟩

/-- The syntax rules before the tokens. That `number` is no export of the tokens does not matter. Two
copies of the tokens clash. -/
theorem verify_merged_catalog :
    (∀ m ∈ Catalog.modules, m.verify = .ok m.grammar) ∧
    (Catalog.syntaxRules.grammar.append Catalog.tokens.grammar).Merges Catalog.modules ∧
    Interface.merged Catalog.modules = .ofLists [] ["comment", "program"] ∧
    (∀ declared,
      (Catalog.syntaxRules.grammar.append Catalog.tokens.grammar).verify declared =
          .ok (Catalog.syntaxRules.grammar.append Catalog.tokens.grammar) ↔
        declared = Interface.merged Catalog.modules) ∧
    ∃ names : List String, names.Pairwise (· < ·) ∧
      (∀ x, x ∈ names ↔
        Twice [Catalog.tokens, Catalog.tokens] fun m => x ∈ m.grammar.definitions) ∧
      ∀ declared, (Catalog.tokens.grammar.append Catalog.tokens.grammar).verify declared =
        .error ⟨.redefinition, names⟩ := by
  have hcatalog : ∀ m ∈ Catalog.modules, m.verify = .ok m.grammar := fun m hm => Catalog.verify_eq_ok hm
  have htokens : ∀ m ∈ [Catalog.tokens, Catalog.tokens], m.verify = .ok m.grammar := by
    intro m hm
    have htoken : m = Catalog.tokens := by simpa using hm
    rw [htoken]
    exact hcatalog Catalog.tokens List.mem_cons_self
  have hmerges :
      (Catalog.syntaxRules.grammar.append Catalog.tokens.grammar).Merges Catalog.modules := by
    rw [Merges, Catalog.modules, List.flatMap_cons, List.flatMap_cons, List.flatMap_nil, List.append_nil]
    exact List.perm_append_comm
  have hdisjoint : ∀ x, ¬ Twice Catalog.modules fun m => x ∈ m.grammar.definitions := by
    have hnames : ∀ x ∈ Catalog.tokens.grammar.names.toList, x ∉ Catalog.syntaxRules.grammar.names := by
      decide +kernel
    rw [← pairwise_disjoint_definitions_iff, Catalog.modules, List.pairwise_pair,
      Set.eq_empty_iff_forall_notMem]
    rintro x ⟨htoken, hrule⟩
    exact hnames x (mem_names_iff.2 htoken) (mem_names_iff.2 hrule)
  have hrepeat : (Catalog.tokens.grammar.append Catalog.tokens.grammar).Merges
      [Catalog.tokens, Catalog.tokens] := by
    rw [Merges, List.flatMap_cons, List.flatMap_cons, List.flatMap_nil, List.append_nil]
    exact List.Perm.refl _
  have htwice : Twice [Catalog.tokens, Catalog.tokens] fun m => "digit" ∈ m.grammar.definitions := by
    have hdigit : "digit" ∈ Catalog.tokens.grammar.definitions := by
      rw [← mem_names_iff]
      decide +kernel
    exact ⟨Catalog.tokens, Catalog.tokens, List.Sublist.refl _, hdigit, hdigit⟩
  refine ⟨hcatalog, hmerges, by decide +kernel, ?_, ?_⟩
  · have h := (verify_merged Catalog.modules _ hcatalog hmerges).1
    exact (h (pairwise_disjoint_definitions_iff.2 hdisjoint)).2
  · exact (verify_merged _ _ htokens hrepeat).2 ⟨"digit", htwice⟩

end Grammar

end ModularGrammar
