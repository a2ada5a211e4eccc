import ModularGrammar.Catalog.Tokens
import ModularGrammar.Proofs.Occurrence
import ModularGrammar.Report

/-! # What the collectors find

The literals and the references of a grammar are the leaves of the one and the other kind, wherever they
lie. A production's own name is left out of its own references only.

* `Grammar.HasLeaf`: a leaf lies in some production, at any depth;
* `Grammar.mem_referenced_productions_append`: references of grammars put together;
* `Grammar.mem_referenced_without`: what is left of the references when a production is taken out;
* `Grammar.collects_leaves`: both collectors and the report of the literals.
-/

set_option autoImplicit false

namespace ModularGrammar

namespace Grammar
variable {g : Grammar} {s : String}

/-- The leaf lies in an alternative of some production, under any number of sequences. -/
def HasLeaf (g : Grammar) (leaf : Phrase) : Prop := ∃ p ∈ g.productions, p.Contains leaf

/-- Own names are left out before the references are put together, so they are not left out of the
references of the other productions. -/
theorem mem_referenced_productions_append {ps qs : List Production} :
    s ∈ (⟨ps ++ qs⟩ : Grammar).referenced ↔
      s ∈ (⟨ps⟩ : Grammar).referenced ∨ s ∈ (⟨qs⟩ : Grammar).referenced := by
  simp only [mem_referenced, List.mem_append, or_and_right, exists_or]

theorem mem_referenced_singleton {p : Production} :
    s ∈ (⟨[p]⟩ : Grammar).referenced ↔ p.name ≠ s ∧ p.Contains (.nonTerminal s) := by
  simp only [mem_referenced, List.mem_singleton, exists_eq_left, Production.mem_referenced]

theorem mem_referenced_without {before after : List Production} {p : Production}
    (hg : g.productions = before ++ p :: after) :
    s ∈ g.referenced ↔
      s ∈ (⟨before ++ after⟩ : Grammar).referenced ∨ p.name ≠ s ∧ p.Contains (.nonTerminal s) := by
  obtain ⟨productions⟩ := g
  obtain rfl : productions = before ++ p :: after := hg
  rw [← List.singleton_append, mem_referenced_productions_append, mem_referenced_productions_append,
    mem_referenced_productions_append, mem_referenced_singleton, or_assoc]
  exact or_congr_right or_comm

/-- The literals of a grammar are its terminal leaves at every depth, and its references the names that a
production of another name has as a leaf. A name is not referenced when only productions of that name refer
to it, however many they are, and none of these hides a reference by another production. Whatever else a
text occurs as, it is no literal without a terminal leaf, and no reference without a leaf that refers to it.
The report of the literals lists just these, each once and in ascending order. -/
theorem collects_leaves (g : Grammar) (s : String) :
    (s ∈ g.terminals ↔ g.HasLeaf (.terminal s)) ∧
    (s ∈ g.referenced ↔ ∃ p ∈ g.productions, p.name ≠ s ∧ p.Contains (.nonTerminal s)) ∧
    ((∀ p ∈ g.productions, p.Contains (.nonTerminal s) → p.name = s) → s ∉ g.referenced) ∧
    (∀ before p after, g.productions = before ++ p :: after → p.name = s →
      (s ∈ g.referenced ↔ s ∈ (⟨before ++ after⟩ : Grammar).referenced)) ∧
    (¬ g.HasLeaf (.terminal s) → s ∉ g.terminals) ∧
    (¬ g.HasLeaf (.nonTerminal s) → s ∉ g.referenced) ∧
    ∀ m : GrammarModule, m.grammar = g →
      (TerminalsReport.ofModule m).name = m.name ∧
      (TerminalsReport.ofModule m).terminals = g.terminals.toList ∧
      (TerminalsReport.ofModule m).terminals.Pairwise (· < ·) := by
  have hreferenced : s ∈ g.referenced ↔
      ∃ p ∈ g.productions, p.name ≠ s ∧ p.Contains (.nonTerminal s) := mem_referenced_iff
  refine ⟨mem_terminals_iff, hreferenced, ?_, ?_, ?_, ?_, ?_⟩
  · intro hown hs
    obtain ⟨p, hp, hname, hleaf⟩ := hreferenced.1 hs
    exact hname (hown p hp hleaf)
  · intro before p after hg hname
    rw [mem_referenced_without hg]
    exact or_iff_left fun h => h.1 hname
  · intro hleaf hs
    exact hleaf (mem_terminals_iff.1 hs)
  · intro hleaf hs
    obtain ⟨p, hp, -, hpart⟩ := hreferenced.1 hs
    exact hleaf ⟨p, hp, hpart⟩
  · rintro m rfl
    exact ⟨rfl, rfl, m.grammar.terminals.ascending⟩

/-- Two productions of one name refer to themselves below a nested sequence, and another one refers to them:
without it the name is not referenced. The text of a comment is no literal. -/
theorem collects_leaves_of_shared_name :
    (∀ p ∈ [Production.mk "a" [.seq [.lit "x", .seq [.ref "a"]]], ⟨"a", [.ref "a", .comment "y"]⟩],
      p.Contains (.nonTerminal "a") → p.name = "a") ∧
    "a" ∉ (⟨[⟨"a", [.seq [.lit "x", .seq [.ref "a"]]]⟩, ⟨"a", [.ref "a", .comment "y"]⟩]⟩ :
      Grammar).referenced ∧
    ("a" ∈ (⟨[⟨"a", [.ref "a"]⟩, ⟨"b", [.seq [.seq [.ref "a"]]]⟩]⟩ : Grammar).referenced ↔
      "a" ∈ (⟨[⟨"b", [.seq [.seq [.ref "a"]]]⟩]⟩ : Grammar).referenced) ∧
    ¬ (⟨[⟨"a", [.ref "a", .comment "y"]⟩]⟩ : Grammar).HasLeaf (.terminal "y") ∧
    "y" ∉ (⟨[⟨"a", [.ref "a", .comment "y"]⟩]⟩ : Grammar).terminals ∧
    (TerminalsReport.ofModule Catalog.tokens).terminals.Pairwise (· < ·) := by
  have hown : ∀ p ∈ [Production.mk "a" [.seq [.lit "x", .seq [.ref "a"]]],
      ⟨"a", [.ref "a", .comment "y"]⟩], p.Contains (.nonTerminal "a") → p.name = "a" := by
    simp
  have hcomment : ¬ (⟨[⟨"a", [.ref "a", .comment "y"]⟩]⟩ : Grammar).HasLeaf (.terminal "y") := by
    intro hleaf
    have hmem := mem_terminals_iff.2 hleaf
    revert hmem
    decide
  exact ⟨hown, (collects_leaves _ "a").2.2.1 hown, (collects_leaves _ "a").2.2.2.1 [] _ _ rfl rfl, hcomment,
    (collects_leaves _ "y").2.2.2.2.1 hcomment, ((collects_leaves _ "y").2.2.2.2.2.2 _ rfl).2.2⟩

end Grammar

end ModularGrammar
