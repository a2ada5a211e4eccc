import Mathlib.Data.Fintype.Card
import Mathlib.Data.Set.Finite.Basic
import Mathlib.Logic.Relation
import Mathlib.Order.WellFounded
import ModularGrammar.Proofs.Inference

/-! # Reachable productions

Verification asks of each defined name alone that another production refers to it or that it is exported.
Since a grammar is finite, that suffices for every production to be reachable: going back along references
ends at an exported production or runs into a cycle.

* `Grammar.Refers`, `Grammar.Reaches`: the references between names, and the paths along them;
* `Grammar.OnCycle`: a cycle of references through two productions;
* `Grammar.exists_reaching_source`: where the paths that lead to a production begin;
* `Grammar.no_dead_productions`: the same for a grammar that verifies.
-/

set_option autoImplicit false

namespace ModularGrammar

open Relation

/-! ## Finite sets without cycles -/

/-- In a finite set that no cycle touches some member has no predecessor in the set. -/
theorem exists_without_predecessor {α : Type} {r : α → α → Prop} {s : Set α} (hfinite : s.Finite)
    (hne : s.Nonempty) (hacyclic : ∀ a ∈ s, ¬ TransGen r a a) : ∃ a ∈ s, ∀ b ∈ s, ¬ r b a := by
  have hfinite' : Finite s := hfinite
  have htrans : IsTrans s fun a b => TransGen r a b := ⟨fun _ _ _ => TransGen.trans⟩
  have hirrefl : Std.Irrefl fun a b : s => TransGen r a b := ⟨fun a h => hacyclic a a.2 h⟩
  have hwf := Finite.wellFounded_of_trans_of_irrefl fun a b : s => TransGen r a b
  obtain ⟨x, hx⟩ := hne
  obtain ⟨a, -, hmin⟩ := hwf.has_min Set.univ ⟨⟨x, hx⟩, trivial⟩
  refine ⟨a, a.2, ?_⟩
  intro b hb hba
  exact hmin ⟨b, hb⟩ trivial (.single hba)

namespace Grammar

/-! ## The graph of references -/

/-- A production of the first name refers to the second, which is another one. -/
def Refers (g : Grammar) (x y : String) : Prop :=
  ∃ p ∈ g.productions, p.name = x ∧ y ≠ x ∧ p.Contains (.nonTerminal y)

/-- The second name can be reached from the first along references, of which there may be none. -/
def Reaches (g : Grammar) : String → String → Prop := ReflTransGen g.Refers

/-- The graph of references, restricted to defined names. -/
def RefersWithin (g : Grammar) (x y : String) : Prop := g.Refers x y ∧ y ∈ g.definitions

/-- The name lies on a cycle of defined names, of which at least one is another. -/
def OnCycle (g : Grammar) (x : String) : Prop :=
  ∃ y, y ≠ x ∧ TransGen g.RefersWithin x y ∧ TransGen g.RefersWithin y x

variable {g : Grammar} {x y : String}

theorem mem_references_iff_refers : y ∈ g.references ↔ ∃ x, g.Refers x y := by
  constructor
  · intro hreferenced
    obtain ⟨p, hp, hname, hcontains⟩ := hreferenced
    exact ⟨p.name, p, hp, rfl, hname.symm, hcontains⟩
  · intro hrefers
    obtain ⟨x, p, hp, rfl, hname, hcontains⟩ := hrefers
    exact ⟨p, hp, hname.symm, hcontains⟩

theorem Refers.mem_definitions (h : g.Refers x y) : x ∈ g.definitions := by
  obtain ⟨p, hp, hname, -⟩ := h
  exact ⟨p, hp, hname⟩

/-- No production refers to itself here, so any way back to a name passes through another. -/
theorem onCycle_of_transGen (h : TransGen g.RefersWithin x x) : g.OnCycle x := by
  obtain ⟨y, hxy, hyx⟩ := TransGen.head'_iff.1 h
  obtain ⟨p, -, -, hne, -⟩ := hxy.1
  rcases reflTransGen_iff_eq_or_transGen.1 hyx with heq | hback
  · exact absurd heq.symm hne
  · exact ⟨y, hne, .single hxy, hback⟩

/-- A grammar whose references all lead upwards has no cycles. -/
theorem not_onCycle_of_ascending (height : String → Nat)
    (h : ∀ x y, g.Refers x y → height x < height y) (x : String) : ¬ g.OnCycle x := by
  have hpath : ∀ {a b}, TransGen g.RefersWithin a b → height a < height b := by
    intro a b hab
    induction hab with
    | single hstep => exact h _ _ hstep.1
    | tail _ hstep ih => exact ih.trans (h _ _ hstep.1)
  intro hcycle
  obtain ⟨y, -, hxy, hyx⟩ := hcycle
  have hup := hpath hxy
  have hdown := hpath hyx
  omega

theorem finite_definitions (g : Grammar) : g.definitions.Finite := by
  apply g.names.toList.finite_toSet.subset
  intro x hx
  exact mem_names_iff.2 hx

/-- When each defined name is a root or is referred to, every one of them can be reached from a root or
from a cycle. -/
theorem exists_reaching_source {roots : Set String}
    (hused : ∀ x ∈ g.definitions, x ∈ roots ∨ x ∈ g.references) (hx : x ∈ g.definitions) :
    ∃ y ∈ g.definitions, g.Reaches y x ∧ (y ∈ roots ∨ g.OnCycle y) := by
  by_contra hnone
  -- The names that no root and no cycle reaches. Going back from one of them stays among them.
  let dead : Set String := {z | z ∈ g.definitions ∧
    ¬ ∃ y ∈ g.definitions, g.Reaches y z ∧ (y ∈ roots ∨ g.OnCycle y)}
  have hfinite : dead.Finite := g.finite_definitions.subset fun z hz => hz.1
  have hacyclic : ∀ z ∈ dead, ¬ TransGen g.RefersWithin z z := by
    intro z hz hcycle
    exact hz.2 ⟨z, hz.1, .refl, .inr (onCycle_of_transGen hcycle)⟩
  obtain ⟨a, ha, hfirst⟩ := exists_without_predecessor hfinite ⟨x, hx, hnone⟩ hacyclic
  rcases hused a ha.1 with hroot | hreferenced
  · exact ha.2 ⟨a, ha.1, .refl, .inl hroot⟩
  · obtain ⟨b, hba⟩ := mem_references_iff_refers.1 hreferenced
    have hb : b ∈ dead := by
      refine ⟨hba.mem_definitions, ?_⟩
      intro hreached
      obtain ⟨y, hy, hyb, hsource⟩ := hreached
      exact ha.2 ⟨y, hy, hyb.tail hba, hsource⟩
    exact hfirst b hb ⟨hba, ha.1⟩

/-! ## Verified grammars -/

/-- In a grammar that verifies, every production can be reached from an exported one or from a cycle of
mutual recursion. Without such cycles, all productions and all imports can be reached from exports. -/
theorem no_dead_productions {declared : Interface} (hverified : g.verify declared = .ok g) :
    (∀ p ∈ g.productions, ∃ q ∈ g.productions,
      g.Reaches q.name p.name ∧ (q.name ∈ declared.exports ∨ g.OnCycle q.name)) ∧
    ((∀ x, ¬ g.OnCycle x) →
      (∀ p ∈ g.productions, ∃ q ∈ g.productions,
        q.name ∈ declared.exports ∧ g.Reaches q.name p.name) ∧
      (∀ x ∈ declared.imports, ∃ q ∈ g.productions,
        q.name ∈ declared.exports ∧ g.Reaches q.name x) ∧
      (g.productions ≠ [] → ∃ x, x ∈ declared.exports)) ∧
    ∀ p ∈ g.productions, p.name ∈ declared.exports → ∀ x, ¬ g.Refers x p.name := by
  obtain ⟨-, rfl⟩ := verify_eq_ok_iff_infer.1 hverified
  have hused : ∀ x ∈ g.definitions, x ∈ (Interface.infer g).exports.members ∨ x ∈ g.references := by
    intro x hx
    by_cases href : x ∈ g.references
    · exact .inr href
    · exact .inl (Interface.mem_exports_infer.2 ⟨hx, href⟩)
  have hreached : ∀ p ∈ g.productions, ∃ q ∈ g.productions,
      g.Reaches q.name p.name ∧ (q.name ∈ (Interface.infer g).exports ∨ g.OnCycle q.name) := by
    intro p hp
    obtain ⟨y, ⟨q, hq, rfl⟩, hreach, hsource⟩ := exists_reaching_source hused ⟨p, hp, rfl⟩
    exact ⟨q, hq, hreach, hsource⟩
  refine ⟨hreached, ?_, ?_⟩
  · intro hacyclic
    have hexported : ∀ p ∈ g.productions, ∃ q ∈ g.productions,
        q.name ∈ (Interface.infer g).exports ∧ g.Reaches q.name p.name := by
      intro p hp
      obtain ⟨q, hq, hreach, hsource⟩ := hreached p hp
      exact ⟨q, hq, hsource.resolve_right (hacyclic q.name), hreach⟩
    refine ⟨hexported, ?_, ?_⟩
    · intro x hx
      obtain ⟨⟨p, hp, hname, hcontains⟩, -⟩ := Interface.mem_imports_infer.1 hx
      obtain ⟨q, hq, hexport, hreach⟩ := hexported p hp
      exact ⟨q, hq, hexport, hreach.tail ⟨p, hp, rfl, hname.symm, hcontains⟩⟩
    · intro hne
      obtain ⟨p, hp⟩ := List.exists_mem_of_ne_nil _ hne
      obtain ⟨q, -, hexport, -⟩ := hexported p hp
      exact ⟨q.name, hexport⟩
  · intro p hp hexport x hrefers
    have hunreferenced := (Interface.mem_exports_infer.1 hexport).2
    exact hunreferenced (mem_references_iff_refers.2 ⟨x, hrefers⟩)

/-- All references of the tokens lead to later productions, so every token can be reached from an export.
The syntax rules have cycles. -/
theorem no_dead_productions_of_catalog :
    (∀ m ∈ Catalog.modules, m.grammar.verify m.interface = .ok m.grammar) ∧
    (∀ p ∈ Catalog.syntaxRules.grammar.productions, ∃ q ∈ Catalog.syntaxRules.grammar.productions,
      Catalog.syntaxRules.grammar.Reaches q.name p.name ∧
      (q.name ∈ Catalog.syntaxRules.interface.exports ∨ Catalog.syntaxRules.grammar.OnCycle q.name)) ∧
    (∀ x, ¬ Catalog.tokens.grammar.OnCycle x) ∧
    ∀ p ∈ Catalog.tokens.grammar.productions, ∃ q ∈ Catalog.tokens.grammar.productions,
      q.name ∈ Catalog.tokens.interface.exports ∧ Catalog.tokens.grammar.Reaches q.name p.name := by
  have hverified : ∀ m ∈ Catalog.modules, m.grammar.verify m.interface = .ok m.grammar := by
    intro m hm
    rw [← GrammarModule.verify_eq]
    exact Catalog.verify_eq_ok hm
  have hforward : ∀ p ∈ Catalog.tokens.grammar.productions, ∀ y ∈ p.referenced.toList,
      (Catalog.tokens.grammar.productions.map (·.name)).idxOf p.name <
        (Catalog.tokens.grammar.productions.map (·.name)).idxOf y := by
    decide +kernel
  have hacyclic : ∀ x, ¬ Catalog.tokens.grammar.OnCycle x := by
    apply not_onCycle_of_ascending (Catalog.tokens.grammar.productions.map (·.name)).idxOf
    rintro x y ⟨p, hp, rfl, hne, hcontains⟩
    exact hforward p hp y (Production.mem_referenced.2 ⟨hne.symm, hcontains⟩)
  have htokens := hverified Catalog.tokens (by simp [Catalog.modules])
  have hsyntax := hverified Catalog.syntaxRules (by simp [Catalog.modules])
  exact ⟨hverified, (no_dead_productions hsyntax).1, hacyclic,
    ((no_dead_productions htokens).2.1 hacyclic).1⟩

end Grammar

end ModularGrammar
