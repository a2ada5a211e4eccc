import ModularGrammar.Grammar

/-! # The symbols of a grammar

Which literals and which names occur in the leaves of a grammar, at every depth of nested sequences.

* `Production.terminals`, `Grammar.terminals`: the literals;
* `Production.referenced`, `Grammar.referenced`: the names referred to. A production that refers to
  itself is not thereby used by anything else, so its own name is left out of its references.
-/

set_option autoImplicit false

namespace ModularGrammar

/-! ## Terminals -/

def NameSet.addTerminal (found : NameSet) : Phrase → NameSet
  | .terminal literal => found.insert literal
  | .empty | .comment _ | .nonTerminal _ | .sequence _ => found

def Production.terminals (p : Production) : NameSet :=
  Phrase.walkAll NameSet.addTerminal ∅ p.alternatives

def Grammar.terminals (g : Grammar) : NameSet :=
  g.productions.foldr (fun p found => p.terminals.union found) ∅

/-! ## References -/

def NameSet.addReference (found : NameSet) : Phrase → NameSet
  | .nonTerminal name => found.insert name
  | .empty | .comment _ | .terminal _ | .sequence _ => found

/-- The names that a production refers to, its own left out. -/
def Production.referenced (p : Production) : NameSet :=
  (Phrase.walkAll NameSet.addReference ∅ p.alternatives).erase p.name

/-- The names that some production of another name refers to. Two productions that refer to each other
are both in the set. -/
def Grammar.referenced (g : Grammar) : NameSet :=
  g.productions.foldr (fun p found => p.referenced.union found) ∅

theorem Grammar.mem_terminals {g : Grammar} {s : String} :
    s ∈ g.terminals ↔ ∃ p ∈ g.productions, s ∈ p.terminals := by
  obtain ⟨ps⟩ := g
  simp only [Grammar.terminals]
  induction ps with
  | nil => simp
  | cons p ps ih => simp [ih]

theorem Grammar.mem_referenced {g : Grammar} {x : String} :
    x ∈ g.referenced ↔ ∃ p ∈ g.productions, x ∈ p.referenced := by
  obtain ⟨ps⟩ := g
  simp only [Grammar.referenced]
  induction ps with
  | nil => simp
  | cons p ps ih => simp [ih]

end ModularGrammar
