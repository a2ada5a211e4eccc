import ModularGrammar.NameSet
import ModularGrammar.Phrase

/-! # Grammars

A grammar is an ordered list of named productions. Names are expected to be unique, but nothing here
enforces it: a repeated name is a violation that verification reports.

* `Production`: a name with its alternatives;
* `Grammar.names`: the defined names, `Grammar.find?`: the first production of a name;
* `Grammar.redefined`: the names that two or more productions carry.
-/

set_option autoImplicit false

namespace ModularGrammar

/-- A named rule, which matches whatever one of its alternatives matches. -/
structure Production where
  name : String
  alternatives : List Phrase
deriving DecidableEq, Inhabited

structure Grammar where
  productions : List Production
deriving DecidableEq, Inhabited

namespace Grammar

instance : EmptyCollection Grammar := ⟨⟨[]⟩⟩

def size (g : Grammar) : Nat := g.productions.length

def isEmpty (g : Grammar) : Bool := g.productions.isEmpty

def find? (g : Grammar) (name : String) : Option Production :=
  g.productions.find? fun p => p.name == name

def findIdx? (g : Grammar) (name : String) : Option Nat :=
  g.productions.findIdx? fun p => p.name == name

def names (g : Grammar) : NameSet := .ofList (g.productions.map (·.name))

def redefined (g : Grammar) : NameSet :=
  g.names.filter fun x => decide (1 < (g.productions.map (·.name)).count x)

theorem mem_names {g : Grammar} {x : String} : x ∈ g.names ↔ ∃ p ∈ g.productions, p.name = x := by
  simp [names]

theorem mem_redefined {g : Grammar} {x : String} :
    x ∈ g.redefined ↔ 1 < (g.productions.map (·.name)).count x := by
  simp only [redefined, NameSet.mem_filter, decide_eq_true_eq, and_iff_right_iff_imp]
  intro h
  have : x ∈ g.productions.map (·.name) := List.count_pos_iff.1 (by omega)
  simpa [names] using this

/-! ## Changing the productions -/

def push (g : Grammar) (p : Production) : Grammar := ⟨g.productions ++ [p]⟩

def append (g h : Grammar) : Grammar := ⟨g.productions ++ h.productions⟩

def drop (g : Grammar) (name : String) : Grammar := ⟨g.productions.filter (·.name != name)⟩

def reverse (g : Grammar) : Grammar := ⟨g.productions.reverse⟩

end Grammar

end ModularGrammar
