/-! # Phrases

A phrase is one alternative of a production, or a part of one. It is a tree whose inner nodes are
sequences; everything else is a leaf.

* `Phrase`: the type, with structural equality decided by `Phrase.same`;
* `Phrase.walk`: passes a state through the leaves, from left to right and at every depth;
* `Phrase.lit`, `Phrase.ref`, `Phrase.seq`: short forms for grammars written by hand.
-/

set_option autoImplicit false

namespace ModularGrammar

inductive Phrase where
  /-- Matches the empty text. -/
  | empty
  /-- Explains something to the reader and has no grammatical meaning. -/
  | comment (text : String)
  | terminal (literal : String)
  | nonTerminal (name : String)
  | sequence (items : List Phrase)

namespace Phrase

instance : Inhabited Phrase := ⟨.empty⟩

abbrev lit (literal : String) : Phrase := .terminal literal

abbrev ref (name : String) : Phrase := .nonTerminal name

abbrev seq (items : List Phrase) : Phrase := .sequence items

/-! ## Equality -/

mutual

def same : Phrase → Phrase → Bool
  | .empty, .empty => true
  | .comment a, .comment b => a == b
  | .terminal a, .terminal b => a == b
  | .nonTerminal a, .nonTerminal b => a == b
  | .sequence a, .sequence b => sameAll a b
  | _, _ => false

def sameAll : List Phrase → List Phrase → Bool
  | [], [] => true
  | a :: as, b :: bs => same a b && sameAll as bs
  | _, _ => false

end

mutual

theorem same_iff : ∀ a b : Phrase, same a b = true ↔ a = b
  | .empty, b => by cases b <;> simp [same]
  | .comment _, b => by cases b <;> simp [same]
  | .terminal _, b => by cases b <;> simp [same]
  | .nonTerminal _, b => by cases b <;> simp [same]
  | .sequence items, .sequence items' => by simp [same, sameAll_iff items items']
  | .sequence _, .empty => by simp [same]
  | .sequence _, .comment _ => by simp [same]
  | .sequence _, .terminal _ => by simp [same]
  | .sequence _, .nonTerminal _ => by simp [same]

theorem sameAll_iff : ∀ a b : List Phrase, sameAll a b = true ↔ a = b
  | [], b => by cases b <;> simp [sameAll]
  | _ :: _, [] => by simp [sameAll]
  | a :: as, b :: bs => by simp [sameAll, same_iff a b, sameAll_iff as bs]

end

instance : DecidableEq Phrase := fun a b => decidable_of_iff (same a b = true) (same_iff a b)

/-! ## Walking the leaves -/

mutual

/-- Passes `state` through the leaves of a phrase, depth first. A sequence is never visited itself. -/
def walk {σ : Type} (visit : σ → Phrase → σ) (state : σ) : Phrase → σ
  | .sequence items => walkAll visit state items
  | .empty => visit state .empty
  | .comment text => visit state (.comment text)
  | .terminal literal => visit state (.terminal literal)
  | .nonTerminal name => visit state (.nonTerminal name)

def walkAll {σ : Type} (visit : σ → Phrase → σ) (state : σ) : List Phrase → σ
  | [] => state
  | phrase :: rest => walkAll visit (walk visit state phrase) rest

end

end Phrase

end ModularGrammar
