import ModularGrammar.Text.Pattern.Atom

/-! # Patterns as trees

* `Pattern`: what a regular expression is made of. Each atom comes with the modes that it is written in;
* `Pattern.depth`: how deep a pattern is nested;
* `Pattern.atoms`: its atoms, from left to right.
-/

set_option autoImplicit false

namespace ModularGrammar

inductive Pattern where
  | empty
  | change
  | atom (modes : Pattern.Modes) (a : Pattern.Atom)
  | repetition (item : Pattern)
  | group (inner : Pattern)
  | sequence (items : List Pattern)
  | choice (branches : List Pattern)

namespace Pattern

def ofItems : List Pattern → Pattern
  | [] => .empty
  | [item] => item
  | items => .sequence items

def ofBranches : List Pattern → Pattern
  | [] => .empty
  | [branch] => branch
  | branches => .choice branches

def repeatable : Pattern → Bool
  | .empty => false
  | .change => false
  | _ => true

/-! ## Depth -/

mutual

def depth : Pattern → Nat
  | .empty => 0
  | .change => 0
  | .atom _ a => a.depth
  | .repetition item => item.depth + 1
  | .group inner => inner.depth + 1
  | .sequence items => greatestDepth items + 1
  | .choice branches => greatestDepth branches + 1

def greatestDepth : List Pattern → Nat
  | [] => 0
  | pattern :: rest => max pattern.depth (greatestDepth rest)

end

/-! ## Atoms -/

mutual

def atoms : Pattern → List (Modes × Atom)
  | .empty => []
  | .change => []
  | .atom modes a => [(modes, a)]
  | .repetition item => item.atoms
  | .group inner => inner.atoms
  | .sequence items => allAtoms items
  | .choice branches => allAtoms branches

def allAtoms : List Pattern → List (Modes × Atom)
  | [] => []
  | pattern :: rest => pattern.atoms ++ allAtoms rest

end

end Pattern

end ModularGrammar
