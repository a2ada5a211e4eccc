import ModularGrammar.Text.Pattern.OpenGroup

/-! # Patterns that can be matched

* `Pattern.Fault`: why a text cannot be matched with as a pattern;
* `Pattern.fault?`: the fault of a text, if it has one.
-/

set_option autoImplicit false

namespace ModularGrammar.Pattern

inductive Fault where
  /-- The text is no pattern, or the modes of an atom have no meaning for it, or it is nested too deep. -/
  | malformed
  /-- The text is a pattern that asks for the edges of words of Unicode characters. -/
  | unicodeBoundary
deriving DecidableEq

def greatestAllowedDepth : Nat := 250

def fault? (text : List Char) : Option Fault :=
  match read? text with
  | none => some .malformed
  | some pattern =>
    if greatestAllowedDepth < pattern.depth then some .malformed
    else if pattern.atoms.any fun (modes, a) => !a.allowed modes then some .malformed
    else if pattern.atoms.any fun (modes, a) => a.isUnicodeBoundary modes then some .unicodeBoundary
    else none

end ModularGrammar.Pattern
