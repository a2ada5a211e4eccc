import ModularGrammar.Text.Pattern.Modes

/-! # Sets of characters in a pattern

A set is written between square brackets. It has characters, ranges and classes as members, and other sets,
and signs between them that intersect, subtract or part them.

There are no tables of characters beyond ASCII here. So a pattern about Unicode characters has neither
shorthands for classes nor characters that match in any case. A pattern about bytes has both, but its sets
hold ASCII alone and have no complement, for a byte beyond ASCII is only a part of a character.

* `CharSet.depth`: how deep a set is nested;
* `CharSet.allowed`: whether the modes have a meaning for it.
-/

set_option autoImplicit false

namespace ModularGrammar.Pattern

structure Literal where
  code : Nat
  /-- Whether it is written as a byte, by an `x` and two hexadecimal digits after a backslash. -/
  isByte : Bool

def Literal.ofChar (c : Char) : Literal := ⟨c.toNat, false⟩

inductive CharSet where
  | empty
  | literal (l : Literal)
  | range (first last : Literal)
  /-- The digits, blanks or word characters by one letter after a backslash, or all other characters. -/
  | shorthand (negated : Bool)
  /-- A class of ASCII characters by its name between brackets and colons, or all other characters. -/
  | named (negated : Bool)
  /-- A set between brackets of its own, or all other characters. -/
  | brackets (negated : Bool) (inner : CharSet)
  | union (members : List CharSet)
  /-- Two sets with a doubled sign between them. -/
  | operation (left right : CharSet)

namespace CharSet

def ofMembers : List CharSet → CharSet
  | [] => .empty
  | [member] => member
  | members => .union members

/-! ## Depth -/

mutual

def depth : CharSet → Nat
  | .brackets _ inner => inner.depth + 1
  | .union members => greatestDepth members + 1
  | .operation left right => max left.depth right.depth + 1
  | .empty => 0
  | .literal _ => 0
  | .range _ _ => 0
  | .shorthand _ => 0
  | .named _ => 0

def greatestDepth : List CharSet → Nat
  | [] => 0
  | member :: rest => max member.depth (greatestDepth rest)

end

/-! ## Meaning -/

def allowsLiteral (m : Modes) (l : Literal) : Bool :=
  if m.unicode then !m.anyCase else decide (l.code < 128)

mutual

def allowed (m : Modes) : CharSet → Bool
  | .empty => true
  | .literal l => allowsLiteral m l
  | .range first last => allowsLiteral m first && allowsLiteral m last
  | .shorthand negated => !m.unicode && !negated
  | .named negated => if m.unicode then !m.anyCase else !negated
  | .brackets negated inner => (m.unicode || !negated) && inner.allowed m
  | .union members => allAllowed m members
  | .operation left right => left.allowed m && right.allowed m

def allAllowed (m : Modes) : List CharSet → Bool
  | [] => true
  | member :: rest => member.allowed m && allAllowed m rest

end

end CharSet

end ModularGrammar.Pattern
