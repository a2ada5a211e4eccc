import ModularGrammar.Text.Pattern.CharSet

/-! # Atoms of a pattern

An atom is a part of a pattern that has no parts: a character, a sign with a meaning of its own, an escape
or a set.

* `Atom.ofEscape?`: the atom that is written by a backslash and what follows it;
* `Atom.allowed`: whether the modes have a meaning for an atom;
* `Atom.isUnicodeBoundary`: whether it needs to know which characters beyond ASCII make up words.
-/

set_option autoImplicit false

namespace ModularGrammar.Pattern

inductive Atom where
  | literal (l : Literal)
  | any
  /-- The start or the end of a text or a line. -/
  | edge
  /-- The start, the end or the inside of a word. -/
  | boundary
  /-- The digits, blanks or word characters, or all other characters. -/
  | shorthand (negated : Bool)
  | set (members : CharSet)

namespace Atom

def allowed (m : Modes) : Atom → Bool
  | .literal l => if m.unicode then !m.anyCase else !(l.isByte && decide (128 ≤ l.code))
  | .any => m.unicode
  | .edge => true
  | .boundary => true
  | .shorthand negated => (CharSet.shorthand negated).allowed m
  | .set members => members.allowed m

def isUnicodeBoundary (m : Modes) : Atom → Bool
  | .boundary => m.unicode
  | _ => false

def depth : Atom → Nat
  | .set members => members.depth
  | _ => 0

/-! ## Escapes -/

def hexadecimal? (c : Char) : Option Nat :=
  if c.isDigit then some (c.toNat - '0'.toNat)
  else if 'a' ≤ c ∧ c ≤ 'f' then some (c.toNat - 'a'.toNat + 10)
  else if 'A' ≤ c ∧ c ≤ 'F' then some (c.toNat - 'A'.toNat + 10)
  else none

/-- Reads so many hexadecimal digits after those that stand for the value, and what follows them. -/
def readDigits? (m : Modes) : Nat → Nat → List Char → Option (Nat × List Char)
  | 0, value, text => some (value, text)
  | count + 1, value, text =>
    match m.skip text with
    | [] => none
    | c :: rest => do readDigits? m count (16 * value + (← hexadecimal? c)) rest

theorem length_readDigits {m : Modes} {count value code : Nat} {text rest : List Char}
    (h : readDigits? m count value text = some (code, rest)) : rest.length ≤ text.length := by
  induction count generalizing value text with
  | zero =>
    cases h
    exact Nat.le_refl _
  | succ count ih =>
    unfold readDigits? at h
    split at h
    · cases h
    · next skip_eq =>
      obtain ⟨_, _, read⟩ := Option.bind_eq_some_iff.1 h
      exact Nat.le_trans (ih read) (Nat.le_of_lt (Modes.length_lt_of_skip skip_eq))

def ofCode? (m : Modes) (isByte : Bool) (count : Nat) (text : List Char) : Option (Atom × List Char) :=
  match readDigits? m count 0 text with
  | none => none
  | some (code, rest) => if code.isValidChar then some (.literal ⟨code, isByte⟩, rest) else none

/-- The atom of a backslash and one character. A letter or digit does not stand for itself there, but any
other ASCII character does. -/
def ofEscaped? (c : Char) : Option Atom :=
  match c with
  | 'a' => some (.literal ⟨0x07, false⟩)
  | 'f' => some (.literal ⟨0x0c, false⟩)
  | 'n' => some (.literal ⟨0x0a, false⟩)
  | 'r' => some (.literal ⟨0x0d, false⟩)
  | 't' => some (.literal ⟨0x09, false⟩)
  | 'v' => some (.literal ⟨0x0b, false⟩)
  | 'd' | 's' | 'w' => some (.shorthand false)
  | 'D' | 'S' | 'W' => some (.shorthand true)
  | 'A' | 'z' => some .edge
  | 'b' | 'B' | '<' | '>' => some .boundary
  | _ => if c.toNat < 128 && !c.isAlphanum then some (.literal (.ofChar c)) else none

def ofEscape? (m : Modes) : List Char → Option (Atom × List Char)
  | [] => none
  | 'x' :: rest => ofCode? m true 2 rest
  | 'u' :: rest => ofCode? m false 4 rest
  | 'U' :: rest => ofCode? m false 8 rest
  | c :: rest => (ofEscaped? c).map fun atom => (atom, rest)

theorem length_ofCode {m : Modes} {isByte : Bool} {count : Nat} {text rest : List Char} {atom : Atom}
    (h : ofCode? m isByte count text = some (atom, rest)) : rest.length ≤ text.length := by
  unfold ofCode? at h
  split at h
  · cases h
  · next read =>
    split at h
    · cases h
      exact length_readDigits read
    · cases h

theorem length_ofEscape {m : Modes} {text rest : List Char} {atom : Atom}
    (h : ofEscape? m text = some (atom, rest)) : rest.length ≤ text.length := by
  unfold ofEscape? at h
  split at h
  · cases h
  · exact Nat.le_succ_of_le (length_ofCode h)
  · exact Nat.le_succ_of_le (length_ofCode h)
  · exact Nat.le_succ_of_le (length_ofCode h)
  · obtain ⟨_, _, same⟩ := Option.map_eq_some_iff.1 h
    cases same
    exact Nat.le_succ _

end Atom

end ModularGrammar.Pattern
