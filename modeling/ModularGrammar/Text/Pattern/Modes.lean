import ModularGrammar.Text.Blank

/-! # Modes of a pattern

A pattern is read in modes that it may change on its way, each by a letter. Three of them bear on which
texts are patterns; the others bear on what a pattern matches.

* `Modes.change`: the modes after a change, which is a word such as `i`, `-u` or `is-x`;
* `isModeChange`: which words are changes;
* `Modes.skip`, `Modes.peek?`: passing over the blanks and comments of a spaced pattern.
-/

set_option autoImplicit false

namespace ModularGrammar.Pattern

structure Modes where
  /-- Whether upper and lower case letters match each other. -/
  anyCase : Bool
  /-- Whether the pattern is about Unicode characters, and not about bytes. -/
  unicode : Bool
  /-- Whether blanks and comments are no part of the pattern. -/
  spaced : Bool
deriving DecidableEq

namespace Modes

def initial : Modes := ⟨false, true, false⟩

/-! ## Changes -/

def switch (on : Bool) (m : Modes) (letter : Char) : Modes :=
  match letter with
  | 'i' => { m with anyCase := on }
  | 'u' => { m with unicode := on }
  | 'x' => { m with spaced := on }
  | _ => m

/-- The modes after a change. It switches on the modes of the letters before a dash, and off the modes of
those after it. -/
def change (m : Modes) (word : List Char) : Modes :=
  (word.dropWhile (· != '-')).foldl (switch false) ((word.takeWhile (· != '-')).foldl (switch true) m)

end Modes

def modeLetters : List Char := ['i', 'm', 's', 'U', 'u', 'R', 'x']

def isModeChange (word : List Char) : Bool :=
  word.all (fun c => c = '-' || modeLetters.contains c) && decide word.Nodup && word.getLast? != some '-'

/-! ## Blanks and comments -/

/-- What is left of a text after the blanks and comments at its beginning. A comment goes from a number
sign to the end of the line. -/
def dropBlanks (inComment : Bool) : List Char → List Char
  | [] => []
  | c :: rest =>
    if inComment then dropBlanks (c != '\n') rest
    else if isBlank c then dropBlanks false rest
    else if c = '#' then dropBlanks true rest
    else c :: rest

theorem length_dropBlanks_le (inComment : Bool) (text : List Char) :
    (dropBlanks inComment text).length ≤ text.length := by
  induction text generalizing inComment with
  | nil => exact Nat.le_refl _
  | cons c rest ih =>
    unfold dropBlanks
    split
    · exact Nat.le_succ_of_le (ih _)
    · split
      · exact Nat.le_succ_of_le (ih _)
      · split
        · exact Nat.le_succ_of_le (ih _)
        · exact Nat.le_refl _

/-- The first character that is neither blank nor the number sign of a first comment. It may stand in that
comment. -/
def findInk? (inComment : Bool) : List Char → Option Char
  | [] => none
  | c :: rest =>
    if isBlank c then findInk? inComment rest
    else if c = '#' && !inComment then findInk? true rest
    else some c

namespace Modes

def skip (m : Modes) (text : List Char) : List Char :=
  if m.spaced then dropBlanks false text else text

theorem length_skip_le (m : Modes) (text : List Char) : (m.skip text).length ≤ text.length := by
  unfold skip
  split
  · exact length_dropBlanks_le false text
  · exact Nat.le_refl _

theorem length_lt_of_skip {m : Modes} {text rest : List Char} {c : Char}
    (h : m.skip text = c :: rest) : rest.length < text.length := by
  have shorter := m.length_skip_le text
  rw [h] at shorter
  exact shorter

/-- The character that tells whether a dash before the text begins a range. -/
def peek? (m : Modes) (text : List Char) : Option Char :=
  if m.spaced then findInk? false text else text.head?

end Modes

end ModularGrammar.Pattern
