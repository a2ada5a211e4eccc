/-! # Blanks

* `isBlank`: the characters with the Unicode property White_Space, which are 25;
* `allBlank`: whether a text holds nothing else.
-/

set_option autoImplicit false

namespace ModularGrammar

/-- First and last code point of each run of blanks, in ascending order. -/
def Blank.ranges : List (Nat × Nat) :=
  [(0x9, 0xd), (0x20, 0x20), (0x85, 0x85), (0xa0, 0xa0), (0x1680, 0x1680), (0x2000, 0x200a),
   (0x2028, 0x2029), (0x202f, 0x202f), (0x205f, 0x205f), (0x3000, 0x3000)]

def isBlank (c : Char) : Bool :=
  Blank.ranges.any fun range => decide (range.1 ≤ c.toNat ∧ c.toNat ≤ range.2)

theorem isBlank_of_isWhitespace {c : Char} (h : c.isWhitespace = true) : isBlank c = true := by
  simp only [Char.isWhitespace, Bool.or_eq_true, decide_eq_true_eq] at h
  rcases h with ((rfl | rfl) | rfl) | rfl <;> decide

def allBlank (s : String) : Bool := s.toList.all isBlank

end ModularGrammar
