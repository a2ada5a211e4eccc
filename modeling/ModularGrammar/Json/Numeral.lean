/-! # JSON numbers

A number is an optional minus sign, a whole part without leading zeros, and then perhaps a fraction after a
point and an exponent after an `e` and perhaps a sign.

* `Numeral`, `Numeral.step`: what has been read of a number, and one character more;
* `Json.isNumber`: the texts that are numbers.
-/

set_option autoImplicit false

namespace ModularGrammar.Json

/-- What has been read of a number, by its last part. -/
inductive Numeral where
  | start
  | minus
  | zero
  | whole
  | point
  | fraction
  | mark
  | sign
  | exponent
deriving DecidableEq

namespace Numeral

def beginWhole (c : Char) : Option Numeral :=
  if c = '0' then some .zero else if c.isDigit then some .whole else none

def markExponent (c : Char) : Option Numeral := if c = 'e' ∨ c = 'E' then some .mark else none

def endWhole (c : Char) : Option Numeral := if c = '.' then some .point else markExponent c

def step : Numeral → Char → Option Numeral
  | .start, c => if c = '-' then some .minus else beginWhole c
  | .minus, c => beginWhole c
  | .zero, c => endWhole c
  | .whole, c => if c.isDigit then some .whole else endWhole c
  | .point, c => if c.isDigit then some .fraction else none
  | .fraction, c => if c.isDigit then some .fraction else markExponent c
  | .mark, c => if c = '+' ∨ c = '-' then some .sign else if c.isDigit then some .exponent else none
  | .sign, c => if c.isDigit then some .exponent else none
  | .exponent, c => if c.isDigit then some .exponent else none

/-- Whether a number may end here. -/
def complete : Numeral → Bool
  | .zero | .whole | .fraction | .exponent => true
  | .start | .minus | .point | .mark | .sign => false

end Numeral

def isNumber (text : List Char) : Bool := (text.foldlM Numeral.step .start).any (·.complete)

end ModularGrammar.Json
