/-! # Numerals

* `isNumeral`: whether a text is a number in decimal notation: an optional sign, then digits with an
  optional point among, before or after them and an optional exponent, or a word for infinity or for what
  is no number, in any case.
-/

set_option autoImplicit false

namespace ModularGrammar

/-- The text without a sign before it. -/
def Numeral.unsigned : List Char → List Char
  | '+' :: rest => rest
  | '-' :: rest => rest
  | text => text

def Numeral.isExponent : List Char → Bool
  | [] => true
  | c :: rest =>
    let digits := unsigned rest
    (c = 'e' || c = 'E') && !digits.isEmpty && digits.all Char.isDigit

/-- Whether a text is a number without a sign: digits before or after the point, or both. -/
def Numeral.isUnsigned (text : List Char) : Bool :=
  let whole := text.takeWhile Char.isDigit
  match text.dropWhile Char.isDigit with
  | '.' :: rest =>
    !(whole.isEmpty && (rest.takeWhile Char.isDigit).isEmpty) && isExponent (rest.dropWhile Char.isDigit)
  | rest => !whole.isEmpty && isExponent rest

def isNumeral (text : List Char) : Bool :=
  let number := Numeral.unsigned text
  let word := String.ofList (number.map Char.toLower)
  Numeral.isUnsigned number || word = "inf" || word = "infinity" || word = "nan"

end ModularGrammar
