import ModularGrammar.Text.Printable

/-! # Quoted text

A text between double quotes, on one line whatever it holds. A backslash goes before a double quote and
before another backslash, and line feed, carriage return, tab and NUL are a backslash with a letter or digit.
Any other character is given by its code point if it is not printable or would be drawn onto the one before
it, and else stands for itself.

* `Quoted.text`: one text, quoted;
* `Quoted.list`: a list of texts, each quoted, between brackets.
-/

set_option autoImplicit false

namespace ModularGrammar.Quoted

/-- Whether a character can be seen on its own. -/
def isPlain (c : Char) : Bool := isPrintable c && !extendsGrapheme c

/-- A character by its code point, in hexadecimal digits without leading zeros. -/
def codePoint (c : Char) : List Char := ['\\', 'u', '\x7b'] ++ Nat.toDigits 16 c.toNat ++ ['\x7d']

def escape (c : Char) : List Char :=
  if c = '"' then ['\\', '"']
  else if c = '\\' then ['\\', '\\']
  else if c = '\n' then ['\\', 'n']
  else if c = '\r' then ['\\', 'r']
  else if c = '\t' then ['\\', 't']
  else if c = '\x00' then ['\\', '0']
  else if isPlain c then [c]
  else codePoint c

def text (s : String) : String := String.ofList ('"' :: s.toList.flatMap escape ++ ['"'])

def list (items : List String) : String := "[" ++ ", ".intercalate (items.map text) ++ "]"

end ModularGrammar.Quoted
