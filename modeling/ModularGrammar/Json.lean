/-! # JSON values

A JSON value as a tree. Object members keep their order, since the order is visible in the text, and a
number keeps its literal, so nothing is lost to rounding.

* `Json`: the type;
* `Json.nat`, `Json.strings`: counts and lists of strings as values.
-/

set_option autoImplicit false

namespace ModularGrammar

inductive Json where
  | null
  | bool (value : Bool)
  | number (literal : String)
  | string (text : String)
  | array (items : List Json)
  | object (members : List (String × Json))

namespace Json

instance : Inhabited Json := ⟨.null⟩

def nat (n : Nat) : Json := .number (toString n)

def strings (texts : List String) : Json := .array (texts.map .string)

end Json

end ModularGrammar
