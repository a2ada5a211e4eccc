import ModularGrammar.Json
import ModularGrammar.Json.Token

/-! # Reading JSON

A text is read token by token. What has been read is a stack of open arrays and objects, the innermost
first, and what may come next.

* `Json.Frame`, `Json.State`: open arrays and objects, and the state of reading;
* `Json.State.step`: one token more;
* `Json.ofTokens?`, `Json.read?`: the value of a row of tokens, and of a text;
* `Json.member?`, `text?`, `bool?`, `count?`, `list?`: the parts of a value.
-/

set_option autoImplicit false

namespace ModularGrammar.Json

/-- An array or object that is open, without the item or value that is being read. -/
inductive Frame where
  | array (items : List Json)
  | object (members : List (String × Json)) (key : String)

inductive State where
  /-- A value comes next. -/
  | value (stack : List Frame)
  /-- The first item of an array, or its end. -/
  | firstItem (stack : List Frame)
  /-- The first key of an object, or its end. -/
  | firstKey (stack : List Frame)
  /-- A further key of an object. -/
  | key (members : List (String × Json)) (stack : List Frame)
  | colon (members : List (String × Json)) (key : String) (stack : List Frame)
  /-- A value has been read. -/
  | after (value : Json) (stack : List Frame)

namespace State

/-- The first token of a value, which is the whole of it unless it opens an array or object. -/
def begin (stack : List Frame) : Token → Option State
  | .openArray => some (.firstItem stack)
  | .openObject => some (.firstKey stack)
  | .null => some (.after .null stack)
  | .bool b => some (.after (.bool b) stack)
  | .number literal => some (.after (.number literal) stack)
  | .string text => some (.after (.string text) stack)
  | .closeArray | .closeObject | .colon | .comma => none

/-- A comma, or the end of the innermost array or object, after a value. -/
def finish (v : Json) : List Frame → Token → Option State
  | .array items :: stack, .comma => some (.value (.array (items ++ [v]) :: stack))
  | .array items :: stack, .closeArray => some (.after (.array (items ++ [v])) stack)
  | .object members name :: stack, .comma => some (.key (members ++ [(name, v)]) stack)
  | .object members name :: stack, .closeObject => some (.after (.object (members ++ [(name, v)])) stack)
  | _, _ => none

def step : State → Token → Option State
  | .value stack, token => begin stack token
  | .firstItem stack, .closeArray => some (.after (.array []) stack)
  | .firstItem stack, token => begin (.array [] :: stack) token
  | .firstKey stack, .closeObject => some (.after (.object []) stack)
  | .firstKey stack, .string name => some (.colon [] name stack)
  | .firstKey _, _ => none
  | .key members stack, .string name => some (.colon members name stack)
  | .key _ _, _ => none
  | .colon members name stack, .colon => some (.value (.object members name :: stack))
  | .colon _ _ _, _ => none
  | .after v stack, token => finish v stack token

end State

/-- The value that a row of tokens stands for. -/
def ofTokens? (tokens : List Token) : Option Json :=
  match tokens.foldlM State.step (.value []) with
  | some (.after v []) => some v
  | _ => none

def read? (text : String) : Option Json := do ofTokens? (← lex? text.toList)

/-! ## Parts of a value -/

/-- The value of the first member with the key. -/
def member? : Json → String → Option Json
  | .object members, key => (members.find? fun member => member.1 == key).map (·.2)
  | _, _ => none

def text? : Json → Option String
  | .string text => some text
  | _ => none

def bool? : Json → Option Bool
  | .bool value => some value
  | _ => none

/-- The value of a number that is written by digits alone. -/
def count? : Json → Option Nat
  | .number literal =>
    if literal.toList.all Char.isDigit then some (Nat.ofDigitChars 10 literal.toList 0) else none
  | _ => none

def list? {α : Type} (item? : Json → Option α) : Json → Option (List α)
  | .array items => items.mapM item?
  | _ => none

end ModularGrammar.Json
