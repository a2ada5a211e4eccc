import ModularGrammar.Catalog.Syntax
import ModularGrammar.Catalog.Tokens

/-! # The catalog

The grammar modules that the program knows, in dependency order.

* `Catalog.module?`, `Catalog.find`: one module by name;
* `Catalog.select`: several modules by name, all of them when no name is given;
* `UnknownModule`: the error when a name is not in the catalog.
-/

set_option autoImplicit false

namespace ModularGrammar

structure UnknownModule where
  name : String
  known : List String
deriving DecidableEq

def UnknownModule.knownText (e : UnknownModule) : String := ", ".intercalate e.known

def UnknownModule.message (e : UnknownModule) : String :=
  "unknown module `" ++ e.name ++ "` (known modules: " ++ e.knownText ++ ")"

namespace Catalog

def modules : List GrammarModule := [tokens, syntaxRules]

def names : List String := modules.map (·.name)

def module? (name : String) : Option GrammarModule := modules.find? fun m => m.name == name

def find (name : String) : Except UnknownModule GrammarModule :=
  match module? name with
  | some m => .ok m
  | none => .error ⟨name, names⟩

/-- The modules of the given names, in their order and with repeats, or the first name that is unknown.
No names stand for the whole catalog. -/
def select (requested : List String) : Except UnknownModule (List GrammarModule) :=
  if requested.isEmpty then .ok modules else requested.mapM find

end Catalog

end ModularGrammar
