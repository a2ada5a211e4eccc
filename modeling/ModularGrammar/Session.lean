import ModularGrammar.Catalog
import ModularGrammar.Report

/-! # Editing sessions

A session edits one module, step by step, and looks at it.

* `Edit`: what one step does, `Edit.Answer`: what it answers;
* `GrammarModule.edit`: the module after a step, with the step's answer;
* `Session.run`: the answers of a list of steps, each with the module after it.
-/

set_option autoImplicit false

namespace ModularGrammar

inductive Edit where
  /-- Begins anew with an empty module of that name. -/
  | start (name : String)
  | rename (name : String)
  /-- Takes a module of the catalog instead. -/
  | load (name : String)
  | merge (name : String)
  | add (production : Production)
  | drop (name : String)
  | reverse
  | find (name : String)
  | addImport (name : String)
  | addExport (name : String)
  | removeImport (name : String)
  | removeExport (name : String)
  | infer
  | terminals
  | referenced

inductive Edit.Answer where
  | done
  | unknownModule (error : UnknownModule)
  | removed (count : Nat)
  | production (found : Option Production)
  /-- Whether a set of the interface was changed. -/
  | changed (value : Bool)
  | interface (inferred : Interface)
  | names (set : NameSet)

namespace GrammarModule

variable (m : GrammarModule)

def withGrammar (grammar : Grammar) : GrammarModule := { m with grammar }

def withImports (imports : NameSet) : GrammarModule :=
  { m with interface := { m.interface with imports } }

def withExports (exports : NameSet) : GrammarModule :=
  { m with interface := { m.interface with exports } }

/-- One step of a session. Asking for a module that is not in the catalog changes nothing. -/
def edit : Edit → GrammarModule × Edit.Answer
  | .start name => (.ofName name, .done)
  | .rename name => ({ m with name }, .done)
  | .load name =>
    match Catalog.find name with
    | .ok loaded => (loaded, .done)
    | .error e => (m, .unknownModule e)
  | .merge name =>
    match Catalog.find name with
    | .ok other => (m.withGrammar (m.grammar.append other.grammar), .done)
    | .error e => (m, .unknownModule e)
  | .add production => (m.withGrammar (m.grammar.push production), .done)
  | .drop name =>
    let remaining := m.grammar.drop name
    (m.withGrammar remaining, .removed (m.grammar.size - remaining.size))
  | .reverse => (m.withGrammar m.grammar.reverse, .done)
  | .find name => (m, .production (m.grammar.find? name))
  | .addImport name =>
    (m.withImports (m.interface.imports.insert name), .changed (!m.interface.imports.contains name))
  | .addExport name =>
    (m.withExports (m.interface.exports.insert name), .changed (!m.interface.exports.contains name))
  | .removeImport name =>
    (m.withImports (m.interface.imports.erase name), .changed (m.interface.imports.contains name))
  | .removeExport name =>
    (m.withExports (m.interface.exports.erase name), .changed (m.interface.exports.contains name))
  | .infer =>
    let inferred := Interface.infer m.grammar
    ({ m with interface := inferred }, .interface inferred)
  | .terminals => (m, .names m.grammar.terminals)
  | .referenced => (m, .names m.grammar.referenced)

end GrammarModule

/-- The answers to the steps, in order, each with the module as the step leaves it. -/
def Session.run (m : GrammarModule) : List Edit → List (Edit.Answer × GrammarModule)
  | [] => []
  | step :: rest =>
    let (next, answer) := m.edit step
    (answer, next) :: Session.run next rest

end ModularGrammar
