import ModularGrammar.Interface

/-! # Grammar modules

* `GrammarModule`: a named grammar with its declared interface;
* `GrammarModule.verify`: verification against that interface, `GrammarModule.verification` with events.
-/

set_option autoImplicit false

namespace ModularGrammar

structure GrammarModule where
  name : String
  grammar : Grammar
  interface : Interface
deriving DecidableEq, Inhabited

namespace GrammarModule

def ofName (name : String) : GrammarModule := ⟨name, ∅, ∅⟩

def verification (m : GrammarModule) : Checked Grammar := do
  Logged.report (.verifyingModule m.name)
  m.grammar.verification m.interface

def verify (m : GrammarModule) : Except Violation Grammar := m.verification.run.value

theorem verify_eq (m : GrammarModule) : m.verify = m.grammar.verify m.interface := rfl

def events (m : GrammarModule) : List Event := m.verification.run.events

end GrammarModule

end ModularGrammar
