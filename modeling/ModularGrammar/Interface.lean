import ModularGrammar.Event
import ModularGrammar.Symbols

/-! # Interfaces and their verification

A grammar module declares the names that it imports from other modules and the names that it exports to
them. The declaration fits when the imports are exactly the referenced names that the grammar does not
define, and the exports exactly the defined names that it does not reference.

* `Interface`: imports and exports, `Interface.infer` being the one that fits a grammar;
* `Grammar.offending`: the names for which a check fails;
* `Grammar.verification`: the five checks in their order, with the events they report;
* `Grammar.verify`: their result, which is the grammar itself or the first violation (`verify_eq`).
-/

set_option autoImplicit false

namespace ModularGrammar

structure Interface where
  imports : NameSet
  exports : NameSet
deriving DecidableEq

namespace Interface

instance : EmptyCollection Interface := ⟨⟨∅, ∅⟩⟩

instance : Inhabited Interface := ⟨∅⟩

/-- The interface of the listed names, which may come in any order and repeat. -/
def ofLists (imports exports : List String) : Interface := ⟨.ofList imports, .ofList exports⟩

end Interface

/-! ## Inference -/

def Grammar.collectReferences (g : Grammar) : Logged NameSet := do
  .report (.collectedReferences g.size g.referenced.size)
  return g.referenced

/-- The interface that a grammar with distinct production names verifies against, with the events
reported on the way to it. -/
def Interface.inference (g : Grammar) : Logged Interface := do
  let referenced ← g.collectReferences
  return ⟨referenced.diff g.names, g.names.diff referenced⟩

def Interface.infer (g : Grammar) : Interface := (Interface.inference g).value

@[simp] theorem Interface.imports_infer (g : Grammar) :
    (Interface.infer g).imports = g.referenced.diff g.names := rfl

@[simp] theorem Interface.exports_infer (g : Grammar) :
    (Interface.infer g).exports = g.names.diff g.referenced := rfl

/-! ## Offending names -/

def Grammar.offending (g : Grammar) (declared : Interface) : ViolationKind → NameSet
  | .redefinition => g.redefined
  | .missingImport =>
      g.referenced.filter fun x => !declared.imports.contains x && !g.names.contains x
  | .uselessImport =>
      declared.imports.filter fun x => g.names.contains x || !g.referenced.contains x
  | .missingExport =>
      g.names.filter fun x => !g.referenced.contains x && !declared.exports.contains x
  | .uselessExport =>
      declared.exports.filter fun x => g.referenced.contains x || !g.names.contains x

/-! ## Verification -/

abbrev Checked := ExceptT Violation Logged

def require (kind : ViolationKind) (offending : NameSet) : Checked Unit :=
  if offending.isEmpty then
    pure ()
  else do
    let violation := Violation.ofNames kind offending.toList
    Logged.report (.checkFailed violation)
    throw violation

/-- The five checks of a declared interface, in their order. The first one that fails ends them. -/
def Grammar.verification (g : Grammar) (declared : Interface) : Checked Grammar := do
  require .redefinition (g.offending declared .redefinition)
  let referenced ← g.collectReferences
  Logged.report
    (.verifyingInterface g.names.size referenced.size declared.imports.size declared.exports.size)
  require .missingImport (g.offending declared .missingImport)
  require .uselessImport (g.offending declared .uselessImport)
  require .missingExport (g.offending declared .missingExport)
  require .uselessExport (g.offending declared .uselessExport)
  return g

def Grammar.verify (g : Grammar) (declared : Interface) : Except Violation Grammar :=
  (g.verification declared).run.value

theorem value_require_bind {α : Type} (kind : ViolationKind) (s : NameSet) (next : Unit → Checked α) :
    (require kind s >>= next).run.value =
      if s.isEmpty then (next ()).run.value else .error (.ofNames kind s.toList) := by
  unfold require
  split <;> rfl

theorem events_require_bind {α : Type} (kind : ViolationKind) (s : NameSet) (next : Unit → Checked α) :
    (require kind s >>= next).run.events =
      if s.isEmpty then (next ()).run.events else [.checkFailed (.ofNames kind s.toList)] := by
  unfold require
  split <;> rfl

/-- Verification reports the first kind that has offending names. -/
theorem Grammar.verify_eq (g : Grammar) (declared : Interface) :
    g.verify declared =
      match ViolationKind.all.find? fun kind => !(g.offending declared kind).isEmpty with
      | none => .ok g
      | some kind => .error (.ofNames kind (g.offending declared kind).toList) := by
  simp only [Grammar.verify, Grammar.verification, value_require_bind, ViolationKind.all, List.find?_cons]
  cases (g.offending declared .redefinition).isEmpty with
  | false => rfl
  | true =>
    show (require .missingImport (g.offending declared .missingImport) >>= _).run.value = _
    simp only [value_require_bind]
    cases (g.offending declared .missingImport).isEmpty with
    | false => rfl
    | true =>
      cases (g.offending declared .uselessImport).isEmpty with
      | false => rfl
      | true =>
        cases (g.offending declared .missingExport).isEmpty with
        | false => rfl
        | true => cases (g.offending declared .uselessExport).isEmpty <;> rfl

end ModularGrammar
