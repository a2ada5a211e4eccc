import ModularGrammar.GrammarModule
import ModularGrammar.Json.Printer
import ModularGrammar.OutputFormat

/-! # Reports

What the commands print about modules, as text or as JSON.

* `CheckOutcome`: whether a module verifies, and its violation if not;
* `TerminalsReport`: the literals of a module;
* `InterfaceReport`: the declared interface beside the inferred one;
* `ModuleSummary`: how much a module defines, imports and exports;
* `Report`: the class of what can be rendered, lists of reports included, and `Report.render`.
-/

set_option autoImplicit false

namespace ModularGrammar

/-! ## What the reports hold -/

structure CheckOutcome where
  name : String
  ok : Bool
  violation : Option Violation
deriving DecidableEq

structure TerminalsReport where
  name : String
  terminals : List String
deriving DecidableEq

structure InterfaceReport where
  name : String
  declared : Interface
  inferred : Interface
deriving DecidableEq

structure ModuleSummary where
  name : String
  productions : Nat
  imports : Nat
  exports : Nat
deriving DecidableEq

def violation? {α : Type} : Except Violation α → Option Violation
  | .ok _ => none
  | .error v => some v

namespace CheckOutcome

/-- The outcome of verifying a module, with the events reported on the way to it. -/
def checking (m : GrammarModule) : Logged CheckOutcome := do
  let violation := violation? (← m.verification.run)
  return ⟨m.name, violation.isNone, violation⟩

def ofModule (m : GrammarModule) : CheckOutcome := (checking m).value

theorem ofModule_eq (m : GrammarModule) :
    ofModule m = ⟨m.name, (violation? m.verify).isNone, violation? m.verify⟩ := rfl

def checkingAll (modules : List GrammarModule) : Logged (List CheckOutcome) := modules.mapM checking

def ofModules (modules : List GrammarModule) : List CheckOutcome := modules.map ofModule

theorem value_checkingAll (modules : List GrammarModule) :
    (checkingAll modules).value = ofModules modules := by
  induction modules with
  | nil => rfl
  | cons m rest ih =>
    rw [checkingAll, List.mapM_cons]
    exact congrArg (ofModule m :: ·) ih

end CheckOutcome

def TerminalsReport.ofModule (m : GrammarModule) : TerminalsReport :=
  ⟨m.name, m.grammar.terminals.toList⟩

namespace InterfaceReport

def inspecting (m : GrammarModule) : Logged InterfaceReport := do
  return ⟨m.name, m.interface, ← Interface.inference m.grammar⟩

def ofModule (m : GrammarModule) : InterfaceReport := (inspecting m).value

theorem ofModule_eq (m : GrammarModule) :
    ofModule m = ⟨m.name, m.interface, Interface.infer m.grammar⟩ := rfl

/-- Whether the module declares just what its grammar needs and provides. -/
def agrees (r : InterfaceReport) : Bool := decide (r.declared = r.inferred)

end InterfaceReport

def ModuleSummary.ofModule (m : GrammarModule) : ModuleSummary :=
  ⟨m.name, m.grammar.size, m.interface.imports.size, m.interface.exports.size⟩

/-! ## JSON values -/

def Violation.json (v : Violation) : Json :=
  .object [("kind", .string v.kind.tag), ("names", .strings v.names)]

def Interface.json (i : Interface) : Json :=
  .object [("imports", .strings i.imports.toList), ("exports", .strings i.exports.toList)]

def CheckOutcome.json (r : CheckOutcome) : Json :=
  .object ([("module", .string r.name), ("ok", .bool r.ok)] ++
    match r.violation with
    | none => []
    | some v => [("error", v.json)])

def TerminalsReport.json (r : TerminalsReport) : Json :=
  .object [("module", .string r.name), ("terminals", .strings r.terminals)]

def InterfaceReport.json (r : InterfaceReport) : Json :=
  .object [("module", .string r.name), ("declared", r.declared.json), ("inferred", r.inferred.json)]

def ModuleSummary.json (r : ModuleSummary) : Json :=
  .object [("module", .string r.name), ("productions", .nat r.productions), ("imports", .nat r.imports),
    ("exports", .nat r.exports)]

/-! ## Texts -/

def CheckOutcome.text (r : CheckOutcome) : String :=
  match r.violation with
  | none => r.name ++ ": ok\n"
  | some v => r.name ++ ": " ++ v.message ++ "\n"

def TerminalsReport.text (r : TerminalsReport) : String :=
  String.join (r.terminals.map (· ++ "\n"))

def InterfaceReport.text (r : InterfaceReport) : String :=
  "module " ++ r.name ++ "\n" ++
    "  declared imports: " ++ r.declared.imports.joined ++ "\n" ++
    "  inferred imports: " ++ r.inferred.imports.joined ++ "\n" ++
    "  declared exports: " ++ r.declared.exports.joined ++ "\n" ++
    "  inferred exports: " ++ r.inferred.exports.joined ++ "\n"

def ModuleSummary.text (r : ModuleSummary) : String :=
  r.name ++ "\t" ++ toString r.productions ++ " productions\t" ++ toString r.imports ++ " imports\t" ++
    toString r.exports ++ " exports\n"

/-! ## Rendering -/

class Report (α : Type) where
  text : α → String
  json : α → Json

instance : Report CheckOutcome := ⟨CheckOutcome.text, CheckOutcome.json⟩

instance : Report TerminalsReport := ⟨TerminalsReport.text, TerminalsReport.json⟩

instance : Report InterfaceReport := ⟨InterfaceReport.text, InterfaceReport.json⟩

instance : Report ModuleSummary := ⟨ModuleSummary.text, ModuleSummary.json⟩

instance {α : Type} [Report α] : Report (List α) :=
  ⟨fun items => String.join (items.map Report.text), fun items => .array (items.map Report.json)⟩

def Report.render {α : Type} [Report α] (format : OutputFormat) (report : α) : String :=
  match format with
  | .text => Report.text report
  | .json => (Report.json report).pretty 0 ++ "\n"

end ModularGrammar
