import ModularGrammar.Text.Quoted
import ModularGrammar.Violation

/-! # Events

What verification and the commands report on the way to their result. An event says what happened; its
level, target, message and fields are read off it.

* `Level`: how important an event is;
* `Event`: the events there are, with `Event.line` as the line of a log;
* `Logged`: a value together with the events that preceded it, in order.
-/

set_option autoImplicit false

namespace ModularGrammar

/-! ## Levels -/

/-- From the most important to the least. -/
inductive Level where
  | error
  | warn
  | info
  | debug
  | trace
deriving DecidableEq, Inhabited

namespace Level

/-- A level includes all levels of a smaller rank. -/
def rank : Level → Nat
  | .error => 1
  | .warn => 2
  | .info => 3
  | .debug => 4
  | .trace => 5

def name : Level → String
  | .error => "ERROR"
  | .warn => "WARN"
  | .info => "INFO"
  | .debug => "DEBUG"
  | .trace => "TRACE"

end Level

/-! ## Events -/

inductive Event where
  | verifyingModule (name : String)
  | collectedReferences (productions referenced : Nat)
  /-- No name is defined twice, and the interface is about to be checked. -/
  | verifyingInterface (defined referenced imported exported : Nat)
  | checkFailed (violation : Violation)
  | checkedModules (modules failed : Nat)
deriving DecidableEq, Inhabited

namespace Event

def level : Event → Level
  | .verifyingModule _ => .debug
  | .collectedReferences _ _ => .debug
  | .verifyingInterface _ _ _ _ => .debug
  | .checkFailed _ => .warn
  | .checkedModules _ _ => .info

/-- The part of the program that an event comes from, for filters to match. -/
def target : Event → String
  | .verifyingModule _ => "grammar::verify"
  | .collectedReferences _ _ => "grammar::symbols"
  | .verifyingInterface _ _ _ _ => "grammar::verify"
  | .checkFailed _ => "grammar::verify"
  | .checkedModules _ _ => "grammar_check"

def message : Event → String
  | .verifyingModule _ => "verifying module"
  | .collectedReferences _ _ => "collected referenced non-terminals"
  | .verifyingInterface _ _ _ _ => "verifying grammar module"
  | .checkFailed _ => "grammar module check failed"
  | .checkedModules _ _ => "checked grammar modules"

def fields : Event → List (String × String)
  | .verifyingModule name => [("module", name)]
  | .collectedReferences productions referenced =>
      [("productions", toString productions), ("referenced", toString referenced)]
  | .verifyingInterface defined referenced imported exported =>
      [("defined", toString defined), ("referenced", toString referenced),
        ("imported", toString imported), ("exported", toString exported)]
  | .checkFailed violation =>
      [("kind", violation.kind.words), ("names", Quoted.list violation.names)]
  | .checkedModules modules failed => [("modules", toString modules), ("failed", toString failed)]

def fieldNames (e : Event) : List String := "message" :: e.fields.map (·.1)

def line (e : Event) : String :=
  e.level.name ++ " " ++ e.target ++ ": " ++ e.message ++
    String.join (e.fields.map fun field => " " ++ field.1 ++ "=" ++ field.2)

end Event

/-! ## Values with events -/

structure Logged (α : Type) where
  events : List Event
  value : α

namespace Logged

instance : Monad Logged where
  pure a := ⟨[], a⟩
  bind x f := ⟨x.events ++ (f x.value).events, (f x.value).value⟩

def report (e : Event) : Logged Unit := ⟨[e], ()⟩

variable {α β : Type}

@[simp] theorem events_pure (a : α) : (pure a : Logged α).events = [] := rfl

@[simp] theorem value_pure (a : α) : (pure a : Logged α).value = a := rfl

@[simp] theorem events_bind (x : Logged α) (f : α → Logged β) :
    (x >>= f).events = x.events ++ (f x.value).events := rfl

@[simp] theorem value_bind (x : Logged α) (f : α → Logged β) :
    (x >>= f).value = (f x.value).value := rfl

@[simp] theorem events_report (e : Event) : (report e).events = [e] := rfl

theorem ext {x y : Logged α} (he : x.events = y.events) (hv : x.value = y.value) : x = y := by
  cases x
  cases y
  cases he
  cases hv
  rfl

instance : LawfulMonad Logged :=
  LawfulMonad.mk' Logged (fun _ => ext (List.append_nil _) rfl) (fun _ _ => rfl)
    (fun _ _ _ => ext (List.append_assoc _ _ _) rfl)

end Logged

end ModularGrammar
