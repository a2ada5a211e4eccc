import ModularGrammar.Catalog
import ModularGrammar.CommandLine
import ModularGrammar.LogFilter
import ModularGrammar.Report

/-! # The program

* `Request.perform`: what a request prints, with the events reported on the way to it;
* `logFilterFor`: the log filter of a run;
* `Invocation.transcript`: the exit code of a run and what it writes;
* `respond`: the response to a command line in an environment.
-/

set_option autoImplicit false

namespace ModularGrammar

/-! ## Requests -/

structure Output where
  text : String
  success : Bool
deriving DecidableEq

abbrev Lookup := ExceptT UnknownModule Logged

/-- The result of looking into the catalog, which reports no event. -/
def Lookup.of {α : Type} (result : Except UnknownModule α) : Lookup α := ExceptT.mk (pure result)

def Request.perform (format : OutputFormat) : Request → Lookup Output
  | .check names => do
    let modules ← Lookup.of (Catalog.select names)
    let outcomes ← CheckOutcome.checkingAll modules
    let failed := (outcomes.filter fun outcome => !outcome.ok).length
    Logged.report (.checkedModules outcomes.length failed)
    return ⟨Report.render format outcomes, failed == 0⟩
  | .terminals name => do
    let m ← Lookup.of (Catalog.find name)
    return ⟨Report.render format (TerminalsReport.ofModule m), true⟩
  | .interface name => do
    let m ← Lookup.of (Catalog.find name)
    let report ← InterfaceReport.inspecting m
    return ⟨Report.render format report, report.agrees⟩
  | .list => return ⟨Report.render format (Catalog.modules.map ModuleSummary.ofModule), true⟩

/-! ## Runs -/

structure InvalidFilter where
  text : String
  cause : LogFilter.ParseError
deriving DecidableEq

def InvalidFilter.message (e : InvalidFilter) : String :=
  "invalid log filter `" ++ e.text ++ "`: " ++ e.cause.message

/-- The log filter for an explicit text and a fallback. Only an explicit text can be at fault: a fallback
that is absent or cannot be read stands for the warnings. -/
def logFilterFor (explicit fallback : Option String) : Except InvalidFilter LogFilter :=
  match explicit with
  | some text =>
    match LogFilter.parse text with
    | .ok filter => .ok filter
    | .error cause => .error ⟨text, cause⟩
  | none =>
    match fallback.map LogFilter.parse with
    | some (.ok filter) => .ok filter
    | _ => .ok .warnings

structure Transcript where
  exitCode : Nat
  stdout : String
  log : List Event
  failure : Option String
deriving DecidableEq

def Transcript.stderr (t : Transcript) : String :=
  String.join (t.log.map fun e => e.line ++ "\n") ++
    match t.failure with
    | none => ""
    | some message => "error: " ++ message ++ "\n"

def transcriptOf (filter : LogFilter) (performed : Logged (Except UnknownModule Output)) : Transcript :=
  let log := performed.events.filter filter.shows
  match performed.value with
  | .ok output => ⟨if output.success then 0 else 1, output.text, log, none⟩
  | .error e => ⟨1, "", log, some e.message⟩

/-- The run of an invocation. A log filter that cannot be read ends it before it begins. -/
def CommandLine.Invocation.transcript (invocation : CommandLine.Invocation)
    (fallbackFilter : Option String) : Transcript :=
  match logFilterFor invocation.settings.logFilter fallbackFilter with
  | .ok filter => transcriptOf filter (invocation.request.perform invocation.settings.format).run
  | .error e => ⟨2, "", [], some e.message⟩

/-! ## Responses -/

inductive Response where
  | help
  | usage
  | ran (transcript : Transcript)
deriving DecidableEq

def respond (env : CommandLine.Environment) (arguments : List String) : Response :=
  match CommandLine.parse env arguments with
  | .ok invocation => .ran (invocation.transcript env.fallbackFilter)
  | .error .help => .help
  | .error .usage => .usage

end ModularGrammar
