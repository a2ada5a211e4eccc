import ModularGrammar.Settings

/-! # The command line

A command line is a list of arguments. One of them names a command; those before it are options, those
after it are options and the names of modules. An option may be given once before and once after the
command.

* `Argument.ofText`: what one argument is, taken alone;
* `OptionScan`: the options read so far on one side of the command, where the value of an option may stand
  in the next argument;
* `CommandLine.parse`: the invocation that a command line asks for, together with the environment.

A value in an argument of its own is looked at only when the next option or name is read, or when the
arguments end. A request for help before that is granted whatever the value.
-/

set_option autoImplicit false

namespace ModularGrammar

/-! ## Commands -/

inductive Command where
  | check
  | terminals
  | interface
  | list
deriving DecidableEq

inductive Request where
  | check (names : List String)
  | terminals (name : String)
  | interface (name : String)
  | list
deriving DecidableEq

namespace Command

def name : Command → String
  | .check => "check"
  | .terminals => "terminals"
  | .interface => "interface"
  | .list => "list"

def all : List Command := [.check, .terminals, .interface, .list]

def ofName? (word : String) : Option Command := all.find? fun command => command.name == word

def takesMore : Command → Nat → Bool
  | .check, _ => true
  | .terminals, given => given == 0
  | .interface, given => given == 0
  | .list, _ => false

def request? : Command → List String → Option Request
  | .check, names => some (.check names)
  | .terminals, name :: _ => some (.terminals name)
  | .interface, name :: _ => some (.interface name)
  | .list, _ => some .list
  | _, [] => none

end Command

/-! ## Arguments -/

inductive OptionName where
  | format
  | logFilter
deriving DecidableEq

def OptionName.flag : OptionName → String
  | .format => "--format"
  | .logFilter => "--log-level"

/-- What an argument is, whatever stands around it. -/
inductive Argument where
  | help
  /-- An option, with the value that follows an equals sign in the same argument. -/
  | option (name : OptionName) (attached : Option String)
  /-- Two dashes, after which every argument is a name. -/
  | dashes
  /-- Anything else that starts with a dash and is longer than it. -/
  | unknown
  /-- A value, a command or a name. -/
  | word (text : String)
deriving DecidableEq

namespace Argument

def cutAtEquals (cs : List Char) : String × Option String :=
  (String.ofList (cs.takeWhile (· != '=')),
    match cs.dropWhile (· != '=') with
    | [] => none
    | _ :: value => some (String.ofList value))

def ofLong (cs : List Char) : Argument :=
  match cutAtEquals cs with
  | (flag, attached) =>
    if flag = OptionName.format.flag then .option .format attached
    else if flag = OptionName.logFilter.flag then .option .logFilter attached
    else if flag = "--help" && attached.isNone then .help
    else .unknown

def ofText (text : String) : Argument :=
  match text.toList with
  | ['-', '-'] => .dashes
  | '-' :: '-' :: rest => ofLong ('-' :: '-' :: rest)
  | '-' :: 'h' :: _ => .help
  | '-' :: _ :: _ => .unknown
  | _ => .word text

end Argument

/-! ## Options -/

/-- Why a command line starts no run. -/
inductive Refusal where
  | help
  /-- The arguments or the environment do not fit together. -/
  | usage
deriving DecidableEq

structure OptionValues where
  format : Option OutputFormat
  logFilter : Option String
deriving DecidableEq

namespace OptionValues

instance : EmptyCollection OptionValues := ⟨⟨none, none⟩⟩

def set (given : OptionValues) : OptionName → String → Except Refusal OptionValues
  | .format, value =>
    match given.format, OutputFormat.ofName? value with
    | none, some format => .ok { given with format }
    | _, _ => .error .usage
  | .logFilter, value =>
    match given.logFilter with
    | none => .ok { given with logFilter := value }
    | some _ => .error .usage

end OptionValues

/-- An option without its value, or with a value that has not been looked at. -/
inductive Pending where
  | nothing
  | awaiting (name : OptionName)
  | holding (name : OptionName) (value : String)
deriving DecidableEq

structure OptionScan where
  given : OptionValues
  pending : Pending
deriving DecidableEq

namespace OptionScan

instance : EmptyCollection OptionScan := ⟨⟨∅, .nothing⟩⟩

/-- The values given so far, the one held back included. An option that still awaits its value has been
given none. -/
def settle (scan : OptionScan) : Except Refusal OptionValues :=
  match scan.pending with
  | .nothing => .ok scan.given
  | .awaiting _ => .error .usage
  | .holding name value => scan.given.set name value

def option (scan : OptionScan) (name : OptionName) (attached : Option String) :
    Except Refusal OptionScan := do
  let given ← scan.settle
  match attached with
  | none => return ⟨given, .awaiting name⟩
  | some value => return ⟨← given.set name value, .nothing⟩

def awaited? (scan : OptionScan) : Option OptionName :=
  match scan.pending with
  | .awaiting name => some name
  | _ => none

def hold (scan : OptionScan) (name : OptionName) (value : String) : OptionScan :=
  { scan with pending := .holding name value }

end OptionScan

/-! ## Both sides of the command -/

namespace CommandLine

/-- What a request for help asks about: nothing in particular, or one command. No command has commands
of its own, so a second word asks about nothing there is. -/
def helpOn : List String → Refusal
  | [] => .help
  | [topic] => if topic = "help" || (Command.ofName? topic).isSome then .help else .usage
  | _ => .usage

def scanBefore (scan : OptionScan) : List String → Except Refusal (OptionScan × Command × List String)
  | [] => .error .usage
  | argument :: rest =>
    match Argument.ofText argument with
    | .help => do
      let _ ← scan.settle
      .error .help
    | .option name attached => do scanBefore (← scan.option name attached) rest
    | .dashes => .error .usage
    | .unknown => .error .usage
    | .word text =>
      match scan.awaited? with
      | some name => scanBefore (scan.hold name text) rest
      | none =>
        match Command.ofName? text with
        | some command => .ok (scan, command, rest)
        | none => .error (if text = "help" then helpOn rest else .usage)

def addName (command : Command) (names : List String) (name : String) : Except Refusal (List String) :=
  if command.takesMore names.length then .ok (names ++ [name]) else .error .usage

def scanAfter (command : Command) (scan : OptionScan) (names : List String) :
    List String → Except Refusal (OptionValues × List String)
  | [] => return (← scan.settle, names)
  | argument :: rest =>
    match Argument.ofText argument with
    | .help => do
      let _ ← scan.settle
      .error .help
    | .option name attached => do scanAfter command (← scan.option name attached) names rest
    | .dashes => do
      let given ← scan.settle
      return (given, ← rest.foldlM (addName command) names)
    | .unknown => .error .usage
    | .word text =>
      match scan.awaited? with
      | some name => scanAfter command (scan.hold name text) names rest
      | none => do
        let given ← scan.settle
        scanAfter command ⟨given, .nothing⟩ (← addName command names text) rest

/-! ## Invocations -/

structure Environment where
  format : Option String
  logFilter : Option String
  /-- The log filter when there is no explicit one, or it is blank. -/
  fallbackFilter : Option String
deriving DecidableEq

namespace Environment

def formatVariable : String := "GRAMMAR_CHECK_FORMAT"

def logFilterVariable : String := "GRAMMAR_CHECK_LOG"

def fallbackVariable : String := "RUST_LOG"

def ofLookup (lookup : String → Option String) : Environment :=
  ⟨lookup formatVariable, lookup logFilterVariable, lookup fallbackVariable⟩

end Environment

structure Invocation where
  request : Request
  settings : Settings
deriving DecidableEq

/-- The format that the environment gives. It is looked at unless both sides of the command give one, and
then has to be the name of a format. -/
def environmentFormat (env : Environment) (before after : OptionValues) :
    Except Refusal (Option OutputFormat) :=
  match env.format with
  | none => .ok none
  | some word =>
    if before.format.isSome && after.format.isSome then
      .ok none
    else
      match OutputFormat.ofName? word with
      | some format => .ok (some format)
      | none => .error .usage

/-- The settings for the options on both sides of the command: an option after it wins over one before
it, and either wins over the environment. -/
def settings (env : Environment) (before after : OptionValues) : Except Refusal Settings := do
  let fromEnvironment ← environmentFormat env before after
  let format := ((after.format <|> before.format) <|> fromEnvironment).getD default
  return .resolve format ((after.logFilter <|> before.logFilter) <|> env.logFilter)

def parse (env : Environment) (arguments : List String) : Except Refusal Invocation := do
  let (scan, command, rest) ← scanBefore ∅ arguments
  let (after, names) ← scanAfter command ∅ [] rest
  let before ← scan.settle
  let settings ← settings env before after
  match command.request? names with
  | some request => return ⟨request, settings⟩
  | none => .error .usage

end CommandLine

end ModularGrammar
