import ModularGrammar.Event
import ModularGrammar.Text.Blank
import ModularGrammar.Text.Numeral
import ModularGrammar.Text.Pattern

/-! # Log filters

A log filter is a list of directives parted by commas. A directive is a level, or a target and perhaps a
level after an equals sign. Square brackets after the target, or instead of it, hold the name of a span,
or a field between braces, or both. A level alone applies to every event, a target to the events whose
target starts with it, and a field to the events that have it. The events of this program stand in no
span, so a directive that names one, or gives a value to a field, applies to none.

Among the directives that apply to an event the one with the longest target decides, among these one with
a field goes before one without, and among equals the later one. An event to which none applies is not
shown.

* `LogFilter.parse`: the filter that a text stands for;
* `LogFilter.shows`: whether a filter shows an event.
-/

set_option autoImplicit false

namespace ModularGrammar

/-! ## Directives -/

/-- The least important level that is shown, or `none` if no level is. -/
abbrev Threshold := Option Level

def Threshold.admits : Threshold → Level → Bool
  | none, _ => false
  | some least, level => decide (level.rank ≤ least.rank)

structure FieldTest where
  name : String
  value : Option String
deriving DecidableEq

structure Directive where
  target : Option String
  span : Option String
  field : Option FieldTest
  threshold : Threshold
deriving DecidableEq

namespace Directive

def ofThreshold (threshold : Threshold) : Directive := ⟨none, none, none, threshold⟩

def ofTarget (start : String) : Directive := ⟨some start, none, none, some .trace⟩

def applies (d : Directive) (e : Event) : Bool :=
  d.span.isNone &&
  (match d.target with
    | none => true
    | some start => start.toList.isPrefixOf e.target.toList) &&
  (match d.field with
    | none => true
    | some test => test.value.isNone && e.fieldNames.contains test.name)

/-- The length of the target, where having one counts too. -/
def reach (d : Directive) : Nat :=
  match d.target with
  | none => 0
  | some start => start.utf8ByteSize + 1

def fieldKey (d : Directive) : List String :=
  match d.field with
  | none => []
  | some test => [test.name]

/-- Whether the first directive, which comes later, goes before the second where both apply. -/
def overrides (d earlier : Directive) : Bool :=
  if d.reach = earlier.reach then decide (¬ d.fieldKey < earlier.fieldKey)
  else decide (earlier.reach < d.reach)

end Directive

structure LogFilter where
  directives : List Directive
deriving DecidableEq

namespace LogFilter

def everything : LogFilter := ⟨[.ofThreshold (some .trace)]⟩

def warnings : LogFilter := ⟨[.ofThreshold (some .warn)]⟩

/-- Of the directives that apply to an event, the one that goes before all others. -/
def deciding? (f : LogFilter) (e : Event) : Option Directive :=
  (f.directives.filter (·.applies e)).foldl
    (fun best d =>
      match best with
      | none => some d
      | some b => if d.overrides b then some d else some b)
    none

def shows (f : LogFilter) (e : Event) : Bool :=
  match f.deciding? e with
  | none => false
  | some d => d.threshold.admits e.level

/-! ## Levels in directives -/

inductive ParseError where
  /-- A directive that is blank, does not start like a target, or has brackets or braces that are empty,
  open or followed by something else than a level. One with a part that would be cut inside a character
  counts among these, although slicing its bytes there is a crash and no error. -/
  | directive
  /-- No level after an equals sign. -/
  | level
  /-- A value of a field that cannot be matched with. -/
  | value (fault : Pattern.Fault)
deriving DecidableEq

def ParseError.message : ParseError → String
  | .directive => "invalid filter directive"
  | .level =>
      "error parsing level filter: expected one of \"off\", \"error\", \"warn\", \"info\", " ++
        "\"debug\", \"trace\", or a number 0-5"
  | .value .malformed => "invalid field filter: error building NFA"
  | .value .unicodeBoundary =>
      "invalid field filter: unsupported regex feature for DFAs: cannot build DFAs for regexes with " ++
        "Unicode word boundaries; switch to ASCII word boundaries, or heuristically enable Unicode word " ++
        "boundaries or use a different regex engine"

def thresholdOfRank? : Nat → Option Threshold
  | 0 => some none
  | 1 => some (some .error)
  | 2 => some (some .warn)
  | 3 => some (some .info)
  | 4 => some (some .debug)
  | 5 => some (some .trace)
  | _ => none

def thresholdOfName? (name : String) : Option Threshold :=
  if name = "OFF" then some none
  else if name = Level.error.name then some (some .error)
  else if name = Level.warn.name then some (some .warn)
  else if name = Level.info.name then some (some .info)
  else if name = Level.debug.name then some (some .debug)
  else if name = Level.trace.name then some (some .trace)
  else none

def decimal? (digits : List Char) : Option Nat :=
  if !digits.isEmpty && digits.all Char.isDigit then
    some (digits.foldl (fun n c => 10 * n + (c.toNat - '0'.toNat)) 0)
  else none

/-- The threshold that a word stands for: the name of a level or `off`, in any case, or a rank from 0 to 5
after an optional plus sign. -/
def threshold? (word : List Char) : Option Threshold :=
  let digits := match word with
    | '+' :: rest => rest
    | cs => cs
  match decimal? digits with
  | some rank => thresholdOfRank? rank
  | none => thresholdOfName? (String.ofList (word.map Char.toUpper))

def parseLevel (word : List Char) : Except ParseError Threshold :=
  if word.isEmpty then .ok (some .trace)
  else
    match threshold? word with
    | some threshold => .ok threshold
    | none => .error .level

/-! ## Places in directives -/

def width (text : List Char) : Nat := (String.ofList text).utf8ByteSize

/-- The first so many bytes of a text and what follows them, if a character ends there. -/
def splitAtByte? : Nat → List Char → Option (List Char × List Char)
  | 0, text => some ([], text)
  | _ + 1, [] => none
  | count + 1, c :: rest =>
    if c.utf8Size ≤ count + 1 then
      (splitAtByte? (count + 1 - c.utf8Size) rest).map fun (before, after) => (c :: before, after)
    else none

/-- What follows so many bytes of a text. At a place inside a character, where slicing the bytes would
crash, the directive is given as an invalid one. -/
def textAfter (text : List Char) (count : Nat) : Except ParseError (List Char) :=
  match splitAtByte? count text with
  | some (_, after) => .ok after
  | none => .error .directive

/-- What follows so many bytes of a text, as wide as a part of it. If it would begin or end inside a
character, where slicing the bytes would crash, the directive is given as an invalid one. -/
def textAt (text : List Char) (start : Nat) (part : List Char) : Except ParseError (List Char) := do
  match splitAtByte? (width part) (← textAfter text start) with
  | some (before, _) => return before
  | none => .error .directive

/-! ## Brackets in directives -/

def parseValue (text : List Char) : Except ParseError String :=
  if isNumeral text then .ok (String.ofList text)
  else
    match Pattern.fault? text with
    | none => .ok (String.ofList text)
    | some fault => .error (.value fault)

/-- Reads what stands between braces: a name and perhaps a value after an equals sign. What follows a
second equals sign is passed over. -/
def parseField (text : List Char) : Except ParseError FieldTest :=
  let name := String.ofList (text.takeWhile (· != '='))
  match text.dropWhile (· != '=') with
  | [] => .ok ⟨name, none⟩
  | _ :: rest => return ⟨name, some (← parseValue (rest.takeWhile (· != '=')))⟩

structure Brackets where
  span : Option String
  field : Option FieldTest
deriving DecidableEq

/-- Reads what stands after an opening bracket: a span and a field, and what follows the brackets with the
place where it starts. The parts are found in one text, from its place on, and cut out of another. -/
def parseBrackets (source : List Char) (start : Nat) (text : List Char) :
    Except ParseError (Brackets × Nat × List Char) := do
  let isName (c : Char) : Bool := c != ']' && c != '\x7b'
  let name := text.takeWhile isName
  let stop := start + width name
  match text.dropWhile isName with
  | [] => .error .directive
  | ']' :: rest => return (⟨some (String.ofList (← textAt source start name)), none⟩, stop + 1, rest)
  | _ :: inner =>
    let span ← if name.isEmpty then pure none else some <$> textAt source start name
    let field := inner.takeWhile (· != '\x7d')
    match inner.dropWhile (· != '\x7d') with
    | [] => .error .directive
    | _ :: rest =>
      if field.isEmpty then .error .directive
      else
        let test ← parseField (← textAt source (stop + 1) field)
        match rest with
        | ']' :: rest =>
          return (⟨span.map String.ofList, some test⟩, stop + width field + 3, rest)
        | _ => .error .directive

/-! ## Whole directives -/

def startsTarget (c : Char) : Bool := isAlphanumeric c || c == '-' || c == ':' || c == '_'

/-- Reads one directive. Its parts are found without the blanks at its ends, and cut out of the text with
the blanks, at the same places. So blanks at the end belong to the level; and blanks at the beginning shift
all parts to the left, a level then having a piece of what stands before it. -/
def parseDirective (text : String) : Except ParseError Directive := do
  let source := text.toList
  let bare := ((source.dropWhile isBlank).reverse.dropWhile isBlank).reverse
  let isTarget (c : Char) : Bool := c != '=' && c != '['
  let name := bare.takeWhile isTarget
  if !(bare.head?.any fun first => first == '[' || startsTarget first) then
    .error .directive
  else
    match bare.dropWhile isTarget with
    | [] =>
      match threshold? source with
      | some threshold => return .ofThreshold threshold
      | none => return .ofTarget text
    | '=' :: _ =>
      let target ← textAt source 0 name
      let threshold ← parseLevel (← textAfter source (width name + 1))
      return ⟨some (String.ofList target), none, none, threshold⟩
    | _ :: inner =>
      let target ← if name.isEmpty then pure none else some <$> textAt source 0 name
      let (⟨span, field⟩, place, rest) ← parseBrackets source (width name + 1) inner
      let threshold ← match rest with
        | [] => pure (some .trace)
        | '=' :: _ => parseLevel (← textAfter source (place + 1))
        | _ => .error .directive
      return ⟨target.map String.ofList, span, field, threshold⟩

def parse (text : String) : Except ParseError LogFilter := do
  let pieces := (text.toList.splitOn ',').map String.ofList
  let directives ← (pieces.filter (!·.isEmpty)).mapM parseDirective
  return ⟨directives⟩

end LogFilter

end ModularGrammar
