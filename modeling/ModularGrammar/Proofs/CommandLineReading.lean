import Mathlib.Data.List.TakeWhile
import ModularGrammar.CommandLine

/-! # What a command line holds

A command line that starts a run is made of options with their values, a command, and then options and
names in any order. This is told by the arguments alone, without the scan that goes through them.

* `IsWord`, `OptionName.Gives`: an argument that stands for itself, and an option with its value;
* `OptionsOnly`, `OptionsAndNames`: the arguments before and after the command;
* `CommandLine.Reading`, `CommandLine.Reads`: the parts of a command line;
* `Argument.ofText_spelling`, `Argument.ofText_of_isWord`: what a single argument is taken for;
* `PassesOptions`: what the scans on both sides of the command do with an option;
* `CommandLine.exists_reads`: a command line that starts a run has such parts;
* `CommandLine.toOption_parse`: the parts decide on the run.
-/

set_option autoImplicit false

namespace ModularGrammar

/-! ## The parts of a command line -/

/-- An argument that does not start with a dash, or is a dash alone. -/
def IsWord (text : String) : Prop := text = "-" ∨ text.toList.head? ≠ some '-'

/-- The arguments give the option its value, attached to it or in an argument of its own. -/
inductive OptionName.Gives (name : OptionName) (value : String) : List String → Prop
  | attached : Gives name value [name.flag ++ "=" ++ value]
  | apart : IsWord value → Gives name value [name.flag, value]

/-- The arguments give the options, one after another. -/
inductive OptionsOnly : List String → List (OptionName × String) → Prop
  | nil : OptionsOnly [] []
  | option {name : OptionName} {value : String} {words rest : List String}
      {given : List (OptionName × String)} :
      name.Gives value words → OptionsOnly rest given → OptionsOnly (words ++ rest) ((name, value) :: given)

theorem OptionsOnly.append {words words' : List String} {given given' : List (OptionName × String)}
    (h : OptionsOnly words given) (h' : OptionsOnly words' given') :
    OptionsOnly (words ++ words') (given ++ given') := by
  induction h with
  | nil => exact h'
  | option hgives _ ih =>
    rw [List.append_assoc]
    exact .option hgives ih

/-- The arguments give the options and the names. Two dashes end the options. -/
inductive OptionsAndNames : List String → List (OptionName × String) → List String → Prop
  | nil : OptionsAndNames [] [] []
  | option {name : OptionName} {value : String} {words rest names : List String}
      {given : List (OptionName × String)} :
      name.Gives value words → OptionsAndNames rest given names →
        OptionsAndNames (words ++ rest) ((name, value) :: given) names
  | name {text : String} {rest names : List String} {given : List (OptionName × String)} :
      IsWord text → OptionsAndNames rest given names → OptionsAndNames (text :: rest) given (text :: names)
  | dashes (names : List String) : OptionsAndNames ("--" :: names) [] names

namespace CommandLine

structure Reading where
  before : List (OptionName × String)
  command : Command
  after : List (OptionName × String)
  names : List String

/-- The arguments are the options before the command, its name, and the options and names after it. -/
def Reads (arguments : List String) (r : Reading) : Prop :=
  ∃ front back, arguments = front ++ r.command.name :: back ∧ OptionsOnly front r.before ∧
    OptionsAndNames back r.after r.names

end CommandLine

/-! ## Single arguments -/

namespace Argument
variable {text : String}

theorem cutAtEquals_of_notMem {cs : List Char} (h : '=' ∉ cs) :
    cutAtEquals cs = (String.ofList cs, none) := by
  have hall : ∀ c ∈ cs, (c != '=') = true := by
    intro c hc
    simpa using ne_of_mem_of_not_mem hc h
  have htake := List.takeWhile_eq_self_iff.2 hall
  have hdrop := List.dropWhile_eq_nil_iff.2 hall
  rw [cutAtEquals, htake, hdrop]

theorem cutAtEquals_append {flag value : List Char} (h : '=' ∉ flag) :
    cutAtEquals (flag ++ '=' :: value) = (String.ofList flag, some (String.ofList value)) := by
  have hall : ∀ c ∈ flag, (c != '=') = true := by
    intro c hc
    simpa using ne_of_mem_of_not_mem hc h
  have htake : (flag ++ '=' :: value).takeWhile (· != '=') = flag := by
    simp [List.takeWhile_append_of_pos hall]
  have hdrop : (flag ++ '=' :: value).dropWhile (· != '=') = '=' :: value := by
    simp [List.dropWhile_append_of_pos hall]
  rw [cutAtEquals, htake, hdrop]

theorem ofText_of_long {c : Char} {cs : List Char} (h : text.toList = '-' :: '-' :: c :: cs) :
    ofText text = ofLong text.toList := by
  rw [ofText, h]
  rfl

/-- How an option is written, with its value attached if it has one. -/
def spelling (name : OptionName) : Option String → String
  | none => name.flag
  | some value => name.flag ++ "=" ++ value

theorem ofText_spelling (name : OptionName) (attached : Option String) :
    ofText (spelling name attached) = .option name attached := by
  cases attached with
  | none => cases name <;> decide
  | some value =>
    have htext : (spelling name (some value)).toList = name.flag.toList ++ '=' :: value.toList := by
      simp [spelling]
    have hflag : '=' ∉ name.flag.toList := by cases name <;> decide
    obtain ⟨c, cs, hlong⟩ : ∃ c cs, name.flag.toList = '-' :: '-' :: c :: cs := by
      cases name <;> exact ⟨_, _, rfl⟩
    rw [ofText_of_long (by rw [htext, hlong]; rfl), htext, ofLong, cutAtEquals_append hflag,
      String.ofList_toList, String.ofList_toList]
    cases name <;> rfl

theorem eq_of_ofLong_eq_option {cs : List Char} {flag : String} {name : OptionName}
    {attached attached' : Option String} (hcut : cutAtEquals cs = (flag, attached'))
    (h : ofLong cs = .option name attached) : flag = name.flag ∧ attached' = attached := by
  rw [ofLong, hcut] at h
  dsimp only at h
  split at h
  next hflag => cases h; exact ⟨hflag, rfl⟩
  next =>
    split at h
    next hflag => cases h; exact ⟨hflag, rfl⟩
    next => split at h <;> cases h

theorem eq_spelling_of_ofText {name : OptionName} {attached : Option String}
    (h : ofText text = .option name attached) : text = spelling name attached := by
  have hlong : ofLong text.toList = .option name attached := by
    unfold ofText at h
    split at h <;> simp_all
  apply String.toList_injective
  by_cases heq : '=' ∈ text.toList
  · obtain ⟨flag, value, htext, hflag⟩ := List.eq_append_cons_of_mem heq
    rw [htext] at hlong ⊢
    obtain ⟨hname, rfl⟩ := eq_of_ofLong_eq_option (cutAtEquals_append hflag) hlong
    simp [spelling, ← hname]
  · obtain ⟨hname, rfl⟩ := eq_of_ofLong_eq_option (cutAtEquals_of_notMem heq) hlong
    simp [spelling, ← hname]

theorem ofLong_cases (cs : List Char) :
    (∃ name attached, ofLong cs = .option name attached) ∨ ofLong cs = .help ∨ ofLong cs = .unknown := by
  rw [ofLong]
  dsimp only
  split
  next => exact .inl ⟨_, _, rfl⟩
  next =>
    split
    next => exact .inl ⟨_, _, rfl⟩
    next =>
      split
      next => exact .inr (.inl rfl)
      next => exact .inr (.inr rfl)

theorem ofLong_ne_word {cs : List Char} {word : String} : ofLong cs ≠ .word word := by
  rcases ofLong_cases cs with ⟨name, attached, h⟩ | h | h <;> simp [h]

theorem ofLong_ne_dashes {cs : List Char} : ofLong cs ≠ .dashes := by
  rcases ofLong_cases cs with ⟨name, attached, h⟩ | h | h <;> simp [h]

theorem ofText_of_isWord (h : IsWord text) : ofText text = .word text := by
  rcases h with rfl | h
  · decide
  · unfold ofText
    split <;> simp_all

theorem isWord_of_ofText {word : String} (h : ofText text = .word word) : word = text ∧ IsWord text := by
  have hword : IsWord text := by
    by_contra hnot
    obtain ⟨hdash, hhead⟩ := not_or.1 hnot
    obtain ⟨rest, htext⟩ := List.head?_eq_some_iff.1 (not_not.1 hhead)
    cases rest with
    | nil => exact hdash (String.toList_injective htext)
    | cons c rest =>
      -- Whatever follows the first dash, this is not the case of a word.
      rw [ofText, htext] at h
      split at h
      next => cases h
      next => exact ofLong_ne_word h
      next => cases h
      next => cases h
      next hunknown => exact hunknown c rest rfl
  rw [ofText_of_isWord hword] at h
  cases h
  exact ⟨rfl, hword⟩

theorem eq_of_ofText_eq_dashes (h : ofText text = .dashes) : text = "--" := by
  unfold ofText at h
  split at h
  next htext => exact String.toList_injective htext
  next => exact absurd h ofLong_ne_dashes
  next => cases h
  next => cases h
  next => cases h

end Argument

/-! ## Commands and requests -/

namespace Command

theorem ofName?_name (command : Command) : ofName? command.name = some command := by
  cases command <;> decide

theorem isWord_name (command : Command) : IsWord command.name := by
  cases command <;> exact .inr (by decide)

theorem name_of_ofName? {word : String} {command : Command} (h : ofName? word = some command) :
    command.name = word := by
  simpa using List.find?_some h

end Command

/-! ## Outcomes without their refusals -/

section Refusals
variable {α β : Type}

theorem toOption_bind (x : Except Refusal α) (f : α → Except Refusal β) :
    (x >>= f).toOption = x.toOption.bind fun a => (f a).toOption := by
  cases x <;> rfl

theorem exists_of_bind_eq_ok {x : Except Refusal α} {f : α → Except Refusal β} {b : β}
    (h : (x >>= f) = .ok b) : ∃ a, x = .ok a ∧ f a = .ok b := by
  cases x with
  | error e => cases h
  | ok a => exact ⟨a, rfl, h⟩

theorem toOption_eq_some_iff {x : Except Refusal α} {a : α} : x.toOption = some a ↔ x = .ok a := by
  cases x <;> simp [Except.toOption]

end Refusals

/-! ## Options one after another -/

/-- The values with the given ones set, one after another. -/
def OptionValues.setAll? (values : OptionValues) (given : List (OptionName × String)) :
    Option OptionValues :=
  given.foldlM (fun values option => (values.set option.1 option.2).toOption) values

theorem OptionValues.setAll?_cons {values : OptionValues} {name : OptionName} {value : String}
    {given : List (OptionName × String)} :
    values.setAll? ((name, value) :: given) =
      (values.set name value).toOption.bind fun values => values.setAll? given := rfl

/-- A scan goes through options as both sides of the command do it, whatever else it does. -/
structure PassesOptions {α : Type} (scanOn : OptionScan → List String → Option α) : Prop where
  option : ∀ (scan : OptionScan) (rest : List String) (name : OptionName) (attached : Option String),
    scanOn scan (Argument.spelling name attached :: rest) =
      (scan.option name attached).toOption.bind fun scan => scanOn scan rest
  value : ∀ (scan : OptionScan) (rest : List String) (name : OptionName) (value : String),
    IsWord value → scan.awaited? = some name → scanOn scan (value :: rest) = scanOn (scan.hold name value) rest

theorem OptionScan.toOption_option_attached (scan : OptionScan) (name : OptionName) (value : String) :
    (scan.option name (some value)).toOption =
      scan.settle.toOption.bind fun values =>
        (values.set name value).toOption.map fun values => ⟨values, .nothing⟩ := by
  rw [option, toOption_bind]
  refine congrArg _ (funext fun values => ?_)
  show (values.set name value >>= fun values => pure (OptionScan.mk values .nothing)).toOption = _
  cases values.set name value <;> rfl

theorem OptionScan.toOption_option_awaiting (scan : OptionScan) (name : OptionName) :
    (scan.option name none).toOption = scan.settle.toOption.map fun values => ⟨values, .awaiting name⟩ := by
  rw [option]
  cases scan.settle <;> rfl

/-- An option is settled before what follows it, wherever its value stands. -/
theorem PassesOptions.gives {α : Type} {scanOn : OptionScan → List String → Option α}
    (hscan : PassesOptions scanOn) {name : OptionName} {value : String} {words rest : List String}
    {next : OptionValues → Option α} (hgives : name.Gives value words)
    (hrest : ∀ scan : OptionScan, scan.awaited? = none → scanOn scan rest = scan.settle.toOption.bind next)
    (scan : OptionScan) :
    scanOn scan (words ++ rest) =
      scan.settle.toOption.bind fun values => (values.set name value).toOption.bind next := by
  cases hgives with
  | attached =>
    have hafter : ∀ values, scanOn ⟨values, .nothing⟩ rest = next values :=
      fun values => hrest ⟨values, .nothing⟩ rfl
    show scanOn scan (Argument.spelling name (some value) :: rest) = _
    rw [hscan.option, OptionScan.toOption_option_attached, Option.bind_assoc]
    simp only [Option.bind_map, Function.comp_def, hafter]
  | apart hword =>
    have hafter : ∀ values, scanOn ⟨values, .awaiting name⟩ (value :: rest) =
        (values.set name value).toOption.bind next := by
      intro values
      rw [hscan.value _ rest name value hword rfl]
      exact hrest (OptionScan.hold ⟨values, .awaiting name⟩ name value) rfl
    show scanOn scan (Argument.spelling name none :: value :: rest) = _
    rw [hscan.option, OptionScan.toOption_option_awaiting]
    simp only [Option.bind_map, Function.comp_def, hafter]

namespace CommandLine
variable {env : Environment} {arguments : List String}

/-! ## Before the command -/

/-- The values given before the command, the command, and the arguments after it. -/
def settledBefore (scan : OptionScan) (arguments : List String) :
    Option (OptionValues × Command × List String) :=
  (scanBefore scan arguments).toOption.bind fun (scan, command, rest) =>
    scan.settle.toOption.map fun values => (values, command, rest)

theorem passesOptions_settledBefore : PassesOptions settledBefore where
  option scan rest name attached := by
    rw [settledBefore, scanBefore, Argument.ofText_spelling]
    dsimp only
    rw [toOption_bind, Option.bind_assoc]
    rfl
  value scan rest name value hword hawaited := by
    rw [settledBefore, scanBefore, Argument.ofText_of_isWord hword]
    dsimp only
    rw [hawaited]
    rfl

theorem settledBefore_of_optionsOnly {front back : List String} {given : List (OptionName × String)}
    {command : Command} (h : OptionsOnly front given) {scan : OptionScan} (hscan : scan.awaited? = none) :
    settledBefore scan (front ++ command.name :: back) =
      scan.settle.toOption.bind fun values =>
        (values.setAll? given).map fun values => (values, command, back) := by
  induction h generalizing scan with
  | nil =>
    have hcommand : scanBefore scan (command.name :: back) = .ok (scan, command, back) := by
      rw [scanBefore, Argument.ofText_of_isWord command.isWord_name]
      dsimp only
      rw [hscan, Command.ofName?_name]
    rw [List.nil_append, settledBefore, hcommand]
    show scan.settle.toOption.map (fun values => (values, command, back)) = _
    cases scan.settle <;> rfl
  | option hgives _ ih =>
    rw [List.append_assoc, passesOptions_settledBefore.gives hgives fun scan => ih]
    simp only [OptionValues.setAll?_cons, Option.map_bind, Function.comp_def]

/-! ## After the command -/

/-- The names with the given ones added, one after another, as far as the command takes them. -/
def addAll? (command : Command) (names added : List String) : Option (List String) :=
  (added.foldlM (addName command) names).toOption

theorem addAll?_cons {command : Command} {names added : List String} {name : String} :
    addAll? command names (name :: added) =
      (addName command names name).toOption.bind fun names => addAll? command names added := by
  rw [addAll?, List.foldlM_cons, toOption_bind]
  rfl

theorem passesOptions_scanAfter (command : Command) (names : List String) :
    PassesOptions fun scan arguments => (scanAfter command scan names arguments).toOption where
  option scan rest name attached := by
    rw [scanAfter, Argument.ofText_spelling]
    dsimp only
    rw [toOption_bind]
  value scan rest name value hword hawaited := by
    rw [scanAfter, Argument.ofText_of_isWord hword]
    dsimp only
    rw [hawaited]

theorem scanAfter_of_optionsAndNames {back added : List String} {given : List (OptionName × String)}
    {command : Command} (h : OptionsAndNames back given added) {names : List String} {scan : OptionScan}
    (hscan : scan.awaited? = none) :
    (scanAfter command scan names back).toOption =
      scan.settle.toOption.bind fun values => (values.setAll? given).bind fun values =>
        (addAll? command names added).map fun names => (values, names) := by
  induction h generalizing scan names with
  | nil =>
    rw [scanAfter]
    cases scan.settle <;> rfl
  | option hgives _ ih =>
    rw [(passesOptions_scanAfter command names).gives hgives fun scan => ih]
    simp only [OptionValues.setAll?_cons, Option.bind_assoc]
  | @name text rest added given hword _ ih =>
    rw [scanAfter, Argument.ofText_of_isWord hword]
    dsimp only
    rw [hscan]
    dsimp only
    rw [toOption_bind]
    refine congrArg _ (funext fun values => ?_)
    have hrest : ∀ names, (scanAfter command ⟨values, .nothing⟩ names rest).toOption =
        (values.setAll? given).bind fun values =>
          (addAll? command names added).map fun names => (values, names) := fun names => ih rfl
    rw [toOption_bind]
    simp only [hrest, addAll?_cons, Option.map_bind, Function.comp_def]
    exact Option.bind_comm _ _
  | dashes added =>
    rw [scanAfter, show Argument.ofText "--" = .dashes by decide]
    dsimp only
    rw [toOption_bind]
    refine congrArg _ (funext fun values => ?_)
    show (added.foldlM (addName command) names >>= fun names => pure (values, names)).toOption =
      (addAll? command names added).map fun names => (values, names)
    rw [addAll?]
    cases added.foldlM (addName command) names <;> rfl

/-! ## Whole command lines -/

/-- The invocation for the values on both sides of a command and the names after it. -/
def conclude? (env : Environment) (before after : OptionValues) (command : Command) (names : List String) :
    Option Invocation :=
  (settings env before after).toOption.bind fun settings =>
    (command.request? names).map fun request => ⟨request, settings⟩

/-- The values before the command may just as well be settled before the scan goes on behind it. -/
theorem toOption_parse_eq_bind (env : Environment) (arguments : List String) :
    (parse env arguments).toOption =
      (settledBefore ∅ arguments).bind fun (before, command, rest) =>
        (scanAfter command ∅ [] rest).toOption.bind fun (after, names) =>
          conclude? env before after command names := by
  rw [parse, toOption_bind, settledBefore, Option.bind_assoc]
  refine congrArg _ (funext fun scanned => ?_)
  obtain ⟨scan, command, rest⟩ := scanned
  rw [toOption_bind, Option.bind_map]
  show _ = scan.settle.toOption.bind fun before =>
    (scanAfter command ∅ [] rest).toOption.bind fun scanned =>
      conclude? env before scanned.1 command scanned.2
  rw [Option.bind_comm]
  refine congrArg _ (funext fun scanned => ?_)
  obtain ⟨after, names⟩ := scanned
  dsimp only
  rw [toOption_bind]
  refine congrArg _ (funext fun before => ?_)
  rw [toOption_bind]
  refine congrArg _ (funext fun settings => ?_)
  cases command.request? names <;> rfl

/-- The invocation that the parts of a command line ask for. -/
def Reading.invocation? (env : Environment) (r : Reading) : Option Invocation :=
  ((∅ : OptionValues).setAll? r.before).bind fun before =>
    ((∅ : OptionValues).setAll? r.after).bind fun after =>
      (addAll? r.command [] r.names).bind fun names => conclude? env before after r.command names

theorem toOption_parse {r : Reading} (h : Reads arguments r) :
    (parse env arguments).toOption = r.invocation? env := by
  obtain ⟨front, back, rfl, hbefore, hafter⟩ := h
  have hempty : (∅ : OptionScan).settle.toOption = some ∅ := rfl
  rw [toOption_parse_eq_bind, settledBefore_of_optionsOnly hbefore rfl, hempty, Option.bind_some,
    Option.bind_map, Reading.invocation?]
  refine congrArg _ (funext fun before => ?_)
  dsimp only [Function.comp_apply]
  rw [scanAfter_of_optionsAndNames hafter rfl, hempty, Option.bind_some, Option.bind_assoc]
  refine congrArg _ (funext fun after => ?_)
  rw [Option.bind_map]
  rfl

/-! ## The parts of a command line that starts a run -/

/-- The flag that a scan has read without its value. -/
def owedFlag (scan : OptionScan) : List String := (scan.awaited?.map OptionName.flag).toList

theorem owedFlag_of_settle {scan : OptionScan} {values : OptionValues} (h : scan.settle = .ok values) :
    owedFlag scan = [] := by
  obtain ⟨given, pending⟩ := scan
  cases pending with
  | awaiting name => cases h
  | nothing => rfl
  | holding name value => rfl

/-- Arguments of that form may have options before them. -/
def TakesOptions (Formed : List String → Prop) : Prop :=
  ∀ ⦃name : OptionName⦄ ⦃value : String⦄ ⦃words rest : List String⦄,
    name.Gives value words → Formed rest → Formed (words ++ rest)

section TakesOptions
variable {Formed : List String → Prop} {scan : OptionScan} {name : OptionName} {rest : List String}

theorem TakesOptions.of_option (hformed : TakesOptions Formed) {attached : Option String}
    {next : OptionScan} (h : scan.option name attached = .ok next) (hrest : Formed (owedFlag next ++ rest)) :
    Formed (owedFlag scan ++ Argument.spelling name attached :: rest) := by
  obtain ⟨values, hsettle, hset⟩ := exists_of_bind_eq_ok h
  rw [owedFlag_of_settle hsettle, List.nil_append]
  cases attached with
  | none =>
    cases hset
    exact hrest
  | some value =>
    obtain ⟨values', -, hvalues⟩ := exists_of_bind_eq_ok hset
    cases hvalues
    exact hformed .attached hrest

theorem TakesOptions.of_value (hformed : TakesOptions Formed) {value : String} (hword : IsWord value)
    (hawaited : scan.awaited? = some name) (hrest : Formed (owedFlag (scan.hold name value) ++ rest)) :
    Formed (owedFlag scan ++ value :: rest) := by
  have howed : owedFlag scan = [name.flag] := by rw [owedFlag, hawaited]; rfl
  rw [howed]
  show Formed ([name.flag, value] ++ rest)
  exact hformed (.apart hword) hrest

end TakesOptions

theorem takesOptions_optionsOnly : TakesOptions fun words => ∃ given, OptionsOnly words given := by
  rintro name value words rest hgives ⟨given, hrest⟩
  exact ⟨_, .option hgives hrest⟩

theorem takesOptions_optionsAndNames :
    TakesOptions fun words => ∃ given names, OptionsAndNames words given names := by
  rintro name value words rest hgives ⟨given, names, hrest⟩
  exact ⟨_, names, .option hgives hrest⟩

theorem exists_optionsOnly {scan scan' : OptionScan} {command : Command} {back : List String}
    (h : scanBefore scan arguments = .ok (scan', command, back)) :
    ∃ front, arguments = front ++ command.name :: back ∧
      ∃ given, OptionsOnly (owedFlag scan ++ front) given := by
  induction arguments generalizing scan with
  | nil => cases h
  | cons argument rest ih =>
    rw [scanBefore] at h
    cases hargument : Argument.ofText argument with
    | help =>
      rw [hargument] at h
      obtain ⟨_, -, hhelp⟩ := exists_of_bind_eq_ok h
      cases hhelp
    | option name attached =>
      rw [hargument] at h
      obtain ⟨next, hoption, hnext⟩ := exists_of_bind_eq_ok h
      obtain ⟨front, rfl, hfront⟩ := ih hnext
      obtain rfl := Argument.eq_spelling_of_ofText hargument
      exact ⟨_ :: front, rfl, takesOptions_optionsOnly.of_option hoption hfront⟩
    | dashes => rw [hargument] at h; cases h
    | unknown => rw [hargument] at h; cases h
    | word text =>
      rw [hargument] at h
      obtain ⟨rfl, hword⟩ := Argument.isWord_of_ofText hargument
      dsimp only at h
      cases hawaited : scan.awaited? with
      | some name =>
        rw [hawaited] at h
        obtain ⟨front, rfl, hfront⟩ := ih h
        exact ⟨_ :: front, rfl, takesOptions_optionsOnly.of_value hword hawaited hfront⟩
      | none =>
        rw [hawaited] at h
        dsimp only at h
        cases hcommand : Command.ofName? text with
        | none => rw [hcommand] at h; cases h
        | some found =>
          rw [hcommand] at h
          cases h
          refine ⟨[], by rw [Command.name_of_ofName? hcommand]; rfl, [], ?_⟩
          rw [owedFlag, hawaited]
          exact .nil

theorem exists_optionsAndNames {command : Command} {scan : OptionScan} {names names' : List String}
    {values : OptionValues} (h : scanAfter command scan names arguments = .ok (values, names')) :
    ∃ given added, OptionsAndNames (owedFlag scan ++ arguments) given added := by
  induction arguments generalizing scan names with
  | nil =>
    rw [scanAfter] at h
    obtain ⟨_, hsettle, -⟩ := exists_of_bind_eq_ok h
    rw [owedFlag_of_settle hsettle]
    exact ⟨[], [], .nil⟩
  | cons argument rest ih =>
    rw [scanAfter] at h
    cases hargument : Argument.ofText argument with
    | help =>
      rw [hargument] at h
      obtain ⟨_, -, hhelp⟩ := exists_of_bind_eq_ok h
      cases hhelp
    | option name attached =>
      rw [hargument] at h
      obtain ⟨next, hoption, hnext⟩ := exists_of_bind_eq_ok h
      obtain rfl := Argument.eq_spelling_of_ofText hargument
      exact takesOptions_optionsAndNames.of_option hoption (ih hnext)
    | dashes =>
      rw [hargument] at h
      obtain ⟨_, hsettle, -⟩ := exists_of_bind_eq_ok h
      obtain rfl := Argument.eq_of_ofText_eq_dashes hargument
      rw [owedFlag_of_settle hsettle]
      exact ⟨[], rest, .dashes rest⟩
    | unknown => rw [hargument] at h; cases h
    | word text =>
      rw [hargument] at h
      obtain ⟨rfl, hword⟩ := Argument.isWord_of_ofText hargument
      dsimp only at h
      cases hawaited : scan.awaited? with
      | some name =>
        rw [hawaited] at h
        exact takesOptions_optionsAndNames.of_value hword hawaited (ih h)
      | none =>
        rw [hawaited] at h
        obtain ⟨values, hsettle, hnames⟩ := exists_of_bind_eq_ok h
        obtain ⟨_, -, hrest⟩ := exists_of_bind_eq_ok hnames
        obtain ⟨given, added, hformed⟩ := ih hrest
        rw [owedFlag_of_settle hsettle]
        exact ⟨given, text :: added, .name hword hformed⟩

/-- A command line that starts a run has the parts of one. -/
theorem exists_reads {invocation : Invocation} (h : parse env arguments = .ok invocation) :
    ∃ r, Reads arguments r := by
  obtain ⟨⟨scan, command, back⟩, hbefore, hrest⟩ := exists_of_bind_eq_ok h
  obtain ⟨⟨values, names⟩, hafter, -⟩ := exists_of_bind_eq_ok hrest
  obtain ⟨front, rfl, before, hfront⟩ := exists_optionsOnly hbefore
  obtain ⟨after, added, hback⟩ := exists_optionsAndNames hafter
  exact ⟨⟨before, command, after, added⟩, front, back, rfl, hfront, hback⟩

end CommandLine

end ModularGrammar
