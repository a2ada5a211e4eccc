import ModularGrammar.Proofs.CommandLineReading
import ModularGrammar.Proofs.RunSettings

/-! # Where the settings of a run come from

The format and the log filter of a run come from its options, from the environment, or from neither.

* `lastValue?`: the value that an option is given last (`OptionValues.value?_of_setAll?`);
* `CommandLine.settings_cases`: the settings, told by the values on both sides and the environment;
* `CommandLine.Reading.FilterInForce`, `FilterFails`: the filter that a run has, or that ends it;
* `CommandLine.MovesBehind`: an option is moved from before the command to directly after it
  (`toOption_parse_of_moves`);
* `CommandLine.settings_resolved`: what becomes of the settings, for any run.
-/

set_option autoImplicit false

namespace ModularGrammar

/-- The value of the last one of the options with that name. -/
def lastValue? (name : OptionName) (given : List (OptionName × String)) : Option String :=
  given.reverse.lookup name

theorem lastValue?_append (name : OptionName) (given later : List (OptionName × String)) :
    lastValue? name (given ++ later) = (lastValue? name later).or (lastValue? name given) := by
  rw [lastValue?, List.reverse_append, List.lookup_append]
  rfl

theorem lastValue?_cons (name other : OptionName) (value : String) (given : List (OptionName × String)) :
    lastValue? name ((other, value) :: given) =
      (lastValue? name given).or (if name = other then some value else none) := by
  rw [← List.singleton_append, lastValue?_append]
  congr 1
  by_cases h : name = other
  · simp [lastValue?, h]
  · simp [lastValue?, h, List.lookup_cons, beq_false_of_ne h]

theorem lastValue?_eq_none {name : OptionName} {given : List (OptionName × String)}
    (h : ∀ option ∈ given, option.1 ≠ name) : lastValue? name given = none := by
  rw [lastValue?, List.lookup_eq_none_iff]
  intro option hoption
  simpa using (h option (List.mem_reverse.1 hoption)).symm

/-! ## Values of options -/

namespace OptionValues
variable {values values' : OptionValues} {name other : OptionName} {value value' : String}
variable {given later : List (OptionName × String)}

/-- The value of an option as it has been given. -/
def value? (values : OptionValues) : OptionName → Option String
  | .format => values.format.map OutputFormat.name
  | .logFilter => values.logFilter

@[simp] theorem value?_empty (name : OptionName) : (∅ : OptionValues).value? name = none := by
  cases name <;> rfl

theorem set_format_cases (h : values.set .format value = .ok values') :
    values.format = none ∧ ∃ format, format.name = value ∧ values' = { values with format := some format } := by
  cases hgiven : values.format with
  | some format => rw [set, hgiven] at h; cases h
  | none =>
    cases hformat : OutputFormat.ofName? value with
    | none => rw [set, hgiven, hformat] at h; cases h
    | some format =>
      rw [set, hgiven, hformat] at h
      cases h
      exact ⟨rfl, format, OutputFormat.name_of_ofName? hformat, rfl⟩

theorem set_logFilter_cases (h : values.set .logFilter value = .ok values') :
    values.logFilter = none ∧ values' = { values with logFilter := some value } := by
  cases hgiven : values.logFilter with
  | some text => rw [set, hgiven] at h; cases h
  | none =>
    rw [set, hgiven] at h
    cases h
    exact ⟨rfl, rfl⟩

theorem value?_set (h : values.set name value = .ok values') :
    values'.value? other = if other = name then some value else values.value? other := by
  cases name with
  | format =>
    obtain ⟨-, format, rfl, rfl⟩ := set_format_cases h
    cases other <;> rfl
  | logFilter =>
    obtain ⟨-, rfl⟩ := set_logFilter_cases h
    cases other <;> rfl

theorem setAll?_append :
    values.setAll? (given ++ later) = (values.setAll? given).bind fun values => values.setAll? later :=
  List.foldlM_append

theorem value?_of_setAll? (h : values.setAll? given = some values') :
    values'.value? name = (lastValue? name given).or (values.value? name) := by
  induction given generalizing values with
  | nil => cases h; rfl
  | cons option rest ih =>
    obtain ⟨other, value⟩ := option
    rw [setAll?_cons] at h
    obtain ⟨next, hset, hrest⟩ := Option.bind_eq_some_iff.1 h
    rw [ih hrest, value?_set (toOption_eq_some_iff.1 hset), lastValue?_cons, Option.or_assoc]
    congr 1
    split <;> rfl

/-! ## Options in another order -/

/-- Options with different names may be set in any order. -/
theorem set_comm (h : name ≠ other) :
    ((values.set name value).toOption.bind fun values => (values.set other value').toOption) =
      (values.set other value').toOption.bind fun values => (values.set name value).toOption := by
  obtain ⟨format, logFilter⟩ := values
  cases name with
  | format =>
    cases other with
    | format => exact absurd rfl h
    | logFilter =>
      simp only [set]
      cases format <;> cases OutputFormat.ofName? value <;> cases logFilter <;> rfl
  | logFilter =>
    cases other with
    | logFilter => exact absurd rfl h
    | format =>
      simp only [set]
      cases format <;> cases OutputFormat.ofName? value' <;> cases logFilter <;> rfl

/-- An option may be set after options with other names just as well as before them. -/
theorem setAll?_set (h : ∀ option ∈ given, option.1 ≠ name) :
    values.setAll? ((name, value) :: given) =
      (values.setAll? given).bind fun values => (values.set name value).toOption := by
  induction given generalizing values with
  | nil => exact Option.bind_fun_some _
  | cons option rest ih =>
    obtain ⟨other, value'⟩ := option
    obtain ⟨hother, hrest⟩ := List.forall_mem_cons.1 h
    -- The option goes behind the first of the others, and by the induction behind all that follow.
    calc values.setAll? ((name, value) :: (other, value') :: rest)
        = ((values.set name value).toOption.bind fun values =>
            (values.set other value').toOption).bind fun values => values.setAll? rest := by
          rw [Option.bind_assoc]; rfl
      _ = ((values.set other value').toOption.bind fun values =>
            (values.set name value).toOption).bind fun values => values.setAll? rest := by
          rw [set_comm hother.symm]
      _ = (values.set other value').toOption.bind fun values =>
            values.setAll? ((name, value) :: rest) := by
          rw [Option.bind_assoc]; rfl
      _ = (values.setAll? ((other, value') :: rest)).bind fun values =>
            (values.set name value).toOption := by
          simp only [ih hrest, setAll?_cons, Option.bind_assoc]

theorem setAll?_set_between (h : ∀ option ∈ given ++ later, option.1 ≠ name) :
    values.setAll? (given ++ (name, value) :: later) =
      (values.setAll? (given ++ later)).bind fun values => (values.set name value).toOption := by
  have hlater : ∀ option ∈ later, option.1 ≠ name :=
    fun option hoption => h option (List.mem_append_right _ hoption)
  simp only [setAll?_append, setAll?_set hlater, Option.bind_assoc]

end OptionValues

namespace CommandLine
variable {env : Environment} {arguments moved : List String} {r : Reading} {invocation : Invocation}
variable {before after : OptionValues} {s : Settings} {filter : LogFilter}

/-! ## Settings -/

/-- The format that the environment names is looked at unless an option goes before it anyway. -/
theorem environmentFormat_cases {fromEnvironment : Option OutputFormat}
    (h : environmentFormat env before after = .ok fromEnvironment) :
    fromEnvironment.map OutputFormat.name = env.format ∨ after.format.isSome = true := by
  unfold environmentFormat at h
  split at h
  next hunset =>
    cases h
    exact .inl hunset.symm
  next word hword =>
    split at h
    next hboth => exact .inr (Bool.and_eq_true_iff.1 hboth).2
    next =>
      split at h
      next format hformat =>
        cases h
        exact .inl ((congrArg some (OutputFormat.name_of_ofName? hformat)).trans hword.symm)
      next => cases h

theorem settings_eq (env : Environment) (before after : OptionValues) :
    settings env before after = (environmentFormat env before after).map fun fromEnvironment =>
      .resolve (((after.format.or before.format).or fromEnvironment).getD .text)
        ((after.logFilter.or before.logFilter).or env.logFilter) := by
  simp only [Option.or_eq_orElse]
  rfl

theorem settings_cases (h : settings env before after = .ok s) :
    s.format.name = (((after.value? .format).or (before.value? .format)).or env.format).getD "text" ∧
    s.logFilter = (((after.value? .logFilter).or (before.value? .logFilter)).or env.logFilter).filter
      fun text => !allBlank text := by
  rw [settings_eq] at h
  cases hformat : environmentFormat env before after with
  | error e => rw [hformat] at h; cases h
  | ok fromEnvironment =>
    rw [hformat] at h
    cases h
    refine ⟨?_, rfl⟩
    show (((after.format.or before.format).or fromEnvironment).getD .text).name =
      (((after.format.map OutputFormat.name).or (before.format.map OutputFormat.name)).or env.format).getD
        OutputFormat.text.name
    rcases environmentFormat_cases hformat with hname | hsome
    · rw [← hname, ← Option.map_or, ← Option.map_or, Option.getD_map]
    · obtain ⟨format, hgiven⟩ := Option.isSome_iff_exists.1 hsome
      rw [hgiven]
      rfl

/-- An option on either side of the command hides the log filter of the environment. -/
theorem settings_congr_logFilter (h : (after.value? .logFilter).or (before.value? .logFilter) ≠ none)
    (logFilter : Option String) :
    settings { env with logFilter } before after = settings env before after := by
  obtain ⟨text, htext⟩ := Option.ne_none_iff_exists'.1 h
  have hgiven : after.logFilter.or before.logFilter = some text := htext
  rw [settings_eq, settings_eq, hgiven]
  rfl

theorem eq_append_of_addAll? {command : Command} {names added all : List String}
    (h : addAll? command names added = some all) : all = names ++ added := by
  induction added generalizing names with
  | nil =>
    cases h
    rw [List.append_nil]
  | cons name rest ih =>
    rw [addAll?_cons] at h
    obtain ⟨next, hnext, hrest⟩ := Option.bind_eq_some_iff.1 h
    have hadd : next = names ++ [name] := by
      have hok := toOption_eq_some_iff.1 hnext
      unfold addName at hok
      split at hok <;> cases hok
      rfl
    rw [ih hrest, hadd, List.append_assoc]
    rfl

namespace Reading

/-- The options on both sides of the command, in their order. -/
def options (r : Reading) : List (OptionName × String) := r.before ++ r.after

/-- The text of the log filter that is asked for. -/
def explicitFilter? (env : Environment) (r : Reading) : Option String :=
  (lastValue? .logFilter r.options).or env.logFilter

/-- The log filter that is asked for, where one of blanks only counts as none. -/
def logFilter? (env : Environment) (r : Reading) : Option String :=
  (r.explicitFilter? env).filter fun text => !allBlank text

theorem value?_or_of_setAll? (hbefore : (∅ : OptionValues).setAll? r.before = some before)
    (hafter : (∅ : OptionValues).setAll? r.after = some after) (name : OptionName) :
    (after.value? name).or (before.value? name) = lastValue? name r.options := by
  rw [options, lastValue?_append, OptionValues.value?_of_setAll? hbefore,
    OptionValues.value?_of_setAll? hafter]
  simp

/-- The settings and the request that the parts of a command line ask for. -/
theorem invocation?_cases (h : r.invocation? env = some invocation) :
    invocation.settings.format.name = ((lastValue? .format r.options).or env.format).getD "text" ∧
    invocation.settings.logFilter = r.logFilter? env ∧
    r.command.request? r.names = some invocation.request := by
  obtain ⟨before, hbefore, h⟩ := Option.bind_eq_some_iff.1 h
  obtain ⟨after, hafter, h⟩ := Option.bind_eq_some_iff.1 h
  obtain ⟨names, hnames, h⟩ := Option.bind_eq_some_iff.1 h
  obtain ⟨s, hs, h⟩ := Option.bind_eq_some_iff.1 h
  obtain ⟨request, hrequest, rfl⟩ := Option.map_eq_some_iff.1 h
  obtain rfl : names = r.names := eq_append_of_addAll? hnames
  obtain ⟨hformat, hfilter⟩ := settings_cases (toOption_eq_some_iff.1 hs)
  have hgiven := value?_or_of_setAll? hbefore hafter
  rw [hgiven] at hformat hfilter
  exact ⟨hformat, hfilter, hrequest⟩

theorem invocation?_congr_logFilter (h : lastValue? .logFilter r.options ≠ none)
    (logFilter : Option String) : r.invocation? { env with logFilter } = r.invocation? env := by
  refine Option.bind_congr fun before hbefore => Option.bind_congr fun after hafter =>
    Option.bind_congr fun names _ => ?_
  have hgiven := value?_or_of_setAll? hbefore hafter .logFilter
  rw [conclude?, conclude?, settings_congr_logFilter (hgiven ▸ h)]

/-! ## The filter in force -/

/-- No log filter is asked for, or one of blanks only. -/
def AsksForNoFilter (env : Environment) (r : Reading) : Prop :=
  ∀ text, r.explicitFilter? env = some text → allBlank text = true

/-- The log filter of a run: the one that is asked for, the fallback, or the warnings. -/
inductive FilterInForce (env : Environment) (r : Reading) (filter : LogFilter) : Prop
  | explicit {text : String} : r.explicitFilter? env = some text → allBlank text = false →
      LogFilter.parse text = .ok filter → FilterInForce env r filter
  | fallback {text : String} : r.AsksForNoFilter env → env.fallbackFilter = some text →
      LogFilter.parse text = .ok filter → FilterInForce env r filter
  | warnings : r.AsksForNoFilter env →
      (∀ text, env.fallbackFilter = some text → ∃ cause, LogFilter.parse text = .error cause) →
      LogFilter.parse "warn" = .ok filter → FilterInForce env r filter

/-- A log filter is asked for that cannot be read. -/
def FilterFails (env : Environment) (r : Reading) (text : String) (cause : LogFilter.ParseError) : Prop :=
  r.explicitFilter? env = some text ∧ allBlank text = false ∧ LogFilter.parse text = .error cause

theorem logFilter?_eq_none (h : r.AsksForNoFilter env) : r.logFilter? env = none := by
  rw [logFilter?, Option.filter_eq_none_iff]
  intro text htext
  simp [h text htext]

theorem logFilter?_eq_some {text : String} (htext : r.explicitFilter? env = some text)
    (hblank : allBlank text = false) : r.logFilter? env = some text := by
  rw [logFilter?, htext, Option.filter_some, hblank]
  rfl

theorem FilterInForce.logFilterFor_eq (h : r.FilterInForce env filter) :
    logFilterFor (r.logFilter? env) env.fallbackFilter = .ok filter := by
  cases h with
  | explicit htext hblank hparse =>
    rw [logFilter?_eq_some htext hblank, logFilterFor, hparse]
  | fallback hnone htext hparse =>
    rw [logFilter?_eq_none hnone, logFilterFor, htext, Option.map_some, hparse]
  | warnings hnone hfallback hwarn =>
    obtain rfl : LogFilter.warnings = filter := Except.ok.inj (LogFilter.parse_warn.symm.trans hwarn)
    rw [logFilter?_eq_none hnone, logFilterFor]
    cases htext : env.fallbackFilter with
    | none => rfl
    | some text =>
      obtain ⟨cause, hcause⟩ := hfallback text htext
      rw [Option.map_some, hcause]

theorem FilterFails.logFilterFor_eq {text : String} {cause : LogFilter.ParseError}
    (h : r.FilterFails env text cause) :
    logFilterFor (r.logFilter? env) env.fallbackFilter = .error ⟨text, cause⟩ := by
  obtain ⟨htext, hblank, hparse⟩ := h
  rw [logFilter?_eq_some htext hblank, logFilterFor, hparse]

theorem filterInForce_or_fails (env : Environment) (r : Reading) :
    (∃ filter, r.FilterInForce env filter) ∨ ∃ text cause, r.FilterFails env text cause := by
  by_cases hnone : r.AsksForNoFilter env
  · left
    by_cases hread : ∃ text filter, env.fallbackFilter = some text ∧ LogFilter.parse text = .ok filter
    · obtain ⟨text, filter, htext, hparse⟩ := hread
      exact ⟨filter, .fallback hnone htext hparse⟩
    · refine ⟨.warnings, .warnings hnone ?_ LogFilter.parse_warn⟩
      intro text htext
      cases hparse : LogFilter.parse text with
      | ok filter => exact absurd ⟨text, filter, htext, hparse⟩ hread
      | error cause => exact ⟨cause, rfl⟩
  · obtain ⟨text, hasked⟩ := not_forall.1 hnone
    obtain ⟨htext, hblank⟩ := Classical.not_imp.1 hasked
    cases hparse : LogFilter.parse text with
    | ok filter => exact .inl ⟨filter, .explicit htext (Bool.eq_false_of_not_eq_true hblank) hparse⟩
    | error cause => exact .inr ⟨text, cause, htext, Bool.eq_false_of_not_eq_true hblank, hparse⟩

end Reading

/-! ## An option moved behind the command -/

/-- An option before the command, which is given nowhere else, is moved to directly after it. -/
inductive MovesBehind : List String → List String → Prop
  | option {name : OptionName} {value : String} {command : Command}
      {front words between back names : List String} {fronts betweens backs : List (OptionName × String)} :
      OptionsOnly front fronts → name.Gives value words → OptionsOnly between betweens →
        OptionsAndNames back backs names → (∀ option ∈ fronts ++ betweens ++ backs, option.1 ≠ name) →
        MovesBehind (front ++ words ++ between ++ command.name :: back)
          (front ++ between ++ command.name :: (words ++ back))

/-- On which side of the command an option is given is all the same if it is given on one side only. -/
theorem conclude?_set {name : OptionName} {value : String} {command : Command} {names : List String}
    (hbefore : before.value? name = none) (hafter : after.value? name = none) :
    ((before.set name value).toOption.bind fun before => conclude? env before after command names) =
      (after.set name value).toOption.bind fun after => conclude? env before after command names := by
  obtain ⟨format, logFilter⟩ := before
  obtain ⟨format', logFilter'⟩ := after
  cases name with
  | format =>
    obtain rfl : format = none := Option.map_eq_none_iff.1 hbefore
    obtain rfl : format' = none := Option.map_eq_none_iff.1 hafter
    simp only [OptionValues.set]
    cases OutputFormat.ofName? value <;> rfl
  | logFilter =>
    obtain rfl : logFilter = none := hbefore
    obtain rfl : logFilter' = none := hafter
    rfl

theorem Reading.invocation?_move {name : OptionName} {value : String} {command : Command}
    {names : List String} {fronts betweens backs : List (OptionName × String)}
    (h : ∀ option ∈ fronts ++ betweens ++ backs, option.1 ≠ name) :
    Reading.invocation? env ⟨fronts ++ (name, value) :: betweens, command, backs, names⟩ =
      Reading.invocation? env ⟨fronts ++ betweens, command, (name, value) :: backs, names⟩ := by
  obtain ⟨hbefore, hafter⟩ := List.forall_mem_append.1 h
  rw [invocation?, invocation?, OptionValues.setAll?_set_between hbefore, OptionValues.setAll?_set hafter,
    Option.bind_assoc]
  -- Now the option that moves is set last on its side, so all others are the same in both readings.
  refine Option.bind_congr fun before hgiven => ?_
  rw [Option.bind_comm, Option.bind_assoc]
  refine Option.bind_congr fun after hgiven' => ?_
  rw [Option.bind_comm, Option.bind_comm (after.set name value).toOption]
  refine Option.bind_congr fun names _ => ?_
  apply conclude?_set
  · rw [OptionValues.value?_of_setAll? hgiven, lastValue?_eq_none hbefore]
    exact OptionValues.value?_empty name
  · rw [OptionValues.value?_of_setAll? hgiven', lastValue?_eq_none hafter]
    exact OptionValues.value?_empty name

theorem toOption_parse_of_moves (h : MovesBehind arguments moved) :
    (parse env arguments).toOption = (parse env moved).toOption := by
  cases h with
  | @option name value command front words between back names fronts betweens backs hfront hgives hbetween
      hback hother =>
    have hreads : Reads (front ++ words ++ between ++ command.name :: back)
        ⟨fronts ++ (name, value) :: betweens, command, backs, names⟩ := by
      refine ⟨_, _, rfl, ?_, hback⟩
      rw [List.append_assoc]
      exact hfront.append (.option hgives hbetween)
    have hmoved : Reads (front ++ between ++ command.name :: (words ++ back))
        ⟨fronts ++ betweens, command, (name, value) :: backs, names⟩ :=
      ⟨_, _, rfl, hfront.append hbetween, .option hgives hback⟩
    rw [toOption_parse hreads, toOption_parse hmoved]
    exact Reading.invocation?_move hother

/-! ## Runs and their settings -/

theorem respond_of_parse (h : parse env arguments = .ok invocation) :
    respond env arguments = .ran (invocation.transcript env.fallbackFilter) := by
  rw [respond, h]

/-- A run that gets to its request does not end with the code of one that its log filter has ended. -/
theorem exitCode_transcriptOf_ne (filter : LogFilter) (performed : Logged (Except UnknownModule Output)) :
    (transcriptOf filter performed).exitCode ≠ 2 := by
  obtain ⟨events, value⟩ := performed
  cases value with
  | ok output =>
    show (if output.success then 0 else 1) ≠ 2
    split <;> decide
  | error e => exact (by decide : 1 ≠ 2)

theorem exists_logFilterFor_none (fallback : Option String) :
    ∃ filter, logFilterFor none fallback = .ok filter := by
  rw [logFilterFor]
  split
  next => exact ⟨_, rfl⟩
  next => exact ⟨_, rfl⟩

/-- The fallback has no bearing on anything but the log. -/
theorem Invocation.transcript_congr_fallback (invocation : Invocation) (fallback fallback' : Option String) :
    ∃ log, invocation.transcript fallback = { invocation.transcript fallback' with log } := by
  cases hfilter : invocation.settings.logFilter with
  | some text =>
    have hsame : ∀ fallback, logFilterFor (some text) fallback = logFilterFor (some text) fallback' :=
      fun _ => rfl
    refine ⟨(invocation.transcript fallback').log, ?_⟩
    rw [transcript, transcript, hfilter, hsame]
  | none =>
    obtain ⟨filter, hread⟩ := exists_logFilterFor_none fallback
    obtain ⟨filter', hread'⟩ := exists_logFilterFor_none fallback'
    rw [← hfilter] at hread hread'
    rw [transcript_of_filter hread, transcript_of_filter hread']
    exact ⟨_, transcriptOf_congr_filter filter filter' _⟩

theorem respond_fallback (hparse : parse env arguments = .ok invocation) (fallbackFilter : Option String) :
    ∃ t t', respond env arguments = .ran t ∧ respond { env with fallbackFilter } arguments = .ran t' ∧
      t'.exitCode = t.exitCode ∧ t'.stdout = t.stdout ∧ t'.failure = t.failure := by
  have hparse' : parse { env with fallbackFilter } arguments = .ok invocation := hparse
  obtain ⟨log, hlog⟩ := invocation.transcript_congr_fallback fallbackFilter env.fallbackFilter
  refine ⟨_, _, respond_of_parse hparse, respond_of_parse hparse', ?_⟩
  rw [hlog]
  exact ⟨rfl, rfl, rfl⟩

theorem respond_moved (hparse : parse env arguments = .ok invocation)
    (hmoves : MovesBehind arguments moved ∨ MovesBehind moved arguments) :
    respond env moved = respond env arguments := by
  have hsame : (parse env moved).toOption = (parse env arguments).toOption := by
    rcases hmoves with hbehind | hbefore
    · exact (toOption_parse_of_moves hbehind).symm
    · exact toOption_parse_of_moves hbefore
  rw [hparse] at hsame
  rw [respond_of_parse hparse, respond_of_parse (toOption_eq_some_iff.1 hsame)]

section Reads
variable (hparse : parse env arguments = .ok invocation) (hreads : Reads arguments r)
include hparse hreads

theorem invocation?_of_parse : r.invocation? env = some invocation := by
  rw [← toOption_parse hreads, hparse]
  rfl

theorem respond_of_inForce (h : r.FilterInForce env filter) :
    respond env arguments =
      .ran (transcriptOf filter (invocation.request.perform invocation.settings.format).run) := by
  obtain ⟨-, hfilter, -⟩ := Reading.invocation?_cases (invocation?_of_parse hparse hreads)
  rw [respond_of_parse hparse, Invocation.transcript_of_filter]
  rw [hfilter, h.logFilterFor_eq]

theorem respond_of_fails {text : String} {cause : LogFilter.ParseError} (h : r.FilterFails env text cause) :
    respond env arguments =
      .ran ⟨2, "", [], some ("invalid log filter `" ++ text ++ "`: " ++ cause.message)⟩ := by
  obtain ⟨-, hfilter, -⟩ := Reading.invocation?_cases (invocation?_of_parse hparse hreads)
  rw [respond_of_parse hparse, Invocation.transcript, hfilter, h.logFilterFor_eq]
  rfl

theorem exitCode_eq_two_iff {t : Transcript} (ht : respond env arguments = .ran t) :
    t.exitCode = 2 ↔ ∃ text cause, r.FilterFails env text cause := by
  constructor
  · intro hcode
    rcases r.filterInForce_or_fails env with ⟨filter, hforce⟩ | hfails
    · rw [respond_of_inForce hparse hreads hforce] at ht
      cases ht
      exact absurd hcode (exitCode_transcriptOf_ne filter _)
    · exact hfails
  · rintro ⟨text, cause, hfails⟩
    rw [respond_of_fails hparse hreads hfails] at ht
    cases ht
    rfl

theorem respond_hidden (hgiven : lastValue? .logFilter r.options ≠ none) (logFilter : Option String) :
    respond { env with logFilter } arguments = respond env arguments := by
  have hhidden : (parse { env with logFilter } arguments).toOption = some invocation := by
    rw [toOption_parse hreads, Reading.invocation?_congr_logFilter hgiven, invocation?_of_parse hparse hreads]
  rw [respond_of_parse hparse, respond_of_parse (toOption_eq_some_iff.1 hhidden)]

end Reads

/-- A run has the format and the log filter that its options, the environment and the fallback give, in this
order, a blank filter counting as none. It ends before its request exactly if the filter asked for cannot
be read, which no fallback can bring about, and no log filter of the environment if an option gives one.
Nothing changes if an option that is given once is moved between the two places before and directly after
the command. -/
theorem settings_resolved (hparse : parse env arguments = .ok invocation) :
    (∃ r, Reads arguments r) ∧
    (∀ r, Reads arguments r →
      r.command.request? r.names = some invocation.request ∧
      invocation.settings.format.name = ((lastValue? .format r.options).or env.format).getD "text" ∧
      ((∃ filter, r.FilterInForce env filter) ∨ ∃ text cause, r.FilterFails env text cause) ∧
      (∀ filter, r.FilterInForce env filter →
        respond env arguments =
          .ran (transcriptOf filter (invocation.request.perform invocation.settings.format).run)) ∧
      (∀ text cause, r.FilterFails env text cause →
        respond env arguments =
          .ran ⟨2, "", [], some ("invalid log filter `" ++ text ++ "`: " ++ cause.message)⟩) ∧
      (∀ t, respond env arguments = .ran t → (t.exitCode = 2 ↔ ∃ text cause, r.FilterFails env text cause)) ∧
      (lastValue? .logFilter r.options ≠ none →
        ∀ logFilter, respond { env with logFilter } arguments = respond env arguments)) ∧
    (∀ fallbackFilter, ∃ t t', respond env arguments = .ran t ∧
      respond { env with fallbackFilter } arguments = .ran t' ∧
      t'.exitCode = t.exitCode ∧ t'.stdout = t.stdout ∧ t'.failure = t.failure) ∧
    ∀ moved, MovesBehind arguments moved ∨ MovesBehind moved arguments →
      respond env moved = respond env arguments := by
  refine ⟨exists_reads hparse, ?_, respond_fallback hparse, fun moved => respond_moved hparse⟩
  intro r hreads
  obtain ⟨hformat, -, hrequest⟩ := Reading.invocation?_cases (invocation?_of_parse hparse hreads)
  exact ⟨hrequest, hformat, r.filterInForce_or_fails env, fun filter => respond_of_inForce hparse hreads,
    fun text cause => respond_of_fails hparse hreads, fun t => exitCode_eq_two_iff hparse hreads,
    respond_hidden hparse hreads⟩

/-- An option of one blank hides the log filter of the environment, and a fallback that cannot be read gives
way to the warnings. A log filter that cannot be read comes before the module that there is not. -/
theorem settings_resolved_of_blank_filter :
    parse ⟨some "json", some "debug", some "[bad"⟩ ["--log-level", " ", "--format", "text", "check", "nope"] =
      .ok ⟨.check ["nope"], ⟨.text, none⟩⟩ ∧
    respond ⟨some "json", some "debug", some "[bad"⟩
        ["--log-level", " ", "--format", "text", "check", "nope"] =
      .ran (transcriptOf .warnings ((Request.check ["nope"]).perform .text).run) ∧
    respond ⟨some "json", some "debug", some "[bad"⟩
        ["--log-level", " ", "check", "--format", "text", "nope"] =
      respond ⟨some "json", some "debug", some "[bad"⟩
        ["--log-level", " ", "--format", "text", "check", "nope"] ∧
    parse ⟨none, some "[bad", some "debug"⟩ ["check", "nope"] = .ok ⟨.check ["nope"], ⟨.text, some "[bad"⟩⟩ ∧
    respond ⟨none, some "[bad", some "debug"⟩ ["check", "nope"] =
      .ran ⟨2, "", [], some "invalid log filter `[bad`: invalid filter directive"⟩ := by
  have hparse : parse ⟨some "json", some "debug", some "[bad"⟩
      ["--log-level", " ", "--format", "text", "check", "nope"] =
        .ok ⟨.check ["nope"], ⟨.text, none⟩⟩ := by decide
  have hparse' : parse ⟨none, some "[bad", some "debug"⟩ ["check", "nope"] =
      .ok ⟨.check ["nope"], ⟨.text, some "[bad"⟩⟩ := by decide
  have hbad : LogFilter.parse "[bad" = .error .directive := by decide
  have hblank : OptionName.Gives .logFilter " " ["--log-level", " "] := .apart (.inr (by decide))
  have htext : OptionName.Gives .format "text" ["--format", "text"] := .apart (.inr (by decide))
  have hnope : OptionsAndNames ["nope"] [] ["nope"] := .name (.inr (by decide)) .nil
  have hreads : Reads ["--log-level", " ", "--format", "text", "check", "nope"]
      ⟨[(.logFilter, " "), (.format, "text")], .check, [], ["nope"]⟩ :=
    ⟨_, _, rfl, .option hblank (.option htext .nil), hnope⟩
  have hreads' : Reads ["check", "nope"] ⟨[], .check, [], ["nope"]⟩ := ⟨[], _, rfl, .nil, hnope⟩
  have hmoves : MovesBehind ["--log-level", " ", "--format", "text", "check", "nope"]
      ["--log-level", " ", "check", "--format", "text", "nope"] :=
    @MovesBehind.option .format _ .check _ _ _ _ _ _ _ _ (.option hblank .nil) htext .nil hnope (by decide)
  obtain ⟨-, hrun, -, hmoved⟩ := settings_resolved hparse
  obtain ⟨-, -, -, hforce, -⟩ := hrun _ hreads
  obtain ⟨-, hrun', -, -⟩ := settings_resolved hparse'
  obtain ⟨-, -, -, -, hfails, -⟩ := hrun' _ hreads'
  refine ⟨hparse, hforce _ (.warnings ?_ ?_ LogFilter.parse_warn), hmoved _ (.inl hmoves), hparse', ?_⟩
  · intro text htext
    cases htext
    decide
  · intro text htext
    cases htext
    exact ⟨_, hbad⟩
  · exact hfails _ _ ⟨rfl, by decide, hbad⟩

end CommandLine

end ModularGrammar
