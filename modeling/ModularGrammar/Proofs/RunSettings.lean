import ModularGrammar.Program
import ModularGrammar.Proofs.LogFiltering

/-! # Settings and verdicts

The settings of a run choose what is shown of its events and how its report is written. They have no
bearing on its verdict.

* `Transcript.logLines`, `Transcript.errorLines`: the lines on the error stream (`stderr_eq_join`);
* `Request.perform_congr`: the format changes neither the events nor the verdict of a request;
* `CommandLine.Invocation.unfiltered`: the run under the filter `trace`, which shows every event;
* `CommandLine.runs_agree`: two runs of one request with different settings.
-/

set_option autoImplicit false

namespace ModularGrammar

/-! ## The lines of a transcript -/

namespace Transcript

def logLines (t : Transcript) : List String := t.log.map Event.line

def errorLines (t : Transcript) : List String := t.failure.toList.map fun message => "error: " ++ message

/-- The log comes first on the error stream, and then what the run failed with. -/
theorem stderr_eq_join (t : Transcript) :
    t.stderr = String.join ((t.logLines ++ t.errorLines).map (· ++ "\n")) := by
  have hlog : t.logLines.map (· ++ "\n") = t.log.map fun e => e.line ++ "\n" := by
    rw [logLines, List.map_map]
    rfl
  rw [stderr, List.map_append, String.join_append, hlog]
  congr 1
  rw [errorLines]
  cases t.failure with
  | none => rfl
  | some message => simp

end Transcript

/-! ## Requests in both formats -/

namespace Request

/-- The format is used for writing the report alone. -/
theorem perform_congr (request : Request) (format format' : OutputFormat) :
    (request.perform format).run.events = (request.perform format').run.events ∧
    (request.perform format).run.value.map (·.success) =
      (request.perform format').run.value.map (·.success) := by
  cases request with
  | check names =>
    simp only [perform]
    cases Catalog.select names <;> exact ⟨rfl, rfl⟩
  | terminals name =>
    simp only [perform]
    cases Catalog.find name <;> exact ⟨rfl, rfl⟩
  | interface name =>
    simp only [perform]
    cases Catalog.find name <;> exact ⟨rfl, rfl⟩
  | list => exact ⟨rfl, rfl⟩

end Request

/-! ## Transcripts under a filter -/

section Filters
variable {filter filter' : LogFilter} {performed performed' : Logged (Except UnknownModule Output)}

theorem log_transcriptOf : (transcriptOf filter performed).log = performed.events.filter filter.shows := by
  unfold transcriptOf
  split <;> rfl

/-- The filter has no bearing on anything but the log. -/
theorem transcriptOf_congr_filter (filter filter' : LogFilter)
    (performed : Logged (Except UnknownModule Output)) :
    transcriptOf filter performed =
      { transcriptOf filter' performed with log := performed.events.filter filter.shows } := by
  unfold transcriptOf
  split <;> rfl

/-- Only the standard output depends on what is written, as long as the success is the same. -/
theorem transcriptOf_congr_success (hevents : performed.events = performed'.events)
    (hsuccess : performed.value.map (·.success) = performed'.value.map (·.success)) :
    transcriptOf filter performed =
      { transcriptOf filter performed' with stdout := (transcriptOf filter performed).stdout } := by
  obtain ⟨events, value⟩ := performed
  obtain ⟨events', value'⟩ := performed'
  obtain rfl : events = events' := hevents
  cases value with
  | ok output =>
    cases value' with
    | ok output' =>
      have hsame : output.success = output'.success := Except.ok.inj hsuccess
      simp only [transcriptOf, hsame]
    | error e => cases hsuccess
  | error e =>
    cases value' with
    | ok output' => cases hsuccess
    | error e' =>
      obtain rfl : e = e' := Except.error.inj hsuccess
      rfl

end Filters

theorem LogFilter.parse_trace : parse "trace" = .ok everything := by
  decide

theorem LogFilter.parse_warn : parse "warn" = .ok warnings := by
  decide

theorem LogFilter.everything_shows (e : Event) : everything.shows e = true := by
  cases e <;> rfl

namespace CommandLine
namespace Invocation
variable {invocation : Invocation} {fallback : Option String} {filter : LogFilter}

/-- The same run under the filter `trace`. -/
def unfiltered (invocation : Invocation) : Invocation :=
  { invocation with settings := { invocation.settings with logFilter := some "trace" } }

theorem transcript_of_filter (h : logFilterFor invocation.settings.logFilter fallback = .ok filter) :
    invocation.transcript fallback =
      transcriptOf filter (invocation.request.perform invocation.settings.format).run := by
  rw [transcript, h]

theorem log_unfiltered (invocation : Invocation) (fallback : Option String) :
    (invocation.unfiltered.transcript fallback).log =
      (invocation.request.perform invocation.settings.format).run.events := by
  have hfilter : logFilterFor invocation.unfiltered.settings.logFilter fallback = .ok .everything := by
    rw [unfiltered, logFilterFor, LogFilter.parse_trace]
  rw [transcript_of_filter hfilter, log_transcriptOf]
  exact List.filter_eq_self.2 fun e _ => LogFilter.everything_shows e

end Invocation

/-- Two runs of one request, neither of them stopped by its log filter. With the same format they print the
same, fail with the same message and exit alike, whatever is logged. Under the same filter they exit alike
and write the same lines to the error stream, whatever the format. And what a run logs are, in their order,
just those lines of the run under the filter `trace` that its own filter enables, by target and level where
it asks for no field. -/
theorem runs_agree {env env' : Environment} {arguments arguments' : List String}
    {invocation invocation' : Invocation} {filter filter' : LogFilter}
    (hparse : parse env arguments = .ok invocation) (hparse' : parse env' arguments' = .ok invocation')
    (hrequest : invocation.request = invocation'.request)
    (hfilter : logFilterFor invocation.settings.logFilter env.fallbackFilter = .ok filter)
    (hfilter' : logFilterFor invocation'.settings.logFilter env'.fallbackFilter = .ok filter') :
    ∃ t t', respond env arguments = .ran t ∧ respond env' arguments' = .ran t' ∧
      (invocation.settings.format = invocation'.settings.format →
        t.stdout = t'.stdout ∧ t.exitCode = t'.exitCode ∧ t.errorLines = t'.errorLines) ∧
      (t.stderr = String.join ((t.logLines ++ t.errorLines).map (· ++ "\n")) ∧
        t.logLines.Sublist (invocation.unfiltered.transcript env.fallbackFilter).logLines ∧
        t.log = (invocation.unfiltered.transcript env.fallbackFilter).log.filter filter.shows ∧
        (∀ e, filter.shows e = true ↔ filter.Enables e.target e.fieldNames e.level) ∧
        ((∀ d ∈ filter.directives, d.field = none) →
          ∀ e, filter.shows e = true ↔ filter.Enables e.target [] e.level)) ∧
      (filter = filter' → t.exitCode = t'.exitCode ∧ t.stderr = t'.stderr) := by
  have hresponse : respond env arguments = .ran (invocation.transcript env.fallbackFilter) := by
    rw [respond, hparse]
  have hresponse' : respond env' arguments' = .ran (invocation'.transcript env'.fallbackFilter) := by
    rw [respond, hparse']
  rw [Invocation.transcript_of_filter hfilter] at hresponse
  rw [Invocation.transcript_of_filter hfilter', ← hrequest] at hresponse'
  refine ⟨_, _, hresponse, hresponse', ?_, ⟨Transcript.stderr_eq_join _, ?_, ?_, ?_, ?_⟩, ?_⟩
  · intro hformat
    rw [hformat, transcriptOf_congr_filter filter filter']
    exact ⟨rfl, rfl, rfl⟩
  · rw [Transcript.logLines, Transcript.logLines, log_transcriptOf, Invocation.log_unfiltered]
    exact List.filter_sublist.map Event.line
  · rw [log_transcriptOf, Invocation.log_unfiltered]
  · exact fun e => LogFilter.shows_iff_enables
  · intro hplain e
    rw [LogFilter.shows_iff_enables]
    exact ⟨fun h => LogFilter.enables_of_no_field hplain h _,
      fun h => LogFilter.enables_of_no_field hplain h _⟩
  · rintro rfl
    obtain ⟨hevents, hsuccess⟩ := invocation.request.perform_congr invocation.settings.format
      invocation'.settings.format
    rw [transcriptOf_congr_success hevents hsuccess]
    exact ⟨rfl, rfl⟩

/-- The same report whether everything of one part is logged or nothing at all, and the same failure in
both formats. -/
theorem runs_agree_on_syntax :
    parse ⟨none, some "grammar=debug", none⟩ ["check", "syntax"] =
      .ok ⟨.check ["syntax"], ⟨.text, some "grammar=debug"⟩⟩ ∧
    parse ⟨none, none, some "trace"⟩ ["--log-level", "off", "check", "syntax"] =
      .ok ⟨.check ["syntax"], ⟨.text, some "off"⟩⟩ ∧
    (∃ t t', respond ⟨none, some "grammar=debug", none⟩ ["check", "syntax"] = .ran t ∧
      respond ⟨none, none, some "trace"⟩ ["--log-level", "off", "check", "syntax"] = .ran t' ∧
      t.stdout = t'.stdout ∧ t.exitCode = t'.exitCode) ∧
    ∃ t t', respond ⟨none, none, none⟩ ["check", "nope"] = .ran t ∧
      respond ⟨some "json", none, none⟩ ["check", "nope"] = .ran t' ∧ t.stderr = t'.stderr := by
  have hparse : parse ⟨none, some "grammar=debug", none⟩ ["check", "syntax"] =
      .ok ⟨.check ["syntax"], ⟨.text, some "grammar=debug"⟩⟩ := by decide
  have hparse' : parse ⟨none, none, some "trace"⟩ ["--log-level", "off", "check", "syntax"] =
      .ok ⟨.check ["syntax"], ⟨.text, some "off"⟩⟩ := by decide
  have htext : parse ⟨none, none, none⟩ ["check", "nope"] = .ok ⟨.check ["nope"], ⟨.text, none⟩⟩ := by
    decide
  have hjson : parse ⟨some "json", none, none⟩ ["check", "nope"] =
      .ok ⟨.check ["nope"], ⟨.json, none⟩⟩ := by decide
  have hdebug : logFilterFor (some "grammar=debug") none =
      .ok ⟨[⟨some "grammar", none, none, some .debug⟩]⟩ := by decide
  have hoff : logFilterFor (some "off") (some "trace") = .ok ⟨[.ofThreshold none]⟩ := by decide
  obtain ⟨t, t', ht, ht', hprinted, -, -⟩ := runs_agree hparse hparse' rfl hdebug hoff
  obtain ⟨u, u', hu, hu', -, -, hwritten⟩ := runs_agree htext hjson rfl rfl rfl
  exact ⟨hparse, hparse', ⟨t, t', ht, ht', (hprinted rfl).1, (hprinted rfl).2.1⟩,
    u, u', hu, hu', (hwritten rfl).2⟩

end CommandLine

end ModularGrammar
