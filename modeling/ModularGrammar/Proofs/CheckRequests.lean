import ModularGrammar.Program
import ModularGrammar.Proofs.Inference

/-! # Requests to check modules

A request to check modules is carried out as a whole or not at all. One unknown name is enough to end it
before any module is verified.

* `Catalog.select_of_known`, `Catalog.select_of_unknown`: the modules of known names, and the first unknown
  name;
* `CheckOutcome.ofModules_eq`, `CheckOutcome.events_checkingAll`: what comes of checking catalog modules;
* `Request.run_check_of_ok`, `Request.run_check_of_error`: a request after its names have been looked up;
* `Request.check_all_or_nothing`: any request.
-/

set_option autoImplicit false

namespace ModularGrammar

/-! ## Names of the catalog -/

namespace Catalog
variable {name : String} {requested : List String}

theorem find_of_mem (h : name ∈ names) : ∃ m ∈ modules, m.name = name ∧ find name = .ok m := by
  obtain ⟨m, hm, hname⟩ := List.mem_map.1 h
  have hsome : (module? name).isSome = true := List.find?_isSome.2 ⟨m, hm, by simp [hname]⟩
  obtain ⟨found, hfound⟩ := Option.isSome_iff_exists.1 hsome
  have hfound' : found.name = name := by simpa using List.find?_some hfound
  exact ⟨found, List.mem_of_find?_eq_some hfound, hfound', by rw [find, hfound]⟩

theorem find_of_notMem (h : name ∉ names) : find name = .error ⟨name, names⟩ := by
  have hnone : module? name = none := by
    refine List.find?_eq_none.2 ?_
    intro m hm heq
    exact h (List.mem_map.2 ⟨m, hm, by simpa using heq⟩)
  rw [find, hnone]

/-- Known names are looked up one by one, in their order. -/
theorem mapM_find_of_known (h : ∀ name ∈ requested, name ∈ names) :
    ∃ found, requested.mapM find = .ok found ∧ found.map (·.name) = requested ∧
      ∀ m ∈ found, m ∈ modules := by
  induction requested with
  | nil => exact ⟨[], rfl, rfl, by simp⟩
  | cons name rest ih =>
    obtain ⟨m, hm, hname, hfind⟩ := find_of_mem (h name List.mem_cons_self)
    obtain ⟨found, hrest, hnames, hfound⟩ := ih fun x hx => h x (List.mem_cons_of_mem _ hx)
    refine ⟨m :: found, ?_, by rw [List.map_cons, hname, hnames], List.forall_mem_cons.2 ⟨hm, hfound⟩⟩
    rw [List.mapM_cons, hfind, hrest]
    rfl

/-- The look-up ends at the first unknown name, whatever comes after it. -/
theorem mapM_find_of_unknown {before after : List String} (hbefore : ∀ x ∈ before, x ∈ names)
    (hname : name ∉ names) : (before ++ name :: after).mapM find = .error ⟨name, names⟩ := by
  induction before with
  | nil =>
    rw [List.nil_append, List.mapM_cons, find_of_notMem hname]
    rfl
  | cons first before ih =>
    obtain ⟨m, -, -, hfind⟩ := find_of_mem (hbefore first List.mem_cons_self)
    rw [List.cons_append, List.mapM_cons, hfind, ih fun x hx => hbefore x (List.mem_cons_of_mem _ hx)]
    rfl

theorem exists_first_unknown (h : ¬ ∀ name ∈ requested, name ∈ names) :
    ∃ before name after, requested = before ++ name :: after ∧ (∀ x ∈ before, x ∈ names) ∧
      name ∉ names := by
  induction requested with
  | nil => simp at h
  | cons first rest ih =>
    by_cases hfirst : first ∈ names
    · obtain ⟨before, name, after, rfl, hbefore, hname⟩ :=
        ih fun hrest => h (List.forall_mem_cons.2 ⟨hfirst, hrest⟩)
      exact ⟨first :: before, name, after, rfl, List.forall_mem_cons.2 ⟨hfirst, hbefore⟩, hname⟩
    · exact ⟨[], first, rest, rfl, by simp, hfirst⟩

/-- The names that a request stands for: all of the catalog if it gives none. -/
def meant (requested : List String) : List String := if requested = [] then names else requested

theorem select_of_known (h : ∀ name ∈ requested, name ∈ names) :
    ∃ found, select requested = .ok found ∧ found.map (·.name) = meant requested ∧
      ∀ m ∈ found, m ∈ modules := by
  cases requested with
  | nil => exact ⟨modules, rfl, rfl, fun m hm => hm⟩
  | cons name rest =>
    obtain ⟨found, hfind, hnames, hfound⟩ := mapM_find_of_known h
    exact ⟨found, hfind, hnames, hfound⟩

theorem select_of_unknown {before after : List String} (hbefore : ∀ x ∈ before, x ∈ names)
    (hname : name ∉ names) : select (before ++ name :: after) = .error ⟨name, names⟩ := by
  have hne : (before ++ name :: after).isEmpty = false := by simp
  rw [select, hne, if_neg Bool.false_ne_true, mapM_find_of_unknown hbefore hname]

theorem select_names : select names = select [] := rfl

end Catalog

/-! ## Checks of catalog modules -/

namespace CheckOutcome
variable {modules : List GrammarModule}

theorem events_checkingAll (modules : List GrammarModule) :
    (checkingAll modules).events = modules.flatMap GrammarModule.events := by
  induction modules with
  | nil => rfl
  | cons m rest ih =>
    have hhead : (checking m).events = m.events := List.append_nil _
    rw [checkingAll, List.mapM_cons, Logged.events_bind, Logged.events_bind, Logged.events_pure,
      List.append_nil, hhead, List.flatMap_cons, ← ih]
    rfl

/-- Checking modules of the catalog finds each of them to be fine. -/
theorem ofModules_eq (h : ∀ m ∈ modules, m ∈ Catalog.modules) :
    ofModules modules = (modules.map (·.name)).map fun name => ⟨name, true, none⟩ := by
  rw [ofModules, List.map_map]
  refine List.map_congr_left ?_
  intro m hm
  rw [ofModule_eq, Catalog.verify_eq_ok (h m hm)]
  rfl

end CheckOutcome

/-! ## Requests -/

namespace Request
variable {requested : List String}

theorem run_check_of_ok (format : OutputFormat) {found : List GrammarModule} (h : Catalog.select requested = .ok found) :
    ((check requested).perform format).run =
      ⟨found.flatMap GrammarModule.events ++
          [.checkedModules found.length ((CheckOutcome.ofModules found).filter fun r => !r.ok).length],
        .ok ⟨Report.render format (CheckOutcome.ofModules found),
          ((CheckOutcome.ofModules found).filter fun r => !r.ok).length == 0⟩⟩ := by
  have hlength : (CheckOutcome.ofModules found).length = found.length := List.length_map _
  have hrun : ((check requested).perform format).run =
      ⟨(CheckOutcome.checkingAll found).events ++
          [.checkedModules (CheckOutcome.checkingAll found).value.length
            ((CheckOutcome.checkingAll found).value.filter fun r => !r.ok).length],
        .ok ⟨Report.render format (CheckOutcome.checkingAll found).value,
          ((CheckOutcome.checkingAll found).value.filter fun r => !r.ok).length == 0⟩⟩ := by
    simp only [perform, h]
    exact Logged.ext (congrArg (· ++ _) (List.append_nil _)) rfl
  rw [hrun, CheckOutcome.events_checkingAll, CheckOutcome.value_checkingAll, hlength]

theorem run_check_of_error (format : OutputFormat) {e : UnknownModule}
    (h : Catalog.select requested = .error e) :
    ((check requested).perform format).run = ⟨[], .error e⟩ := by
  simp only [perform, h]
  rfl

/-- A request to check modules is carried out as a whole or not at all, in either format and whatever is
logged. If all its names are known, each of them gets an outcome without a violation, in the order of the
request and as often as it is named, and the run succeeds; no names stand for the whole catalog. Otherwise
the run fails with the first unknown name and the names that are known. Then it prints nothing and reports
no event, so that no module has been verified. -/
theorem check_all_or_nothing (requested : List String) (format : OutputFormat) (filter : LogFilter) :
    ((∀ name ∈ requested, name ∈ Catalog.names) → ∃ found : List GrammarModule,
      found.map (·.name) = Catalog.meant requested ∧ (∀ m ∈ found, m ∈ Catalog.modules) ∧
      ((check requested).perform format).run.events =
        found.flatMap GrammarModule.events ++ [.checkedModules (Catalog.meant requested).length 0] ∧
      transcriptOf filter ((check requested).perform format).run =
        { exitCode := 0
          stdout := Report.render format ((Catalog.meant requested).map fun name =>
            CheckOutcome.mk name true none)
          log := ((check requested).perform format).run.events.filter filter.shows
          failure := none }) ∧
    ((¬ ∀ name ∈ requested, name ∈ Catalog.names) → ∃ before name after,
      requested = before ++ name :: after ∧ (∀ x ∈ before, x ∈ Catalog.names) ∧ name ∉ Catalog.names ∧
      ((check requested).perform format).run = ⟨[], .error ⟨name, Catalog.names⟩⟩ ∧
      transcriptOf filter ((check requested).perform format).run =
        ⟨1, "", [], some (UnknownModule.mk name Catalog.names).message⟩) ∧
    ((check []).perform format).run = ((check Catalog.names).perform format).run := by
  refine ⟨?_, ?_, ?_⟩
  · intro hknown
    obtain ⟨found, hselect, hnames, hfound⟩ := Catalog.select_of_known hknown
    have houtcomes := CheckOutcome.ofModules_eq hfound
    have hfailed : ((CheckOutcome.ofModules found).filter fun r => !r.ok) = [] := by
      rw [houtcomes]
      simp
    have hrun := Request.run_check_of_ok format hselect
    have hlength : found.length = (Catalog.meant requested).length := by
      rw [← hnames, List.length_map]
    rw [hfailed, houtcomes, hnames, hlength] at hrun
    refine ⟨found, hnames, hfound, ?_, ?_⟩
    · rw [hrun]
      rfl
    · rw [hrun]
      rfl
  · intro hunknown
    obtain ⟨before, name, after, rfl, hbefore, hname⟩ := Catalog.exists_first_unknown hunknown
    have hselect : Catalog.select (before ++ name :: after) = .error ⟨name, Catalog.names⟩ :=
      Catalog.select_of_unknown hbefore hname
    have hrun := Request.run_check_of_error format hselect
    refine ⟨before, name, after, rfl, hbefore, hname, hrun, ?_⟩
    rw [hrun]
    rfl
  · simp only [perform, Catalog.select_names]

/-- A repeated name has its outcome twice. Known names around an unknown one do not help it. -/
theorem check_all_or_nothing_of_repeats :
    (∀ name ∈ ["syntax", "tokens", "syntax"], name ∈ Catalog.names) ∧
    (∃ found : List GrammarModule,
      ((check ["syntax", "tokens", "syntax"]).perform .text).run.events =
        found.flatMap GrammarModule.events ++ [.checkedModules 3 0]) ∧
    (¬ ∀ name ∈ ["tokens", "nope", "syntax", "none"], name ∈ Catalog.names) ∧
    ∃ before name after, ["tokens", "nope", "syntax", "none"] = before ++ name :: after ∧
      (∀ x ∈ before, x ∈ Catalog.names) ∧ name ∉ Catalog.names ∧
      ((check ["tokens", "nope", "syntax", "none"]).perform .json).run =
        ⟨[], .error ⟨name, Catalog.names⟩⟩ := by
  have hknown : ∀ name ∈ ["syntax", "tokens", "syntax"], name ∈ Catalog.names := by decide
  have hunknown : ¬ ∀ name ∈ ["tokens", "nope", "syntax", "none"], name ∈ Catalog.names := by decide
  obtain ⟨found, -, -, hevents, -⟩ := (check_all_or_nothing _ .text .everything).1 hknown
  obtain ⟨before, name, after, hsplit, hbefore, hname, hrun, -⟩ :=
    (check_all_or_nothing _ .json .everything).2.1 hunknown
  exact ⟨hknown, ⟨found, hevents⟩, hunknown, before, name, after, hsplit, hbefore, hname, hrun⟩

end Request

end ModularGrammar
