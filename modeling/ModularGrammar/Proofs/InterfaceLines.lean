import ModularGrammar.Program
import ModularGrammar.Proofs.CheckLines
import ModularGrammar.Proofs.LosslessReports

/-! # The lines of an interface report

The text of an interface report has five lines, each with a label. They tell the report, so the declared
names stand beside other inferred ones just if the interfaces differ.

* `readNames?`, `InterfaceReport.ofText?`: what a line lists, and what the whole text reports;
* `InterfaceReport.Legible`: names that do not run into what stands between them;
* `InterfaceReport.splitOn_text`, `ofText?_text`: the lines of a legible report, and the report from them;
* `InterfaceReport.text_shows_drift`: what the lines show, and what the command makes of it.
-/

set_option autoImplicit false

namespace ModularGrammar

/-! ## Lists of names -/

/-- The set of names that a list of them gives. No characters stand for no names, not for an empty one. -/
def readNames? (text : List Char) : Option NameSet :=
  NameSet.ofAscending? (if text = [] then [] else (partsAt ',' ' ' text).map String.ofList)

/-- A name that can be told in a list of names, even in one that holds nothing else. -/
def TellingName (x : String) : Prop := x ≠ "" ∧ ListedName x

instance : DecidablePred TellingName := fun x =>
  inferInstanceAs (Decidable (x ≠ "" ∧ '\n' ∉ x.toList ∧ ¬ [',', ' '] <:+: x.toList))

-- A set of an empty name alone is listed as the empty set is.
example : (NameSet.ofList [""]).joined = (∅ : NameSet).joined := by decide

theorem NameSet.toList_joined (s : NameSet) :
    s.joined.toList = [',', ' '].intercalate (s.toList.map String.toList) := by
  have hcomma : ", ".toList = [',', ' '] := rfl
  rw [joined, String.toList_intercalate, hcomma]

theorem NameSet.toList_joined_eq_nil_iff {s : NameSet} (h : ∀ x ∈ s, TellingName x) :
    s.joined.toList = [] ↔ s.toList = [] := by
  rw [toList_joined]
  cases hlist : s.toList with
  | nil => simp
  | cons x rest =>
    have hx : x ≠ "" := (h x (by simp [mem_def, hlist])).1
    have hchars : x.toList ≠ [] := by simpa using hx
    cases rest with
    | nil => simpa using hx
    | cons y rest => simp [List.intercalate_cons_cons]

theorem readNames?_joined {s : NameSet} (h : ∀ x ∈ s, TellingName x) :
    readNames? s.joined.toList = some s := by
  have hnames : (if s.joined.toList = [] then [] else (partsAt ',' ' ' s.joined.toList).map String.ofList) =
      s.toList := by
    split
    next hnil => exact ((NameSet.toList_joined_eq_nil_iff h).1 hnil).symm
    next hne =>
      have hnames : s.toList ≠ [] := fun hnil => hne ((NameSet.toList_joined_eq_nil_iff h).2 hnil)
      rw [NameSet.toList_joined]
      exact partsAt_intercalate_toList (by decide) hnames fun x hx => (h x hx).2.2
  rw [readNames?, hnames, NameSet.ofAscending?_toList]

theorem NameSet.newline_notMem_joined {s : NameSet} (h : ∀ x ∈ s, TellingName x) :
    '\n' ∉ s.joined.toList := by
  rw [toList_joined]
  apply newline_notMem_intercalate
  intro part hpart
  obtain ⟨x, hx, rfl⟩ := List.mem_map.1 hpart
  exact (h x hx).2.1

/-- The same listing has the same names in it. -/
theorem NameSet.joined_inj {s t : NameSet} (hs : ∀ x ∈ s, TellingName x) (ht : ∀ x ∈ t, TellingName x) :
    s.joined.toList = t.joined.toList ↔ s = t := by
  constructor
  · intro h
    have hread := readNames?_joined hs
    rw [h, readNames?_joined ht] at hread
    exact (Option.some.inj hread).symm
  · rintro rfl
    rfl

/-! ## Labels -/

/-- A line that shows something after a label. -/
def labelled (label : String) (shown : List Char) : List Char := label.toList ++ shown

/-- What a line shows after its label. -/
def afterLabel? (label : String) (line : List Char) : Option (List Char) := line.dropPrefix? label.toList

theorem afterLabel?_labelled (label : String) (shown : List Char) :
    afterLabel? label (labelled label shown) = some shown :=
  List.dropPrefix?_append_of_beq shown (beq_self_eq_true label.toList)

theorem toList_line (label shown : String) :
    (label ++ shown ++ "\n").toList = labelled label shown.toList ++ ['\n'] := by
  rw [String.toList_append, String.toList_append]
  rfl

theorem toList_append_line (before label shown : String) :
    (before ++ label ++ shown ++ "\n").toList = before.toList ++ (labelled label shown.toList ++ ['\n']) := by
  rw [String.append_assoc, String.append_assoc, String.toList_append, ← String.append_assoc, toList_line]

theorem newline_notMem_labelled {label : String} {shown : List Char} (hlabel : '\n' ∉ label.toList)
    (hshown : '\n' ∉ shown) : '\n' ∉ labelled label shown := by
  rw [labelled, List.mem_append]
  exact not_or.2 ⟨hlabel, hshown⟩

namespace InterfaceReport

/-- The report that the five lines of a text show. -/
def ofText? (text : String) : Option InterfaceReport := do
  match text.toList.splitOn '\n' with
  | [module, declaredImports, inferredImports, declaredExports, inferredExports, []] =>
    let name ← afterLabel? "module " module
    let declaredImports ← readNames? (← afterLabel? "  declared imports: " declaredImports)
    let inferredImports ← readNames? (← afterLabel? "  inferred imports: " inferredImports)
    let declaredExports ← readNames? (← afterLabel? "  declared exports: " declaredExports)
    let inferredExports ← readNames? (← afterLabel? "  inferred exports: " inferredExports)
    return ⟨String.ofList name, ⟨declaredImports, declaredExports⟩, ⟨inferredImports, inferredExports⟩⟩
  | _ => none

/-! ## Legible reports -/

/-- The name of the module stays on its line, and the other names can be told in their lists. -/
structure Legible (r : InterfaceReport) : Prop where
  name_on_line : '\n' ∉ r.name.toList
  telling : ∀ x ∈ r.declared.vocabulary ∪ r.inferred.vocabulary, TellingName x

section Legible
variable {r : InterfaceReport}

theorem Legible.declared_imports (hr : r.Legible) : ∀ x ∈ r.declared.imports, TellingName x :=
  fun x hx => hr.telling x (.inl (.inl hx))

theorem Legible.declared_exports (hr : r.Legible) : ∀ x ∈ r.declared.exports, TellingName x :=
  fun x hx => hr.telling x (.inl (.inr hx))

theorem Legible.inferred_imports (hr : r.Legible) : ∀ x ∈ r.inferred.imports, TellingName x :=
  fun x hx => hr.telling x (.inr (.inl hx))

theorem Legible.inferred_exports (hr : r.Legible) : ∀ x ∈ r.inferred.exports, TellingName x :=
  fun x hx => hr.telling x (.inr (.inr hx))

theorem legible_iff : r.Legible ↔ '\n' ∉ r.name.toList ∧
    (∀ x ∈ r.declared.imports.toList, TellingName x) ∧ (∀ x ∈ r.declared.exports.toList, TellingName x) ∧
    (∀ x ∈ r.inferred.imports.toList, TellingName x) ∧ ∀ x ∈ r.inferred.exports.toList, TellingName x := by
  constructor
  · intro hr
    exact ⟨hr.name_on_line, hr.declared_imports, hr.declared_exports, hr.inferred_imports,
      hr.inferred_exports⟩
  · rintro ⟨hname, himports, hexports, himports', hexports'⟩
    refine ⟨hname, ?_⟩
    rintro x ((hx | hx) | (hx | hx))
    · exact himports x hx
    · exact hexports x hx
    · exact himports' x hx
    · exact hexports' x hx

instance : Decidable r.Legible := decidable_of_iff _ legible_iff.symm

/-- The five lines, without their line feeds. -/
def lines (r : InterfaceReport) : List (List Char) :=
  [labelled "module " r.name.toList,
    labelled "  declared imports: " r.declared.imports.joined.toList,
    labelled "  inferred imports: " r.inferred.imports.joined.toList,
    labelled "  declared exports: " r.declared.exports.joined.toList,
    labelled "  inferred exports: " r.inferred.exports.joined.toList]

theorem toList_text (r : InterfaceReport) : r.text.toList = r.lines.flatMap fun line => line ++ ['\n'] := by
  unfold text
  rw [toList_append_line, toList_append_line, toList_append_line, toList_append_line, toList_line]
  simp only [lines, List.flatMap_cons, List.flatMap_nil, List.append_assoc, List.append_nil]

theorem splitOn_text (hr : r.Legible) : r.text.toList.splitOn '\n' = r.lines ++ [[]] := by
  rw [toList_text]
  apply splitOn_flatMap_newline
  simp only [lines, List.forall_mem_cons]
  refine ⟨?_, ?_, ?_, ?_, ?_, List.forall_mem_nil _⟩
  · exact newline_notMem_labelled (by decide) hr.name_on_line
  · exact newline_notMem_labelled (by decide) (NameSet.newline_notMem_joined hr.declared_imports)
  · exact newline_notMem_labelled (by decide) (NameSet.newline_notMem_joined hr.inferred_imports)
  · exact newline_notMem_labelled (by decide) (NameSet.newline_notMem_joined hr.declared_exports)
  · exact newline_notMem_labelled (by decide) (NameSet.newline_notMem_joined hr.inferred_exports)

theorem ofText?_text (hr : r.Legible) : ofText? r.text = some r := by
  rw [ofText?, splitOn_text hr]
  simp only [lines, List.cons_append, List.nil_append, afterLabel?_labelled, Option.bind_eq_bind,
    Option.bind_some, readNames?_joined hr.declared_imports, readNames?_joined hr.inferred_imports,
    readNames?_joined hr.declared_exports, readNames?_joined hr.inferred_exports, String.ofList_toList]
  rfl

theorem agrees_iff_joined (hr : r.Legible) :
    r.agrees = true ↔ r.declared.imports.joined.toList = r.inferred.imports.joined.toList ∧
      r.declared.exports.joined.toList = r.inferred.exports.joined.toList := by
  rw [NameSet.joined_inj hr.declared_imports hr.inferred_imports,
    NameSet.joined_inj hr.declared_exports hr.inferred_exports, agrees, decide_eq_true_eq]
  constructor
  · intro h
    rw [h]
    exact ⟨rfl, rfl⟩
  · intro h
    exact Interface.ext h.1 h.2

end Legible

/-! ## What the lines show -/

/-- The text of a legible report has five lines, and the report is read back from them. The lines of the
imports show the same after their labels, and so do the lines of the exports, just if the interfaces agree,
which is when the command succeeds. -/
theorem text_shows_drift {r : InterfaceReport} (hr : r.Legible) :
    ∃ name declaredImports inferredImports declaredExports inferredExports : List Char,
      (Report.render .text r).toList.splitOn '\n' =
        [labelled "module " name, labelled "  declared imports: " declaredImports,
          labelled "  inferred imports: " inferredImports, labelled "  declared exports: " declaredExports,
          labelled "  inferred exports: " inferredExports, []] ∧
      ofText? (Report.render .text r) = some r ∧
      (declaredImports = inferredImports ∧ declaredExports = inferredExports ↔ r.agrees = true) ∧
      ∀ format name m, Catalog.find name = .ok m → ofModule m = r →
        (Request.perform format (.interface name)).run.value = .ok ⟨Report.render format r, r.agrees⟩ := by
  refine ⟨_, _, _, _, _, splitOn_text hr, ofText?_text hr, (agrees_iff_joined hr).symm, ?_⟩
  rintro format name m hfind rfl
  simp only [Request.perform, hfind]
  rfl

/-- Names that hold a comma or a blank alone are told apart, and an import too many is shown. The report of
a catalog module shows that it agrees. -/
theorem text_shows_drift_of_shared_characters :
    (InterfaceReport.mk "m" (.ofLists [" b", "a,"] []) (.ofLists ["a,"] [])).Legible ∧
    ofText? (Report.render .text (InterfaceReport.mk "m" (.ofLists [" b", "a,"] []) (.ofLists ["a,"] []))) =
      some ⟨"m", .ofLists [" b", "a,"] [], .ofLists ["a,"] []⟩ ∧
    (ofModule Catalog.tokens).Legible ∧
    (Request.perform .json (.interface "tokens")).run.value =
      .ok ⟨Report.render .json (ofModule Catalog.tokens), (ofModule Catalog.tokens).agrees⟩ := by
  have hlegible : (InterfaceReport.mk "m" (.ofLists [" b", "a,"] []) (.ofLists ["a,"] [])).Legible := by
    decide
  have htokens : (ofModule Catalog.tokens).Legible := by decide +kernel
  obtain ⟨-, -, -, -, -, -, hread, -⟩ := text_shows_drift hlegible
  obtain ⟨-, -, -, -, -, -, -, -, hperformed⟩ := text_shows_drift htokens
  exact ⟨hlegible, hread, htokens, hperformed .json "tokens" Catalog.tokens rfl rfl⟩

end InterfaceReport

end ModularGrammar
