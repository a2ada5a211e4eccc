import ModularGrammar.Proofs.Renaming
import ModularGrammar.Proofs.Separation
import ModularGrammar.Report

/-! # The lines of a check

The text about checked modules has one line for each of them, and the line tells the name of the module
and the result of its verification.

* `readVerdict?`, `readCheckLine?`: what a line says;
* `GrammarModule.Legible`: names that do not run into what stands between them;
* `readVerdict?_message`, `readCheckLine?_checkLine`: a message and the line of a legible module are read back;
* `Report.text_flatten`: groups of reports are written as the reports one after another;
* `CheckOutcome.text_tells_results`: the text for any list of modules.
-/

set_option autoImplicit false

namespace ModularGrammar

/-! ## Reading a line -/

def ViolationKind.ofWords? (words : List Char) : Option ViolationKind :=
  all.find? fun kind => kind.words.toList == words

/-- Reads what stands after the name of a module: that it is fine, or else a kind and the names. -/
def readVerdict? (text : List Char) : Option (Except Violation Unit) :=
  if text = "ok".toList then some (.ok ())
  else do
    let (words, names) ← cutAt? ':' ' ' text
    let kind ← ViolationKind.ofWords? words
    return .error ⟨kind, (partsAt ',' ' ' names).map String.ofList⟩

/-- Reads the name of a module and its verdict. -/
def readCheckLine? (line : List Char) : Option (String × Except Violation Unit) := do
  let (name, verdict) ← cutAt? ':' ' ' line
  return (String.ofList name, ← readVerdict? verdict)

/-! ## Lists of reports -/

section Lists
variable {α : Type} [Report α]

theorem Report.toList_text (reports : List α) :
    (Report.text reports).toList = reports.flatMap fun report => (Report.text report).toList := by
  have htext : Report.text reports = String.join (reports.map Report.text) := rfl
  rw [htext, String.toList_join, List.flatMap_map]

/-- Groups of reports are written as the reports one after another. -/
theorem Report.text_flatten (groups : List (List α)) :
    Report.text groups = Report.text groups.flatten := by
  apply String.toList_injective
  rw [toList_text, toList_text, List.flatten_eq_flatMap, List.flatMap_assoc]
  exact congrArg (fun f => groups.flatMap f) (funext toList_text)

end Lists

/-! ## Writing a line -/

def verdictChars : Except Violation Unit → List Char
  | .ok _ => "ok".toList
  | .error v => v.message.toList

/-- The line of a module, its line feed left out. -/
def checkLine (name : String) (verdict : Except Violation Unit) : List Char :=
  name.toList ++ ':' :: ' ' :: verdictChars verdict

theorem Violation.toList_message (v : Violation) :
    v.message.toList =
      v.kind.words.toList ++ ':' :: ' ' :: [',', ' '].intercalate (v.names.map String.toList) := by
  have hcolon : ": ".toList = [':', ' '] := rfl
  have hcomma : ", ".toList = [',', ' '] := rfl
  rw [message, String.toList_append, String.toList_append, String.toList_intercalate, hcolon, hcomma,
    List.append_assoc]
  rfl

theorem CheckOutcome.toList_text_ofModule (m : GrammarModule) :
    (ofModule m).text.toList = checkLine m.name (m.verify.map fun _ => ()) ++ ['\n'] := by
  rw [ofModule_eq]
  cases hverify : m.verify with
  | ok result =>
    have hok : ": ok\n".toList = [':', ' ', 'o', 'k', '\n'] := rfl
    simp [text, violation?, checkLine, verdictChars, Except.map, hok]
  | error v =>
    have hcolon : ": ".toList = [':', ' '] := rfl
    have hend : "\n".toList = ['\n'] := rfl
    simp [text, violation?, checkLine, verdictChars, Except.map, hcolon, hend]

theorem CheckOutcome.toList_render_ofModules (modules : List GrammarModule) :
    (Report.render .text (ofModules modules)).toList =
      (modules.map fun m => checkLine m.name (m.verify.map fun _ => ())).flatMap
        fun line => line ++ ['\n'] := by
  have hrender : Report.render .text (ofModules modules) = Report.text (ofModules modules) := rfl
  rw [hrender, Report.toList_text, ofModules, List.flatMap_map, List.flatMap_map]
  exact congrArg (fun f => modules.flatMap f) (funext toList_text_ofModule)

/-! ## Lines that can be read -/

/-- A name that stays within its place in a list of names. -/
def ListedName (x : String) : Prop := '\n' ∉ x.toList ∧ ¬ [',', ' '] <:+: x.toList

/-- The name of the module stays within the line and before the colon, and the other names in use stay
within their places. -/
structure GrammarModule.Legible (m : GrammarModule) : Prop where
  name_on_line : '\n' ∉ m.name.toList
  name_before_colon : ¬ [':', ' '] <:+: m.name.toList
  listed : ∀ x ∈ m.grammar.vocabulary ∪ m.interface.vocabulary, ListedName x

theorem ViolationKind.ofWords?_words (kind : ViolationKind) : ofWords? kind.words.toList = some kind := by
  cases kind <;> decide

theorem ViolationKind.no_colon_in_words (kind : ViolationKind) : ':' ∉ kind.words.toList := by
  cases kind <;> decide

/-- What is reported lists at least one name, and no other names than are in use. -/
theorem GrammarModule.names_of_verify_eq_error {m : GrammarModule} {v : Violation}
    (h : m.verify = .error v) :
    v.names ≠ [] ∧ ∀ x ∈ v.names, x ∈ m.grammar.vocabulary ∪ m.interface.vocabulary := by
  have hreports := Grammar.reports_of_verify_eq_error h
  refine ⟨?_, ?_⟩
  · obtain ⟨x, hx⟩ := hreports.nonempty
    exact List.ne_nil_of_mem ((hreports.mem_names x).2 hx)
  · intro x hx
    exact Grammar.offenders_subset_vocabulary v.kind ((hreports.mem_names x).1 hx)

theorem readVerdict?_message {v : Violation} (hne : v.names ≠ [])
    (hnames : ∀ x ∈ v.names, ¬ [',', ' '] <:+: x.toList) :
    readVerdict? v.message.toList = some (.error v) := by
  have hwords : ¬ [':', ' '] <:+: v.kind.words.toList :=
    fun h => v.kind.no_colon_in_words (h.subset List.mem_cons_self)
  have hok : v.message.toList ≠ "ok".toList := by
    have hcolon : ':' ∈ v.message.toList := by simp [Violation.toList_message]
    intro h
    rw [h] at hcolon
    revert hcolon
    decide
  have hparts := partsAt_intercalate_toList (by decide) hne hnames
  rw [readVerdict?, if_neg hok, Violation.toList_message, cutAt?_append (by decide) hwords]
  simp only [Option.bind_eq_bind, Option.bind_some, ViolationKind.ofWords?_words, hparts]
  rfl

theorem readCheckLine?_checkLine {m : GrammarModule} (hm : m.Legible) :
    readCheckLine? (checkLine m.name (m.verify.map fun _ => ())) =
      some (m.name, m.verify.map fun _ => ()) := by
  have hverdict : readVerdict? (verdictChars (m.verify.map fun _ => ())) =
      some (m.verify.map fun _ => ()) := by
    cases hverify : m.verify with
    | ok result => rfl
    | error v =>
      obtain ⟨hne, hused⟩ := GrammarModule.names_of_verify_eq_error hverify
      exact readVerdict?_message hne fun x hx => (hm.listed x (hused x hx)).2
  rw [readCheckLine?, checkLine, cutAt?_append (by decide) hm.name_before_colon]
  simp [hverdict]

theorem newline_notMem_intercalate {parts : List (List Char)} (h : ∀ part ∈ parts, '\n' ∉ part) :
    '\n' ∉ [',', ' '].intercalate parts := by
  have hparts : ∀ part ∈ parts, ∀ c ∈ part, c ≠ '\n' :=
    fun part hpart c hc => ne_of_mem_of_not_mem hc (h part hpart)
  intro hmem
  exact forall_mem_intercalate (by simp) hparts '\n' hmem rfl

theorem newline_notMem_checkLine {m : GrammarModule} (hm : m.Legible) :
    '\n' ∉ checkLine m.name (m.verify.map fun _ => ()) := by
  have hverdict : '\n' ∉ verdictChars (m.verify.map fun _ => ()) := by
    cases hverify : m.verify with
    | ok result => exact (by decide : '\n' ∉ "ok".toList)
    | error v =>
      obtain ⟨-, hused⟩ := GrammarModule.names_of_verify_eq_error hverify
      have hwords : '\n' ∉ v.kind.words.toList := by cases v.kind <;> decide
      have hnames : '\n' ∉ [',', ' '].intercalate (v.names.map String.toList) := by
        apply newline_notMem_intercalate
        intro part hpart
        obtain ⟨x, hx, rfl⟩ := List.mem_map.1 hpart
        exact (hm.listed x (hused x hx)).1
      simp [verdictChars, Except.map, Violation.toList_message, hwords, hnames]
  simp [checkLine, hm.name_on_line, hverdict]

/-! ## Whole texts -/

namespace CheckOutcome

theorem flatten_map_ofModules (groups : List (List GrammarModule)) :
    (groups.map ofModules).flatten = ofModules groups.flatten := by
  simp only [ofModules, List.map_flatten]
  rfl

/-- The text about modules that can be told apart has a line for each of them, in their order, from which
its name and the result of its verification are read back. Grouping the modules changes no text. -/
theorem text_tells_results (modules : List GrammarModule) :
    ((∀ m ∈ modules, m.Legible) → ∃ lines,
      (Report.render .text (ofModules modules)).toList.splitOn '\n' = lines ++ [[]] ∧
      lines.map readCheckLine? = modules.map fun m => some (m.name, m.verify.map fun _ => ())) ∧
    ∀ groups : List (List GrammarModule), groups.flatten = modules →
      Report.render .text (groups.map ofModules) = Report.render .text (ofModules modules) := by
  refine ⟨?_, ?_⟩
  · intro hlegible
    refine ⟨modules.map fun m => checkLine m.name (m.verify.map fun _ => ()), ?_, ?_⟩
    · rw [toList_render_ofModules]
      apply splitOn_flatMap_newline
      intro line hline
      obtain ⟨m, hm, rfl⟩ := List.mem_map.1 hline
      exact newline_notMem_checkLine (hlegible m hm)
    · rw [List.map_map]
      exact List.map_congr_left fun m hm => readCheckLine?_checkLine (hlegible m hm)
  · rintro groups rfl
    have hgroups := Report.text_flatten (groups.map ofModules)
    rw [flatten_map_ofModules] at hgroups
    exact hgroups

/-- A module name that ends in a colon, and missing names of which one is empty and one ends in a comma. -/
theorem text_tells_results_of_shared_characters :
    (GrammarModule.mk "a:" ⟨[⟨"x", [.ref "b,", .ref ""]⟩]⟩ (.ofLists [] ["x"])).Legible ∧
    ∃ lines,
      (Report.render .text
        (ofModules [⟨"a:", ⟨[⟨"x", [.ref "b,", .ref ""]⟩]⟩, .ofLists [] ["x"]⟩])).toList.splitOn '\n' =
          lines ++ [[]] ∧
      lines.map readCheckLine? = [some ("a:", .error ⟨.missingImport, ["", "b,"]⟩)] := by
  have hlegible :
      (GrammarModule.mk "a:" ⟨[⟨"x", [.ref "b,", .ref ""]⟩]⟩ (.ofLists [] ["x"])).Legible := by
    refine ⟨by decide, by decide, ?_⟩
    intro x hx
    have hname : x = "x" ∨ x = "b," ∨ x = "" := by
      rcases hx with ⟨p, hp, hx⟩ | himport | hexport
      · obtain rfl := List.mem_singleton.1 hp
        rcases hx with rfl | ⟨phrase, hphrase, hocc⟩
        · exact .inl rfl
        · rcases List.mem_pair.1 hphrase with rfl | rfl
          · cases hocc
            exact .inr (.inl rfl)
          · cases hocc
            exact .inr (.inr rfl)
      · cases himport
      · exact .inl (List.mem_singleton.1 hexport)
    rcases hname with rfl | rfl | rfl <;> exact ⟨by decide, by decide⟩
  refine ⟨hlegible, (text_tells_results _).1 ?_⟩
  intro m hm
  rw [List.mem_singleton.1 hm]
  exact hlegible

end CheckOutcome

end ModularGrammar
