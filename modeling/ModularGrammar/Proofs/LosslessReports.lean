import ModularGrammar.Proofs.JsonLayout
import ModularGrammar.Report

/-! # Reports as JSON

Nothing of a report is lost in its JSON text: a reader of the format takes the whole text, and the report
is recovered from the value that it reads.

* `CheckOutcome.ofJson?`, `TerminalsReport.ofJson?`, `InterfaceReport.ofJson?`, `ModuleSummary.ofJson?`:
  the reports that values stand for;
* `Report.Recoverable`, `Report.Recoverable.list`: reports that are told by their values;
* `Report.Lossless`: reports that are told by their texts, and whose texts hold no control characters but
  the line feeds of the layout;
* `Report.lossless`: all reports are so.
-/

set_option autoImplicit false

namespace ModularGrammar

/-! ## The reports that values stand for -/

/-- The words of a kind in lower case with hyphens between them. -/
def ViolationKind.kebab (kind : ViolationKind) : String :=
  String.ofList (kind.words.toList.map fun c => if c = ' ' then '-' else c)

example : ViolationKind.missingImport.kebab = "missing-import" := by decide

def ViolationKind.ofKebab? (text : String) : Option ViolationKind := all.find? fun kind => kind.kebab == text

def Violation.ofJson? (v : Json) : Option Violation := do
  let kind ← ViolationKind.ofKebab? (← (← v.member? "kind").text?)
  let names ← (← v.member? "names").list? Json.text?
  return ⟨kind, names⟩

/-- A check without a violation has no member for it. -/
def CheckOutcome.ofJson? (v : Json) : Option CheckOutcome := do
  let name ← (← v.member? "module").text?
  let ok ← (← v.member? "ok").bool?
  match v.member? "error" with
  | none => return ⟨name, ok, none⟩
  | some error => return ⟨name, ok, ← Violation.ofJson? error⟩

def TerminalsReport.ofJson? (v : Json) : Option TerminalsReport := do
  let name ← (← v.member? "module").text?
  let terminals ← (← v.member? "terminals").list? Json.text?
  return ⟨name, terminals⟩

/-- The set of names that are listed once each and in ascending order. -/
def NameSet.ofAscending? (names : List String) : Option NameSet :=
  if h : names.Pairwise (· < ·) then some ⟨names, h⟩ else none

def Interface.ofJson? (v : Json) : Option Interface := do
  let imports ← NameSet.ofAscending? (← (← v.member? "imports").list? Json.text?)
  let exports ← NameSet.ofAscending? (← (← v.member? "exports").list? Json.text?)
  return ⟨imports, exports⟩

def InterfaceReport.ofJson? (v : Json) : Option InterfaceReport := do
  let name ← (← v.member? "module").text?
  let declared ← Interface.ofJson? (← v.member? "declared")
  let inferred ← Interface.ofJson? (← v.member? "inferred")
  return ⟨name, declared, inferred⟩

def ModuleSummary.ofJson? (v : Json) : Option ModuleSummary := do
  let name ← (← v.member? "module").text?
  let productions ← (← v.member? "productions").count?
  let imports ← (← v.member? "imports").count?
  let exports ← (← v.member? "exports").count?
  return ⟨name, productions, imports, exports⟩

/-! ## Counts and lists -/

namespace Json

theorem foldlM_step_toDigits {n : Nat} (h : 0 < n) :
    (Nat.toDigits 10 n).foldlM Numeral.step .start = some .whole := by
  -- The last digit is split off, so that what is read before it is a smaller number.
  induction n using Nat.strongRecOn with
  | ind n ih =>
    by_cases hn : n < 10
    · have hall : ∀ n < 10, 0 < n → [Nat.digitChar n].foldlM Numeral.step .start = some .whole := by decide
      rw [Nat.toDigits_of_lt_base hn]
      exact hall n hn h
    · have hdigit : ∀ d < 10, Numeral.whole.step (Nat.digitChar d) = some .whole := by decide
      have hquotient := ih (n / 10) (by omega) (by omega)
      rw [Nat.toDigits_of_base_le (by decide) (Nat.le_of_not_lt hn), List.foldlM_append, hquotient]
      show [Nat.digitChar (n % 10)].foldlM Numeral.step .whole = some .whole
      rw [List.foldlM_cons, hdigit _ (Nat.mod_lt n (by decide))]
      rfl

theorem toList_toString (n : Nat) : (toString n).toList = Nat.toDigits 10 n := Nat.toList_repr

theorem wellFormed_nat (n : Nat) : (nat n).WellFormed := by
  refine .number ?_
  rw [toList_toString]
  rcases Nat.eq_zero_or_pos n with rfl | hn
  · decide
  · rw [isNumber, foldlM_step_toDigits hn]
    rfl

theorem count?_nat (n : Nat) : (nat n).count? = some n := by
  have hdigits : (Nat.toDigits 10 n).all Char.isDigit = true :=
    List.all_eq_true.2 fun c hc => Nat.isDigit_of_mem_toDigits (by decide) (by decide) hc
  rw [nat, count?, toList_toString, if_pos hdigits, Nat.ofDigitChars_toDigits (by decide) (by decide)]

theorem wellFormed_strings (texts : List String) : (strings texts).WellFormed :=
  .array (List.forall_mem_map.2 fun text _ => .string text)

theorem list?_array_map {α : Type} {item? : Json → Option α} {json : α → Json}
    (h : ∀ a, item? (json a) = some a) (items : List α) :
    list? item? (.array (items.map json)) = some items := by
  induction items with
  | nil => rfl
  | cons item rest ih =>
    rw [list?] at ih ⊢
    rw [List.map_cons, List.mapM_cons, h item, ih]
    rfl

theorem list?_strings (texts : List String) : (strings texts).list? text? = some texts :=
  @list?_array_map String text? .string (fun _ => rfl) texts

end Json

/-! ## Reports from their values -/

namespace Report

/-- A report is recovered from its value, in which each number is written as one. -/
structure Recoverable {α : Type} [Report α] (decode? : Json → Option α) : Prop where
  wellFormed : ∀ r : α, (Report.json r).WellFormed
  decoded : ∀ r : α, decode? (Report.json r) = some r

theorem Recoverable.list {α : Type} [Report α] {decode? : Json → Option α} (h : Recoverable decode?) :
    Recoverable (Json.list? decode?) where
  wellFormed _ := .array (List.forall_mem_map.2 fun r _ => h.wellFormed r)
  decoded reports := Json.list?_array_map h.decoded reports

end Report

theorem ViolationKind.ofKebab?_tag (kind : ViolationKind) : ofKebab? kind.tag = some kind := by
  cases kind <;> decide

theorem Violation.wellFormed_json (v : Violation) : v.json.WellFormed :=
  .object (by simp [Json.WellFormed.string, Json.wellFormed_strings])

theorem Violation.ofJson?_json (v : Violation) : ofJson? v.json = some v := by
  simp [ofJson?, json, Json.member?, Json.text?, ViolationKind.ofKebab?_tag, Json.list?_strings]

theorem CheckOutcome.recoverable : Report.Recoverable CheckOutcome.ofJson? where
  wellFormed r := by
    obtain ⟨name, ok, _ | v⟩ := r
    · exact .object (by simp [Json.WellFormed.string, Json.WellFormed.bool])
    · exact .object (by simp [Json.WellFormed.string, Json.WellFormed.bool, v.wellFormed_json])
  decoded r := by
    obtain ⟨name, ok, _ | v⟩ := r
    · simp [Report.json, json, ofJson?, Json.member?, Json.text?, Json.bool?]
    · simp [Report.json, json, ofJson?, Json.member?, Json.text?, Json.bool?, v.ofJson?_json]

theorem TerminalsReport.recoverable : Report.Recoverable TerminalsReport.ofJson? where
  wellFormed r := .object (by simp [Json.WellFormed.string, Json.wellFormed_strings])
  decoded r := by simp [Report.json, json, ofJson?, Json.member?, Json.text?, Json.list?_strings]

theorem NameSet.ofAscending?_toList (s : NameSet) : ofAscending? s.toList = some s :=
  dif_pos s.ascending

theorem Interface.wellFormed_json (i : Interface) : i.json.WellFormed :=
  .object (by simp [Json.wellFormed_strings])

theorem Interface.ofJson?_json (i : Interface) : ofJson? i.json = some i := by
  simp [ofJson?, json, Json.member?, NameSet.ofAscending?_toList, Json.list?_strings]

theorem InterfaceReport.recoverable : Report.Recoverable InterfaceReport.ofJson? where
  wellFormed r := .object (by simp [Json.WellFormed.string, Interface.wellFormed_json])
  decoded r := by simp [Report.json, json, ofJson?, Json.member?, Json.text?, Interface.ofJson?_json]

theorem ModuleSummary.recoverable : Report.Recoverable ModuleSummary.ofJson? where
  wellFormed r := .object (by simp [Json.WellFormed.string, Json.wellFormed_nat])
  decoded r := by simp [Report.json, json, ofJson?, Json.member?, Json.text?, Json.count?_nat]

/-! ## Reports from their texts -/

namespace Report

/-- The text of a report is read as a whole, and the report is recovered from what is read. The text holds
no control character inside a string, and of the line feeds between strings just one at its end. -/
structure Lossless {α : Type} [Report α] (decode? : Json → Option α) : Prop where
  recovered : ∀ r : α, (Json.read? (render .json r)).bind decode? = some r
  injective : ∀ r s : α, render .json r = render .json s → r = s
  tidy : ∀ r : α, Json.Tidy (render .json r).toList
  one_newline_at_end : ∀ r : α, ∃ body, (render .json r).toList = body ++ ['\n'] ∧ Json.EndsInLine body

theorem Recoverable.lossless {α : Type} [Report α] {decode? : Json → Option α} (h : Recoverable decode?) :
    Lossless decode? := by
  have hrecovered : ∀ r : α, (Json.read? (render .json r)).bind decode? = some r := by
    intro r
    rw [render, Json.read?_pretty (h.wellFormed r)]
    exact h.decoded r
  have htext : ∀ r : α, (render .json r).toList = ((Report.json r).pretty 0).toList ++ ['\n'] := by
    intro r
    rw [render, String.toList_append]
    rfl
  constructor
  · exact hrecovered
  · intro r s hrender
    have hr := hrecovered r
    rw [hrender, hrecovered s] at hr
    exact (Option.some.inj hr).symm
  · intro r
    rw [htext]
    exact (Json.tidy_pretty (h.wellFormed r) 0).append (Json.tidy_of_plain (by decide))
  · intro r
    exact ⟨_, htext r, Json.endsInLine_pretty (h.wellFormed r) 0⟩

/-- The list of outcomes is read as an array, and an item of it tells a violation just where there is one. -/
theorem read?_outcomes (outcomes : List CheckOutcome) :
    ∃ items, Json.read? (render .json outcomes) = some (.array items) ∧
      List.Forall₂ (fun r item => (item.member? "error").isSome = r.violation.isSome) outcomes items := by
  refine ⟨outcomes.map Report.json, Json.read?_pretty (CheckOutcome.recoverable.list.wellFormed outcomes), ?_⟩
  rw [List.forall₂_map_right_iff, List.forall₂_same]
  rintro ⟨name, ok, _ | v⟩ - <;> simp [Report.json, CheckOutcome.json, Json.member?]

/-- Nothing of a report is lost in its JSON text. The reader is strict: it takes no other texts than those
whose tokens are the ones of the value that it gives. -/
theorem all_lossless :
    (∀ text v, Json.read? text = some v ↔ Json.lex? text.toList = some v.tokens) ∧
      Lossless (Json.list? CheckOutcome.ofJson?) ∧
      Lossless (Json.list? (Json.list? CheckOutcome.ofJson?)) ∧
      Lossless TerminalsReport.ofJson? ∧
      Lossless InterfaceReport.ofJson? ∧
      Lossless (Json.list? ModuleSummary.ofJson?) ∧
      ∀ outcomes : List CheckOutcome, ∃ items, Json.read? (render .json outcomes) = some (.array items) ∧
        List.Forall₂ (fun r item => (item.member? "error").isSome = r.violation.isSome) outcomes items :=
  ⟨fun _ _ => Json.read?_eq_some_iff,
    CheckOutcome.recoverable.list.lossless, CheckOutcome.recoverable.list.list.lossless,
    TerminalsReport.recoverable.lossless, InterfaceReport.recoverable.lossless,
    ModuleSummary.recoverable.list.lossless, read?_outcomes⟩

end Report

end ModularGrammar
