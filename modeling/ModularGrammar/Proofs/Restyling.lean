import Mathlib.Logic.Relation
import ModularGrammar.Proofs.Inference

/-! # Grammars that differ in style

Verification and inference look at the names of productions and at references to other productions, and
at nothing else: not at order, nesting or repetition, and at no other leaf.

* `Phrase.Idle`: the leaves of a production that have no bearing on its references;
* `Phrase.Restyles`, `Grammar.Restyles`: one edit of a list of alternatives or items, and of a grammar;
* `Grammar.SameUpToStyle`: any number of edits, made or undone;
* `Grammar.SameVerdict`: two grammars are accepted with the same declarations, and refused alike;
* `Grammar.sameVerdict_of_style`: grammars that differ in style only, and what it changes to share the
  alternatives of a production out among several productions of its name.
-/

set_option autoImplicit false

namespace ModularGrammar

open Relation

theorem exists_mem_middle {α : Type} {P : α → Prop} {before after : List α} {a : α} :
    (∃ b ∈ before ++ a :: after, P b) ↔ P a ∨ ∃ b ∈ before ++ after, P b := by
  rw [← List.exists_mem_cons_iff]
  simp only [List.perm_middle.mem_iff]

/-! ## Edits of phrases -/

namespace Phrase

/-- Leaves that refer to nothing, or to the production that they stand in. -/
inductive Idle (own : String) : Phrase → Prop
  | empty : Idle own .empty
  | comment (text : String) : Idle own (.comment text)
  | terminal (literal : String) : Idle own (.terminal literal)
  | selfReference : Idle own (.nonTerminal own)

/-- The idle leaves that are no literals. -/
def Mute (own : String) (leaf : Phrase) : Prop := Idle own leaf ∧ ∀ literal, leaf ≠ .terminal literal

/-- One edit of a list of alternatives or items, in which only the given leaves come and go. -/
inductive Restyles (idle : Phrase → Prop) : List Phrase → List Phrase → Prop
  | permute {items items' : List Phrase} : items.Perm items' → Restyles idle items items'
  | duplicate {before after : List Phrase} {item : Phrase} :
      item ∈ before ++ after → Restyles idle (before ++ after) (before ++ item :: after)
  | insert {before after : List Phrase} {leaf : Phrase} :
      idle leaf → Restyles idle (before ++ after) (before ++ leaf :: after)
  | replace {before after : List Phrase} {leaf leaf' : Phrase} :
      idle leaf → idle leaf' → Restyles idle (before ++ leaf :: after) (before ++ leaf' :: after)
  | inline {before items after : List Phrase} :
      Restyles idle (before ++ .sequence items :: after) (before ++ items ++ after)
  /-- An edit of the items of a sequence. -/
  | within {before items items' after : List Phrase} : Restyles idle items items' →
      Restyles idle (before ++ .sequence items :: after) (before ++ .sequence items' :: after)

section Occurrence
variable {idle : Phrase → Prop} {part : Phrase} {items items' : List Phrase}

/-- An edit does not make a leaf appear or disappear that is not among those which come and go. -/
theorem Restyles.occurs_iff (h : Restyles idle items items') (hpart : part.IsLeaf)
    (hidle : ∀ leaf, idle leaf → ¬ part.Occurs leaf) :
    (∃ item ∈ items, part.Occurs item) ↔ ∃ item ∈ items', part.Occurs item := by
  induction h with
  | permute hperm => simp only [hperm.mem_iff]
  | duplicate hmem =>
    rw [exists_mem_middle]
    exact ⟨.inr, fun h => h.elim (fun hocc => ⟨_, hmem, hocc⟩) id⟩
  | insert hleaf => rw [exists_mem_middle, or_iff_right (hidle _ hleaf)]
  | replace hleaf hleaf' =>
    rw [exists_mem_middle, exists_mem_middle, or_iff_right (hidle _ hleaf), or_iff_right (hidle _ hleaf')]
  | inline =>
    rw [exists_mem_middle, occurs_sequence_iff (hpart _)]
    simp only [List.mem_append, or_and_right, exists_or]
    grind
  | within _ ih =>
    rw [exists_mem_middle, exists_mem_middle, occurs_sequence_iff (hpart _), occurs_sequence_iff (hpart _),
      ih]

theorem Idle.not_occurs {own x : String} {leaf : Phrase} (h : Idle own leaf) (hx : own ≠ x) :
    ¬ (nonTerminal x).Occurs leaf := by
  cases h with
  | selfReference =>
    rw [occurs_leaf_iff (isLeaf_nonTerminal own), nonTerminal.injEq]
    exact hx
  | _ => rw [occurs_leaf_iff] <;> simp [IsLeaf]

theorem Mute.not_occurs {own literal : String} {leaf : Phrase} (h : Mute own leaf) :
    ¬ (terminal literal).Occurs leaf := by
  obtain ⟨hidle, hliteral⟩ := h
  rw [occurs_leaf_iff (by rintro items rfl; cases hidle)]
  exact hliteral literal

end Occurrence

end Phrase

/-! ## Edits of grammars -/

namespace Grammar

/-- One edit of a grammar, which moves productions about or edits the alternatives of one of them. -/
inductive Restyles (idle : String → Phrase → Prop) : Grammar → Grammar → Prop
  | permute {productions productions' : List Production} :
      productions.Perm productions' → Restyles idle ⟨productions⟩ ⟨productions'⟩
  | production {before after : List Production} {name : String} {alternatives alternatives' : List Phrase} :
      Phrase.Restyles (idle name) alternatives alternatives' →
      Restyles idle ⟨before ++ ⟨name, alternatives⟩ :: after⟩ ⟨before ++ ⟨name, alternatives'⟩ :: after⟩

/-- Any number of edits lead from one grammar to the other, each of them made or undone. -/
def SameUpToStyle (idle : String → Phrase → Prop) : Grammar → Grammar → Prop := EqvGen (Restyles idle)

/-- Whatever is declared, both grammars are accepted or both are refused for the same violation. -/
def SameVerdict (g g' : Grammar) : Prop :=
  ∀ declared, (g.verify declared = .ok g ∧ g'.verify declared = .ok g') ∨
    ∃ v, g.verify declared = .error v ∧ g'.verify declared = .error v

variable {idle : String → Phrase → Prop} {g g' : Grammar} {x : String}

/-! ## What an edit leaves alone -/

namespace Restyles

theorem names_perm (h : Restyles idle g g') :
    (g.productions.map (·.name)).Perm (g'.productions.map (·.name)) := by
  cases h with
  | permute hperm => exact hperm.map _
  | production => simp

/-- A property of productions that edits of their alternatives leave alone. -/
theorem exists_iff {P : Production → Prop} (h : Restyles idle g g')
    (hP : ∀ {name alternatives alternatives'}, Phrase.Restyles (idle name) alternatives alternatives' →
      (P ⟨name, alternatives⟩ ↔ P ⟨name, alternatives'⟩)) :
    (∃ p ∈ g.productions, P p) ↔ ∃ p ∈ g'.productions, P p := by
  cases h with
  | permute hperm => simp only [hperm.mem_iff]
  | production hedit => rw [exists_mem_middle, exists_mem_middle, hP hedit]

theorem definitions_eq (h : Restyles idle g g') : g.definitions = g'.definitions := by
  ext x
  exact h.exists_iff fun _ => Iff.rfl

theorem repeated_eq (h : Restyles idle g g') : g.repeated = g'.repeated := by
  ext x
  show Twice _ _ ↔ Twice _ _
  rw [twice_iff_count, twice_iff_count, h.names_perm.count_eq]

theorem references_eq (h : Restyles Phrase.Idle g g') : g.references = g'.references := by
  ext x
  refine h.exists_iff ?_
  intro name alternatives alternatives' hedit
  apply and_congr_right
  intro hname
  exact hedit.occurs_iff (Phrase.isLeaf_nonTerminal x) fun leaf hleaf => hleaf.not_occurs hname

theorem terminals_eq (h : Restyles Phrase.Mute g g') : g.terminals = g'.terminals := by
  ext s
  rw [mem_terminals_iff, mem_terminals_iff]
  refine h.exists_iff ?_
  intro name alternatives alternatives' hedit
  exact hedit.occurs_iff (Phrase.isLeaf_terminal s) fun leaf hleaf => hleaf.not_occurs

end Restyles

/-- What no edit changes, no number of edits changes. -/
theorem SameUpToStyle.congr {α : Type} {f : Grammar → α}
    (hf : ∀ {g g'}, Restyles idle g g' → f g = f g') (h : SameUpToStyle idle g g') : f g = f g' := by
  induction h with
  | rel _ _ hedit => exact hf hedit
  | refl => rfl
  | symm _ _ _ ih => exact ih.symm
  | trans _ _ _ _ _ ih ih' => exact ih.trans ih'

/-! ## What verification and inference look at -/

theorem infer_congr (hdefinitions : g.definitions = g'.definitions)
    (hreferences : g.references = g'.references) : Interface.infer g = Interface.infer g' := by
  apply Interface.eq_of_members
  · rw [Interface.members_imports_infer, Interface.members_imports_infer, hdefinitions, hreferences]
  · rw [Interface.members_exports_infer, Interface.members_exports_infer, hdefinitions, hreferences]

theorem sameVerdict_of_eq (hdefinitions : g.definitions = g'.definitions)
    (hreferences : g.references = g'.references) (hrepeated : g.repeated = g'.repeated) :
    g.SameVerdict g' := by
  intro declared
  have hoffenders : g.offenders declared = g'.offenders declared := by
    funext kind
    cases kind <;> simp only [offenders, hdefinitions, hreferences, hrepeated]
  cases hverify : g.verify declared with
  | ok result =>
    obtain ⟨rfl, hall⟩ := verify_eq_ok_iff.1 hverify
    rw [hoffenders] at hall
    exact .inl ⟨rfl, verify_eq_ok_iff.2 ⟨rfl, hall⟩⟩
  | error v =>
    have hreports := verify_eq_error_iff.1 hverify
    rw [hoffenders] at hreports
    exact .inr ⟨v, rfl, verify_eq_error_iff.2 hreports⟩

theorem SameUpToStyle.infer_eq (h : SameUpToStyle Phrase.Idle g g') :
    Interface.infer g = Interface.infer g' :=
  infer_congr (h.congr Restyles.definitions_eq) (h.congr Restyles.references_eq)

theorem SameUpToStyle.sameVerdict (h : SameUpToStyle Phrase.Idle g g') : g.SameVerdict g' :=
  sameVerdict_of_eq (h.congr Restyles.definitions_eq) (h.congr Restyles.references_eq)
    (h.congr Restyles.repeated_eq)

/-! ## Alternatives shared out -/

/-- A grammar with a production of the name for each of the lists of alternatives. -/
def parted (before after : List Production) (name : String) (parts : List (List Phrase)) : Grammar :=
  ⟨before ++ parts.map (Production.mk name) ++ after⟩

section Parted
variable {before after : List Production} {name : String} {parts : List (List Phrase)}

theorem contains_flatten_iff {part : Phrase} :
    (Production.mk name parts.flatten).Contains part ↔
      ∃ alternatives ∈ parts, (Production.mk name alternatives).Contains part := by
  simp only [Production.Contains, List.mem_flatten]
  grind

theorem exists_mem_parted {P : Production → Prop} :
    (∃ p ∈ (parted before after name parts).productions, P p) ↔
      (∃ alternatives ∈ parts, P ⟨name, alternatives⟩) ∨ ∃ p ∈ before ++ after, P p := by
  simp only [parted, List.mem_append, List.mem_map]
  grind

theorem definitions_parted (hparts : parts ≠ []) :
    (parted before after name parts).definitions =
      (parted before after name [parts.flatten]).definitions := by
  ext x
  refine exists_mem_parted.trans (Iff.trans ?_ exists_mem_parted.symm)
  simp [List.exists_mem_of_ne_nil parts hparts]

theorem references_parted :
    (parted before after name parts).references =
      (parted before after name [parts.flatten]).references := by
  ext x
  refine exists_mem_parted.trans (Iff.trans ?_ exists_mem_parted.symm)
  simp only [List.mem_singleton, exists_eq_left, contains_flatten_iff]
  grind

theorem terminals_parted :
    (parted before after name parts).terminals =
      (parted before after name [parts.flatten]).terminals := by
  ext s
  rw [mem_terminals_iff, mem_terminals_iff, exists_mem_parted, exists_mem_parted]
  simp only [List.mem_singleton, exists_eq_left, contains_flatten_iff]

theorem mem_repeated_parted (hparts : 1 < parts.length) :
    x ∈ (parted before after name parts).repeated ↔
      x = name ∨ x ∈ (parted before after name [parts.flatten]).repeated := by
  have hcount : ∀ parts' : List (List Phrase),
      x ∈ (parted before after name parts').repeated ↔
        1 < (before.map Production.name).count x +
          ((if name = x then parts'.length else 0) + (after.map Production.name).count x) := by
    intro parts'
    refine twice_iff_count.trans ?_
    simp [parted, List.count_append, Function.comp_def, List.count_replicate]
  rw [hcount, hcount]
  by_cases hx : name = x
  · simp only [hx, if_true, true_or, iff_true]
    omega
  · simp only [hx, Ne.symm hx, if_false, false_or]

end Parted

/-- Grammars that differ in style only fit the same declarations and are refused alike, have the same
inferred interface, and the same literals unless an edit was about literals. When the alternatives of a
production are shared out among several of its name, interface and literals stay the same too, but
verification reports the name, along with those that were repeated already. -/
theorem sameVerdict_of_style :
    (∀ g g', SameUpToStyle Phrase.Idle g g' →
      g.SameVerdict g' ∧ Interface.infer g = Interface.infer g') ∧
    (∀ g g', SameUpToStyle Phrase.Mute g g' → g.terminals = g'.terminals) ∧
    ∀ before after name parts, 1 < parts.length →
      Interface.infer (parted before after name parts) =
        Interface.infer (parted before after name [parts.flatten]) ∧
      (parted before after name parts).terminals =
        (parted before after name [parts.flatten]).terminals ∧
      ∃ names : List String, names.Pairwise (· < ·) ∧
        (∀ x, x ∈ names ↔ x = name ∨ x ∈ (parted before after name [parts.flatten]).repeated) ∧
        ∀ declared, (parted before after name parts).verify declared = .error ⟨.redefinition, names⟩ := by
  refine ⟨fun g g' h => ⟨h.sameVerdict, h.infer_eq⟩, fun g g' h => h.congr Restyles.terminals_eq, ?_⟩
  intro before after name parts hparts
  have hnonempty : parts ≠ [] := List.ne_nil_of_length_pos (by omega)
  refine ⟨infer_congr (definitions_parted hnonempty) references_parted, terminals_parted, ?_⟩
  have hindistinct : ¬ (parted before after name parts).Distinct := by
    intro hdistinct
    exact distinct_iff_notMem_repeated.1 hdistinct name ((mem_repeated_parted hparts).2 (.inl rfl))
  refine ⟨(parted before after name parts).redefined.toList,
    (parted before after name parts).redefined.ascending, ?_, verify_of_not_distinct hindistinct⟩
  intro x
  exact mem_redefined_iff.trans (mem_repeated_parted hparts)

/-- The productions change places, a sequence becomes two alternatives, and a comment spelled like the
other production and a reference to the production itself are added. -/
theorem sameVerdict_of_style_of_mutual_recursion :
    SameUpToStyle Phrase.Idle
      ⟨[⟨"A", [.seq [.ref "B", .lit "x"]]⟩, ⟨"B", [.ref "A"]⟩]⟩
      ⟨[⟨"B", [.ref "A"]⟩, ⟨"A", [.comment "B", .ref "B", .lit "x", .ref "A"]⟩]⟩ ∧
    SameUpToStyle Phrase.Mute
      ⟨[⟨"A", [.seq [.ref "B", .lit "x"]]⟩, ⟨"B", [.ref "A"]⟩]⟩
      ⟨[⟨"B", [.ref "A"]⟩, ⟨"A", [.comment "B", .ref "B", .lit "x", .ref "A"]⟩]⟩ ∧
    SameVerdict
      ⟨[⟨"A", [.seq [.ref "B", .lit "x"]]⟩, ⟨"B", [.ref "A"]⟩]⟩
      ⟨[⟨"B", [.ref "A"]⟩, ⟨"A", [.comment "B", .ref "B", .lit "x", .ref "A"]⟩]⟩ ∧
    Grammar.terminals ⟨[⟨"A", [.seq [.ref "B", .lit "x"]]⟩, ⟨"B", [.ref "A"]⟩]⟩ =
      Grammar.terminals ⟨[⟨"B", [.ref "A"]⟩, ⟨"A", [.comment "B", .ref "B", .lit "x", .ref "A"]⟩]⟩ ∧
    1 < [[Phrase.ref "B"], [Phrase.lit "x"]].length ∧
    Interface.infer (parted [] [⟨"B", [.ref "A"]⟩] "A" [[.ref "B"], [.lit "x"]]) =
      Interface.infer (parted [] [⟨"B", [.ref "A"]⟩] "A" [[.ref "B", .lit "x"]]) := by
  have hedits : ∀ idle : String → Phrase → Prop, idle "A" (.comment "B") → idle "A" (.nonTerminal "A") →
      SameUpToStyle idle
        ⟨[⟨"A", [.seq [.ref "B", .lit "x"]]⟩, ⟨"B", [.ref "A"]⟩]⟩
        ⟨[⟨"B", [.ref "A"]⟩, ⟨"A", [.comment "B", .ref "B", .lit "x", .ref "A"]⟩]⟩ := by
    intro idle hcomment hself
    have hinline : Phrase.Restyles (idle "A") [.seq [.ref "B", .lit "x"]] [.ref "B", .lit "x"] :=
      @Phrase.Restyles.inline _ [] _ []
    have hinsert : Phrase.Restyles (idle "A") [.ref "B", .lit "x"] [.comment "B", .ref "B", .lit "x"] :=
      @Phrase.Restyles.insert _ [] _ _ hcomment
    have hinsert' : Phrase.Restyles (idle "A") [.comment "B", .ref "B", .lit "x"]
        [.comment "B", .ref "B", .lit "x", .ref "A"] :=
      @Phrase.Restyles.insert _ [.comment "B", .ref "B", .lit "x"] [] _ hself
    have hproduction : ∀ {alternatives alternatives' : List Phrase},
        Phrase.Restyles (idle "A") alternatives alternatives' →
        SameUpToStyle idle ⟨[⟨"B", [.ref "A"]⟩, ⟨"A", alternatives⟩]⟩
          ⟨[⟨"B", [.ref "A"]⟩, ⟨"A", alternatives'⟩]⟩ :=
      fun hedit => .rel _ _ (@Restyles.production idle [⟨"B", [.ref "A"]⟩] [] "A" _ _ hedit)
    refine .trans _ _ _ (.rel _ _ (.permute (.swap _ _ _))) ?_
    refine .trans _ _ _ (hproduction hinline) ?_
    exact .trans _ _ _ (hproduction hinsert) (hproduction hinsert')
  have hidle := hedits Phrase.Idle (.comment "B") .selfReference
  have hmute := hedits Phrase.Mute ⟨.comment "B", by simp⟩ ⟨.selfReference, by simp⟩
  exact ⟨hidle, hmute, (sameVerdict_of_style.1 _ _ hidle).1, sameVerdict_of_style.2.1 _ _ hmute,
    by decide, (sameVerdict_of_style.2.2 _ _ _ [[.ref "B"], [.lit "x"]] (by decide)).1⟩

end Grammar

end ModularGrammar
