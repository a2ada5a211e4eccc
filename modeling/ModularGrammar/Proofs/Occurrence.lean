import Mathlib.Data.List.Basic
import Mathlib.Data.Set.Basic
import ModularGrammar.Interface
import ModularGrammar.Proofs.LeafOrder

/-! # Definitions and references

What a grammar defines and what it refers to, told by its productions and the leaves of their phrases
alone, and the agreement of the collectors with it.

* `Phrase.Occurs`: a phrase lies in another one, at any depth of nested sequences, which is at some place
  (`occurs_iff_exists_at?`);
* `Twice`: two entries of a list, at different places, have a property;
* `Grammar.definitions`, `Grammar.references`, `Grammar.repeated`: the names that a grammar defines, that
  it refers to, and that it defines more than once;
* `mem_names_iff`, `mem_referenced_iff`, `mem_redefined_iff`, `mem_terminals_iff`: the collected sets hold
  just these names and literals.
-/

set_option autoImplicit false

namespace ModularGrammar

/-! ## Phrases within phrases -/

namespace Phrase

/-- The part is the phrase itself, or lies in an item of it under any number of sequences. -/
inductive Occurs (part : Phrase) : Phrase → Prop
  | self : Occurs part part
  | item {items : List Phrase} {item : Phrase} :
      item ∈ items → Occurs part item → Occurs part (.sequence items)

theorem occurs_sequence_iff {part : Phrase} {items : List Phrase} (hpart : part ≠ .sequence items) :
    part.Occurs (.sequence items) ↔ ∃ item ∈ items, part.Occurs item := by
  constructor
  · intro h
    cases h with
    | self => exact absurd rfl hpart
    | item hmem hocc => exact ⟨_, hmem, hocc⟩
  · intro hitem
    obtain ⟨item, hmem, hocc⟩ := hitem
    exact .item hmem hocc

theorem occurs_leaf_iff {part leaf : Phrase} (hleaf : leaf.IsLeaf) :
    part.Occurs leaf ↔ leaf = part := by
  constructor
  · intro h
    cases h with
    | self => rfl
    | item hmem hocc => exact absurd rfl (hleaf _)
  · intro h
    rw [h]
    exact .self

theorem occurs_iff_exists_at? {part phrase : Phrase} :
    part.Occurs phrase ↔ ∃ place, phrase.at? place = some part := by
  constructor
  · intro h
    induction h with
    | self => exact ⟨[], rfl⟩
    | item hmem _ ih =>
      obtain ⟨i, hi⟩ := List.getElem?_of_mem hmem
      obtain ⟨place, hat⟩ := ih
      exact ⟨i :: place, Option.bind_eq_some_iff.2 ⟨_, hi, hat⟩⟩
  · rintro ⟨place, hat⟩
    induction place generalizing phrase with
    | nil =>
      cases hat
      exact .self
    | cons i place ih =>
      cases phrase with
      | sequence items =>
        obtain ⟨item, hitem, hat⟩ := Option.bind_eq_some_iff.1 hat
        exact .item (List.mem_of_getElem? hitem) (ih hat)
      | _ => cases hat

theorem mem_leaves_iff {leaf phrase : Phrase} :
    leaf ∈ phrase.leaves ↔ leaf.Occurs phrase ∧ leaf.IsLeaf := by
  rw [leaves, List.mem_map, occurs_iff_exists_at?]
  constructor
  · rintro ⟨⟨place, part⟩, hmem, rfl⟩
    obtain ⟨hat, hleaf⟩ := mem_placedLeaves_iff.1 hmem
    exact ⟨⟨place, hat⟩, hleaf⟩
  · rintro ⟨⟨place, hat⟩, hleaf⟩
    exact ⟨(place, leaf), mem_placedLeaves_iff.2 ⟨hat, hleaf⟩, rfl⟩

/-! ## Collecting by a walk -/

section Walking
variable {x : String} {part : Phrase} {visit : NameSet → Phrase → NameSet}

theorem mem_foldl (hvisit : ∀ found leaf, x ∈ visit found leaf ↔ x ∈ found ∨ leaf = part)
    (found : NameSet) (leaves : List Phrase) :
    x ∈ leaves.foldl visit found ↔ x ∈ found ∨ part ∈ leaves := by
  induction leaves generalizing found with
  | nil => simp
  | cons leaf rest ih => rw [List.foldl_cons, ih, hvisit, List.mem_cons, or_assoc, eq_comm]

/-- A visitor that adds a name at just one leaf finds it wherever that leaf lies in the items. -/
theorem mem_walkAll (hpart : part.IsLeaf)
    (hvisit : ∀ found leaf, x ∈ visit found leaf ↔ x ∈ found ∨ leaf = part) (found : NameSet)
    (items : List Phrase) :
    x ∈ walkAll visit found items ↔ x ∈ found ∨ ∃ item ∈ items, part.Occurs item := by
  rw [walkAll_eq_foldl, mem_foldl hvisit, List.mem_flatMap]
  simp only [mem_leaves_iff, hpart, and_true]

end Walking

end Phrase

/-- The part lies in some alternative of the production. -/
def Production.Contains (p : Production) (part : Phrase) : Prop :=
  ∃ alternative ∈ p.alternatives, part.Occurs alternative

theorem NameSet.mem_addReference {x : String} (found : NameSet) (leaf : Phrase) :
    x ∈ found.addReference leaf ↔ x ∈ found ∨ leaf = .nonTerminal x := by
  cases leaf with
  | nonTerminal name =>
    rw [addReference, mem_insert, Phrase.nonTerminal.injEq, or_comm, eq_comm]
  | _ => simp [addReference]

theorem Production.mem_referenced {p : Production} {x : String} :
    x ∈ p.referenced ↔ p.name ≠ x ∧ p.Contains (.nonTerminal x) := by
  have hwalk : x ∈ Phrase.walkAll NameSet.addReference ∅ p.alternatives ↔
      x ∈ (∅ : NameSet) ∨ p.Contains (.nonTerminal x) :=
    Phrase.mem_walkAll (Phrase.isLeaf_nonTerminal x) NameSet.mem_addReference ∅ p.alternatives
  rw [Production.referenced, NameSet.mem_erase, hwalk, and_comm, ne_comm]
  simp only [NameSet.notMem_empty, false_or]

theorem NameSet.mem_addTerminal {s : String} (found : NameSet) (leaf : Phrase) :
    s ∈ found.addTerminal leaf ↔ s ∈ found ∨ leaf = .terminal s := by
  cases leaf with
  | terminal literal =>
    rw [addTerminal, mem_insert, Phrase.terminal.injEq, or_comm, eq_comm]
  | _ => simp [addTerminal]

theorem Production.mem_terminals {p : Production} {s : String} :
    s ∈ p.terminals ↔ p.Contains (.terminal s) := by
  have hwalk : s ∈ Phrase.walkAll NameSet.addTerminal ∅ p.alternatives ↔
      s ∈ (∅ : NameSet) ∨ p.Contains (.terminal s) :=
    Phrase.mem_walkAll (Phrase.isLeaf_terminal s) NameSet.mem_addTerminal ∅ p.alternatives
  rw [Production.terminals, hwalk]
  simp only [NameSet.notMem_empty, false_or]

/-! ## Entries at two places -/

/-- Two entries of the list, at different places, have the property. -/
def Twice {α : Type} (l : List α) (P : α → Prop) : Prop :=
  ∃ a b, [a, b].Sublist l ∧ P a ∧ P b

section Twice
variable {α : Type} {l : List α}

theorem not_twice_iff {P : α → Prop} : ¬ Twice l P ↔ l.Pairwise fun a b => ¬ (P a ∧ P b) := by
  rw [List.pairwise_iff_forall_sublist]
  constructor
  · intro h a b hab hP
    exact h ⟨a, b, hab, hP⟩
  · rintro h ⟨a, b, hab, hP⟩
    exact h hab hP

theorem twice_cons {P : α → Prop} {a : α} :
    Twice (a :: l) P ↔ Twice l P ∨ (P a ∧ ∃ b ∈ l, P b) := by
  constructor
  · intro htwice
    obtain ⟨b, c, hsub, hb, hc⟩ := htwice
    cases hsub with
    | cons _ h => exact .inl ⟨b, c, h, hb, hc⟩
    | cons_cons _ h => exact .inr ⟨hb, c, List.singleton_sublist.1 h, hc⟩
  · rintro (⟨b, c, hsub, hP⟩ | ⟨ha, b, hb, hPb⟩)
    · exact ⟨b, c, hsub.cons a, hP⟩
    · exact ⟨a, b, (List.singleton_sublist.2 hb).cons_cons a, ha, hPb⟩

theorem not_twice_nil {P : α → Prop} : ¬ Twice [] P :=
  not_twice_iff.2 .nil

theorem twice_append {P : α → Prop} {l' : List α} :
    Twice (l ++ l') P ↔ Twice l P ∨ Twice l' P ∨ ((∃ a ∈ l, P a) ∧ ∃ b ∈ l', P b) := by
  induction l with
  | nil => simp [not_twice_nil]
  | cons a l ih =>
    have hmem : (∃ b ∈ l ++ l', P b) ↔ (∃ b ∈ l, P b) ∨ ∃ b ∈ l', P b := by
      simp only [List.mem_append, or_and_right, exists_or]
    rw [List.cons_append, twice_cons, twice_cons, ih, hmem, List.exists_mem_cons_iff]
    grind

theorem twice_congr_of_perm {P : α → Prop} {l' : List α} (h : l.Perm l') : Twice l P ↔ Twice l' P := by
  have hsymm : ∀ {a b : α}, ¬ (P a ∧ P b) → ¬ (P b ∧ P a) := fun hab hba => hab hba.symm
  rw [← not_iff_not, not_twice_iff, not_twice_iff, h.pairwise_iff hsymm]

/-- When no part has a property at two places, the parts one after another have it twice just if two of
the parts have it. -/
theorem twice_flatMap {β : Type} {P : β → Prop} {f : α → List β} (h : ∀ a ∈ l, ¬ Twice (f a) P) :
    Twice (l.flatMap f) P ↔ Twice l fun a => ∃ b ∈ f a, P b := by
  induction l with
  | nil => simp [not_twice_nil]
  | cons a l ih =>
    have hhead := h a List.mem_cons_self
    have htail := ih fun b hb => h b (List.mem_cons_of_mem a hb)
    have hmem : (∃ b ∈ l.flatMap f, P b) ↔ ∃ a ∈ l, ∃ b ∈ f a, P b := by
      simp only [List.mem_flatMap]
      constructor
      · intro hflat
        obtain ⟨b, ⟨a, ha, hb⟩, hP⟩ := hflat
        exact ⟨a, ha, b, hb, hP⟩
      · intro hpart
        obtain ⟨a, ha, b, hb, hP⟩ := hpart
        exact ⟨b, ⟨a, ha, hb⟩, hP⟩
    rw [List.flatMap_cons, twice_append, twice_cons, htail, hmem]
    grind

theorem eq_of_not_twice {P : α → Prop} {a b : α} (h : ¬ Twice l P) (ha : a ∈ l) (hb : b ∈ l)
    (hPa : P a) (hPb : P b) : a = b := by
  induction l with
  | nil => cases ha
  | cons c l ih =>
    rw [twice_cons, not_or] at h
    rcases List.mem_cons.1 ha with rfl | ha'
    · rcases List.mem_cons.1 hb with rfl | hb'
      · rfl
      · exact absurd ⟨hPa, b, hb', hPb⟩ h.2
    · rcases List.mem_cons.1 hb with rfl | hb'
      · exact absurd ⟨hPb, a, ha', hPa⟩ h.2
      · exact ih h.1 ha' hb'

theorem twice_iff_count {f : α → String} {x : String} :
    (Twice l fun a => f a = x) ↔ 1 < (l.map f).count x := by
  induction l with
  | nil => simp [not_twice_nil]
  | cons a l ih =>
    have hmem : (∃ b ∈ l, f b = x) ↔ 0 < (l.map f).count x := by
      rw [List.count_pos_iff, List.mem_map]
    rw [twice_cons, ih, hmem, List.map_cons, List.count_cons]
    by_cases h : f a = x
    · rw [if_pos (by simpa using h)]
      simp only [h, true_and]
      omega
    · rw [if_neg (by simpa using h)]
      simp [h]

end Twice

/-! ## The names of a grammar -/

def NameSet.members (s : NameSet) : Set String := {x | x ∈ s}

@[simp] theorem NameSet.mem_members {s : NameSet} {x : String} : x ∈ s.members ↔ x ∈ s := Iff.rfl

theorem NameSet.eq_of_members {s t : NameSet} (h : s.members = t.members) : s = t :=
  NameSet.ext fun x => Set.ext_iff.1 h x

namespace Grammar

def definitions (g : Grammar) : Set String := {x | ∃ p ∈ g.productions, p.name = x}

/-- The names that a production of another name refers to. -/
def references (g : Grammar) : Set String :=
  {x | ∃ p ∈ g.productions, p.name ≠ x ∧ p.Contains (.nonTerminal x)}

/-- The names that two or more productions carry. -/
def repeated (g : Grammar) : Set String := {x | Twice g.productions fun p => p.name = x}

/-- No two productions carry the same name. -/
def Distinct (g : Grammar) : Prop := g.productions.Pairwise fun p q => p.name ≠ q.name

instance (g : Grammar) : Decidable g.Distinct :=
  inferInstanceAs (Decidable (g.productions.Pairwise fun p q => p.name ≠ q.name))

theorem mem_names_iff {g : Grammar} {x : String} : x ∈ g.names ↔ x ∈ g.definitions :=
  mem_names

theorem mem_referenced_iff {g : Grammar} {x : String} : x ∈ g.referenced ↔ x ∈ g.references := by
  simp only [mem_referenced, Production.mem_referenced]
  rfl

theorem mem_terminals_iff {g : Grammar} {s : String} :
    s ∈ g.terminals ↔ ∃ p ∈ g.productions, p.Contains (.terminal s) := by
  simp only [mem_terminals, Production.mem_terminals]

theorem mem_redefined_iff {g : Grammar} {x : String} : x ∈ g.redefined ↔ x ∈ g.repeated := by
  rw [mem_redefined]
  exact twice_iff_count.symm

theorem repeated_eq_empty_iff (g : Grammar) : g.repeated = ∅ ↔ g.Distinct := by
  have hpair : g.repeated = ∅ ↔ ∀ x, ¬ Twice g.productions fun p => p.name = x :=
    Set.eq_empty_iff_forall_notMem
  simp only [hpair, not_twice_iff, Distinct, List.pairwise_iff_forall_sublist]
  constructor
  · intro h p q hpq hname
    exact h q.name hpq ⟨hname, rfl⟩
  · rintro h x p q hpq ⟨hp, hq⟩
    exact h hpq (hp.trans hq.symm)

theorem distinct_iff_notMem_repeated {g : Grammar} : g.Distinct ↔ ∀ x, x ∉ g.repeated := by
  rw [← repeated_eq_empty_iff, Set.eq_empty_iff_forall_notMem]

end Grammar

end ModularGrammar
