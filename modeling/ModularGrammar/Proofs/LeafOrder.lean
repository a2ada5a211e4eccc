import ModularGrammar.Symbols

/-! # Leaves from left to right

A walk passes its state through the leaves of a phrase, each of them once and in the order in which they
stand there. The order is told by the places of the leaves.

* `Phrase.at?`: the part of a phrase at a place, and `Phrase.IsLeaf`: it is no sequence;
* `Phrase.placedLeaves`, `Phrase.leaves`: the leaves in their order, `mem_placedLeaves_iff` and
  `ascending_placedLeaves`: just the leaves, and each at its place;
* `Phrase.walk_eq_foldl`: a walk is a fold over the leaves;
* `Phrase.guarded`, `Phrase.walk_guarded`: a visitor that fails at sequences does not fail in a walk;
* `Phrase.walk_visits_leaves`: all of these, and what the collectors get from it.
-/

set_option autoImplicit false

namespace ModularGrammar.Phrase

/-! ## Places -/

/-- Anything but a sequence. -/
def IsLeaf (phrase : Phrase) : Prop := ∀ items, phrase ≠ .sequence items

theorem isLeaf_terminal (literal : String) : (terminal literal).IsLeaf := by
  intro items h
  cases h

theorem isLeaf_nonTerminal (name : String) : (nonTerminal name).IsLeaf := by
  intro items h
  cases h

/-- The part of a phrase at a place. A place tells which item to go into, sequence by sequence and from the
outermost one inwards. -/
def at? : Phrase → List Nat → Option Phrase
  | phrase, [] => some phrase
  | .sequence items, i :: place => items[i]?.bind fun item => item.at? place
  | _, _ :: _ => none

mutual

/-- The leaves of a phrase from left to right, each with its place. -/
def placedLeaves : Phrase → List (List Nat × Phrase)
  | .sequence items => placedLeavesFrom 0 items
  | .empty => [([], .empty)]
  | .comment text => [([], .comment text)]
  | .terminal literal => [([], .terminal literal)]
  | .nonTerminal name => [([], .nonTerminal name)]

/-- The leaves of items, of which the first is the item of the given number in a sequence. -/
def placedLeavesFrom (i : Nat) : List Phrase → List (List Nat × Phrase)
  | [] => []
  | item :: rest => item.placedLeaves.map (Prod.map (i :: ·) id) ++ placedLeavesFrom (i + 1) rest

end

def leaves (phrase : Phrase) : List Phrase := phrase.placedLeaves.map Prod.snd

-- An empty sequence has no leaf, but takes a number.
example : (seq [.lit "a", .seq [], .seq [.empty, .seq [.ref "b"]]]).placedLeaves =
    [([0], .lit "a"), ([2, 0], .empty), ([2, 1, 0], .ref "b")] := by decide

theorem placedLeaves_of_isLeaf {leaf : Phrase} (h : leaf.IsLeaf) : leaf.placedLeaves = [([], leaf)] := by
  cases leaf with
  | sequence items => exact absurd rfl (h items)
  | _ => rfl

theorem map_snd_placedLeavesFrom (i : Nat) (items : List Phrase) :
    (placedLeavesFrom i items).map Prod.snd = items.flatMap leaves := by
  induction items generalizing i with
  | nil => rfl
  | cons item rest ih =>
    rw [placedLeavesFrom, List.map_append, ih, List.map_map, List.flatMap_cons]
    rfl

theorem leaves_sequence (items : List Phrase) : (sequence items).leaves = items.flatMap leaves := by
  rw [leaves, placedLeaves, map_snd_placedLeavesFrom]

theorem at?_of_isLeaf {phrase part : Phrase} {place : List Nat} (h : phrase.IsLeaf) :
    phrase.at? place = some part ↔ place = [] ∧ phrase = part := by
  cases place with
  | nil => simp [at?]
  | cons i place =>
    cases phrase with
    | sequence items => exact absurd rfl (h items)
    | _ => simp [at?]

theorem mem_placedLeavesFrom_iff {place : List Nat} {leaf : Phrase} {i : Nat} {items : List Phrase} :
    (place, leaf) ∈ placedLeavesFrom i items ↔
      ∃ k rest item, place = (i + k) :: rest ∧ items[k]? = some item ∧ (rest, leaf) ∈ item.placedLeaves := by
  induction items generalizing i with
  | nil => simp [placedLeavesFrom]
  | cons item items ih =>
    rw [placedLeavesFrom, List.mem_append, ih]
    constructor
    · rintro (hitem | ⟨k, rest, next, rfl, hnext, hmem⟩)
      · obtain ⟨⟨rest, part⟩, hmem, heq⟩ := List.mem_map.1 hitem
        cases heq
        exact ⟨0, rest, item, rfl, rfl, hmem⟩
      · exact ⟨k + 1, rest, next, by rw [Nat.add_right_comm, Nat.add_assoc], hnext, hmem⟩
    · rintro ⟨k, rest, next, rfl, hnext, hmem⟩
      cases k with
      | zero =>
        cases hnext
        exact .inl (List.mem_map_of_mem (f := Prod.map (i :: ·) id) hmem)
      | succ k => exact .inr ⟨k, rest, next, by rw [Nat.add_right_comm, Nat.add_assoc], hnext, hmem⟩

theorem mem_placedLeaves_of_isLeaf {place : List Nat} {leaf phrase : Phrase} (h : phrase.IsLeaf) :
    (place, leaf) ∈ phrase.placedLeaves ↔ phrase.at? place = some leaf ∧ leaf.IsLeaf := by
  rw [placedLeaves_of_isLeaf h, at?_of_isLeaf h, List.mem_singleton, Prod.mk.injEq]
  constructor
  · rintro ⟨rfl, rfl⟩
    exact ⟨⟨rfl, rfl⟩, h⟩
  · rintro ⟨⟨rfl, rfl⟩, -⟩
    exact ⟨rfl, rfl⟩

/-- Every listed leaf stands at its place, and every place at which a leaf stands is listed. -/
theorem mem_placedLeaves_iff {place : List Nat} {leaf phrase : Phrase} :
    (place, leaf) ∈ phrase.placedLeaves ↔ phrase.at? place = some leaf ∧ leaf.IsLeaf := by
  -- The induction is on the place, since each sequence takes one number off it on either side.
  induction place generalizing phrase with
  | nil =>
    cases phrase with
    | sequence items =>
      constructor
      · intro hmem
        obtain ⟨k, rest, item, hplace, -, -⟩ := mem_placedLeavesFrom_iff.1 hmem
        cases hplace
      · rintro ⟨hat, hleaf⟩
        cases hat
        exact absurd rfl (hleaf items)
    | _ => exact mem_placedLeaves_of_isLeaf (by intro items h; cases h)
  | cons i place ih =>
    cases phrase with
    | sequence items =>
      constructor
      · intro hmem
        obtain ⟨k, rest, item, hplace, hitem, hmem⟩ := mem_placedLeavesFrom_iff.1 hmem
        rw [Nat.zero_add] at hplace
        cases hplace
        obtain ⟨hat, hleaf⟩ := ih.1 hmem
        exact ⟨Option.bind_eq_some_iff.2 ⟨item, hitem, hat⟩, hleaf⟩
      · rintro ⟨hat, hleaf⟩
        obtain ⟨item, hitem, hat⟩ := Option.bind_eq_some_iff.1 hat
        exact mem_placedLeavesFrom_iff.2
          ⟨i, place, item, by rw [Nat.zero_add], hitem, ih.2 ⟨hat, hleaf⟩⟩
    | _ => exact mem_placedLeaves_of_isLeaf (by intro items h; cases h)

theorem isLeaf_of_mem_leaves {leaf phrase : Phrase} (h : leaf ∈ phrase.leaves) : leaf.IsLeaf := by
  obtain ⟨⟨place, part⟩, hmem, rfl⟩ := List.mem_map.1 h
  exact (mem_placedLeaves_iff.1 hmem).2

mutual

theorem ascending_placedLeaves : ∀ phrase : Phrase,
    phrase.placedLeaves.Pairwise fun a b => a.1 < b.1
  | .sequence items => ascending_placedLeavesFrom 0 items
  | .empty => List.pairwise_singleton _ _
  | .comment _ => List.pairwise_singleton _ _
  | .terminal _ => List.pairwise_singleton _ _
  | .nonTerminal _ => List.pairwise_singleton _ _

theorem ascending_placedLeavesFrom : ∀ (i : Nat) (items : List Phrase),
    (placedLeavesFrom i items).Pairwise fun a b => a.1 < b.1
  | _, [] => .nil
  | i, item :: rest => by
      rw [placedLeavesFrom, List.pairwise_append, List.pairwise_map]
      refine ⟨?_, ascending_placedLeavesFrom (i + 1) rest, ?_⟩
      · refine (ascending_placedLeaves item).imp fun {a b} hab => ?_
        exact List.cons_lt_cons_iff.2 (.inr ⟨rfl, hab⟩)
      · -- Places in the first item begin with its number, and those in later items with a greater one.
        rintro a ha ⟨place, leaf⟩ hb
        obtain ⟨a, ha, rfl⟩ := List.mem_map.1 ha
        obtain ⟨k, later, next, rfl, -, -⟩ := mem_placedLeavesFrom_iff.1 hb
        exact List.cons_lt_cons_iff.2 (.inl (by omega))

end

/-! ## Walks as folds -/

section Walking
variable {σ : Type} (visit : σ → Phrase → σ)

mutual

theorem walk_eq_foldl : ∀ (state : σ) (phrase : Phrase),
    walk visit state phrase = phrase.leaves.foldl visit state
  | state, .sequence items => by rw [walk, walkAll_eq_foldl state items, leaves_sequence]
  | _, .empty => rfl
  | _, .comment _ => rfl
  | _, .terminal _ => rfl
  | _, .nonTerminal _ => rfl

theorem walkAll_eq_foldl : ∀ (state : σ) (items : List Phrase),
    walkAll visit state items = (items.flatMap leaves).foldl visit state
  | _, [] => rfl
  | state, item :: rest => by
      rw [walkAll, walk_eq_foldl state item, walkAll_eq_foldl _ rest, List.flatMap_cons,
        List.foldl_append]

end

theorem walkAll_eq_foldl_walk (state : σ) (items : List Phrase) :
    walkAll visit state items = items.foldl (walk visit) state := by
  induction items generalizing state with
  | nil => rfl
  | cons item rest ih => exact ih (walk visit state item)

/-! ## Visitors that fail at sequences -/

/-- Visits a leaf as before, and fails where it is passed a sequence. -/
def guarded : Option σ → Phrase → Option σ
  | _, .sequence _ => none
  | state, leaf => state.map fun state => visit state leaf

theorem guarded_of_isLeaf {leaf : Phrase} (h : leaf.IsLeaf) (state : Option σ) :
    guarded visit state leaf = state.map fun state => visit state leaf := by
  cases leaf with
  | sequence items => exact absurd rfl (h items)
  | _ => rfl

theorem foldl_guarded {parts : List Phrase} (h : ∀ part ∈ parts, part.IsLeaf) (state : σ) :
    parts.foldl (guarded visit) (some state) = some (parts.foldl visit state) := by
  induction parts generalizing state with
  | nil => rfl
  | cons part rest ih =>
    obtain ⟨hpart, hrest⟩ := List.forall_mem_cons.1 h
    rw [List.foldl_cons, guarded_of_isLeaf visit hpart, Option.map_some, ih hrest, List.foldl_cons]

theorem walk_guarded (state : σ) (phrase : Phrase) :
    walk (guarded visit) (some state) phrase = some (walk visit state phrase) := by
  rw [walk_eq_foldl, walk_eq_foldl, foldl_guarded]
  exact fun leaf => isLeaf_of_mem_leaves

theorem walkAll_guarded (state : σ) (items : List Phrase) :
    walkAll (guarded visit) (some state) items = some (walkAll visit state items) :=
  walk_guarded visit state (.sequence items)

end Walking

/-! ## What is visited -/

/-- A walk gives what folding over the leaves from left to right gives, for every visitor, also for one that
fails when it is passed a sequence. The leaves are listed by ascending places, and there is one of them just
at the places where a leaf stands, so each of them is visited once, in order and at every depth. Walking a
sequence is walking its items one after another. Hence the collectors never pass a sequence to their
visitors. -/
theorem walk_visits_leaves :
    (∀ (σ : Type) (visit : σ → Phrase → σ) (state : σ) (phrase : Phrase),
      walk visit state phrase = phrase.leaves.foldl visit state ∧
      walk (guarded visit) (some state) phrase = some (walk visit state phrase)) ∧
    (∀ phrase : Phrase, phrase.leaves = phrase.placedLeaves.map Prod.snd ∧
      (phrase.placedLeaves.Pairwise fun a b => a.1 < b.1) ∧
      ∀ place leaf, (place, leaf) ∈ phrase.placedLeaves ↔ phrase.at? place = some leaf ∧ leaf.IsLeaf) ∧
    (∀ (σ : Type) (visit : σ → Phrase → σ) (state : σ) (items : List Phrase),
      walk visit state (.sequence items) = items.foldl (walk visit) state) ∧
    ∀ p : Production,
      walkAll (guarded NameSet.addTerminal) (some ∅) p.alternatives = some p.terminals ∧
      (walkAll (guarded NameSet.addReference) (some ∅) p.alternatives).map (fun found => found.erase p.name) =
        some p.referenced := by
  refine ⟨?_, ?_, ?_, ?_⟩
  · intro σ visit state phrase
    exact ⟨walk_eq_foldl visit state phrase, walk_guarded visit state phrase⟩
  · intro phrase
    exact ⟨rfl, ascending_placedLeaves phrase, fun place leaf => mem_placedLeaves_iff⟩
  · intro σ visit state items
    exact walkAll_eq_foldl_walk visit state items
  · intro p
    refine ⟨walkAll_guarded NameSet.addTerminal ∅ p.alternatives, ?_⟩
    rw [walkAll_guarded, Option.map_some, Production.referenced]

end ModularGrammar.Phrase
