/-! # Sets of names

A set of names is kept as the strictly ascending list of its members, so two sets with the same members
are the same value and every listing of a set is in code point order.

* `NameSet`: the type, with its order invariant;
* `NameSet.ofList`, `insert`, `erase`, `filter`, `union`, `diff`: the operations, each pinned down by
  one membership lemma (`mem_ofList`, `mem_insert`, …);
* `NameSet.ext`: sets with the same members are equal.
-/

set_option autoImplicit false

namespace ModularGrammar

/-- A finite set of names, listed in strictly ascending code point order. -/
structure NameSet where
  toList : List String
  ascending : toList.Pairwise (· < ·)
deriving DecidableEq

namespace NameSet

/-! ## Members -/

instance : EmptyCollection NameSet := ⟨⟨[], .nil⟩⟩

instance : Inhabited NameSet := ⟨∅⟩

instance : Membership String NameSet := ⟨fun s x => x ∈ s.toList⟩

instance (x : String) (s : NameSet) : Decidable (x ∈ s) :=
  inferInstanceAs (Decidable (x ∈ s.toList))

def contains (s : NameSet) (x : String) : Bool := decide (x ∈ s)

def size (s : NameSet) : Nat := s.toList.length

def isEmpty (s : NameSet) : Bool := s.toList.isEmpty

theorem mem_def {x : String} {s : NameSet} : x ∈ s ↔ x ∈ s.toList := Iff.rfl

@[simp] theorem mem_toList {x : String} {s : NameSet} : x ∈ s.toList ↔ x ∈ s := Iff.rfl

@[simp] theorem contains_iff {s : NameSet} {x : String} : s.contains x = true ↔ x ∈ s := by
  simp [contains]

@[simp] theorem toList_empty : (∅ : NameSet).toList = [] := rfl

@[simp] theorem notMem_empty (x : String) : x ∉ (∅ : NameSet) := by
  simp [mem_def]

theorem isEmpty_iff {s : NameSet} : s.isEmpty = true ↔ ∀ x, x ∉ s := by
  simp only [isEmpty, List.isEmpty_iff, mem_def]
  exact List.eq_nil_iff_forall_not_mem

/-! ## Extensionality -/

theorem lt_of_not_lt_of_ne {a b : String} (h : ¬ a < b) (hne : a ≠ b) : b < a := by
  by_cases hba : b < a
  · exact hba
  · exact absurd (String.le_antisymm (String.not_lt.1 hba) (String.not_lt.1 h)) hne

/-- An ascending list is determined by its members. -/
theorem eq_of_ascending : ∀ {l m : List String}, l.Pairwise (· < ·) → m.Pairwise (· < ·) →
    (∀ x, x ∈ l ↔ x ∈ m) → l = m
  | [], [], _, _, _ => rfl
  | [], y :: ys, _, _, h => by simpa using h y
  | x :: xs, [], _, _, h => by simpa using h x
  | x :: xs, y :: ys, hl, hm, h => by
      obtain ⟨hx, hxs⟩ := List.pairwise_cons.1 hl
      obtain ⟨hy, hys⟩ := List.pairwise_cons.1 hm
      have hxy : x = y := by
        rcases List.mem_cons.1 ((h x).1 List.mem_cons_self) with e | e
        · exact e
        · rcases List.mem_cons.1 ((h y).2 List.mem_cons_self) with e' | e'
          · exact e'.symm
          · exact absurd (hx y e') (String.lt_asymm (hy x e))
      subst hxy
      have htail : ∀ z, z ∈ xs ↔ z ∈ ys := by
        intro z
        constructor
        · intro hz
          rcases List.mem_cons.1 ((h z).1 (List.mem_cons_of_mem _ hz)) with e | e
          · exact absurd (e ▸ hx z hz) (String.lt_irrefl _)
          · exact e
        · intro hz
          rcases List.mem_cons.1 ((h z).2 (List.mem_cons_of_mem _ hz)) with e | e
          · exact absurd (e ▸ hy z hz) (String.lt_irrefl _)
          · exact e
      rw [eq_of_ascending hxs hys htail]

theorem nodup_of_ascending {l : List String} (h : l.Pairwise (· < ·)) : l.Nodup := by
  rw [List.nodup_iff_pairwise_ne]
  refine h.imp ?_
  rintro x y hlt rfl
  exact String.lt_irrefl x hlt

@[ext] theorem ext {s t : NameSet} (h : ∀ x, x ∈ s ↔ x ∈ t) : s = t := by
  obtain ⟨l, hl⟩ := s
  obtain ⟨m, hm⟩ := t
  have : l = m := eq_of_ascending hl hm h
  subst this
  rfl

/-! ## Adding names -/

/-- Puts a name at its place in an ascending list that may hold it already. -/
def insertAscending (x : String) : List String → List String
  | [] => [x]
  | y :: ys => if x < y then x :: y :: ys else if x = y then y :: ys else y :: insertAscending x ys

theorem mem_insertAscending {x z : String} {l : List String} :
    z ∈ insertAscending x l ↔ z = x ∨ z ∈ l := by
  induction l with
  | nil => simp [insertAscending]
  | cons y ys ih =>
    unfold insertAscending
    split
    · simp
    · split
      next h => subst h; simp
      next => simp only [List.mem_cons, ih]; grind

theorem ascending_insertAscending {x : String} {l : List String} (h : l.Pairwise (· < ·)) :
    (insertAscending x l).Pairwise (· < ·) := by
  induction l with
  | nil => simp [insertAscending]
  | cons y ys ih =>
    obtain ⟨hy, hys⟩ := List.pairwise_cons.1 h
    unfold insertAscending
    split
    next hxy =>
      refine List.pairwise_cons.2 ⟨fun z hz => ?_, h⟩
      rcases List.mem_cons.1 hz with e | e
      · exact e ▸ hxy
      · exact String.lt_trans hxy (hy z e)
    next hxy =>
      split
      · exact h
      next hne =>
        refine List.pairwise_cons.2 ⟨fun z hz => ?_, ih hys⟩
        rcases mem_insertAscending.1 hz with e | e
        · exact e ▸ lt_of_not_lt_of_ne hxy hne
        · exact hy z e

def insert (s : NameSet) (x : String) : NameSet :=
  ⟨insertAscending x s.toList, ascending_insertAscending s.ascending⟩

@[simp] theorem mem_insert {s : NameSet} {x z : String} : z ∈ s.insert x ↔ z = x ∨ z ∈ s :=
  mem_insertAscending

/-- The set of the listed names, which may come in any order and repeat. -/
def ofList (names : List String) : NameSet := names.foldr (fun x s => s.insert x) ∅

@[simp] theorem mem_ofList {names : List String} {z : String} : z ∈ ofList names ↔ z ∈ names := by
  induction names with
  | nil => simp [ofList]
  | cons x xs ih =>
    rw [show ofList (x :: xs) = (ofList xs).insert x from rfl, mem_insert, ih, List.mem_cons]

@[simp] theorem ofList_toList (s : NameSet) : ofList s.toList = s := by
  ext x
  simp

/-! ## Choosing and combining -/

def filter (s : NameSet) (p : String → Bool) : NameSet :=
  ⟨s.toList.filter p, s.ascending.filter p⟩

@[simp] theorem mem_filter {s : NameSet} {p : String → Bool} {z : String} :
    z ∈ s.filter p ↔ z ∈ s ∧ p z = true :=
  List.mem_filter

def erase (s : NameSet) (x : String) : NameSet := s.filter (· != x)

@[simp] theorem mem_erase {s : NameSet} {x z : String} : z ∈ s.erase x ↔ z ∈ s ∧ z ≠ x := by
  simp [erase]

def diff (s t : NameSet) : NameSet := s.filter fun x => !t.contains x

@[simp] theorem mem_diff {s t : NameSet} {z : String} : z ∈ s.diff t ↔ z ∈ s ∧ z ∉ t := by
  simp [diff, contains]

def union (s t : NameSet) : NameSet := s.toList.foldr (fun x u => u.insert x) t

@[simp] theorem mem_union {s t : NameSet} {z : String} : z ∈ s.union t ↔ z ∈ s ∨ z ∈ t := by
  have general : ∀ l : List String,
      z ∈ l.foldr (fun x (u : NameSet) => u.insert x) t ↔ z ∈ l ∨ z ∈ t := by
    intro l
    induction l with
    | nil => simp
    | cons x xs ih => simp [ih, or_assoc]
  exact general s.toList

/-! ## Listing -/

def joined (s : NameSet) : String := ", ".intercalate s.toList

end NameSet

end ModularGrammar
