import Mathlib.Logic.Basic
import ModularGrammar.Proofs.Inference

/-! # Resolving references

In a grammar that verifies, looking a name up is unambiguous: there is one production of each defined
name, and a reference leads either to that production or to an import, never to both and never nowhere.

* `Grammar.filter_name_eq_singleton`, `Grammar.find?_name`: among distinct names a production is the only
  one of its name, so that the first one found is the right one;
* `Grammar.references_resolve`: where each reference leads, and what each production is used for.
-/

set_option autoImplicit false

namespace ModularGrammar.Grammar

variable {g : Grammar} {declared : Interface} {p q : Production} {x : String}

/-! ## Looking names up -/

theorem filter_name_eq_singleton (h : g.Distinct) (hp : p ∈ g.productions) :
    g.productions.filter (·.name == p.name) = [p] := by
  obtain ⟨productions⟩ := g
  induction productions with
  | nil => cases hp
  | cons q rest ih =>
    obtain ⟨hq, hrest⟩ := List.pairwise_cons.1 h
    rcases List.mem_cons.1 hp with rfl | hp
    · have hnone : rest.filter (·.name == p.name) = [] := by
        rw [List.filter_eq_nil_iff]
        intro r hr
        simpa using (hq r hr).symm
      rw [List.filter_cons_of_pos (by simp), hnone]
    · rw [List.filter_cons_of_neg (by simpa using hq p hp)]
      exact ih hrest hp

theorem find?_name (h : g.Distinct) (hp : p ∈ g.productions) : g.find? p.name = some p := by
  rw [find?, ← List.head?_filter, filter_name_eq_singleton h hp]
  rfl

theorem eq_of_name_eq (h : g.Distinct) (hp : p ∈ g.productions) (hq : q ∈ g.productions)
    (hname : p.name = q.name) : p = q := by
  have hfound := find?_name h hp
  rw [hname, find?_name h hq] at hfound
  exact (Option.some.inj hfound).symm

theorem find?_eq_none_iff : g.find? x = none ↔ x ∉ g.definitions := by
  rw [find?, List.find?_eq_none]
  constructor
  · rintro h ⟨p, hp, hname⟩
    exact h p hp (by simpa using hname)
  · intro h p hp hname
    exact h ⟨p, hp, by simpa using hname⟩

/-! ## Uses of a name -/

/-- A reference to a name that is not defined comes from a production of another name. -/
theorem mem_references_of_contains (hp : p ∈ g.productions) (hx : p.Contains (.nonTerminal x))
    (hundefined : x ∉ g.definitions) : x ∈ g.references := by
  refine ⟨p, hp, ?_, hx⟩
  rintro rfl
  exact hundefined ⟨p, hp, rfl⟩

/-- Among distinct names another production is one of another name. -/
theorem name_mem_references_iff (h : g.Distinct) (hp : p ∈ g.productions) :
    p.name ∈ g.references ↔ ∃ q ∈ g.productions, q ≠ p ∧ q.Contains (.nonTerminal p.name) := by
  constructor
  · rintro ⟨q, hq, hname, hcontains⟩
    refine ⟨q, hq, ?_, hcontains⟩
    rintro rfl
    exact hname rfl
  · rintro ⟨q, hq, hother, hcontains⟩
    exact ⟨q, hq, fun hname => hother (eq_of_name_eq h hq hp hname), hcontains⟩

/-! ## Verified grammars -/

/-- Each reference of a verified grammar leads either to an import, which has no production, or to the
only production of its name. Each production is found under its name, and it is either exported and used
by no other, or used by another and not exported. No declared name is idle, and none is declared twice. -/
theorem references_resolve {result : Grammar} (hverified : g.verify declared = .ok result) :
    (∀ p ∈ g.productions, ∀ x, p.Contains (.nonTerminal x) →
      Xor (x ∈ declared.imports ∧ g.find? x = none)
        (x ∉ declared.imports ∧
          ∃ q, g.productions.filter (·.name == x) = [q] ∧ g.find? x = some q)) ∧
    (∀ p ∈ g.productions, g.find? p.name = some p ∧
      Xor (p.name ∈ declared.exports ∧
          ∀ q ∈ g.productions, q ≠ p → ¬ q.Contains (.nonTerminal p.name))
        (p.name ∉ declared.exports ∧
          ∃ q ∈ g.productions, q ≠ p ∧ q.Contains (.nonTerminal p.name))) ∧
    (∀ x ∈ declared.imports, ∃ p ∈ g.productions, p.Contains (.nonTerminal x)) ∧
    (∀ x ∈ declared.exports, ∃ p ∈ g.productions, p.name = x) ∧
    ∀ x, ¬ (x ∈ declared.imports ∧ x ∈ declared.exports) := by
  obtain ⟨rfl, -⟩ := verify_eq_ok_iff.1 hverified
  obtain ⟨hdistinct, rfl⟩ := verify_eq_ok_iff_infer.1 hverified
  refine ⟨?_, ?_, ?_, ?_, ?_⟩
  · intro p hp x hcontains
    rw [xor_iff_or_and_not_and]
    refine ⟨?_, fun hboth => hboth.2.1 hboth.1.1⟩
    by_cases hdefined : x ∈ result.definitions
    · obtain ⟨q, hq, rfl⟩ := hdefined
      have hlocal : q.name ∉ (Interface.infer result).imports :=
        fun himport => (Interface.mem_imports_infer.1 himport).2 ⟨q, hq, rfl⟩
      exact .inr ⟨hlocal, q, filter_name_eq_singleton hdistinct hq, find?_name hdistinct hq⟩
    · have hreferenced := mem_references_of_contains hp hcontains hdefined
      exact .inl ⟨Interface.mem_imports_infer.2 ⟨hreferenced, hdefined⟩, find?_eq_none_iff.2 hdefined⟩
  · intro p hp
    refine ⟨find?_name hdistinct hp, ?_⟩
    rw [xor_iff_or_and_not_and]
    refine ⟨?_, fun hboth => hboth.2.1 hboth.1.1⟩
    by_cases hused : p.name ∈ result.references
    · have hlocal : p.name ∉ (Interface.infer result).exports :=
        fun hexport => (Interface.mem_exports_infer.1 hexport).2 hused
      exact .inr ⟨hlocal, (name_mem_references_iff hdistinct hp).1 hused⟩
    · refine .inl ⟨Interface.mem_exports_infer.2 ⟨⟨p, hp, rfl⟩, hused⟩, ?_⟩
      intro q hq hother hcontains
      exact hused ((name_mem_references_iff hdistinct hp).2 ⟨q, hq, hother, hcontains⟩)
  · intro x himport
    obtain ⟨⟨p, hp, -, hcontains⟩, -⟩ := Interface.mem_imports_infer.1 himport
    exact ⟨p, hp, hcontains⟩
  · intro x hexport
    exact (Interface.mem_exports_infer.1 hexport).1
  · rintro x ⟨himport, hexport⟩
    exact (Interface.mem_exports_infer.1 hexport).2 (Interface.mem_imports_infer.1 himport).1

/-- A list of items that refers to itself: the reference to `list` leads to the production of that name,
which is exported all the same, and the reference to `item` leads to an import. -/
theorem references_resolve_of_recursion :
    (⟨[⟨"list", [.empty, .seq [.ref "item", .ref "list"]]⟩]⟩ : Grammar).verify
        (.ofLists ["item"] ["list"]) =
      .ok ⟨[⟨"list", [.empty, .seq [.ref "item", .ref "list"]]⟩]⟩ ∧
    (⟨"list", [.empty, .seq [.ref "item", .ref "list"]]⟩ : Production).Contains (.nonTerminal "list") ∧
    Xor ("list" ∈ (Interface.ofLists ["item"] ["list"]).imports ∧
        (⟨[⟨"list", [.empty, .seq [.ref "item", .ref "list"]]⟩]⟩ : Grammar).find? "list" = none)
      ("list" ∉ (Interface.ofLists ["item"] ["list"]).imports ∧
        ∃ q, [(⟨"list", [.empty, .seq [.ref "item", .ref "list"]]⟩ : Production)].filter
            (·.name == "list") = [q] ∧
          (⟨[⟨"list", [.empty, .seq [.ref "item", .ref "list"]]⟩]⟩ : Grammar).find? "list" = some q) := by
  have hverified : (⟨[⟨"list", [.empty, .seq [.ref "item", .ref "list"]]⟩]⟩ : Grammar).verify
        (.ofLists ["item"] ["list"]) =
      .ok ⟨[⟨"list", [.empty, .seq [.ref "item", .ref "list"]]⟩]⟩ := rfl
  have hcontains : (⟨"list", [.empty, .seq [.ref "item", .ref "list"]]⟩ : Production).Contains
      (.nonTerminal "list") :=
    ⟨.seq [.ref "item", .ref "list"], by simp, .item (by simp) .self⟩
  exact ⟨hverified, hcontains, (references_resolve hverified).1 _ List.mem_cons_self _ hcontains⟩

end ModularGrammar.Grammar
