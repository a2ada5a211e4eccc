import Mathlib.Data.List.Nodup
import Mathlib.Data.Set.Function
import ModularGrammar.Proofs.Inference

/-! # Renaming

Verification does not depend on how names are spelt. A renaming that keeps apart the names in use carries
each answer over to the renamed grammar and declaration, whatever it does to the order of the names.

* `Phrase.rename`, `Grammar.rename`, `Interface.rename`: the names replaced, literals and comments kept;
* `Grammar.vocabulary`, `Interface.vocabulary`: the names in use;
* `Grammar.offenders_rename`: the offending names are renamed along;
* `Grammar.verify_rename`: so are the answers of verification and inference.
-/

set_option autoImplicit false

namespace ModularGrammar

/-! ## Renamed grammars -/

namespace Phrase

mutual

def rename (f : String → String) : Phrase → Phrase
  | .empty => .empty
  | .comment text => .comment text
  | .terminal literal => .terminal literal
  | .nonTerminal name => .nonTerminal (f name)
  | .sequence items => .sequence (renameAll f items)

def renameAll (f : String → String) : List Phrase → List Phrase
  | [] => []
  | phrase :: rest => rename f phrase :: renameAll f rest

end

theorem renameAll_eq_map (f : String → String) (items : List Phrase) :
    renameAll f items = items.map (rename f) := by
  induction items with
  | nil => rfl
  | cons item rest ih => rw [renameAll, ih, List.map_cons]

end Phrase

def Production.rename (f : String → String) (p : Production) : Production :=
  ⟨f p.name, Phrase.renameAll f p.alternatives⟩

def Grammar.rename (f : String → String) (g : Grammar) : Grammar :=
  ⟨g.productions.map (Production.rename f)⟩

def NameSet.image (f : String → String) (s : NameSet) : NameSet := .ofList (s.toList.map f)

def Interface.rename (f : String → String) (i : Interface) : Interface :=
  ⟨i.imports.image f, i.exports.image f⟩

/-- The names of the productions and of the leaves that refer to a name. -/
def Grammar.vocabulary (g : Grammar) : Set String :=
  {x | ∃ p ∈ g.productions, p.name = x ∨ p.Contains (.nonTerminal x)}

def Interface.vocabulary (i : Interface) : Set String := i.imports.members ∪ i.exports.members

section Renaming
variable {f : String → String}

/-! ## Renamed occurrences -/

namespace Phrase

theorem Occurs.rename {part phrase : Phrase} (h : part.Occurs phrase) :
    (part.rename f).Occurs (phrase.rename f) := by
  induction h with
  | self => exact .self
  | item hmem _ ih =>
    refine .item ?_ ih
    rw [renameAll_eq_map]
    exact List.mem_map_of_mem hmem

/-- The parts of a renamed phrase are the renamed parts of the phrase. -/
theorem occurs_rename_iff {part phrase : Phrase} :
    part.Occurs (phrase.rename f) ↔
      ∃ original : Phrase, original.rename f = part ∧ original.Occurs phrase := by
  constructor
  · intro h
    generalize hrenamed : phrase.rename f = renamed at h
    induction h generalizing phrase with
    | self => exact ⟨phrase, hrenamed, .self⟩
    | item hmem _ ih =>
      cases phrase with
      | sequence items =>
        rw [Phrase.rename, renameAll_eq_map, Phrase.sequence.injEq] at hrenamed
        rw [← hrenamed] at hmem
        obtain ⟨item, hitem, heq⟩ := List.mem_map.1 hmem
        obtain ⟨original, horiginal, hocc⟩ := ih heq
        exact ⟨original, horiginal, .item hitem hocc⟩
      | _ => cases hrenamed
  · rintro ⟨original, rfl, hocc⟩
    exact hocc.rename

theorem rename_eq_nonTerminal_iff {phrase : Phrase} {x : String} :
    phrase.rename f = .nonTerminal x ↔ ∃ y, f y = x ∧ phrase = .nonTerminal y := by
  cases phrase <;> simp [rename]

theorem rename_eq_terminal_iff {phrase : Phrase} {literal : String} :
    phrase.rename f = .terminal literal ↔ phrase = .terminal literal := by
  cases phrase <;> simp [rename]

end Phrase

namespace Production
variable {p : Production} {x literal : String}

theorem contains_rename_iff {part : Phrase} :
    (p.rename f).Contains part ↔ ∃ original : Phrase, original.rename f = part ∧ p.Contains original := by
  simp only [Contains, Production.rename, Phrase.renameAll_eq_map, List.mem_map,
    exists_exists_and_eq_and, Phrase.occurs_rename_iff]
  grind

theorem contains_nonTerminal_rename_iff :
    (p.rename f).Contains (.nonTerminal x) ↔ ∃ y, f y = x ∧ p.Contains (.nonTerminal y) := by
  rw [contains_rename_iff]
  simp only [Phrase.rename_eq_nonTerminal_iff]
  grind

theorem contains_terminal_rename_iff :
    (p.rename f).Contains (.terminal literal) ↔ p.Contains (.terminal literal) := by
  rw [contains_rename_iff]
  simp only [Phrase.rename_eq_terminal_iff, exists_eq_left]

end Production

/-! ## Renamed names -/

theorem NameSet.members_image (s : NameSet) : (s.image f).members = f '' s.members := by
  ext x
  simp [image, members]

namespace Grammar
variable {g : Grammar} {declared : Interface} {x : String}

theorem definitions_subset_vocabulary : g.definitions ⊆ g.vocabulary := by
  rintro x ⟨p, hp, hname⟩
  exact ⟨p, hp, .inl hname⟩

theorem references_subset_vocabulary : g.references ⊆ g.vocabulary := by
  rintro x ⟨p, hp, -, hcontains⟩
  exact ⟨p, hp, .inr hcontains⟩

theorem exists_mem_rename {P : Production → Prop} :
    (∃ p ∈ (g.rename f).productions, P p) ↔ ∃ p ∈ g.productions, P (p.rename f) := by
  simp only [rename, List.mem_map, exists_exists_and_eq_and]

theorem definitions_rename : (g.rename f).definitions = f '' g.definitions := by
  ext x
  refine exists_mem_rename.trans ?_
  constructor
  · rintro ⟨p, hp, hname⟩
    exact ⟨p.name, ⟨p, hp, rfl⟩, hname⟩
  · rintro ⟨y, ⟨p, hp, rfl⟩, rfl⟩
    exact ⟨p, hp, rfl⟩

/-- A reference to another production stays one, since the renaming keeps the two names apart. -/
theorem references_rename (hinj : Set.InjOn f g.vocabulary) :
    (g.rename f).references = f '' g.references := by
  ext x
  refine exists_mem_rename.trans ?_
  constructor
  · rintro ⟨p, hp, hname, hcontains⟩
    obtain ⟨y, rfl, hy⟩ := Production.contains_nonTerminal_rename_iff.1 hcontains
    exact ⟨y, ⟨p, hp, fun heq => hname (congrArg f heq), hy⟩, rfl⟩
  · rintro ⟨y, ⟨p, hp, hname, hy⟩, rfl⟩
    refine ⟨p, hp, ?_, Production.contains_nonTerminal_rename_iff.2 ⟨y, rfl, hy⟩⟩
    intro heq
    exact hname (hinj ⟨p, hp, .inl rfl⟩ ⟨p, hp, .inr hy⟩ heq)

theorem repeated_rename (hinj : Set.InjOn f g.vocabulary) :
    (g.rename f).repeated = f '' g.repeated := by
  ext x
  constructor
  · rintro ⟨p', q', hsub, hp', hq'⟩
    obtain ⟨l, hl, heq⟩ := List.sublist_map_iff.1 hsub
    obtain ⟨p, q, rfl, rfl, rfl⟩ : ∃ p q, l = [p, q] ∧ p' = p.rename f ∧ q' = q.rename f := by
      match l, heq with
      | [p, q], heq => simpa using heq
    have hp : p ∈ g.productions := hl.subset (by simp)
    have hq : q ∈ g.productions := hl.subset (by simp)
    have hname : q.name = p.name :=
      hinj ⟨q, hq, .inl rfl⟩ ⟨p, hp, .inl rfl⟩ (hq'.trans hp'.symm)
    exact ⟨p.name, ⟨p, q, hl, rfl, hname⟩, hp'⟩
  · rintro ⟨y, ⟨p, q, hsub, rfl, hq⟩, rfl⟩
    exact ⟨p.rename f, q.rename f, hsub.map _, rfl, congrArg f hq⟩

theorem terminals_rename : (g.rename f).terminals = g.terminals := by
  ext s
  rw [mem_terminals_iff, mem_terminals_iff, exists_mem_rename]
  simp only [Production.contains_terminal_rename_iff]

end Grammar

/-! ## Renamed answers -/

theorem image_sdiff_of_injOn {names s t : Set String} (hinj : Set.InjOn f names) (hs : s ⊆ names)
    (ht : t ⊆ names) : f '' (s \ t) = f '' s \ f '' t := by
  rw [(hinj.mono hs).image_sdiff, hinj.image_inter hs ht, Set.sdiff_self_inter]

/-- A report is renamed by putting the renamed names in order. -/
theorem Violation.Reports.rename {v : Violation} {offenders : ViolationKind → Set String}
    (h : v.Reports offenders) (hinj : Set.InjOn f (offenders v.kind)) :
    ∃ names : List String, names.Perm (v.names.map f) ∧
      (Violation.mk v.kind names).Reports fun kind => f '' offenders kind := by
  have hmem : ∀ x, x ∈ (NameSet.ofList (v.names.map f)).toList ↔ x ∈ v.names.map f :=
    fun x => NameSet.mem_ofList
  refine ⟨(NameSet.ofList (v.names.map f)).toList, ?_, ?_, ?_, NameSet.ascending _, ?_⟩
  · have hnodup : (v.names.map f).Nodup := by
      refine List.Nodup.map_on ?_ (NameSet.nodup_of_ascending h.ascending)
      intro x hx y hy heq
      exact hinj ((h.mem_names x).1 hx) ((h.mem_names y).1 hy) heq
    have hnodup' := NameSet.nodup_of_ascending (NameSet.ofList (v.names.map f)).ascending
    exact (List.perm_ext_iff_of_nodup hnodup' hnodup).2 hmem
  · exact h.nonempty.image f
  · intro earlier hlt
    show f '' offenders earlier = ∅
    rw [h.first earlier hlt, Set.image_empty]
  · intro x
    rw [hmem, List.mem_map]
    simp only [h.mem_names]
    rfl

namespace Grammar
variable {g : Grammar} {declared : Interface}

theorem offenders_rename (hinj : Set.InjOn f (g.vocabulary ∪ declared.vocabulary)) :
    (g.rename f).offenders (declared.rename f) = fun kind => f '' g.offenders declared kind := by
  have hgrammar : Set.InjOn f g.vocabulary := hinj.mono Set.subset_union_left
  have hdefinitions : g.definitions ⊆ g.vocabulary ∪ declared.vocabulary :=
    definitions_subset_vocabulary.trans Set.subset_union_left
  have hreferences : g.references ⊆ g.vocabulary ∪ declared.vocabulary :=
    references_subset_vocabulary.trans Set.subset_union_left
  have himports : declared.imports.members ⊆ g.vocabulary ∪ declared.vocabulary :=
    Set.subset_union_left.trans Set.subset_union_right
  have hexports : declared.exports.members ⊆ g.vocabulary ∪ declared.vocabulary :=
    Set.subset_union_right.trans Set.subset_union_right
  funext kind
  cases kind with
  | redefinition => exact repeated_rename hgrammar
  | missingImport =>
    simp only [offenders, Interface.rename, NameSet.members_image, definitions_rename,
      references_rename hgrammar]
    rw [image_sdiff_of_injOn hinj hreferences (Set.union_subset himports hdefinitions), Set.image_union]
  | uselessImport =>
    simp only [offenders, Interface.rename, NameSet.members_image, definitions_rename,
      references_rename hgrammar]
    rw [Set.image_union, hinj.image_inter himports hdefinitions,
      image_sdiff_of_injOn hinj himports hreferences]
  | missingExport =>
    simp only [offenders, Interface.rename, NameSet.members_image, definitions_rename,
      references_rename hgrammar]
    rw [image_sdiff_of_injOn hinj hdefinitions (Set.union_subset hreferences hexports), Set.image_union]
  | uselessExport =>
    simp only [offenders, Interface.rename, NameSet.members_image, definitions_rename,
      references_rename hgrammar]
    rw [Set.image_union, hinj.image_inter hexports hreferences,
      image_sdiff_of_injOn hinj hexports hdefinitions]

/-- Offending names are in use. -/
theorem offenders_subset_vocabulary (kind : ViolationKind) :
    g.offenders declared kind ⊆ g.vocabulary ∪ declared.vocabulary := by
  intro x hx
  cases kind with
  | redefinition =>
    obtain ⟨p, q, hsub, hname, -⟩ := hx
    exact .inl ⟨p, hsub.subset (by simp), .inl hname⟩
  | missingImport => exact .inl (references_subset_vocabulary hx.1)
  | uselessImport => exact .inr (.inl (hx.elim And.left And.left))
  | missingExport => exact .inl (definitions_subset_vocabulary hx.1)
  | uselessExport => exact .inr (.inr (hx.elim And.left And.left))

theorem infer_rename (hinj : Set.InjOn f g.vocabulary) :
    Interface.infer (g.rename f) = (Interface.infer g).rename f := by
  have himports := image_sdiff_of_injOn hinj references_subset_vocabulary definitions_subset_vocabulary
  have hexports := image_sdiff_of_injOn hinj definitions_subset_vocabulary references_subset_vocabulary
  apply Interface.eq_of_members
  · rw [Interface.members_imports_infer, references_rename hinj, definitions_rename, ← himports,
      ← Interface.members_imports_infer]
    exact (NameSet.members_image _).symm
  · rw [Interface.members_exports_infer, references_rename hinj, definitions_rename, ← hexports,
      ← Interface.members_exports_infer]
    exact (NameSet.members_image _).symm

/-- A renaming that keeps apart the names in use renames the answers: the renamed grammar verifies just if
the grammar does, it fails the same check with the renamed names put in order, and it needs the renamed
interface. Its literals are the same. -/
theorem verify_rename (hinj : Set.InjOn f (g.vocabulary ∪ declared.vocabulary)) :
    ((g.rename f).verify (declared.rename f) = .ok (g.rename f) ↔ g.verify declared = .ok g) ∧
    (∀ v, g.verify declared = .error v → ∃ names : List String,
      (g.rename f).verify (declared.rename f) = .error ⟨v.kind, names⟩ ∧
      names.Pairwise (· < ·) ∧ names.Perm (v.names.map f)) ∧
    Interface.infer (g.rename f) = (Interface.infer g).rename f ∧
    (g.rename f).terminals = g.terminals := by
  refine ⟨?_, ?_, infer_rename (hinj.mono Set.subset_union_left), terminals_rename⟩
  · rw [verify_eq_ok_iff, verify_eq_ok_iff, offenders_rename hinj]
    simp only [Set.image_eq_empty, true_and]
  · intro v hverify
    have hreports := verify_eq_error_iff.1 hverify
    have hinUse : g.offenders declared v.kind ⊆ g.vocabulary ∪ declared.vocabulary :=
      offenders_subset_vocabulary v.kind
    obtain ⟨names, hperm, hrenamed⟩ := hreports.rename (hinj.mono hinUse)
    rw [← offenders_rename hinj] at hrenamed
    exact ⟨names, verify_eq_error_iff.2 hrenamed, hrenamed.ascending, hperm⟩

/-- A suffix puts a name after those that continue it, so the missing imports change places. -/
theorem verify_rename_of_suffix :
    Set.InjOn (· ++ "z")
      (Grammar.vocabulary ⟨[⟨"C", [.ref "A", .seq [.ref "AB", .ref "C"]]⟩]⟩ ∪
        Interface.vocabulary (.ofLists [] ["C"])) ∧
    Grammar.verify ⟨[⟨"C", [.ref "A", .seq [.ref "AB", .ref "C"]]⟩]⟩ (.ofLists [] ["C"]) =
      .error ⟨.missingImport, ["A", "AB"]⟩ ∧
    ∃ names : List String,
      Grammar.verify (Grammar.rename (· ++ "z") ⟨[⟨"C", [.ref "A", .seq [.ref "AB", .ref "C"]]⟩]⟩)
        (Interface.rename (· ++ "z") (.ofLists [] ["C"])) = .error ⟨.missingImport, names⟩ ∧
      names.Pairwise (· < ·) ∧ names.Perm ["Az", "ABz"] := by
  have hinj : Function.Injective fun x : String => x ++ "z" := by
    intro x y heq
    simpa using heq
  have hverify : Grammar.verify ⟨[⟨"C", [.ref "A", .seq [.ref "AB", .ref "C"]]⟩]⟩ (.ofLists [] ["C"]) =
      .error ⟨.missingImport, ["A", "AB"]⟩ := rfl
  exact ⟨hinj.injOn, hverify, (verify_rename hinj.injOn).2.1 _ hverify⟩

end Grammar

end Renaming

end ModularGrammar
