import Mathlib.Data.String.Basic
import Mathlib.Data.List.Induction
import ModularGrammar.LogFilter

/-! # What a log filter shows

Of the directives that cover an event the most specific one decides, and the last one among equally
specific ones.

* `Directive.Covers`: what a directive asks of the target and the fields of an event;
* `Directive.AsSpecificAs`: the order of directives, which is total;
* `LogFilter.Enables`: there is a deciding directive, and it admits the level;
* `LogFilter.shows_iff_enables`: a filter shows just the events that it enables.
-/

set_option autoImplicit false

namespace ModularGrammar

/-! ## Directives -/

namespace Directive

/-- The directive names no span, its target begins the target of the event, and its field is one of the
event without a value asked for. -/
structure Covers (d : Directive) (target : String) (fields : List String) : Prop where
  no_span : d.span = none
  target_begins : ∀ start, d.target = some start → start.toList <+: target.toList
  has_field : ∀ test, d.field = some test → test.value = none ∧ test.name ∈ fields

/-- The directive has the longer target, or one as long and a field that does not come before. -/
def AsSpecificAs (d other : Directive) : Prop :=
  other.reach < d.reach ∨ other.reach = d.reach ∧ other.fieldKey ≤ d.fieldKey

theorem applies_iff_covers {d : Directive} {e : Event} :
    d.applies e = true ↔ d.Covers e.target e.fieldNames := by
  obtain ⟨target, span, field, threshold⟩ := d
  constructor
  · intro h
    simp only [applies, Bool.and_eq_true] at h
    obtain ⟨⟨hspan, htarget⟩, hfield⟩ := h
    refine ⟨Option.isNone_iff_eq_none.1 hspan, ?_, ?_⟩
    · rintro start rfl
      exact List.isPrefixOf_iff_prefix.1 htarget
    · rintro test rfl
      simpa using hfield
  · rintro ⟨rfl, htarget, hfield⟩
    cases target <;> cases field <;> simp_all [applies]

theorem overrides_iff {d earlier : Directive} : d.overrides earlier = true ↔ d.AsSpecificAs earlier := by
  unfold overrides AsSpecificAs
  split
  next h => simp [h]
  next h =>
    simp only [decide_eq_true_eq]
    omega

theorem AsSpecificAs.trans {c d e : Directive} (hcd : c.AsSpecificAs d) (hde : d.AsSpecificAs e) :
    c.AsSpecificAs e := by
  rcases hcd with hcd | ⟨hcd, hkey⟩
  · rcases hde with hde | ⟨hde, -⟩
    · exact .inl (hde.trans hcd)
    · exact .inl (hde ▸ hcd)
  · rcases hde with hde | ⟨hde, hkey'⟩
    · exact .inl (hcd ▸ hde)
    · exact .inr ⟨hde.trans hcd, hkey'.trans hkey⟩

theorem asSpecificAs_total (d e : Directive) : d.AsSpecificAs e ∨ e.AsSpecificAs d := by
  rcases Nat.lt_trichotomy d.reach e.reach with h | h | h
  · exact .inr (.inl h)
  · rcases le_total d.fieldKey e.fieldKey with hkey | hkey
    · exact .inr (.inr ⟨h, hkey⟩)
    · exact .inl (.inr ⟨h.symm, hkey⟩)
  · exact .inl (.inl h)

end Directive

/-! ## The directive that decides -/

/-- The directive is in the list, as specific as those before it and more specific than those after it. -/
def Decides (directives : List Directive) (d : Directive) : Prop :=
  ∃ before after, directives = before ++ d :: after ∧ (∀ b ∈ before, d.AsSpecificAs b) ∧
    ∀ a ∈ after, ¬ a.AsSpecificAs d

section Deciding
variable {directives : List Directive} {c d : Directive}

/-- A further directive decides if it is as specific as the one that decided before. -/
theorem Decides.concat_self (h : Decides directives c) (hd : d.AsSpecificAs c) :
    Decides (directives ++ [d]) d := by
  obtain ⟨before, after, rfl, hbefore, hafter⟩ := h
  refine ⟨before ++ c :: after, [], rfl, ?_, by simp⟩
  intro b hb
  rcases List.mem_append.1 hb with hb | hb
  · exact hd.trans (hbefore b hb)
  · rcases List.mem_cons.1 hb with rfl | hb
    · exact hd
    · have hc := (Directive.asSpecificAs_total c b).resolve_right (hafter b hb)
      exact hd.trans hc

theorem Decides.concat_other (h : Decides directives c) (hd : ¬ d.AsSpecificAs c) :
    Decides (directives ++ [d]) c := by
  obtain ⟨before, after, rfl, hbefore, hafter⟩ := h
  refine ⟨before, after ++ [d], by simp, hbefore, ?_⟩
  intro a ha
  rcases List.mem_append.1 ha with ha | ha
  · exact hafter a ha
  · rw [List.mem_singleton.1 ha]
    exact hd

theorem Decides.unique (hc : Decides directives c) (hd : Decides directives d) : c = d := by
  obtain ⟨before, after, rfl, hbefore, hafter⟩ := hc
  obtain ⟨before', after', heq, hbefore', hafter'⟩ := hd
  rcases List.append_eq_append_iff.1 heq with ⟨between, rfl, htail⟩ | ⟨between, rfl, htail⟩
  · cases between with
    | nil => exact (List.cons.inj htail).1
    | cons b between =>
      obtain ⟨rfl, rfl⟩ := List.cons.inj htail
      exact absurd (hbefore' c (by simp)) (hafter d (by simp))
  · cases between with
    | nil => exact (List.cons.inj htail).1.symm
    | cons b between =>
      obtain ⟨rfl, rfl⟩ := List.cons.inj htail
      exact absurd (hbefore d (by simp)) (hafter' c (by simp))

end Deciding

namespace LogFilter

/-- The better of the directive that decides so far, if there is one, and a further one. -/
def better (best : Option Directive) (d : Directive) : Option Directive :=
  match best with
  | none => some d
  | some b => if d.overrides b then some d else some b

theorem better_some (c d : Directive) :
    better (some c) d = if d.overrides c then some d else some c := rfl

theorem deciding?_eq (f : LogFilter) (e : Event) :
    f.deciding? e = (f.directives.filter (·.applies e)).foldl better none := rfl

/-- What is known of the best directive so far: there is none only before the first. -/
def DecidedBy (directives : List Directive) : Option Directive → Prop
  | none => directives = []
  | some d => Decides directives d

theorem DecidedBy.better {directives : List Directive} {best : Option Directive}
    (h : DecidedBy directives best) (d : Directive) : DecidedBy (directives ++ [d]) (better best d) := by
  cases best with
  | none =>
    obtain rfl : directives = [] := h
    exact ⟨[], [], rfl, by simp, by simp⟩
  | some c =>
    have hc : Decides directives c := h
    rw [better_some]
    by_cases hd : d.overrides c = true
    · rw [if_pos hd]
      exact hc.concat_self (Directive.overrides_iff.1 hd)
    · rw [if_neg hd]
      exact hc.concat_other fun h => hd (Directive.overrides_iff.2 h)

/-- Going through directives one by one finds the one that decides. -/
theorem decidedBy_foldl (directives : List Directive) :
    DecidedBy directives (directives.foldl better none) := by
  induction directives using List.reverseRecOn with
  | nil => rfl
  | append_singleton directives d ih =>
    rw [List.foldl_append]
    exact ih.better d

/-! ## The events that are enabled -/

/-- Among the directives that cover the target and the fields, the most specific one admits the level. It
is as specific as those before it and more specific than those after it. -/
def Enables (f : LogFilter) (target : String) (fields : List String) (level : Level) : Prop :=
  ∃ before d after, f.directives = before ++ d :: after ∧ d.Covers target fields ∧
    (∀ b ∈ before, b.Covers target fields → d.AsSpecificAs b) ∧
    (∀ a ∈ after, a.Covers target fields → ¬ a.AsSpecificAs d) ∧
    d.threshold.admits level = true

theorem enables_iff_exists_decides {f : LogFilter} {e : Event} {level : Level} :
    f.Enables e.target e.fieldNames level ↔
      ∃ d, Decides (f.directives.filter (·.applies e)) d ∧ d.threshold.admits level = true := by
  constructor
  · rintro ⟨before, d, after, hdirectives, hcovers, hbefore, hafter, hadmits⟩
    refine ⟨d, ⟨before.filter (·.applies e), after.filter (·.applies e), ?_, ?_, ?_⟩, hadmits⟩
    · have happlies := Directive.applies_iff_covers.2 hcovers
      rw [hdirectives, List.filter_append, List.filter_cons, if_pos happlies]
    · intro b hb
      obtain ⟨hmem, happlies⟩ := List.mem_filter.1 hb
      exact hbefore b hmem (Directive.applies_iff_covers.1 happlies)
    · intro a ha
      obtain ⟨hmem, happlies⟩ := List.mem_filter.1 ha
      exact hafter a hmem (Directive.applies_iff_covers.1 happlies)
  · rintro ⟨d, ⟨before, after, hfilter, hbefore, hafter⟩, hadmits⟩
    obtain ⟨before', rest, hdirectives, rfl, hrest⟩ := List.filter_eq_append_iff.1 hfilter
    obtain ⟨skipped, after', rfl, hskipped, happlies, rfl⟩ := List.filter_eq_cons_iff.1 hrest
    refine ⟨before' ++ skipped, d, after', by rw [hdirectives, List.append_assoc],
      Directive.applies_iff_covers.1 happlies, ?_, ?_, hadmits⟩
    · intro b hb hcovers
      have hb' := Directive.applies_iff_covers.2 hcovers
      rcases List.mem_append.1 hb with hb | hb
      · exact hbefore b (List.mem_filter.2 ⟨hb, hb'⟩)
      · exact absurd hb' (hskipped b hb)
    · intro a ha hcovers
      exact hafter a (List.mem_filter.2 ⟨ha, Directive.applies_iff_covers.2 hcovers⟩)

/-- A filter shows just the events whose target, fields and level it enables. -/
theorem shows_iff_enables {f : LogFilter} {e : Event} :
    f.shows e = true ↔ f.Enables e.target e.fieldNames e.level := by
  rw [enables_iff_exists_decides, shows, deciding?_eq]
  have hdecided := decidedBy_foldl (f.directives.filter (·.applies e))
  revert hdecided
  cases (f.directives.filter (·.applies e)).foldl better none with
  | none =>
    intro hempty
    rw [show f.directives.filter (·.applies e) = [] from hempty]
    simp [Decides]
  | some d =>
    intro hd
    constructor
    · intro hadmits
      exact ⟨d, hd, hadmits⟩
    · rintro ⟨c, hc, hadmits⟩
      rw [hc.unique hd] at hadmits
      exact hadmits

theorem covers_of_no_field {d : Directive} (hd : d.field = none) {target : String} {fields : List String}
    (h : d.Covers target fields) (fields' : List String) : d.Covers target fields' := by
  refine ⟨h.no_span, h.target_begins, ?_⟩
  intro test htest
  rw [hd] at htest
  cases htest

/-- A filter that asks for no field looks at the target and the level alone. -/
theorem enables_of_no_field {f : LogFilter} (hf : ∀ d ∈ f.directives, d.field = none) {target : String}
    {fields : List String} {level : Level} (h : f.Enables target fields level) (fields' : List String) :
    f.Enables target fields' level := by
  obtain ⟨before, d, after, hdirectives, hcovers, hbefore, hafter, hadmits⟩ := h
  have hfield : ∀ c, c = d ∨ c ∈ before ∨ c ∈ after → c.field = none := by
    intro c hc
    apply hf c
    rw [hdirectives]
    rcases hc with rfl | hc | hc
    · exact List.mem_append_right before List.mem_cons_self
    · exact List.mem_append_left (d :: after) hc
    · exact List.mem_append_right before (List.mem_cons_of_mem d hc)
  refine ⟨before, d, after, hdirectives, covers_of_no_field (hfield d (.inl rfl)) hcovers fields', ?_, ?_,
    hadmits⟩
  · intro b hb hcovers'
    exact hbefore b hb (covers_of_no_field (hfield b (.inr (.inl hb))) hcovers' fields)
  · intro a ha hcovers'
    exact hafter a ha (covers_of_no_field (hfield a (.inr (.inr ha))) hcovers' fields)

end LogFilter

end ModularGrammar
