import Mathlib.Data.Finset.Card
import Mathlib.Data.Finset.SymmDiff
import ModularGrammar.Proofs.Inference

/-! # Repairing a declaration

A declaration that does not fit is repaired one name at a time: pick a name that verification reports and
make the edit that the reported check calls for. Whichever names are picked, such a run ends in the
inferred interface, after as many edits as the declaration has names wrong.

* `Repair`, `Interface.repair`: a reported name with its check, and the edit that it calls for;
* `Grammar.RepairStep`, `Grammar.RepairRun`: one repair, and any number of them one after another;
* `Interface.distance`: how many names two interfaces do not agree on;
* `Interface.mem_drift_repair`: a repair settles its own entry and changes nothing else;
* `Grammar.repairs_converge`: what holds of every run of repairs.
-/

set_option autoImplicit false

namespace ModularGrammar

/-! ## Repairs -/

/-- The two sets of an interface. -/
inductive Side where
  | imports
  | exports
deriving DecidableEq

/-- The set that a check is about. -/
def ViolationKind.side? : ViolationKind → Option Side
  | .redefinition => none
  | .missingImport | .uselessImport => some .imports
  | .missingExport | .uselessExport => some .exports

/-- A name that a check reports. -/
structure Repair where
  kind : ViolationKind
  name : String
deriving DecidableEq

/-- The set that the repair edits, and the name that it adds or removes. -/
def Repair.entry (r : Repair) : Option Side × String := (r.kind.side?, r.name)

/-- Adds or removes the reported name. No interface makes up for a redefinition. -/
def Interface.repair (declared : Interface) (r : Repair) : Interface :=
  match r.kind with
  | .redefinition => declared
  | .missingImport => { declared with imports := declared.imports.insert r.name }
  | .uselessImport => { declared with imports := declared.imports.erase r.name }
  | .missingExport => { declared with exports := declared.exports.insert r.name }
  | .uselessExport => { declared with exports := declared.exports.erase r.name }

namespace Grammar

/-- Verification reports the name, and it is repaired. -/
structure RepairStep (g : Grammar) (declared : Interface) (r : Repair) (next : Interface) : Prop where
  reported : ∃ v, g.verify declared = .error v ∧ v.kind = r.kind ∧ r.name ∈ v.names
  repaired : next = declared.repair r

/-- Repairs made one after another, up to any point. -/
inductive RepairRun (g : Grammar) : Interface → List Repair → Interface → Prop
  | nil {declared : Interface} : RepairRun g declared [] declared
  | cons {start next last : Interface} {r : Repair} {repairs : List Repair} :
      g.RepairStep start r next → RepairRun g next repairs last → RepairRun g start (r :: repairs) last

end Grammar

/-! ## The distance of two interfaces -/

namespace NameSet
variable {s t : NameSet} {x : String}

def toFinset (s : NameSet) : Finset String := s.toList.toFinset

@[simp] theorem mem_toFinset : x ∈ s.toFinset ↔ x ∈ s := by
  simp [toFinset]

theorem toFinset_injective (h : s.toFinset = t.toFinset) : s = t := by
  ext x
  rw [← mem_toFinset, h, mem_toFinset]

/-- The number of names that are in one of two sets alone. -/
def distance (s t : NameSet) : Nat := (symmDiff s.toFinset t.toFinset).card

theorem distance_eq_zero_iff : s.distance t = 0 ↔ s = t := by
  rw [distance, Finset.card_eq_zero, ← Finset.bot_eq_empty, symmDiff_eq_bot]
  exact ⟨toFinset_injective, fun h => h ▸ rfl⟩

/-- To settle one of the names on which two sets differ brings them closer by one. -/
theorem distance_settle {s' : NameSet} (hwrong : ¬ (x ∈ s ↔ x ∈ t)) (hsettled : x ∈ s' ↔ x ∈ t)
    (hother : ∀ y, y ≠ x → (y ∈ s' ↔ y ∈ s)) : s'.distance t + 1 = s.distance t := by
  have hmem : x ∈ symmDiff s.toFinset t.toFinset := by
    simp only [Finset.mem_symmDiff, mem_toFinset]
    grind
  have herase : symmDiff s'.toFinset t.toFinset = (symmDiff s.toFinset t.toFinset).erase x := by
    ext y
    simp only [Finset.mem_symmDiff, Finset.mem_erase, mem_toFinset]
    by_cases hy : y = x
    · subst hy
      simp [hsettled]
    · simp [hy, hother y hy]
  rw [distance, herase, Finset.card_erase_add_one hmem, distance]

theorem distance_insert (hs : x ∉ s) (ht : x ∈ t) : (s.insert x).distance t + 1 = s.distance t := by
  apply distance_settle (x := x)
  · simp [hs, ht]
  · simp [ht]
  · intro y hy
    simp [hy]

theorem distance_erase (hs : x ∈ s) (ht : x ∉ t) : (s.erase x).distance t + 1 = s.distance t := by
  apply distance_settle (x := x)
  · simp [hs, ht]
  · simp [ht]
  · intro y hy
    simp [hy]

end NameSet

namespace Interface
variable {declared fitting : Interface} {r : Repair} {kind : ViolationKind} {x : String}

/-- The number of names on which two interfaces differ, imports and exports taken apart. -/
def distance (i j : Interface) : Nat := i.imports.distance j.imports + i.exports.distance j.exports

theorem distance_eq_zero_iff : declared.distance fitting = 0 ↔ declared = fitting := by
  rw [distance, Nat.add_eq_zero_iff, NameSet.distance_eq_zero_iff, NameSet.distance_eq_zero_iff]
  constructor
  · intro h
    exact Interface.ext h.1 h.2
  · rintro rfl
    exact ⟨rfl, rfl⟩

/-! ## What a repair settles -/

/-- A repair settles its own entry, in whichever way it was wrong, and no other. -/
theorem mem_drift_repair (hr : r.name ∈ fitting.drift declared r.kind) :
    x ∈ fitting.drift (declared.repair r) kind ↔
      x ∈ fitting.drift declared kind ∧ (kind.side?, x) ≠ r.entry := by
  obtain ⟨reported, name⟩ := r
  -- An edit of one set leaves the checks of the other alone, and at all other names its own.
  cases reported <;> cases kind <;>
    simp only [drift, repair, Repair.entry, ViolationKind.side?, Set.mem_sdiff, Set.mem_empty_iff_false,
      NameSet.mem_members, NameSet.mem_insert, NameSet.mem_erase, ne_eq, Prod.mk.injEq,
      Option.some.injEq, reduceCtorEq, false_and, true_and, not_false_eq_true, and_true] at hr ⊢ <;>
    grind

theorem distance_repair (hr : r.name ∈ fitting.drift declared r.kind) :
    (declared.repair r).distance fitting + 1 = declared.distance fitting := by
  obtain ⟨reported, name⟩ := r
  cases reported with
  | redefinition => cases hr
  | missingImport =>
    have h : (declared.imports.insert name).distance fitting.imports + 1 = _ :=
      NameSet.distance_insert hr.2 hr.1
    simp only [distance, repair]
    omega
  | uselessImport =>
    have h : (declared.imports.erase name).distance fitting.imports + 1 = _ :=
      NameSet.distance_erase hr.1 hr.2
    simp only [distance, repair]
    omega
  | missingExport =>
    have h : (declared.exports.insert name).distance fitting.exports + 1 = _ :=
      NameSet.distance_insert hr.2 hr.1
    simp only [distance, repair]
    omega
  | uselessExport =>
    have h : (declared.exports.erase name).distance fitting.exports + 1 = _ :=
      NameSet.distance_erase hr.1 hr.2
    simp only [distance, repair]
    omega

end Interface

namespace Grammar
variable {g : Grammar} {declared start next last : Interface} {r : Repair} {repairs : List Repair}

/-! ## One repair -/

namespace RepairStep

theorem reports_drift (h : g.RepairStep declared r next) (hdistinct : g.Distinct) :
    ∃ v : Violation, v.Reports ((Interface.infer g).drift declared) ∧ v.kind = r.kind ∧
      r.name ∈ v.names := by
  obtain ⟨v, hverify, hkind, hname⟩ := h.reported
  rw [verify_eq_error_iff, offenders_eq_drift hdistinct] at hverify
  exact ⟨v, hverify, hkind, hname⟩

theorem mem_drift (h : g.RepairStep declared r next) (hdistinct : g.Distinct) :
    r.name ∈ (Interface.infer g).drift declared r.kind := by
  obtain ⟨v, hreports, hkind, hname⟩ := h.reports_drift hdistinct
  rw [← hkind]
  exact (hreports.mem_names r.name).1 hname

/-- The check that a repair is for is the first one with anything to report. -/
theorem place_le_of_mem_drift {kind : ViolationKind} {x : String} (h : g.RepairStep declared r next)
    (hdistinct : g.Distinct) (hx : x ∈ (Interface.infer g).drift declared kind) :
    r.kind.place ≤ kind.place := by
  obtain ⟨v, hreports, hkind, -⟩ := h.reports_drift hdistinct
  by_contra hlt
  have hempty := hreports.first kind (by rw [hkind]; omega)
  rw [hempty] at hx
  exact hx

theorem mem_drift_next {kind : ViolationKind} {x : String} (h : g.RepairStep declared r next)
    (hdistinct : g.Distinct) :
    x ∈ (Interface.infer g).drift next kind ↔
      x ∈ (Interface.infer g).drift declared kind ∧ (kind.side?, x) ≠ r.entry := by
  rw [h.repaired, Interface.mem_drift_repair (h.mem_drift hdistinct)]

theorem distance_next (h : g.RepairStep declared r next) (hdistinct : g.Distinct) :
    next.distance (Interface.infer g) + 1 = declared.distance (Interface.infer g) := by
  rw [h.repaired, Interface.distance_repair (h.mem_drift hdistinct)]

end RepairStep

theorem exists_repairStep (hdistinct : g.Distinct) (h : declared ≠ Interface.infer g) :
    ∃ r next, g.RepairStep declared r next := by
  cases hverify : g.verify declared with
  | ok result =>
    obtain ⟨rfl, -⟩ := verify_eq_ok_iff.1 hverify
    exact absurd (verify_eq_ok_iff_infer.1 hverify).2 h
  | error v =>
    have hreports := verify_eq_error_iff.1 hverify
    obtain ⟨x, hx⟩ := hreports.nonempty
    exact ⟨⟨v.kind, x⟩, _, ⟨v, hverify, rfl, (hreports.mem_names x).2 hx⟩, rfl⟩

theorem not_repairStep_infer (hdistinct : g.Distinct) : ¬ g.RepairStep (Interface.infer g) r next := by
  intro h
  have hmem := h.mem_drift hdistinct
  rw [Interface.drift_eq_empty_iff.2 rfl] at hmem
  exact hmem

/-! ## Runs of repairs -/

namespace RepairRun

/-- Each repair of a run is for a name that the declaration had wrong from the start. -/
theorem mem_drift (h : g.RepairRun start repairs last) (hdistinct : g.Distinct) :
    ∀ r ∈ repairs, r.name ∈ (Interface.infer g).drift start r.kind := by
  induction h with
  | nil => intro r hr; cases hr
  | cons hstep _ ih =>
    intro r hr
    rcases List.mem_cons.1 hr with rfl | hr
    · exact hstep.mem_drift hdistinct
    · exact ((hstep.mem_drift_next hdistinct).1 (ih r hr)).1

theorem distance_eq (h : g.RepairRun start repairs last) (hdistinct : g.Distinct) :
    repairs.length + last.distance (Interface.infer g) = start.distance (Interface.infer g) := by
  induction h with
  | nil => exact Nat.zero_add _
  | cons hstep _ ih =>
    have hcloser := hstep.distance_next hdistinct
    rw [List.length_cons]
    omega

theorem kinds_ascending (h : g.RepairRun start repairs last) (hdistinct : g.Distinct) :
    repairs.Pairwise fun r s => r.kind.place ≤ s.kind.place := by
  induction h with
  | nil => exact .nil
  | cons hstep hrest ih =>
    refine List.pairwise_cons.2 ⟨?_, ih⟩
    intro s hs
    have hwrong := (cons hstep hrest).mem_drift hdistinct s (List.mem_cons_of_mem _ hs)
    exact hstep.place_le_of_mem_drift hdistinct hwrong

theorem entries_nodup (h : g.RepairRun start repairs last) (hdistinct : g.Distinct) :
    (repairs.map Repair.entry).Nodup := by
  induction h with
  | nil => exact .nil
  | @cons start next last r repairs hstep hrest ih =>
    rw [List.map_cons, List.nodup_cons]
    refine ⟨?_, ih⟩
    intro hagain
    obtain ⟨s, hs, hentry⟩ := List.mem_map.1 hagain
    -- A second edit of the entry would be for a name that the first one has settled.
    have hlater := (hstep.mem_drift_next hdistinct).1 (hrest.mem_drift hdistinct s hs)
    exact hlater.2 hentry

end RepairRun

theorem exists_repairRun_infer (hdistinct : g.Distinct) (declared : Interface) :
    ∃ repairs, g.RepairRun declared repairs (Interface.infer g) := by
  induction hleft : declared.distance (Interface.infer g) generalizing declared with
  | zero =>
    rw [Interface.distance_eq_zero_iff.1 hleft]
    exact ⟨[], .nil⟩
  | succ left ih =>
    have hne : declared ≠ Interface.infer g := by
      intro heq
      rw [Interface.distance_eq_zero_iff.2 heq] at hleft
      omega
    obtain ⟨r, next, hstep⟩ := exists_repairStep hdistinct hne
    have hcloser := hstep.distance_next hdistinct
    obtain ⟨repairs, hrun⟩ := ih next (by omega)
    exact ⟨r :: repairs, .cons hstep hrun⟩

/-- Over distinct names, a run of repairs never meets a redefinition, goes through the checks in their
order and edits no entry twice. It goes on for as many repairs as there are names wrong at the start, and
then it is at the inferred interface, which verifies. -/
theorem repairs_converge (hdistinct : g.Distinct) (hrun : g.RepairRun start repairs last) :
    (∀ v, g.verify last = .error v → v.kind ≠ .redefinition) ∧
    (∀ r ∈ repairs, r.kind ≠ .redefinition) ∧
    (repairs.Pairwise fun r s => r.kind.place ≤ s.kind.place) ∧
    (repairs.map Repair.entry).Nodup ∧
    repairs.length ≤ start.distance (Interface.infer g) ∧
    (repairs.length < start.distance (Interface.infer g) → ∃ r next, g.RepairStep last r next) ∧
    (repairs.length = start.distance (Interface.infer g) →
      last = Interface.infer g ∧ g.verify last = .ok g ∧ ∀ r next, ¬ g.RepairStep last r next) ∧
    ∃ more, g.RepairRun last more (Interface.infer g) := by
  have hlength := hrun.distance_eq hdistinct
  refine ⟨?_, ?_, hrun.kinds_ascending hdistinct, hrun.entries_nodup hdistinct, by omega, ?_, ?_,
    exists_repairRun_infer hdistinct last⟩
  · intro v hverify hkind
    have hreports := verify_eq_error_iff.1 hverify
    have hnonempty := hreports.nonempty
    rw [offenders_eq_drift hdistinct, hkind] at hnonempty
    exact Set.not_nonempty_empty hnonempty
  · intro r hr hkind
    have hwrong := hrun.mem_drift hdistinct r hr
    rw [hkind] at hwrong
    exact hwrong
  · intro hshort
    apply exists_repairStep hdistinct
    intro hlast
    have hzero := Interface.distance_eq_zero_iff.2 hlast
    omega
  · intro hfull
    have hlast : last = Interface.infer g := Interface.distance_eq_zero_iff.1 (by omega)
    refine ⟨hlast, verify_eq_ok_iff_infer.2 ⟨hdistinct, hlast⟩, ?_⟩
    intro r next
    rw [hlast]
    exact not_repairStep_infer hdistinct

/-- Five names are wrong, one of them both as an import that shadows a definition and as a missing
export, and the useless imports are dropped in descending order. -/
theorem repairs_converge_of_shadowing_import :
    (⟨[⟨"A", [.ref "A", .ref "B"]⟩]⟩ : Grammar).Distinct ∧
    (⟨[⟨"A", [.ref "A", .ref "B"]⟩]⟩ : Grammar).RepairRun (.ofLists ["A", "C"] ["B"])
      [⟨.missingImport, "B"⟩, ⟨.uselessImport, "C"⟩, ⟨.uselessImport, "A"⟩, ⟨.missingExport, "A"⟩,
        ⟨.uselessExport, "B"⟩]
      (.ofLists ["B"] ["A"]) ∧
    Interface.ofLists ["B"] ["A"] = Interface.infer ⟨[⟨"A", [.ref "A", .ref "B"]⟩]⟩ ∧
    ∀ r next, ¬ (⟨[⟨"A", [.ref "A", .ref "B"]⟩]⟩ : Grammar).RepairStep (.ofLists ["B"] ["A"]) r next := by
  have hdistinct : (⟨[⟨"A", [.ref "A", .ref "B"]⟩]⟩ : Grammar).Distinct := by decide
  have hrun : (⟨[⟨"A", [.ref "A", .ref "B"]⟩]⟩ : Grammar).RepairRun (.ofLists ["A", "C"] ["B"])
      [⟨.missingImport, "B"⟩, ⟨.uselessImport, "C"⟩, ⟨.uselessImport, "A"⟩, ⟨.missingExport, "A"⟩,
        ⟨.uselessExport, "B"⟩]
      (.ofLists ["B"] ["A"]) := by
    refine .cons ⟨⟨_, rfl, rfl, by decide⟩, rfl⟩ ?_
    refine .cons ⟨⟨_, rfl, rfl, by decide⟩, rfl⟩ ?_
    refine .cons ⟨⟨_, rfl, rfl, by decide⟩, rfl⟩ ?_
    refine .cons ⟨⟨_, rfl, rfl, by decide⟩, rfl⟩ ?_
    refine .cons ⟨⟨_, rfl, rfl, by decide⟩, rfl⟩ ?_
    exact .nil
  obtain ⟨-, -, -, -, -, -, hfull, -⟩ := repairs_converge hdistinct hrun
  obtain ⟨hlast, -, hdone⟩ := hfull (by decide)
  exact ⟨hdistinct, hrun, hlast, hdone⟩

end Grammar

end ModularGrammar
