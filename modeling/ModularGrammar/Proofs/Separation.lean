import Mathlib.Data.List.Basic

/-! # Parts of a text

Texts are put together from parts with a pair of characters between them, and from lines. A part may hold
either character of the pair, but not the one followed by the other, and then the text can be taken apart.

* `cutAt?`, `cutAt?_append`: what stands before and after the first pair;
* `partsAt`, `partsAt_intercalate`: the parts between the pairs, `partsAt_intercalate_toList` for parts that
  are names;
* `intercalate_concat`, `forall_mem_intercalate`: parts with a separator between them, or after them, and
  what all their characters are like;
* `splitOn_flatMap_newline`: the lines of a text in which each line is ended by a line feed.
-/

set_option autoImplicit false

namespace ModularGrammar

section Pairs
variable {a b : Char} {part : List Char}

/-- Cuts a text at the first place where one character is followed by the other. -/
def cutAt? (a b : Char) : List Char → Option (List Char × List Char)
  | [] => none
  | c :: rest =>
    if c = a ∧ rest.head? = some b then some ([], rest.tail)
    else (cutAt? a b rest).map fun (before, after) => (c :: before, after)

theorem length_lt_of_cutAt? {text before after : List Char} (h : cutAt? a b text = some (before, after)) :
    after.length < text.length := by
  induction text generalizing before with
  | nil => cases h
  | cons c rest ih =>
    unfold cutAt? at h
    split at h
    · cases h
      simp only [List.length_tail, List.length_cons]
      omega
    · obtain ⟨⟨before', after'⟩, hrest, heq⟩ := Option.map_eq_some_iff.1 h
      cases heq
      have hlt := ih hrest
      simp only [List.length_cons]
      omega

theorem not_infix_of_cons {c : Char} (h : ¬ [a, b] <:+: c :: part) : ¬ [a, b] <:+: part :=
  fun hinfix => h (List.infix_cons hinfix)

theorem head?_ne_of_not_infix (h : ¬ [a, b] <:+: a :: part) : part.head? ≠ some b := by
  intro hhead
  obtain ⟨rest, rfl⟩ := List.head?_eq_some_iff.1 hhead
  exact h ⟨[], rest, rfl⟩

/-- A part that does not hold the pair ends where the pair after it begins, even if its last character is
the first of the pair. -/
theorem cutAt?_append (hab : a ≠ b) (hpart : ¬ [a, b] <:+: part) (rest : List Char) :
    cutAt? a b (part ++ a :: b :: rest) = some (part, rest) := by
  induction part with
  | nil => simp [cutAt?]
  | cons c part ih =>
    have hpair : ¬ (c = a ∧ (part ++ a :: b :: rest).head? = some b) := by
      rintro ⟨rfl, hhead⟩
      cases part with
      | nil => exact hab (by simpa using hhead)
      | cons d part => exact head?_ne_of_not_infix hpart (by simpa using hhead)
    rw [List.cons_append, cutAt?, if_neg hpair, ih (not_infix_of_cons hpart)]
    rfl

theorem cutAt?_eq_none (hpart : ¬ [a, b] <:+: part) : cutAt? a b part = none := by
  induction part with
  | nil => rfl
  | cons c part ih =>
    have hpair : ¬ (c = a ∧ part.head? = some b) := by
      rintro ⟨rfl, hhead⟩
      exact head?_ne_of_not_infix hpart hhead
    rw [cutAt?, if_neg hpair, ih (not_infix_of_cons hpart)]
    rfl

/-- The parts of a text between the pairs in it. -/
def partsAt (a b : Char) (text : List Char) : List (List Char) :=
  match _h : cutAt? a b text with
  | none => [text]
  | some (part, rest) => part :: partsAt a b rest
termination_by text.length
decreasing_by exact length_lt_of_cutAt? _h

theorem partsAt_of_not_infix (hpart : ¬ [a, b] <:+: part) : partsAt a b part = [part] := by
  rw [partsAt]
  split
  next => rfl
  next h => rw [cutAt?_eq_none hpart] at h; cases h

theorem partsAt_append (hab : a ≠ b) (hpart : ¬ [a, b] <:+: part) (rest : List Char) :
    partsAt a b (part ++ a :: b :: rest) = part :: partsAt a b rest := by
  rw [partsAt]
  split
  next h => rw [cutAt?_append hab hpart] at h; cases h
  next h => rw [cutAt?_append hab hpart] at h; cases h; rfl

/-- Parts that do not hold the pair are found again when they are joined by it. No parts at all would be
joined to the same text as one empty part. -/
theorem partsAt_intercalate (hab : a ≠ b) {parts : List (List Char)} (hne : parts ≠ [])
    (hparts : ∀ part ∈ parts, ¬ [a, b] <:+: part) :
    partsAt a b ([a, b].intercalate parts) = parts := by
  induction parts with
  | nil => exact absurd rfl hne
  | cons part rest ih =>
    have hpart := hparts part List.mem_cons_self
    cases rest with
    | nil => rw [List.intercalate_singleton, partsAt_of_not_infix hpart]
    | cons next rest =>
      have hrest := ih (List.cons_ne_nil _ _) fun p hp => hparts p (List.mem_cons_of_mem _ hp)
      rw [List.intercalate_cons_cons, List.append_assoc, List.cons_append, List.cons_append,
        List.nil_append, partsAt_append hab hpart, hrest]

theorem partsAt_intercalate_toList (hab : a ≠ b) {names : List String} (hne : names ≠ [])
    (hnames : ∀ x ∈ names, ¬ [a, b] <:+: x.toList) :
    (partsAt a b ([a, b].intercalate (names.map String.toList))).map String.ofList = names := by
  have hparts : ∀ part ∈ names.map String.toList, ¬ [a, b] <:+: part := by
    intro part hpart
    obtain ⟨x, hx, rfl⟩ := List.mem_map.1 hpart
    exact hnames x hx
  rw [partsAt_intercalate hab (by simpa using hne) hparts]
  simp

end Pairs

/-! ## Lines -/

/-- What holds of all members of a separator and of some parts holds of all members of what they make up. -/
theorem forall_mem_intercalate {α : Type} {P : α → Prop} {separator : List α} {parts : List (List α)}
    (hseparator : ∀ a ∈ separator, P a) (hparts : ∀ part ∈ parts, ∀ a ∈ part, P a) :
    ∀ a ∈ separator.intercalate parts, P a := by
  induction parts with
  | nil => simp
  | cons part rest ih =>
    obtain ⟨hpart, hrest⟩ := List.forall_mem_cons.1 hparts
    cases rest with
    | nil => simpa using hpart
    | cons next rest =>
      rw [List.intercalate_cons_cons, List.forall_mem_append, List.forall_mem_append]
      exact ⟨⟨hpart, hseparator⟩, ih hrest⟩

/-- Parts with a separator between them are all but the last one with a separator after them. -/
theorem intercalate_concat {α : Type} (separator last : List α) (parts : List (List α)) :
    separator.intercalate (parts ++ [last]) = parts.flatMap (fun part => part ++ separator) ++ last := by
  induction parts with
  | nil => simp
  | cons part rest ih =>
    obtain ⟨next, tail, htail⟩ : ∃ next tail, rest ++ [last] = next :: tail :=
      List.exists_cons_of_ne_nil (by simp)
    rw [List.cons_append, htail, List.intercalate_cons_cons, ← htail, ih, List.flatMap_cons,
      List.append_assoc, List.append_assoc, List.append_assoc]

/-- A text of ended lines has these lines, and nothing after the last of them. -/
theorem splitOn_flatMap_newline {lines : List (List Char)} (h : ∀ line ∈ lines, '\n' ∉ line) :
    (lines.flatMap fun line => line ++ ['\n']).splitOn '\n' = lines ++ [[]] := by
  have hjoin := intercalate_concat ['\n'] [] lines
  rw [List.append_nil] at hjoin
  rw [← hjoin]
  apply List.splitOn_intercalate
  · intro line hline
    rcases List.mem_append.1 hline with hmem | hmem
    · exact h line hmem
    · rw [List.mem_singleton.1 hmem]
      exact List.not_mem_nil
  · simp

end ModularGrammar
