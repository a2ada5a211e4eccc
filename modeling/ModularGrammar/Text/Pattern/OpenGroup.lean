import ModularGrammar.Text.Alphanumeric
import ModularGrammar.Text.Pattern.Basic
import ModularGrammar.Text.Pattern.OpenSet

/-! # Patterns that are being read

A reader keeps a pile of the groups whose closing bracket is to come, as it does for sets. A change of
modes lasts up to the end of the group that it stands in.

* `OpenGroup`: a group with what has been read of it;
* `Reader`: the groups at one place of a pattern, moved on by `Reader.step?`;
* `Pattern.read?`: the pattern that a text stands for.
-/

set_option autoImplicit false

namespace ModularGrammar.Pattern

/-- A group whose closing bracket is to come. -/
structure OpenGroup where
  modes : Modes
  /-- The branches before the last bar, the last one first. -/
  branches : List Pattern
  /-- What follows the last bar, the last item first. -/
  items : List Pattern

namespace OpenGroup

def start (modes : Modes) : OpenGroup := ⟨modes, [], []⟩

def push (g : OpenGroup) (item : Pattern) : OpenGroup := { g with items := item :: g.items }

def divide (g : OpenGroup) : OpenGroup :=
  { g with branches := ofItems g.items.reverse :: g.branches, items := [] }

def content (g : OpenGroup) : Pattern := ofBranches g.divide.branches.reverse

end OpenGroup

structure Reader where
  modes : Modes
  names : List (List Char)
  /-- The innermost group, or the whole pattern. -/
  group : OpenGroup
  /-- The groups around it, the innermost first. -/
  outer : List OpenGroup

namespace Reader

def initial : Reader := ⟨.initial, [], .start .initial, []⟩

def push (r : Reader) (item : Pattern) : Reader := { r with group := r.group.push item }

def openGroup (r : Reader) (modes : Modes) : Reader :=
  { r with modes := modes, group := .start r.modes, outer := r.group :: r.outer }

def closeGroup? (r : Reader) : Option Reader :=
  match r.outer with
  | [] => none
  | next :: outer => some ⟨r.group.modes, r.names, next.push (.group r.group.content), outer⟩

def repeat? (r : Reader) : Option Reader :=
  match r.group.items with
  | [] => none
  | item :: items =>
    if item.repeatable then some { r with group := { r.group with items := .repetition item :: items } }
    else none

/-! ## Openings of groups -/

def isGroupName : List Char → Bool
  | [] => false
  | first :: rest =>
    (first = '_' || isAlphabetic first) &&
      rest.all fun c => c = '_' || c = '.' || c = '[' || c = ']' || isAlphanumeric c

/-- Begins a group with a name, which no other group may have. -/
def openNamed? (r : Reader) (text : List Char) : Option (Reader × List Char) :=
  let name := text.takeWhile (· != '>')
  match text.dropWhile (· != '>') with
  | [] => none
  | _ :: rest =>
    if isGroupName name && !r.names.contains name then
      some ({ r.openGroup r.modes with names := name :: r.names }, rest)
    else none

/-- Reads a change of modes. A colon after it begins a group to which the change is confined. -/
def openModes? (r : Reader) (text : List Char) : Option (Reader × List Char) :=
  let inWord (c : Char) : Bool := c != ':' && c != ')'
  let word := text.takeWhile inWord
  match text.dropWhile inWord with
  | [] => none
  | c :: rest =>
    if !isModeChange word then none
    else if c = ':' then some (r.openGroup (r.modes.change word), rest)
    else if word.isEmpty then none
    else some ({ r.push .change with modes := r.modes.change word }, rest)

def openBracket? (r : Reader) (text : List Char) : Option (Reader × List Char) :=
  match r.modes.skip text with
  | '?' :: 'P' :: '<' :: rest => r.openNamed? rest
  | '?' :: '<' :: rest => r.openNamed? rest
  | '?' :: rest => r.openModes? rest
  | rest => some (r.openGroup r.modes, rest)

theorem length_openNamed {r r' : Reader} {text rest : List Char}
    (h : r.openNamed? text = some (r', rest)) : rest.length ≤ text.length := by
  have shorter := (List.dropWhile_sublist (l := text) (· != '>')).length_le
  unfold openNamed? at h
  dsimp only at h
  split at h
  · cases h
  · next left_eq =>
    rw [left_eq] at shorter
    obtain ⟨_, same⟩ := Option.ite_none_right_eq_some.1 h
    cases same
    exact Nat.le_of_succ_le shorter

theorem length_openModes {r r' : Reader} {text rest : List Char}
    (h : r.openModes? text = some (r', rest)) : rest.length ≤ text.length := by
  have shorter := (List.dropWhile_sublist (l := text) (fun c => c != ':' && c != ')')).length_le
  unfold openModes? at h
  dsimp only at h
  split at h
  · cases h
  · next left_eq =>
    rw [left_eq] at shorter
    split at h
    · cases h
    · split at h
      · cases h
        exact Nat.le_of_succ_le shorter
      · split at h
        · cases h
        · cases h
          exact Nat.le_of_succ_le shorter

theorem length_openBracket {r r' : Reader} {text rest : List Char}
    (h : r.openBracket? text = some (r', rest)) : rest.length ≤ text.length := by
  unfold openBracket? at h
  split at h
  · next skip_eq =>
    exact Nat.le_trans (length_openNamed h)
      (Nat.le_of_lt (Nat.lt_of_add_right_lt (k := 2) (Modes.length_lt_of_skip skip_eq)))
  · next skip_eq =>
    exact Nat.le_trans (length_openNamed h)
      (Nat.le_of_lt (Nat.lt_of_succ_lt (Modes.length_lt_of_skip skip_eq)))
  · next skip_eq =>
    exact Nat.le_trans (length_openModes h) (Nat.le_of_lt (Modes.length_lt_of_skip skip_eq))
  · cases h
    exact r.modes.length_skip_le text

/-! ## Items -/

def readAtom? (m : Modes) (c : Char) (rest : List Char) : Option (Atom × List Char) :=
  match c with
  | '\\' => Atom.ofEscape? m rest
  | '[' => (CharSet.read? m rest).map fun (members, after) => (.set members, after)
  | '.' => some (.any, rest)
  | '^' => some (.edge, rest)
  | '$' => some (.edge, rest)
  | _ => some (.literal (.ofChar c), rest)

/-- Reads one item, or the beginning or the end of a group. A repetition may ask for few times by a
question mark right after it. The number of times cannot be counted between braces. -/
def step? (r : Reader) (c : Char) (rest : List Char) : Option (Reader × List Char) :=
  match c with
  | '(' => r.openBracket? rest
  | ')' => r.closeGroup?.map fun r => (r, rest)
  | '|' => some ({ r with group := r.group.divide }, rest)
  | '?' | '*' | '+' =>
    r.repeat?.map fun r => (r, if rest.head? = some '?' then rest.tail else rest)
  | '\x7b' => none
  | _ => (readAtom? r.modes c rest).map fun (a, after) => (r.push (.atom r.modes a), after)

theorem length_readAtom {m : Modes} {c : Char} {text rest : List Char} {a : Atom}
    (h : readAtom? m c text = some (a, rest)) : rest.length ≤ text.length := by
  unfold readAtom? at h
  split at h
  · exact Atom.length_ofEscape h
  · obtain ⟨_, read, same⟩ := Option.map_eq_some_iff.1 h
    cases same
    exact CharSet.length_read read
  all_goals
    cases h
    exact Nat.le_refl _

theorem length_step {r r' : Reader} {c : Char} {text rest : List Char}
    (h : r.step? c text = some (r', rest)) : rest.length ≤ text.length := by
  have tail_le : (if text.head? = some '?' then text.tail else text).length ≤ text.length := by
    split
    · exact text.length_tail ▸ Nat.sub_le _ _
    · exact Nat.le_refl _
  unfold step? at h
  split at h
  · exact length_openBracket h
  · obtain ⟨_, _, same⟩ := Option.map_eq_some_iff.1 h
    cases same
    exact Nat.le_refl _
  · cases h
    exact Nat.le_refl _
  · obtain ⟨_, _, same⟩ := Option.map_eq_some_iff.1 h
    cases same
    exact tail_le
  · obtain ⟨_, _, same⟩ := Option.map_eq_some_iff.1 h
    cases same
    exact tail_le
  · obtain ⟨_, _, same⟩ := Option.map_eq_some_iff.1 h
    cases same
    exact tail_le
  · cases h
  · obtain ⟨_, read, same⟩ := Option.map_eq_some_iff.1 h
    cases same
    exact length_readAtom read

/-! ## Whole patterns -/

def finish? (r : Reader) (text : List Char) : Option Pattern :=
  match _ : r.modes.skip text with
  | [] => if r.outer.isEmpty then some r.group.content else none
  | c :: rest =>
    match _ : r.step? c rest with
    | none => none
    | some (next, rest) => next.finish? rest
termination_by text.length
decreasing_by
  exact Nat.lt_of_le_of_lt (length_step ‹_›) (Modes.length_lt_of_skip ‹r.modes.skip text = _›)

end Reader

def read? (text : List Char) : Option Pattern := Reader.initial.finish? text

end ModularGrammar.Pattern
