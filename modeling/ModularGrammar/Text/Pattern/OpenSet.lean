import ModularGrammar.Text.Pattern.Atom

/-! # Sets of characters that are being read

A reader keeps a pile of the sets whose closing bracket is to come, the innermost first.

* `OpenSet`: one of them, with what has been read of it;
* `CharSet.read?`: reads a set after its opening bracket.
-/

set_option autoImplicit false

namespace ModularGrammar.Pattern

/-- A set whose closing bracket is to come. -/
structure OpenSet where
  negated : Bool
  /-- What stands before the last doubled sign, if there is one. -/
  left : Option CharSet
  /-- The members since then, the last one first. -/
  members : List CharSet
  atStart : Bool

namespace OpenSet

def content (s : OpenSet) : CharSet :=
  let members := CharSet.ofMembers s.members.reverse
  match s.left with
  | none => members
  | some left => .operation left members

def close (s : OpenSet) : CharSet := .brackets s.negated s.content

def push (s : OpenSet) (member : CharSet) : OpenSet :=
  { s with members := member :: s.members, atStart := false }

/-- A dash at the beginning is a member. -/
def pushDash (s : OpenSet) : OpenSet := { s with members := .literal (.ofChar '-') :: s.members }

/-- After a doubled sign the members of the right side follow. -/
def divide (s : OpenSet) : OpenSet := { s with left := some s.content, members := [], atStart := false }

def start (m : Modes) (text : List Char) : OpenSet × List Char :=
  match m.skip text with
  | '^' :: rest => (⟨true, none, [], true⟩, rest)
  | rest => (⟨false, none, [], true⟩, rest)

theorem length_start_le (m : Modes) (text : List Char) : (start m text).2.length ≤ text.length := by
  unfold start
  split
  · next skip_eq => exact Nat.le_of_lt (Modes.length_lt_of_skip skip_eq)
  · exact m.length_skip_le text

end OpenSet

namespace CharSet

/-! ## Members -/

def classNames : List String :=
  ["alnum", "alpha", "ascii", "blank", "cntrl", "digit", "graph", "lower", "print", "punct", "space",
    "upper", "word", "xdigit"]

def readName? (negated : Bool) (text : List Char) : Option (CharSet × List Char) :=
  match text.dropWhile (· != ':') with
  | ':' :: ']' :: rest =>
    if classNames.contains (String.ofList (text.takeWhile (· != ':'))) then some (.named negated, rest)
    else none
  | _ => none

/-- Reads a named class after its opening bracket. A caret before the name asks for all other characters. -/
def readNamed? : List Char → Option (CharSet × List Char)
  | ':' :: '^' :: text => readName? true text
  | ':' :: text => readName? false text
  | _ => none

/-- Reads a character or an escape. Between brackets no other sign has a meaning of its own. -/
def readAtom? (m : Modes) (c : Char) (rest : List Char) : Option (Atom × List Char) :=
  if c = '\\' then Atom.ofEscape? m rest else some (.literal (.ofChar c), rest)

def ofAtom? : Atom → Option CharSet
  | .literal l => some (.literal l)
  | .shorthand negated => some (.shorthand negated)
  | _ => none

def ofRange? : Atom → Atom → Option CharSet
  | .literal first, .literal last => if first.code ≤ last.code then some (.range first last) else none
  | _, _ => none

/-- Reads a member. A dash after it begins a range, unless a closing bracket or another dash follows. -/
def readMember? (m : Modes) (c : Char) (rest : List Char) : Option (CharSet × List Char) := do
  let (first, rest) ← readAtom? m c rest
  match m.skip rest with
  | '-' :: more =>
    if m.peek? more = some ']' ∨ m.peek? more = some '-' then
      return (← ofAtom? first, '-' :: more)
    else
      match m.skip more with
      | [] => none
      | c :: rest =>
        let (last, rest) ← readAtom? m c rest
        return (← ofRange? first last, rest)
  | rest => return (← ofAtom? first, rest)

theorem length_readName {negated : Bool} {text rest : List Char} {member : CharSet}
    (h : readName? negated text = some (member, rest)) : rest.length < text.length := by
  have shorter := (List.dropWhile_sublist (l := text) (· != ':')).length_le
  unfold readName? at h
  split at h
  · next left_eq =>
    rw [left_eq] at shorter
    obtain ⟨_, same⟩ := Option.ite_none_right_eq_some.1 h
    cases same
    exact Nat.lt_of_succ_lt shorter
  · cases h

theorem length_readNamed {text rest : List Char} {member : CharSet}
    (h : readNamed? text = some (member, rest)) : rest.length < text.length := by
  unfold readNamed? at h
  split at h
  · exact Nat.lt_succ_of_lt (Nat.lt_succ_of_lt (length_readName h))
  · exact Nat.lt_succ_of_lt (length_readName h)
  · cases h

theorem length_readAtom {m : Modes} {c : Char} {text rest : List Char} {atom : Atom}
    (h : readAtom? m c text = some (atom, rest)) : rest.length ≤ text.length := by
  unfold readAtom? at h
  split at h
  · exact Atom.length_ofEscape h
  · cases h
    exact Nat.le_refl _

theorem length_readMember {m : Modes} {c : Char} {text rest : List Char} {member : CharSet}
    (h : readMember? m c text = some (member, rest)) : rest.length ≤ text.length := by
  obtain ⟨⟨first, more⟩, read, h⟩ := Option.bind_eq_some_iff.1 h
  have shorter := Nat.le_trans (m.length_skip_le more) (length_readAtom read)
  dsimp only at h
  split at h
  · next skip_eq =>
    rw [skip_eq] at shorter
    split at h
    · obtain ⟨_, _, same⟩ := Option.bind_eq_some_iff.1 h
      cases same
      exact shorter
    · split at h
      · cases h
      · next skip_eq' =>
        obtain ⟨⟨last, left⟩, read', h⟩ := Option.bind_eq_some_iff.1 h
        obtain ⟨_, _, same⟩ := Option.bind_eq_some_iff.1 h
        cases same
        exact Nat.le_trans (length_readAtom read')
          (Nat.le_of_lt (Nat.lt_trans (Modes.length_lt_of_skip skip_eq') shorter))
  · obtain ⟨_, _, same⟩ := Option.bind_eq_some_iff.1 h
    cases same
    exact shorter

/-! ## Sets -/

/-- Reads what the innermost set holds, and then what the sets around it hold, up to the last bracket. -/
def readContent? (m : Modes) (s : OpenSet) (outer : List OpenSet) (text : List Char) :
    Option (CharSet × List Char) :=
  match _ : m.skip text with
  | [] => none
  | c :: rest =>
    if s.atStart && c = '-' then readContent? m s.pushDash outer rest
    else if s.atStart && s.members.isEmpty && c = ']' then
      readContent? m (s.push (.literal (.ofChar c))) outer rest
    else if c = ']' then
      match outer with
      | [] => some (s.close, rest)
      | next :: outer => readContent? m (next.push s.close) outer rest
    else if c = '[' then
      match _ : readNamed? rest with
      | some (member, after) => readContent? m (s.push member) outer after
      | none => readContent? m (OpenSet.start m rest).1 (s :: outer) (OpenSet.start m rest).2
    else if (c = '&' || c = '-' || c = '~') && rest.head? = some c then
      readContent? m s.divide outer rest.tail
    else
      match _ : readMember? m c rest with
      | none => none
      | some (member, after) => readContent? m (s.push member) outer after
termination_by text.length
decreasing_by
  all_goals have shorter := Modes.length_lt_of_skip ‹m.skip text = _›
  · exact shorter
  · exact shorter
  · exact shorter
  · exact Nat.lt_trans (length_readNamed ‹_›) shorter
  · exact Nat.lt_of_le_of_lt (OpenSet.length_start_le m rest) shorter
  · exact Nat.lt_of_le_of_lt (rest.length_tail ▸ Nat.sub_le _ _) shorter
  · exact Nat.lt_of_le_of_lt (length_readMember ‹_›) shorter

theorem length_readContent {m : Modes} {s : OpenSet} {outer : List OpenSet} {text rest : List Char}
    {members : CharSet} (h : readContent? m s outer text = some (members, rest)) :
    rest.length ≤ text.length := by
  fun_induction readContent? m s outer text with
  | case1 => cases h
  | case2 _ _ _ _ _ skip_eq _ ih =>
    exact Nat.le_trans (ih h) (Nat.le_of_lt (Modes.length_lt_of_skip skip_eq))
  | case3 _ _ _ _ _ skip_eq _ _ ih =>
    exact Nat.le_trans (ih h) (Nat.le_of_lt (Modes.length_lt_of_skip skip_eq))
  | case4 _ _ _ skip_eq =>
    cases h
    exact Nat.le_of_lt (Modes.length_lt_of_skip skip_eq)
  | case5 _ _ _ _ _ skip_eq _ _ ih =>
    exact Nat.le_trans (ih h) (Nat.le_of_lt (Modes.length_lt_of_skip skip_eq))
  | case6 _ _ _ _ _ _ named_eq skip_eq _ _ _ ih =>
    exact Nat.le_trans (ih h) (Nat.le_of_lt
      (Nat.lt_trans (length_readNamed named_eq) (Modes.length_lt_of_skip skip_eq)))
  | case7 _ _ _ rest _ skip_eq _ _ _ ih =>
    exact Nat.le_trans (ih h) (Nat.le_trans (OpenSet.length_start_le m rest)
      (Nat.le_of_lt (Modes.length_lt_of_skip skip_eq)))
  | case8 _ _ _ _ rest skip_eq _ _ _ _ _ ih =>
    exact Nat.le_trans (ih h) (Nat.le_trans (rest.length_tail ▸ Nat.sub_le _ _)
      (Nat.le_of_lt (Modes.length_lt_of_skip skip_eq)))
  | case9 => cases h
  | case10 _ _ _ _ _ skip_eq _ _ _ _ _ _ _ member_eq ih =>
    exact Nat.le_trans (ih h) (Nat.le_trans (length_readMember member_eq)
      (Nat.le_of_lt (Modes.length_lt_of_skip skip_eq)))

def read? (m : Modes) (text : List Char) : Option (CharSet × List Char) :=
  readContent? m (OpenSet.start m text).1 [] (OpenSet.start m text).2

theorem length_read {m : Modes} {text rest : List Char} {members : CharSet}
    (h : read? m text = some (members, rest)) : rest.length ≤ text.length :=
  Nat.le_trans (length_readContent h) (OpenSet.length_start_le m text)

end CharSet

end ModularGrammar.Pattern
