import Mathlib.Data.List.Basic
import ModularGrammar.Json.Reader
import ModularGrammar.Proofs.Separation

/-! # Values and their tokens

The tokens of a value are read back as that value, and no other row of tokens is.

* `Json.tokens`: the tokens of a value, in their order;
* `Json.foldlM_step_tokens`: reading the tokens of a value, wherever it stands;
* `Json.State.consumed`, `Json.State.consumed_step`: a state of reading keeps all that has been read;
* `Json.ofTokens?_eq_some_iff`, `Json.read?_eq_some_iff`: a row of tokens, or a text, is accepted just if its
  tokens are those of the value read.
-/

set_option autoImplicit false

namespace ModularGrammar.Json

/-! ## The tokens of a value -/

mutual

def tokens : Json → List Token
  | .null => [.null]
  | .bool value => [.bool value]
  | .number literal => [.number literal]
  | .string text => [.string text]
  | .array items => .openArray :: [.comma].intercalate (itemTokens items) ++ [.closeArray]
  | .object members => .openObject :: [.comma].intercalate (memberTokens members) ++ [.closeObject]

def itemTokens : List Json → List (List Token)
  | [] => []
  | item :: rest => tokens item :: itemTokens rest

def memberTokens : List (String × Json) → List (List Token)
  | [] => []
  | (key, value) :: rest => (.string key :: .colon :: tokens value) :: memberTokens rest

end

theorem itemTokens_eq_map (items : List Json) : itemTokens items = items.map tokens := by
  induction items with
  | nil => rfl
  | cons item rest ih => rw [itemTokens, ih, List.map_cons]

theorem memberTokens_eq_map (members : List (String × Json)) :
    memberTokens members = members.map fun member => .string member.1 :: .colon :: tokens member.2 := by
  induction members with
  | nil => rfl
  | cons member rest ih => rw [memberTokens, ih, List.map_cons]

/-! ## Reading the tokens of a value -/

/-- No value begins with the end of an array. -/
theorem exists_tokens_eq_cons (v : Json) : ∃ t ts, v.tokens = t :: ts ∧ t ≠ .closeArray := by
  cases v <;> exact ⟨_, _, rfl, by simp⟩

theorem step_firstItem {stack : List Frame} {t : Token} (ht : t ≠ .closeArray) :
    (State.firstItem stack).step t = (State.value (.array [] :: stack)).step t := by
  cases t with
  | closeArray => exact absurd rfl ht
  | _ => rfl

theorem foldlM_step_firstItem {stack : List Frame} {t : Token} {ts : List Token} (ht : t ≠ .closeArray) :
    (t :: ts).foldlM State.step (.firstItem stack) =
      (t :: ts).foldlM State.step (.value (.array [] :: stack)) := by
  rw [List.foldlM_cons, List.foldlM_cons, step_firstItem ht]

theorem intercalate_itemTokens (item next : Json) (rest : List Json) :
    [Token.comma].intercalate (itemTokens (item :: next :: rest)) =
      item.tokens ++ .comma :: [.comma].intercalate (itemTokens (next :: rest)) := by
  rw [itemTokens, itemTokens, List.intercalate_cons_cons, List.append_assoc]
  rfl

theorem intercalate_memberTokens (key : String) (value : Json) (next : String × Json)
    (rest : List (String × Json)) :
    [Token.comma].intercalate (memberTokens ((key, value) :: next :: rest)) =
      .string key :: .colon :: (value.tokens ++ .comma :: [.comma].intercalate (memberTokens (next :: rest))) := by
  rw [memberTokens, memberTokens, List.intercalate_cons_cons, List.append_assoc]
  rfl

/-- What stands in an array does not begin with its end. -/
theorem exists_intercalate_itemTokens_eq_cons (item : Json) (rest : List Json) :
    ∃ t ts, [Token.comma].intercalate (itemTokens (item :: rest)) = t :: ts ∧ t ≠ .closeArray := by
  obtain ⟨t, ts, hitem, ht⟩ := item.exists_tokens_eq_cons
  cases rest with
  | nil => exact ⟨t, ts, by rw [itemTokens, itemTokens, List.intercalate_singleton, hitem], ht⟩
  | cons next rest => exact ⟨t, _, by rw [intercalate_itemTokens, hitem, List.cons_append], ht⟩

theorem exists_intercalate_memberTokens_eq_cons (member : String × Json) (rest : List (String × Json)) :
    ∃ ts, [Token.comma].intercalate (memberTokens (member :: rest)) = .string member.1 :: ts := by
  obtain ⟨key, value⟩ := member
  cases rest with
  | nil => exact ⟨_, by rw [memberTokens, memberTokens, List.intercalate_singleton]⟩
  | cons next rest => exact ⟨_, intercalate_memberTokens key value next rest⟩

mutual

theorem foldlM_step_tokens : ∀ (v : Json) (stack : List Frame) (more : List Token),
    (v.tokens ++ more).foldlM State.step (.value stack) = more.foldlM State.step (.after v stack)
  | .null, stack, more => rfl
  | .bool value, stack, more => rfl
  | .number literal, stack, more => rfl
  | .string text, stack, more => rfl
  | .array [], stack, more => rfl
  | .array (item :: rest), stack, more => by
      have hitems := foldlM_step_itemTokens (item :: rest) (List.cons_ne_nil _ _) [] stack more
      obtain ⟨t, ts, hbegin, ht⟩ := exists_intercalate_itemTokens_eq_cons item rest
      rw [hbegin, List.cons_append, ← foldlM_step_firstItem ht, ← List.cons_append, ← hbegin] at hitems
      rw [tokens, List.append_assoc, List.cons_append]
      exact hitems
  | .object [], stack, more => rfl
  | .object (member :: rest), stack, more => by
      have hmembers := foldlM_step_memberTokens (member :: rest) (List.cons_ne_nil _ _) [] stack more
      obtain ⟨ts, hbegin⟩ := exists_intercalate_memberTokens_eq_cons member rest
      rw [hbegin] at hmembers
      rw [tokens, hbegin, List.append_assoc, List.cons_append]
      exact hmembers

/-- The items of an array and its end are read from where one of the items is to come. -/
theorem foldlM_step_itemTokens : ∀ (items : List Json), items ≠ [] →
    ∀ (before : List Json) (stack : List Frame) (more : List Token),
      ([.comma].intercalate (itemTokens items) ++ .closeArray :: more).foldlM State.step
          (.value (.array before :: stack)) =
        more.foldlM State.step (.after (.array (before ++ items)) stack)
  | [], hne, _, _, _ => absurd rfl hne
  | [item], _, before, stack, more => by
      rw [itemTokens, itemTokens, List.intercalate_singleton, foldlM_step_tokens item]
      rfl
  | item :: next :: rest, _, before, stack, more => by
      have hrest := foldlM_step_itemTokens (next :: rest) (List.cons_ne_nil _ _) (before ++ [item]) stack more
      rw [← List.append_cons] at hrest
      rw [intercalate_itemTokens, List.append_assoc, List.cons_append, foldlM_step_tokens item, ← hrest]
      rfl

theorem foldlM_step_memberTokens : ∀ (members : List (String × Json)), members ≠ [] →
    ∀ (before : List (String × Json)) (stack : List Frame) (more : List Token),
      ([.comma].intercalate (memberTokens members) ++ .closeObject :: more).foldlM State.step
          (.key before stack) =
        more.foldlM State.step (.after (.object (before ++ members)) stack)
  | [], hne, _, _, _ => absurd rfl hne
  | [(key, value)], _, before, stack, more => by
      rw [memberTokens, memberTokens, List.intercalate_singleton]
      exact foldlM_step_tokens value (.object before key :: stack) (.closeObject :: more)
  | (key, value) :: next :: rest, _, before, stack, more => by
      have hrest := foldlM_step_memberTokens (next :: rest) (List.cons_ne_nil _ _)
        (before ++ [(key, value)]) stack more
      rw [← List.append_cons] at hrest
      rw [intercalate_memberTokens, List.cons_append, List.cons_append, List.append_assoc, List.cons_append,
        ← hrest]
      exact foldlM_step_tokens value (.object before key :: stack) _

end

theorem ofTokens?_tokens (v : Json) : ofTokens? v.tokens = some v := by
  have hread := v.foldlM_step_tokens [] []
  rw [List.append_nil] at hread
  rw [ofTokens?, hread]
  rfl

/-! ## What has been read -/

/-- The tokens of items or members and of the comma after each of them. -/
def followed (parts : List (List Token)) : List Token := parts.flatMap fun part => part ++ [.comma]

def Frame.consumed : Frame → List Token
  | .array items => .openArray :: followed (itemTokens items)
  | .object members key => .openObject :: followed (memberTokens members) ++ [.string key, .colon]

/-- The tokens of open arrays and objects, from the outermost on. -/
def consumedBy (stack : List Frame) : List Token := stack.reverse.flatMap Frame.consumed

def State.consumed : State → List Token
  | .value stack => consumedBy stack
  | .firstItem stack => consumedBy stack ++ [.openArray]
  | .firstKey stack => consumedBy stack ++ [.openObject]
  | .key members stack => consumedBy stack ++ .openObject :: followed (memberTokens members)
  | .colon members name stack =>
      consumedBy stack ++ .openObject :: followed (memberTokens members) ++ [.string name]
  | .after v stack => consumedBy stack ++ v.tokens

theorem consumedBy_cons (frame : Frame) (stack : List Frame) :
    consumedBy (frame :: stack) = consumedBy stack ++ frame.consumed := by
  simp [consumedBy]

theorem tokens_array_concat (items : List Json) (v : Json) :
    (Json.array (items ++ [v])).tokens = .openArray :: followed (itemTokens items) ++ v.tokens ++ [.closeArray] := by
  rw [tokens, itemTokens_eq_map, itemTokens_eq_map, List.map_append, List.map_singleton, intercalate_concat]
  simp [followed]

theorem tokens_object_concat (members : List (String × Json)) (key : String) (v : Json) :
    (Json.object (members ++ [(key, v)])).tokens =
      .openObject :: followed (memberTokens members) ++ .string key :: .colon :: v.tokens ++ [.closeObject] := by
  rw [tokens, memberTokens_eq_map, memberTokens_eq_map, List.map_append, List.map_singleton,
    intercalate_concat]
  simp [followed]

namespace State
variable {s s' : State} {t : Token}

theorem consumed_begin {stack : List Frame} (h : begin stack t = some s') :
    s'.consumed = consumedBy stack ++ [t] := by
  cases t <;> cases h <;> rfl

theorem consumed_finish {v : Json} {stack : List Frame} (h : finish v stack t = some s') :
    s'.consumed = consumedBy stack ++ v.tokens ++ [t] := by
  unfold finish at h
  split at h
  next items stack =>
    cases h
    simp [consumed, consumedBy_cons, Frame.consumed, itemTokens_eq_map, followed]
  next items stack =>
    cases h
    simp [consumed, consumedBy_cons, Frame.consumed, tokens_array_concat]
  next members name stack =>
    cases h
    simp [consumed, consumedBy_cons, Frame.consumed, memberTokens_eq_map, followed]
  next members name stack =>
    cases h
    simp [consumed, consumedBy_cons, Frame.consumed, tokens_object_concat]
  next => cases h

/-- A step adds its token to what has been read, and loses nothing. -/
theorem consumed_step (h : s.step t = some s') : s'.consumed = s.consumed ++ [t] := by
  unfold step at h
  split at h
  next stack => exact consumed_begin h
  next stack => cases h; simp [consumed, tokens, itemTokens]
  next stack =>
    rw [consumed_begin h, consumedBy_cons]
    rfl
  next stack => cases h; simp [consumed, tokens, memberTokens]
  next stack name => cases h; simp [consumed, followed, memberTokens]
  next => cases h
  next members stack name => cases h; simp [consumed]
  next => cases h
  next members name stack => cases h; simp [consumed, consumedBy_cons, Frame.consumed]
  next => cases h
  next v stack => exact consumed_finish h

theorem consumed_foldlM {ts : List Token} (h : ts.foldlM step s = some s') :
    s'.consumed = s.consumed ++ ts := by
  induction ts generalizing s with
  | nil =>
    cases h
    rw [List.append_nil]
  | cons t ts ih =>
    rw [List.foldlM_cons] at h
    obtain ⟨next, hstep, hrest⟩ := Option.bind_eq_some_iff.1 h
    rw [ih hrest, consumed_step hstep, List.append_assoc, List.singleton_append]

end State

/-- A row of tokens is accepted just if it is the row of the value that is read. -/
theorem ofTokens?_eq_some_iff {ts : List Token} {v : Json} : ofTokens? ts = some v ↔ ts = v.tokens := by
  constructor
  · intro h
    unfold ofTokens? at h
    split at h
    next value hread =>
      cases h
      exact (State.consumed_foldlM hread).symm
    next => cases h
  · rintro rfl
    exact ofTokens?_tokens v

/-- A text is accepted just if its tokens are those of the value that is read. -/
theorem read?_eq_some_iff {text : String} {v : Json} :
    read? text = some v ↔ lex? text.toList = some v.tokens := by
  unfold read?
  constructor
  · intro h
    obtain ⟨ts, hlex, hread⟩ := Option.bind_eq_some_iff.1 h
    rw [hlex, ofTokens?_eq_some_iff.1 hread]
  · intro h
    rw [h]
    exact ofTokens?_tokens v

end ModularGrammar.Json
