import Mathlib.Data.List.Basic
import Mathlib.Data.List.Forall2
import ModularGrammar.Json.Printer
import ModularGrammar.Proofs.JsonTokens

/-! # Texts and their values

A value that is laid out as a text is read back from it.

* `Json.WellFormed`: each number of a value is written as one;
* `Json.readString?_quote`: a quoted string is read back, whatever its characters;
* `Json.Lexes`: a text that gives certain tokens, whatever follows it;
* `Json.lexes_pretty`, `Json.read?_pretty`: laying out a value gives its tokens, and so the value again.
-/

set_option autoImplicit false

namespace ModularGrammar.Json

/-- Each number in the value is written as the format wants it. -/
inductive WellFormed : Json → Prop
  | null : WellFormed .null
  | bool (value : Bool) : WellFormed (.bool value)
  | number {literal : String} : isNumber literal.toList = true → WellFormed (.number literal)
  | string (text : String) : WellFormed (.string text)
  | array {items : List Json} : (∀ item ∈ items, WellFormed item) → WellFormed (.array items)
  | object {members : List (String × Json)} :
      (∀ member ∈ members, WellFormed member.2) → WellFormed (.object members)

/-! ## Strings -/

/-- How the reader finds a character of a quoted string: given by its code below U+0020, unless there is a
letter for it, and as itself otherwise. -/
def unitOf (c : Char) : StringUnit :=
  if c.toNat < 0x20 ∧ c ∉ ['\x08', '\x0c', '\n', '\r', '\t'] then .code c.toNat else .char c

/-- The three ways to write a character: by its letter after a backslash, by its code, or as itself. -/
theorem escape_cases (c : Char) :
    (∃ letter, escape c = ['\\', letter] ∧ escaped? letter = some c ∧ unitOf c = .char c) ∨
      (c.toNat < 0x20 ∧
        escape c = ['\\', 'u', '0', '0', Nat.digitChar (c.toNat / 16), Nat.digitChar (c.toNat % 16)] ∧
        unitOf c = .code c.toNat) ∨
      (escape c = [c] ∧ c ≠ '"' ∧ c ≠ '\\' ∧ 0x20 ≤ c.toNat ∧ unitOf c = .char c) := by
  by_cases hletter : c ∈ ['"', '\\', '\x08', '\x0c', '\n', '\r', '\t']
  · left
    simp only [List.mem_cons, List.not_mem_nil, or_false] at hletter
    rcases hletter with rfl | rfl | rfl | rfl | rfl | rfl | rfl <;> exact ⟨_, rfl, rfl, rfl⟩
  · right
    simp only [List.mem_cons, List.not_mem_nil, or_false, not_or] at hletter
    by_cases hcode : c.toNat < 0x20
    · exact .inl ⟨hcode, by simp [escape, hletter, hcode], by simp [unitOf, hletter, hcode]⟩
    · exact .inr ⟨by simp [escape, hletter, hcode], hletter.1, hletter.2.1, Nat.le_of_not_lt hcode,
        by simp [unitOf, hcode]⟩

theorem codeUnit?_digits {n : Nat} (h : n < 0x20) :
    codeUnit? ['0', '0', Nat.digitChar (n / 16), Nat.digitChar (n % 16)] = some n := by
  have hall : ∀ n < 0x20,
      codeUnit? ['0', '0', Nat.digitChar (n / 16), Nat.digitChar (n % 16)] = some n := by decide
  exact hall n h

/-- An escaped character is read as one unit, whatever follows it. -/
theorem readUnits?_escape (c : Char) (rest : List Char) :
    readUnits? (escape c ++ rest) =
      (readUnits? rest).map fun (units, after) => (unitOf c :: units, after) := by
  obtain ⟨letter, htext, hletter, hunit⟩ | ⟨hcode, htext, hunit⟩ | ⟨htext, hquote, hbackslash, hle, hunit⟩ :=
    escape_cases c
  · have hu : letter ≠ 'u' := by
      rintro rfl
      cases hletter
    rw [htext, hunit]
    cases hrest : readUnits? rest <;> simp [readUnits?, hrest, hletter, hu]
  · rw [htext, hunit]
    cases hrest : readUnits? rest <;> simp [readUnits?, hrest, codeUnit?_digits hcode]
  · rw [htext, hunit, List.singleton_append]
    cases hrest : readUnits? rest <;>
      simp [readUnits?.eq_def (c :: rest), hrest, hquote, hbackslash, Nat.not_lt.2 hle]

/-- Nothing in a quoted string ends it before its end. -/
theorem readUnits?_flatMap_escape (chars more : List Char) :
    readUnits? (chars.flatMap escape ++ '"' :: more) = some (chars.map unitOf, more) := by
  induction chars with
  | nil => simp [readUnits?.eq_def ('"' :: more)]
  | cons c chars ih =>
    rw [List.flatMap_cons, List.append_assoc, readUnits?_escape, ih]
    rfl

theorem joinUnits?_map_unitOf (chars : List Char) : joinUnits? (chars.map unitOf) = some chars := by
  induction chars with
  | nil => rfl
  | cons c chars ih =>
    rw [List.map_cons]
    obtain ⟨-, -, -, hunit⟩ | ⟨hcode, -, hunit⟩ | ⟨-, -, -, -, hunit⟩ := escape_cases c
    · rw [hunit, joinUnits?, ih]
      rfl
    · have hsurrogate : isSurrogate c.toNat = false := by
        simp only [isSurrogate, decide_eq_false_iff_not]
        omega
      simp [hunit, joinUnits?.eq_def (.code c.toNat :: chars.map unitOf), hsurrogate, ih]
    · rw [hunit, joinUnits?, ih]
      rfl

/-- A quoted string is read back, whatever its characters and whatever follows it. -/
theorem readString?_quote (s : String) (more : List Char) :
    readString? (s.toList.flatMap escape ++ '"' :: more) = some (s, more) := by
  rw [readString?, readUnits?_flatMap_escape]
  simp [joinUnits?_map_unitOf]

/-! ## Words -/

def isWord (text : List Char) : Bool := !text.isEmpty && text.all isWordChar

theorem isWord_iff {text : List Char} : isWord text = true ↔ text ≠ [] ∧ ∀ c ∈ text, isWordChar c = true := by
  simp [isWord]

theorem ne_of_isWordChar {c d : Char} (hc : isWordChar c = true) (hd : isWordChar d = false) : c ≠ d := by
  rintro rfl
  rw [hc] at hd
  cases hd

/-- What is not part of a word ends a number, complete or not. -/
theorem Numeral.step_eq_none (s : Numeral) {c : Char} (hc : isWordChar c = false) : s.step c = none := by
  have hdigit : c.isDigit = false := by
    by_contra hdigit
    simp [isWordChar, Char.isAlphanum, hdigit] at hc
  have hne : ∀ d, isWordChar d = true → c ≠ d := fun d hd => (ne_of_isWordChar hd hc).symm
  have h0 := hne '0' (by decide)
  have he := hne 'e' (by decide)
  have hE := hne 'E' (by decide)
  have hpoint := hne '.' (by decide)
  have hplus := hne '+' (by decide)
  have hminus := hne '-' (by decide)
  cases s <;> simp [step, beginWhole, endWhole, markExponent, *]

theorem Numeral.isWordChar_of_foldlM {s s' : Numeral} {word : List Char}
    (h : word.foldlM step s = some s') : ∀ c ∈ word, isWordChar c = true := by
  induction word generalizing s with
  | nil => simp
  | cons c word ih =>
    rw [List.foldlM_cons] at h
    obtain ⟨next, hstep, hrest⟩ := Option.bind_eq_some_iff.1 h
    refine List.forall_mem_cons.2 ⟨?_, ih hrest⟩
    by_contra hc
    rw [s.step_eq_none (Bool.eq_false_iff.2 hc)] at hstep
    cases hstep

theorem isWord_of_isNumber {text : List Char} (h : isNumber text = true) : isWord text = true := by
  rw [isWord_iff]
  constructor
  · rintro rfl
    cases h
  · obtain ⟨s, hs, -⟩ := (Option.any_eq_true _ _).1 h
    exact Numeral.isWordChar_of_foldlM hs

theorem word?_of_isNumber {word : List Char} (h : isNumber word = true) :
    word? word = some (.number (String.ofList word)) := by
  have hnull : word ≠ "null".toList := by
    rintro rfl
    exact absurd h (by decide)
  have htrue : word ≠ "true".toList := by
    rintro rfl
    exact absurd h (by decide)
  have hfalse : word ≠ "false".toList := by
    rintro rfl
    exact absurd h (by decide)
  rw [word?, if_neg hnull, if_neg htrue, if_neg hfalse, if_pos h]

/-! ## The tokens of a text -/

/-- No word before the text goes on in it. -/
def EndsWord (text : List Char) : Prop := ∀ c ∈ text.head?, isWordChar c = false

theorem endsWord_cons {c : Char} (hc : isWordChar c = false) (rest : List Char) : EndsWord (c :: rest) := by
  intro d hd
  cases hd
  exact hc

theorem EndsWord.takeWhile {text : List Char} (h : EndsWord text) : text.takeWhile isWordChar = [] := by
  cases text with
  | nil => rfl
  | cons c text => exact List.takeWhile_cons_of_neg (Bool.eq_false_iff.1 (h c rfl))

theorem EndsWord.dropWhile {text : List Char} (h : EndsWord text) : text.dropWhile isWordChar = text := by
  cases text with
  | nil => rfl
  | cons c text => exact List.dropWhile_cons_of_neg (Bool.eq_false_iff.1 (h c rfl))

theorem lex?_space {c : Char} (hc : isSpace c = true) (more : List Char) : lex? (c :: more) = lex? more := by
  rw [lex?, if_pos hc]

theorem lex?_punctuation {c : Char} {t : Token} (hc : punctuation? c = some t) (more : List Char) :
    lex? (c :: more) = (lex? more).map (t :: ·) := by
  have hspace : isSpace c = false := by
    by_contra hspace
    simp only [isSpace, Bool.not_eq_false, Bool.or_eq_true, beq_iff_eq] at hspace
    rcases hspace with ((rfl | rfl) | rfl) | rfl <;> cases hc
  have hquote : c ≠ '"' := by
    rintro rfl
    cases hc
  rw [lex?, hspace]
  simp [hquote, hc]

theorem lex?_quote (s : String) (more : List Char) :
    lex? ((quote s).toList ++ more) = (lex? more).map (.string s :: ·) := by
  have htext : (quote s).toList ++ more = '"' :: (s.toList.flatMap escape ++ '"' :: more) := by
    simp [quote]
  rw [htext, lex?, if_neg (by decide), if_pos rfl]
  split
  next hread =>
    rw [readString?_quote] at hread
    cases hread
  next hread =>
    rw [readString?_quote] at hread
    cases hread
    rfl

theorem lex?_word {word more : List Char} {t : Token} (hword : isWord word = true)
    (ht : word? word = some t) (hmore : EndsWord more) : lex? (word ++ more) = (lex? more).map (t :: ·) := by
  obtain ⟨hne, hchars⟩ := isWord_iff.1 hword
  cases word with
  | nil => exact absurd rfl hne
  | cons c word =>
    obtain ⟨hc, hrest⟩ := List.forall_mem_cons.1 hchars
    -- The first character is none of those that have a meaning outside words.
    have hother : ∀ d ∈ [' ', '\t', '\n', '\r', '"', '[', ']', '\x7b', '\x7d', ':', ','], c ≠ d := by
      have hall : [' ', '\t', '\n', '\r', '"', '[', ']', '\x7b', '\x7d', ':', ','].all
          (!isWordChar ·) = true := by decide
      rintro d hd rfl
      have hd := List.all_eq_true.1 hall c hd
      rw [hc] at hd
      cases hd
    simp only [List.forall_mem_cons, ne_eq] at hother
    have hspace : isSpace c = false := by simp [isSpace, hother]
    have hquote : c ≠ '"' := by simp [hother]
    have hpunctuation : punctuation? c = none := by simp [punctuation?, hother]
    have htake : (word ++ more).takeWhile isWordChar = word := by
      rw [List.takeWhile_append_of_pos hrest, hmore.takeWhile, List.append_nil]
    have hdrop : (word ++ more).dropWhile isWordChar = more := by
      rw [List.dropWhile_append_of_pos hrest, hmore.dropWhile]
    rw [List.cons_append, lex?, hspace]
    simp [hquote, hpunctuation, htake, hdrop, ht]
    cases lex? more <;> rfl

/-! ## Laid out values -/

/-- The text gives the tokens, and then those of whatever follows it, unless its last word goes on there. -/
def Lexes (text : String) (ts : List Token) : Prop :=
  ∀ more, EndsWord more → lex? (text.toList ++ more) = (lex? more).map (ts ++ ·)

theorem endsWord_newline (depth : Nat) (more : List Char) : EndsWord ((newline depth).toList ++ more) := by
  rw [newline, String.toList_ofList]
  exact endsWord_cons (by decide) _

theorem lex?_newline (depth : Nat) (more : List Char) :
    lex? ((newline depth).toList ++ more) = lex? more := by
  have hblanks : ∀ n, lex? (List.replicate n ' ' ++ more) = lex? more := by
    intro n
    induction n with
    | zero => rfl
    | succ n ih => rw [List.replicate_succ, List.cons_append, lex?_space (by decide), ih]
  rw [newline, String.toList_ofList, List.cons_append, lex?_space (by decide), hblanks]

theorem lexes_word {word : String} {t : Token} (hword : isWord word.toList = true)
    (ht : word? word.toList = some t) : Lexes word [t] :=
  fun _ hmore => lex?_word hword ht hmore

theorem lexes_quote (s : String) : Lexes (quote s) [.string s] := fun more _ => lex?_quote s more

theorem lexes_member {key value : String} {ts : List Token} (h : Lexes value ts) :
    Lexes (quote key ++ ": " ++ value) (.string key :: .colon :: ts) := by
  intro more hmore
  have htext : (quote key ++ ": " ++ value).toList ++ more =
      (quote key).toList ++ ':' :: ' ' :: (value.toList ++ more) := by
    simp
  rw [htext, lex?_quote, lex?_punctuation (by rfl), lex?_space (by decide), h more hmore]
  cases lex? more <;> rfl

theorem lexes_intercalate {depth : Nat} {parts : List String} {tss : List (List Token)}
    (h : List.Forall₂ Lexes parts tss) (hne : parts ≠ []) :
    Lexes (("," ++ newline depth).intercalate parts) ([.comma].intercalate tss) := by
  induction h with
  | nil => exact absurd rfl hne
  | @cons part ts parts tss hpart hrest ih =>
    cases hrest with
    | nil =>
      rw [String.intercalate_singleton, List.intercalate_singleton]
      exact hpart
    | @cons next us parts tss hnext hrest =>
      intro more hmore
      have htext : (("," ++ newline depth).intercalate (part :: next :: parts)).toList ++ more =
          part.toList ++ ',' :: ((newline depth).toList ++
            ((("," ++ newline depth).intercalate (next :: parts)).toList ++ more)) := by
        rw [String.intercalate_cons_cons]
        simp
      rw [htext, hpart _ (endsWord_cons (by decide) _), lex?_punctuation (by rfl), lex?_newline,
        ih (List.cons_ne_nil _ _) more hmore, List.intercalate_cons_cons]
      cases lex? more <;> simp

theorem lexes_layOut {depth : Nat} {opening closing : String} {o c : Char} {opened closed : Token}
    {parts : List String} {tss : List (List Token)} (hopening : opening.toList = [o])
    (hopened : punctuation? o = some opened) (hclosing : closing.toList = [c])
    (hclosed : punctuation? c = some closed) (h : List.Forall₂ Lexes parts tss) :
    Lexes (layOut depth opening closing parts) (opened :: [.comma].intercalate tss ++ [closed]) := by
  intro more hmore
  unfold layOut
  cases h with
  | nil =>
    rw [List.isEmpty_nil, if_pos rfl, String.toList_append, hopening, hclosing, List.append_assoc,
      List.singleton_append, List.singleton_append, lex?_punctuation hopened, lex?_punctuation hclosed]
    cases lex? more <;> rfl
  | @cons part ts parts tss hpart hrest =>
    have hparts : Lexes (("," ++ newline (depth + 1)).intercalate (part :: parts)) _ :=
      lexes_intercalate (.cons hpart hrest) (List.cons_ne_nil _ _)
    have htext : (opening ++ newline (depth + 1) ++
          ("," ++ newline (depth + 1)).intercalate (part :: parts) ++ newline depth ++ closing).toList ++ more =
        o :: ((newline (depth + 1)).toList ++
          ((("," ++ newline (depth + 1)).intercalate (part :: parts)).toList ++
            ((newline depth).toList ++ c :: more))) := by
      simp [hopening, hclosing]
    rw [List.isEmpty_cons, if_neg Bool.false_ne_true, htext, lex?_punctuation hopened, lex?_newline,
      hparts _ (endsWord_newline depth _), lex?_newline, lex?_punctuation hclosed]
    cases lex? more <;> simp

theorem prettyItems_eq_map (depth : Nat) (items : List Json) :
    prettyItems depth items = items.map (pretty depth) := by
  induction items with
  | nil => rfl
  | cons item rest ih => rw [prettyItems, ih, List.map_cons]

theorem prettyMembers_eq_map (depth : Nat) (members : List (String × Json)) :
    prettyMembers depth members =
      members.map fun member => quote member.1 ++ ": " ++ pretty depth member.2 := by
  induction members with
  | nil => rfl
  | cons member rest ih => rw [prettyMembers, ih, List.map_cons]

/-- Laying out a value gives its tokens. -/
theorem lexes_pretty {v : Json} (h : v.WellFormed) (depth : Nat) : Lexes (pretty depth v) v.tokens := by
  -- The depth varies, since the items of a value are laid out one level deeper.
  induction h generalizing depth with
  | null =>
    rw [pretty]
    exact lexes_word (by decide) (by decide)
  | bool value =>
    rw [pretty]
    cases value <;> exact lexes_word (by decide) (by decide)
  | @number literal hnumber =>
    rw [pretty]
    refine lexes_word (isWord_of_isNumber hnumber) ?_
    rw [word?_of_isNumber hnumber, String.ofList_toList]
  | string text => exact lexes_quote text
  | @array items hitems ih =>
    rw [pretty, prettyItems_eq_map, tokens, itemTokens_eq_map]
    refine lexes_layOut rfl rfl rfl rfl ?_
    rw [List.forall₂_map_left_iff, List.forall₂_map_right_iff, List.forall₂_same]
    exact fun item hitem => ih item hitem (depth + 1)
  | @object members hmembers ih =>
    rw [pretty, prettyMembers_eq_map, tokens, memberTokens_eq_map]
    refine lexes_layOut rfl rfl rfl rfl ?_
    rw [List.forall₂_map_left_iff, List.forall₂_map_right_iff, List.forall₂_same]
    exact fun member hmember => lexes_member (ih member hmember (depth + 1))

/-- A laid out value is read back. -/
theorem read?_pretty {v : Json} (h : v.WellFormed) : read? (pretty 0 v ++ "\n") = some v := by
  have hend : lex? ['\n'] = some [] := by rw [lex?_space (by decide), lex?]
  have htext : (pretty 0 v ++ "\n").toList = (pretty 0 v).toList ++ ['\n'] := by
    rw [String.toList_append]
    rfl
  rw [read?_eq_some_iff, htext, lexes_pretty h 0 _ (endsWord_cons (by decide) []), hend, Option.map_some, List.append_nil]

end ModularGrammar.Json
