import Mathlib.Data.List.Basic
import ModularGrammar.Proofs.JsonTexts

/-! # Control characters of a laid out value

A text is followed from left to right, so that each of its characters stands in a string or outside. The
control characters, which are those below U+0020, all stand outside in a laid out value, and are the line
feeds of the layout.

* `Json.Place`, `Json.placeAfter`: where a text has come to;
* `Json.Tidy`: the texts without an open string in which a control character is a line feed outside strings;
* `Json.tidy_pretty`: laid out values are tidy;
* `Json.endsInLine_pretty`: a laid out value does not end in a line feed.
-/

set_option autoImplicit false

namespace ModularGrammar.Json

/-- Outside strings, in a string, or in a string and after a backslash that escapes the next character. -/
inductive Place where
  | outside
  | inside
  | escaping
deriving DecidableEq

def Place.next : Place → Char → Place
  | .outside, c => if c = '"' then .inside else .outside
  | .inside, c => if c = '"' then .outside else if c = '\\' then .escaping else .inside
  | .escaping, _ => .inside

def placeAfter (text : List Char) : Place := text.foldl Place.next .outside

/-- Each string of the text ends in it, and its control characters are line feeds between the strings. -/
structure Tidy (text : List Char) : Prop where
  outside : placeAfter text = .outside
  newline_of_control : ∀ before c after, text = before ++ c :: after → c.toNat < 0x20 →
    c = '\n' ∧ placeAfter before = .outside

/-! ## Tidy texts -/

theorem placeAfter_append {a b : List Char} (ha : placeAfter a = .outside) :
    placeAfter (a ++ b) = placeAfter b := by
  rw [placeAfter, List.foldl_append]
  exact congrArg (b.foldl Place.next) ha

theorem Tidy.append {a b : List Char} (ha : Tidy a) (hb : Tidy b) : Tidy (a ++ b) := by
  constructor
  · rw [placeAfter_append ha.outside]
    exact hb.outside
  · intro before c after htext hc
    -- The character is one of `b`, or one of `a`. With nothing of `a` left it is the first one of `b`.
    obtain ⟨more, rfl, hmore⟩ | ⟨more, rfl, hmore⟩ := List.append_eq_append_iff.1 htext
    · rw [placeAfter_append ha.outside]
      exact hb.newline_of_control more c after hmore hc
    · cases more with
      | nil =>
        obtain ⟨hnewline, -⟩ := hb.newline_of_control [] c after hmore.symm hc
        rw [List.append_nil] at ha
        exact ⟨hnewline, ha.outside⟩
      | cons d more =>
        obtain ⟨rfl, -⟩ := List.cons.inj hmore
        exact ha.newline_of_control before c more rfl hc

theorem tidy_nil : Tidy [] := ⟨rfl, fun before c after h => by simp at h⟩

theorem placeAfter_of_quote_notMem {text : List Char} (h : '"' ∉ text) : placeAfter text = .outside := by
  induction text with
  | nil => rfl
  | cons c text ih =>
    rw [List.mem_cons, not_or] at h
    have hplace : Place.outside.next c = .outside := if_neg (Ne.symm h.1)
    rw [placeAfter, List.foldl_cons, hplace]
    exact ih h.2

def isPlain (c : Char) : Bool := c != '"' && (decide (0x20 ≤ c.toNat) || c == '\n')

theorem isPlain_iff {c : Char} : isPlain c = true ↔ c ≠ '"' ∧ (0x20 ≤ c.toNat ∨ c = '\n') := by
  simp [isPlain]

/-- A text without quotes has no strings. -/
theorem tidy_of_plain {text : List Char} (htext : text.all isPlain = true) : Tidy text := by
  have hplain : ∀ c ∈ text, c ≠ '"' ∧ (0x20 ≤ c.toNat ∨ c = '\n') :=
    fun c hc => isPlain_iff.1 (List.all_eq_true.1 htext c hc)
  have hquote : '"' ∉ text := fun h => (hplain '"' h).1 rfl
  constructor
  · exact placeAfter_of_quote_notMem hquote
  · rintro before c after rfl hc
    refine ⟨?_, placeAfter_of_quote_notMem fun h => hquote (List.mem_append_left _ h)⟩
    exact (hplain c (by simp)).2.resolve_left (Nat.not_le.2 hc)

theorem le_of_isWordChar {c : Char} (h : isWordChar c = true) : 0x20 ≤ c.toNat := by
  have hall : ∀ n < 0x20, isWordChar (Char.ofNat n) = false := by decide
  by_contra hlt
  have hc := hall c.toNat (Nat.lt_of_not_le hlt)
  rw [Char.ofNat_toNat, h] at hc
  cases hc

theorem tidy_of_word {word : List Char} (h : isWord word = true) : Tidy word := by
  refine tidy_of_plain (List.all_eq_true.2 fun c hc => isPlain_iff.2 ?_)
  have hword := (isWord_iff.1 h).2 c hc
  exact ⟨ne_of_isWordChar hword (by decide), .inl (le_of_isWordChar hword)⟩

theorem le_of_escaped? {letter c : Char} (h : escaped? letter = some c) : 0x20 ≤ letter.toNat := by
  by_contra hlt
  have hne : ∀ d, 0x20 ≤ d.toNat → letter ≠ d := by
    rintro d hd rfl
    exact hlt hd
  simp [escaped?, hne '"' (by decide), hne '\\' (by decide), hne '/' (by decide), hne 'b' (by decide),
    hne 'f' (by decide), hne 'n' (by decide), hne 'r' (by decide), hne 't' (by decide)] at h

/-- An escaped character does not end its string, and holds no control character. -/
theorem inside_escape (c : Char) :
    (escape c).foldl Place.next .inside = .inside ∧ ∀ d ∈ escape c, 0x20 ≤ d.toNat := by
  obtain ⟨letter, htext, hletter, -⟩ | ⟨hcode, htext, -⟩ | ⟨htext, hquote, hbackslash, hle, -⟩ := escape_cases c
  · rw [htext]
    refine ⟨rfl, List.forall_mem_cons.2 ⟨by decide, List.forall_mem_singleton.2 ?_⟩⟩
    exact le_of_escaped? hletter
  · have hdigit : ∀ n < 16,
        Place.inside.next (Nat.digitChar n) = .inside ∧ 0x20 ≤ (Nat.digitChar n).toNat := by decide
    obtain ⟨hhigh, hhigh'⟩ := hdigit (c.toNat / 16) (by omega)
    obtain ⟨hlow, hlow'⟩ := hdigit (c.toNat % 16) (Nat.mod_lt _ (by decide))
    rw [htext]
    constructor
    · show (Place.inside.next (Nat.digitChar (c.toNat / 16))).next (Nat.digitChar (c.toNat % 16)) = .inside
      rw [hhigh, hlow]
    · simp [hhigh', hlow']
  · rw [htext]
    exact ⟨by simp [Place.next, hquote, hbackslash], List.forall_mem_singleton.2 hle⟩

theorem inside_flatMap_escape (chars : List Char) :
    (chars.flatMap escape).foldl Place.next .inside = .inside ∧
      ∀ d ∈ chars.flatMap escape, 0x20 ≤ d.toNat := by
  induction chars with
  | nil => simp
  | cons c chars ih =>
    obtain ⟨hplace, hcontrol⟩ := inside_escape c
    rw [List.flatMap_cons, List.foldl_append, hplace]
    exact ⟨ih.1, List.forall_mem_append.2 ⟨hcontrol, ih.2⟩⟩

theorem tidy_quote (s : String) : Tidy (quote s).toList := by
  obtain ⟨hplace, hcontrol⟩ := inside_flatMap_escape s.toList
  rw [quote, String.toList_ofList]
  constructor
  · have hquote : Place.outside.next '"' = .inside := rfl
    rw [placeAfter, List.cons_append, List.foldl_cons, List.foldl_append, hquote, hplace]
    rfl
  · intro before c after htext hc
    have hmem : c ∈ '"' :: s.toList.flatMap escape ++ ['"'] := by
      rw [htext]
      simp
    have hle : ∀ d ∈ '"' :: s.toList.flatMap escape ++ ['"'], 0x20 ≤ d.toNat :=
      List.forall_mem_append.2 ⟨List.forall_mem_cons.2 ⟨by decide, hcontrol⟩, List.forall_mem_singleton.2 (by decide)⟩
    exact absurd hc (Nat.not_lt.2 (hle c hmem))

/-! ## Laid out values -/

theorem tidy_newline (depth : Nat) : Tidy (newline depth).toList := by
  apply tidy_of_plain
  rw [newline, String.toList_ofList]
  simp [isPlain]

theorem tidy_intercalate {separator : String} (hseparator : Tidy separator.toList) {parts : List String}
    (hparts : ∀ part ∈ parts, Tidy part.toList) : Tidy (separator.intercalate parts).toList := by
  induction parts with
  | nil => exact tidy_nil
  | cons part rest ih =>
    obtain ⟨hpart, hrest⟩ := List.forall_mem_cons.1 hparts
    cases rest with
    | nil =>
      rw [String.intercalate_singleton]
      exact hpart
    | cons next rest =>
      rw [String.intercalate_cons_cons, String.toList_append, String.toList_append]
      exact (hpart.append hseparator).append (ih hrest)

theorem tidy_layOut {depth : Nat} {opening closing : String} {parts : List String}
    (hopening : Tidy opening.toList) (hclosing : Tidy closing.toList)
    (hparts : ∀ part ∈ parts, Tidy part.toList) : Tidy (layOut depth opening closing parts).toList := by
  unfold layOut
  split
  · rw [String.toList_append]
    exact hopening.append hclosing
  · have hseparator : Tidy ("," ++ newline (depth + 1)).toList := by
      rw [String.toList_append]
      exact (tidy_of_plain (by decide)).append (tidy_newline _)
    simp only [String.toList_append]
    exact (((hopening.append (tidy_newline _)).append (tidy_intercalate hseparator hparts)).append
      (tidy_newline _)).append hclosing

theorem tidy_pretty {v : Json} (h : v.WellFormed) (depth : Nat) : Tidy (pretty depth v).toList := by
  induction h generalizing depth with
  | null =>
    rw [pretty]
    exact tidy_of_plain (by decide)
  | bool value =>
    rw [pretty]
    cases value <;> exact tidy_of_plain (by decide)
  | @number literal hnumber =>
    rw [pretty]
    exact tidy_of_word (isWord_of_isNumber hnumber)
  | string text => exact tidy_quote text
  | @array items hitems ih =>
    rw [pretty, prettyItems_eq_map]
    refine tidy_layOut (tidy_of_plain (by decide)) (tidy_of_plain (by decide)) ?_
    exact List.forall_mem_map.2 fun item hitem => ih item hitem (depth + 1)
  | @object members hmembers ih =>
    rw [pretty, prettyMembers_eq_map]
    refine tidy_layOut (tidy_of_plain (by decide)) (tidy_of_plain (by decide)) ?_
    refine List.forall_mem_map.2 fun member hmember => ?_
    simp only [String.toList_append]
    exact ((tidy_quote member.1).append (tidy_of_plain (by decide))).append (ih member hmember (depth + 1))

/-! ## The end of a laid out value -/

/-- The text ends, and not in a line feed. -/
def EndsInLine (text : List Char) : Prop := ∃ body last, text = body ++ [last] ∧ last ≠ '\n'

theorem endsInLine_of_word {word : List Char} (h : isWord word = true) : EndsInLine word := by
  obtain ⟨hne, hword⟩ := isWord_iff.1 h
  obtain rfl | ⟨body, last, rfl⟩ := List.eq_nil_or_concat word
  · exact absurd rfl hne
  · exact ⟨body, last, List.concat_eq_append, ne_of_isWordChar (hword last (by simp)) (by decide)⟩

theorem endsInLine_layOut {depth : Nat} {opening closing : String} {parts : List String} {c : Char}
    (hclosing : closing.toList = [c]) (hc : c ≠ '\n') :
    EndsInLine (layOut depth opening closing parts).toList := by
  unfold layOut
  split
  · exact ⟨_, c, by rw [String.toList_append, hclosing], hc⟩
  · exact ⟨_, c, by rw [String.toList_append, hclosing], hc⟩

theorem endsInLine_pretty {v : Json} (h : v.WellFormed) (depth : Nat) :
    EndsInLine (pretty depth v).toList := by
  cases h with
  | null =>
    rw [pretty]
    exact endsInLine_of_word (by decide)
  | bool value =>
    rw [pretty]
    cases value <;> exact endsInLine_of_word (by decide)
  | number hnumber =>
    rw [pretty]
    exact endsInLine_of_word (isWord_of_isNumber hnumber)
  | string text =>
    rw [pretty, quote, String.toList_ofList]
    exact ⟨_, '"', rfl, by decide⟩
  | array =>
    rw [pretty]
    exact endsInLine_layOut rfl (by decide)
  | object =>
    rw [pretty]
    exact endsInLine_layOut rfl (by decide)

end ModularGrammar.Json
