import ModularGrammar.Proofs.Separation
import ModularGrammar.Text.Quoted

/-! # Quoted texts and what they quote

A list of quoted texts is read back character by character, whatever the texts hold, and all that stands in it
can be seen.

* `Quoted.Reading`, `Quoted.Reading.step`: how far a list has been read, and one character more;
* `Quoted.readList?`: the texts of a list;
* `Quoted.escape_cases`: the three ways to write a character;
* `Quoted.readList?_list`: the texts are read back;
* `Quoted.isPlain_of_mem_list`: the characters of a list are plain.
-/

set_option autoImplicit false

namespace ModularGrammar.Quoted

/-! ## The reader -/

/-- The character that a sign, letter or digit after a backslash stands for. -/
def unescaped? (c : Char) : Option Char :=
  if c = '"' ∨ c = '\\' then some c
  else if c = 'n' then some '\n'
  else if c = 'r' then some '\r'
  else if c = 't' then some '\t'
  else if c = '0' then some '\x00'
  else none

def hexDigit? (c : Char) : Option Nat :=
  if c.isDigit then some (c.toNat - '0'.toNat)
  else if 'a' ≤ c ∧ c ≤ 'f' then some (10 + (c.toNat - 'a'.toNat))
  else none

/-- How far a list has been read: the texts before, and what there is of the one at hand. -/
inductive Reading where
  | start
  | opened
  | inside (before : List String) (text : List Char)
  | backslash (before : List String) (text : List Char)
  /-- After a backslash and a `u`. -/
  | mark (before : List String) (text : List Char)
  /-- Between the braces of a code point. -/
  | code (before : List String) (text : List Char) (point : Nat)
  | closed (texts : List String)
  | comma (texts : List String)
  | next (texts : List String)
  | done (texts : List String)

namespace Reading

def step : Reading → Char → Option Reading
  | .start, c => if c = '[' then some .opened else none
  | .opened, c => if c = '"' then some (.inside [] []) else if c = ']' then some (.done []) else none
  | .inside before text, c =>
    if c = '"' then some (.closed (before ++ [String.ofList text]))
    else if c = '\\' then some (.backslash before text)
    else some (.inside before (text ++ [c]))
  | .backslash before text, c =>
    if c = 'u' then some (.mark before text)
    else (unescaped? c).map fun char => .inside before (text ++ [char])
  | .mark before text, c => if c = '\x7b' then some (.code before text 0) else none
  | .code before text point, c =>
    if c = '\x7d' then some (.inside before (text ++ [Char.ofNat point]))
    else (hexDigit? c).map fun digit => .code before text (16 * point + digit)
  | .closed texts, c => if c = ',' then some (.comma texts) else if c = ']' then some (.done texts) else none
  | .comma texts, c => if c = ' ' then some (.next texts) else none
  | .next texts, c => if c = '"' then some (.inside texts []) else none
  | .done _, _ => none

def run (r : Reading) (chars : List Char) : Option Reading := chars.foldlM step r

def texts? : Reading → Option (List String)
  | .done texts => some texts
  | _ => none

end Reading

/-- The texts of a list, if it is one. -/
def readList? (list : String) : Option (List String) := (Reading.start.run list.toList).bind Reading.texts?

/-! ## Ways to write a character -/

/-- The three ways to write a character: by a sign after a backslash, as itself, or by its code point. -/
theorem escape_cases (c : Char) :
    (∃ sign ∈ ['"', '\\', 'n', 'r', 't', '0'], escape c = ['\\', sign] ∧ unescaped? sign = some c) ∨
      (escape c = [c] ∧ isPlain c = true ∧ c ≠ '"' ∧ c ≠ '\\') ∨
      (escape c = codePoint c ∧ isPlain c = false) := by
  by_cases hsign : c ∈ ['"', '\\', '\n', '\r', '\t', '\x00']
  · left
    simp only [List.mem_cons, List.not_mem_nil, or_false] at hsign
    rcases hsign with rfl | rfl | rfl | rfl | rfl | rfl
    · exact ⟨'"', by decide, rfl, rfl⟩
    · exact ⟨'\\', by decide, rfl, rfl⟩
    · exact ⟨'n', by decide, rfl, rfl⟩
    · exact ⟨'r', by decide, rfl, rfl⟩
    · exact ⟨'t', by decide, rfl, rfl⟩
    · exact ⟨'0', by decide, rfl, rfl⟩
  · right
    simp only [List.mem_cons, List.not_mem_nil, or_false, not_or] at hsign
    by_cases hplain : isPlain c = true
    · exact .inl ⟨by simp [escape, hsign, hplain], hplain, hsign.1, hsign.2.1⟩
    · exact .inr ⟨by simp [escape, hsign, hplain], Bool.eq_false_iff.2 hplain⟩

/-- A number is written by its digits, the last of which is what is left of sixteens. -/
theorem exists_digits (n : Nat) :
    ∃ digits : List Nat, (∀ digit ∈ digits, digit < 16) ∧ Nat.toDigits 16 n = digits.map Nat.digitChar ∧
      digits.foldl (fun point digit => 16 * point + digit) 0 = n := by
  -- The last digit is split off, so that what stands before it is a smaller number.
  induction n using Nat.strongRecOn with
  | ind n ih =>
    by_cases hn : n < 16
    · refine ⟨[n], ?_, Nat.toDigits_of_lt_base hn, ?_⟩
      · simpa using hn
      · simp
    · obtain ⟨digits, hlt, hchars, hvalue⟩ := ih (n / 16) (by omega)
      refine ⟨digits ++ [n % 16], ?_, ?_, ?_⟩
      · simp only [List.forall_mem_append, List.forall_mem_singleton]
        exact ⟨hlt, Nat.mod_lt n (by decide)⟩
      · rw [Nat.toDigits_of_base_le (by decide) (Nat.le_of_not_lt hn), hchars, List.map_append]
        rfl
      · rw [List.foldl_append, hvalue]
        exact Nat.div_add_mod n 16

/-! ## Reading back -/

namespace Reading
variable {r r' : Reading} {before : List String} {text : List Char}

theorem run_cons {c : Char} (h : r.step c = some r') (chars : List Char) :
    r.run (c :: chars) = r'.run chars := by
  rw [run, List.foldlM_cons, h]
  rfl

theorem run_singleton (r : Reading) (c : Char) : r.run [c] = r.step c := by
  rw [run, List.foldlM_cons]
  cases r.step c <;> rfl

theorem run_append {chars : List Char} (h : r.run chars = some r') (more : List Char) :
    r.run (chars ++ more) = r'.run more := by
  rw [run, List.foldlM_append, ← run, h]
  rfl

theorem run_digits {digits : List Nat} (h : ∀ digit ∈ digits, digit < 16) (point : Nat) :
    (code before text point).run (digits.map Nat.digitChar) =
      some (code before text (digits.foldl (fun point digit => 16 * point + digit) point)) := by
  have hdigit : ∀ d < 16, hexDigit? (Nat.digitChar d) = some d ∧ Nat.digitChar d ≠ '\x7d' := by decide
  induction digits generalizing point with
  | nil => rfl
  | cons d digits ih =>
    obtain ⟨hd, hdigits⟩ := List.forall_mem_cons.1 h
    obtain ⟨hvalue, hbrace⟩ := hdigit d hd
    have hstep : (code before text point).step (Nat.digitChar d) =
        some (code before text (16 * point + d)) := by
      rw [step, if_neg hbrace, hvalue]
      rfl
    rw [List.map_cons, run_cons hstep]
    exact ih hdigits _

theorem run_codePoint (c : Char) :
    (inside before text).run (codePoint c) = some (inside before (text ++ [c])) := by
  obtain ⟨digits, hlt, hchars, hvalue⟩ := exists_digits c.toNat
  have hopen : (inside before text).run ['\\', 'u', '\x7b'] = some (code before text 0) := rfl
  have hdigits := @run_digits before text digits hlt 0
  rw [hvalue] at hdigits
  rw [codePoint, hchars, List.append_assoc, run_append hopen, run_append hdigits, run_singleton, step,
    if_pos rfl, Char.ofNat_toNat]

/-- However a character is written, it is the next one of the text. -/
theorem run_escape (c : Char) : (inside before text).run (escape c) = some (inside before (text ++ [c])) := by
  obtain ⟨sign, -, hescape, hchar⟩ | ⟨hescape, -, hquote, hbackslash⟩ | ⟨hescape, -⟩ := escape_cases c
  · have hopen : (inside before text).step '\\' = some (backslash before text) := rfl
    have hu : sign ≠ 'u' := by
      rintro rfl
      cases hchar
    rw [hescape, run_cons hopen, run_singleton, step, if_neg hu, hchar]
    rfl
  · rw [hescape, run_singleton, step, if_neg hquote, if_neg hbackslash]
  · rw [hescape, run_codePoint]

theorem run_flatMap_escape (chars : List Char) :
    (inside before text).run (chars.flatMap escape) = some (inside before (text ++ chars)) := by
  induction chars generalizing text with
  | nil =>
    rw [List.append_nil]
    rfl
  | cons c chars ih =>
    rw [List.flatMap_cons, run_append (run_escape c), ih, List.append_assoc]
    rfl

/-- Where a text may begin, it is read up to its closing quote. -/
theorem run_text (h : r.step '"' = some (inside before [])) (s : String) :
    r.run (Quoted.text s).toList = some (closed (before ++ [s])) := by
  rw [Quoted.text, String.toList_ofList, List.cons_append, run_cons h, run_append (run_flatMap_escape _),
    List.nil_append, run_singleton, step, if_pos rfl, String.ofList_toList]

/-- Texts with a comma and a blank between them are read one after another. -/
theorem run_intercalate (h : r.step '"' = some (inside before [])) (s : String) (rest : List String) :
    r.run ([',', ' '].intercalate ((s :: rest).map fun s => (Quoted.text s).toList)) =
      some (closed (before ++ s :: rest)) := by
  induction rest generalizing r before s with
  | nil =>
    rw [List.map_singleton, List.intercalate_singleton]
    exact run_text h s
  | cons s' rest ih =>
    have hcomma : (closed (before ++ [s])).run [',', ' '] = some (next (before ++ [s])) := rfl
    have hrest := @ih (next (before ++ [s])) (before ++ [s]) rfl s'
    rw [List.map_cons] at hrest
    rw [List.map_cons, List.map_cons, List.intercalate_cons_cons, List.append_assoc,
      run_append (run_text h s), run_append hcomma, hrest, List.append_assoc]
    rfl

end Reading

theorem toList_list (items : List String) :
    (list items).toList = '[' :: ([',', ' '].intercalate (items.map fun s => (text s).toList) ++ [']']) := by
  have hcomma : ", ".toList = [',', ' '] := rfl
  rw [list, String.toList_append, String.toList_append, String.toList_intercalate, hcomma, List.map_map]
  rfl

/-- The texts of a list are read back, whatever they hold. -/
theorem readList?_list (items : List String) : readList? (list items) = some items := by
  cases items with
  | nil => rfl
  | cons s rest =>
    have hopen : Reading.start.step '[' = some .opened := rfl
    have htexts := @Reading.run_intercalate .opened [] rfl s rest
    rw [readList?, toList_list, Reading.run_cons hopen, Reading.run_append htexts]
    rfl

/-! ## What can be seen -/

theorem isPlain_of_ascii {c : Char} (low : 0x20 ≤ c.toNat) (high : c.toNat < 0x7f) : isPlain c = true := by
  rw [isPlain, isPrintable_of_ascii low high, extendsGrapheme_of_ascii (by omega)]
  rfl

theorem isPlain_of_mem_ascii {chars : List Char}
    (h : (chars.all fun c => decide (0x20 ≤ c.toNat ∧ c.toNat < 0x7f)) = true) :
    ∀ c ∈ chars, isPlain c = true := by
  intro c hc
  obtain ⟨low, high⟩ := of_decide_eq_true (List.all_eq_true.1 h c hc)
  exact isPlain_of_ascii low high

/-- Just the plain characters other than a quote and a backslash stand for themselves. -/
theorem escape_eq_self_iff {c : Char} : escape c = [c] ↔ isPlain c = true ∧ c ≠ '"' ∧ c ≠ '\\' := by
  constructor
  · intro h
    obtain ⟨sign, -, hescape, -⟩ | ⟨-, hplain⟩ | ⟨hescape, -⟩ := escape_cases c
    · rw [hescape] at h
      cases h
    · exact hplain
    · rw [hescape] at h
      cases h
  · rintro ⟨hplain, hquote, hbackslash⟩
    have hcontrols : (['\n', '\r', '\t', '\x00'].all fun d => !isPlain d) = true := by decide +kernel
    have hne : ∀ d ∈ ['\n', '\r', '\t', '\x00'], c ≠ d := by
      rintro d hd rfl
      have hcontrol := List.all_eq_true.1 hcontrols c hd
      rw [hplain] at hcontrol
      cases hcontrol
    simp only [List.forall_mem_cons] at hne
    obtain ⟨hfeed, hreturn, htab, hnul, -⟩ := hne
    rw [escape, if_neg hquote, if_neg hbackslash, if_neg hfeed, if_neg hreturn, if_neg htab, if_neg hnul,
      if_pos hplain]

theorem isPlain_of_mem_codePoint {c d : Char} (h : d ∈ codePoint c) : isPlain d = true := by
  have hdigit : ∀ n < 16, 0x20 ≤ (Nat.digitChar n).toNat ∧ (Nat.digitChar n).toNat < 0x7f := by decide
  obtain ⟨digits, hlt, hchars, -⟩ := exists_digits c.toNat
  rw [codePoint, hchars, List.mem_append, List.mem_append] at h
  rcases h with (hopening | hmem) | hclosing
  · exact isPlain_of_mem_ascii (by decide) d hopening
  · obtain ⟨n, hn, rfl⟩ := List.mem_map.1 hmem
    obtain ⟨low, high⟩ := hdigit n (hlt n hn)
    exact isPlain_of_ascii low high
  · exact isPlain_of_mem_ascii (by decide) d hclosing

theorem isPlain_of_mem_escape {c d : Char} (h : d ∈ escape c) : isPlain d = true := by
  obtain ⟨sign, hsign, hescape, -⟩ | ⟨hescape, hplain, -⟩ | ⟨hescape, -⟩ := escape_cases c
  · rw [hescape, List.mem_cons, List.mem_singleton] at h
    rcases h with rfl | rfl
    · exact isPlain_of_ascii (by decide) (by decide)
    · exact isPlain_of_mem_ascii (by decide) d hsign
  · rw [hescape, List.mem_singleton] at h
    exact h ▸ hplain
  · rw [hescape] at h
    exact isPlain_of_mem_codePoint h

theorem isPlain_of_mem_text {s : String} {c : Char} (h : c ∈ (text s).toList) : isPlain c = true := by
  have hquote : isPlain '"' = true := isPlain_of_ascii (by decide) (by decide)
  rw [text, String.toList_ofList, List.cons_append, List.mem_cons, List.mem_append, List.mem_singleton] at h
  rcases h with rfl | hchars | rfl
  · exact hquote
  · obtain ⟨d, -, hc⟩ := List.mem_flatMap.1 hchars
    exact isPlain_of_mem_escape hc
  · exact hquote

/-- A list shows plain characters only, whatever its texts hold. -/
theorem isPlain_of_mem_list {items : List String} {c : Char} (h : c ∈ (list items).toList) :
    isPlain c = true := by
  have hseparator : ∀ d ∈ [',', ' '], isPlain d = true := isPlain_of_mem_ascii (by decide)
  rw [toList_list, List.mem_cons, List.mem_append, List.mem_singleton] at h
  rcases h with rfl | hmem | rfl
  · exact isPlain_of_ascii (by decide) (by decide)
  · apply forall_mem_intercalate hseparator _ c hmem
    rw [List.forall_mem_map]
    exact fun s _ d hd => isPlain_of_mem_text hd
  · exact isPlain_of_ascii (by decide) (by decide)

-- An accent on its letter, a blank without a width and one that does not break; and a letter with its accent.
example : list ["e\u0301", "\u200b\u00a0", "\u00e9'"] =
    "[\"e\\u\x7b301\x7d\", \"\\u\x7b200b\x7d\\u\x7ba0\x7d\", \"\u00e9'\"]" := by
  decide +kernel

end ModularGrammar.Quoted
