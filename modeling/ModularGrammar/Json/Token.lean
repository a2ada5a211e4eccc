import ModularGrammar.Json.Numeral

/-! # JSON tokens

A JSON text is a row of tokens, with blanks anywhere between them: brackets, braces, colons and commas,
strings, and words, which are numbers and three literal names.

* `Json.Token`: the tokens;
* `Json.readUnits?`, `Json.joinUnits?`, `Json.readString?`: a string up to its closing quote. Characters
  below U+0020 do not stand in a string, and a character beyond U+FFFF may be given by two code units;
* `Json.word?`: a literal name or a number;
* `Json.lex?`: the tokens of a text.
-/

set_option autoImplicit false

namespace ModularGrammar.Json

inductive Token where
  | openArray
  | closeArray
  | openObject
  | closeObject
  | colon
  | comma
  | null
  | bool (value : Bool)
  | number (literal : String)
  | string (text : String)
deriving DecidableEq

/-! ## Strings -/

/-- A character, or a code unit that is given by its four hexadecimal digits. -/
inductive StringUnit where
  | char (c : Char)
  | code (unit : Nat)

def hexDigit? (c : Char) : Option Nat :=
  if c.isDigit then some (c.toNat - '0'.toNat)
  else if 'a' ≤ c ∧ c ≤ 'f' then some (10 + (c.toNat - 'a'.toNat))
  else if 'A' ≤ c ∧ c ≤ 'F' then some (10 + (c.toNat - 'A'.toNat))
  else none

def codeUnit? (digits : List Char) : Option Nat := do
  return (← digits.mapM hexDigit?).foldl (fun unit digit => 16 * unit + digit) 0

/-- The character that a letter or sign after a backslash stands for. -/
def escaped? (c : Char) : Option Char :=
  if c = '"' ∨ c = '\\' ∨ c = '/' then some c
  else if c = 'b' then some '\x08'
  else if c = 'f' then some '\x0c'
  else if c = 'n' then some '\n'
  else if c = 'r' then some '\r'
  else if c = 't' then some '\t'
  else none

/-- Reads a string up to its closing quote, and gives what follows it. -/
def readUnits? : List Char → Option (List StringUnit × List Char)
  | [] => none
  | c :: rest =>
    if c = '"' then some ([], rest)
    else if c = '\\' then
      match rest with
      | 'u' :: d₁ :: d₂ :: d₃ :: d₄ :: rest => do
        let unit ← codeUnit? [d₁, d₂, d₃, d₄]
        let (units, after) ← readUnits? rest
        return (.code unit :: units, after)
      | e :: rest => do
        let char ← escaped? e
        let (units, after) ← readUnits? rest
        return (.char char :: units, after)
      | [] => none
    else if c.toNat < 0x20 then none
    else do
      let (units, after) ← readUnits? rest
      return (.char c :: units, after)

def isSurrogate (unit : Nat) : Bool := decide (0xd800 ≤ unit ∧ unit < 0xe000)

/-- The character of two surrogates, the higher of which comes first. -/
def ofSurrogates? (high low : Nat) : Option Char :=
  if high < 0xdc00 ∧ 0xdc00 ≤ low ∧ low < 0xe000 then
    some (Char.ofNat (0x10000 + 0x400 * (high - 0xd800) + (low - 0xdc00)))
  else none

/-- The text of a string. A surrogate does not stand alone. -/
def joinUnits? : List StringUnit → Option (List Char)
  | [] => some []
  | .char c :: rest => (joinUnits? rest).map (c :: ·)
  | .code unit :: rest =>
    if isSurrogate unit then
      match rest with
      | .code low :: rest => do return (← ofSurrogates? unit low) :: (← joinUnits? rest)
      | _ => none
    else (joinUnits? rest).map (Char.ofNat unit :: ·)

def readString? (text : List Char) : Option (String × List Char) := do
  let (units, after) ← readUnits? text
  return (String.ofList (← joinUnits? units), after)

theorem length_lt_of_readUnits? {text : List Char} {units : List StringUnit} {after : List Char}
    (h : readUnits? text = some (units, after)) : after.length < text.length := by
  fun_induction readUnits? text generalizing units with
  | case1 => cases h
  | case2 rest =>
    cases h
    exact Nat.lt_succ_self _
  | case3 hquote d₁ d₂ d₃ d₄ rest ih =>
    obtain ⟨unit, -, h⟩ := Option.bind_eq_some_iff.1 h
    obtain ⟨⟨later, after'⟩, hlater, h⟩ := Option.bind_eq_some_iff.1 h
    cases h
    have hlt := ih hlater
    simp only [List.length_cons]
    omega
  | case4 hquote e rest hcode ih =>
    obtain ⟨char, -, h⟩ := Option.bind_eq_some_iff.1 h
    obtain ⟨⟨later, after'⟩, hlater, h⟩ := Option.bind_eq_some_iff.1 h
    cases h
    have hlt := ih hlater
    simp only [List.length_cons]
    omega
  | case5 => cases h
  | case6 => cases h
  | case7 c rest hquote hbackslash hcontrol ih =>
    obtain ⟨⟨later, after'⟩, hlater, h⟩ := Option.bind_eq_some_iff.1 h
    cases h
    exact Nat.lt_trans (ih hlater) (Nat.lt_succ_self _)

theorem length_lt_of_readString? {text after : List Char} {s : String}
    (h : readString? text = some (s, after)) : after.length < text.length := by
  obtain ⟨⟨units, after'⟩, hunits, h⟩ := Option.bind_eq_some_iff.1 h
  obtain ⟨chars, -, h⟩ := Option.bind_eq_some_iff.1 h
  cases h
  exact length_lt_of_readUnits? hunits

/-! ## Words -/

def isWordChar (c : Char) : Bool := c.isAlphanum || c == '+' || c == '-' || c == '.'

def word? (word : List Char) : Option Token :=
  if word = "null".toList then some .null
  else if word = "true".toList then some (.bool true)
  else if word = "false".toList then some (.bool false)
  else if isNumber word then some (.number (String.ofList word))
  else none

/-! ## Whole texts -/

def isSpace (c : Char) : Bool := c == ' ' || c == '\t' || c == '\n' || c == '\r'

def punctuation? (c : Char) : Option Token :=
  if c = '[' then some .openArray
  else if c = ']' then some .closeArray
  else if c = '\x7b' then some .openObject
  else if c = '\x7d' then some .closeObject
  else if c = ':' then some .colon
  else if c = ',' then some .comma
  else none

def lex? : List Char → Option (List Token)
  | [] => some []
  | c :: rest =>
    if isSpace c then lex? rest
    else if c = '"' then
      match _h : readString? rest with
      | none => none
      | some (text, after) => (lex? after).map (.string text :: ·)
    else
      match punctuation? c with
      | some token => (lex? rest).map (token :: ·)
      | none => do
        let token ← word? (c :: rest.takeWhile isWordChar)
        return token :: (← lex? (rest.dropWhile isWordChar))
termination_by text => text.length
decreasing_by
  · exact Nat.lt_succ_self _
  · exact Nat.lt_trans (length_lt_of_readString? _h) (Nat.lt_succ_self _)
  · exact Nat.lt_succ_self _
  · exact Nat.lt_succ_of_le (List.dropWhile_sublist _).length_le

end ModularGrammar.Json
