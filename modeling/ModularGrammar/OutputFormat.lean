/-! # Output formats

* `OutputFormat`: text or JSON, text being the default;
* `OutputFormat.read`: the format that a word names, with or without regard to the case of its letters.
-/

set_option autoImplicit false

namespace ModularGrammar

inductive OutputFormat where
  | text
  | json
deriving DecidableEq

namespace OutputFormat

instance : Inhabited OutputFormat := ⟨.text⟩

def name : OutputFormat → String
  | .text => "text"
  | .json => "json"

def ofName? (word : String) : Option OutputFormat :=
  if word = "text" then some .text else if word = "json" then some .json else none

@[simp] theorem ofName?_name (format : OutputFormat) : ofName? format.name = some format := by
  cases format <;> decide

theorem name_of_ofName? {word : String} {format : OutputFormat}
    (h : ofName? word = some format) : format.name = word := by
  unfold ofName? at h
  split at h
  next hword => cases h; exact hword.symm
  next =>
    split at h
    next hword => cases h; exact hword.symm
    next => cases h

structure UnknownName where
  word : String
deriving DecidableEq

def UnknownName.message (e : UnknownName) : String := "invalid variant: " ++ e.word

/-- The format that a word names. Only the case of the letters A to Z can be ignored. -/
def read (word : String) (ignoreCase : Bool) : Except UnknownName OutputFormat :=
  match ofName? (if ignoreCase then word.map Char.toLower else word) with
  | some format => .ok format
  | none => .error ⟨word⟩

end OutputFormat

end ModularGrammar
