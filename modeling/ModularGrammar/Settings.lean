import ModularGrammar.OutputFormat
import ModularGrammar.Text.Blank

/-! # Settings

* `Settings`: the output format and the explicit log filter of a run;
* `Settings.resolve`: the settings for given values, where a blank filter counts as none.
-/

set_option autoImplicit false

namespace ModularGrammar

structure Settings where
  format : OutputFormat
  logFilter : Option String
deriving DecidableEq

namespace Settings

instance : Inhabited Settings := ⟨⟨default, none⟩⟩

/-- A filter of blanks only is dropped, and any other is kept as it is given. -/
def resolve (format : OutputFormat) (logFilter : Option String) : Settings :=
  ⟨format, logFilter.filter fun text => !allBlank text⟩

def isDefault (s : Settings) : Bool := decide (s = default)

end Settings

end ModularGrammar
