import ModularGrammar.Main
import ModularGrammar.Session
import ModularGrammar.Proofs.Occurrence
import ModularGrammar.Proofs.Verification
import ModularGrammar.Proofs.Inference
import ModularGrammar.Proofs.Merging
import ModularGrammar.Proofs.Reachability
import ModularGrammar.Proofs.Repair
import ModularGrammar.Proofs.Resolution
import ModularGrammar.Proofs.Restyling
import ModularGrammar.Proofs.Renaming
import ModularGrammar.Proofs.Separation
import ModularGrammar.Proofs.CheckLines
import ModularGrammar.Proofs.QuotedNames
import ModularGrammar.Proofs.VerificationTrace
import ModularGrammar.Proofs.LogFiltering
import ModularGrammar.Json.Numeral
import ModularGrammar.Json.Token
import ModularGrammar.Proofs.RunSettings
import ModularGrammar.Json.Reader
import ModularGrammar.Proofs.JsonTokens
import ModularGrammar.Proofs.JsonTexts
import ModularGrammar.Proofs.JsonLayout
import ModularGrammar.Proofs.LosslessReports
import ModularGrammar.Proofs.SymbolCollection
import ModularGrammar.Proofs.InterfaceLines
import ModularGrammar.Proofs.CheckRequests
import ModularGrammar.Proofs.CommandLineReading
import ModularGrammar.Proofs.SettingsResolution
import ModularGrammar.Proofs.CanonicalValues
import ModularGrammar.Proofs.LeafOrder
import ModularGrammar.Proofs.QuotedNames
