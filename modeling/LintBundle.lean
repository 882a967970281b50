import LintBundle.Naming
import LintBundle.Severity
import LintBundle.Document
import LintBundle.Yaml
import LintBundle.Json.Reader
import LintBundle.Json.Printer
import LintBundle.Extends
import LintBundle.Bundle
import LintBundle.Module.Text
import LintBundle.Loader.Directory
import LintBundle.Main
import LintBundle.Proofs.Chaining
import LintBundle.Proofs.Resolving
import LintBundle.Proofs.Magnitude
import LintBundle.Proofs.Keys
import LintBundle.Proofs.Merging
import LintBundle.Proofs.Expansion
import LintBundle.Proofs.Circles
import LintBundle.Proofs.Bundling
import LintBundle.Proofs.Digits
import LintBundle.Proofs.Rounding
import LintBundle.Proofs.Numerals
import LintBundle.Proofs.NumberText
import LintBundle.Proofs.QuotedText
import LintBundle.Proofs.JsonReader
import LintBundle.Proofs.JsonText
import LintBundle.Proofs.ModuleText
import LintBundle.Proofs.Targets
import LintBundle.Proofs.Overriding
import LintBundle.Proofs.Qualifying
import LintBundle.Proofs.Remembering
import LintBundle.Proofs.Reordering
import LintBundle.Proofs.Rendering
import LintBundle.Proofs.Noting
import LintBundle.Proofs.Inertness
import LintBundle.Proofs.Descending
import LintBundle.Proofs.Flattening
import LintBundle.Proofs.Isolation
import LintBundle.Proofs.Lexing
import LintBundle.Proofs.Schema
import LintBundle.Proofs.Drafting
import LintBundle.Proofs.Searching
import LintBundle.Proofs.Loading
import LintBundle.Proofs.Reporting
import LintBundle.Proofs.FlowStyle
import LintBundle.Proofs.FlowText
import LintBundle.Proofs.FlowTokens
import LintBundle.Proofs.Denoting
import LintBundle.Proofs.Numbering
import LintBundle.Proofs.WrittenNumbers
import LintBundle.Proofs.JsonGrammar
import LintBundle.Proofs.PlainNumbers
import LintBundle.Proofs.Subset
import LintBundle.Proofs.Identity
import LintBundle.Proofs.Offenders
import LintBundle.Proofs.Conventional
import LintBundle.Proofs.Storing
import LintBundle.Proofs.Delivering
import LintBundle.Proofs.Forms
import LintBundle.Proofs.Agreement
import LintBundle.Proofs.Normalizing
import LintBundle.Proofs.Literals
import LintBundle.Proofs.Confining
import LintBundle.Proofs.Escaping
import LintBundle.Proofs.Tabulating
