import TrustSchema.Certificate.Basic
import TrustSchema.Certificate.Keyring
import TrustSchema.Certificate.Text
import TrustSchema.Crypto.Der
import TrustSchema.Crypto.P256
import TrustSchema.Crypto.Sha256
import TrustSchema.Crypto.Verifier
import TrustSchema.Decimal.Shortest
import TrustSchema.Document.Entry
import TrustSchema.Document.Parse
import TrustSchema.Document.Token
import TrustSchema.Files.Basic
import TrustSchema.Files.Path
import TrustSchema.Files.Tree
import TrustSchema.Lint.Command
import TrustSchema.Lint.Summary
import TrustSchema.Name.Basic
import TrustSchema.Name.Format
import TrustSchema.Name.Json
import TrustSchema.Name.Uri
import TrustSchema.Packet.Data
import TrustSchema.Packet.Interest
import TrustSchema.Packet.Signature
import TrustSchema.Packet.Signed
import TrustSchema.Pattern.Atom
import TrustSchema.Pattern.Basic
import TrustSchema.Pattern.ClassName
import TrustSchema.Pattern.Construct
import TrustSchema.Pattern.Expr
import TrustSchema.Pattern.Parse
import TrustSchema.Pattern.Program
import TrustSchema.Pattern.Reader
import TrustSchema.Pattern.Search
import TrustSchema.Pattern.Template
import TrustSchema.Policy.Basic
import TrustSchema.Policy.CertificateSource
import TrustSchema.Policy.Checker
import TrustSchema.Policy.Filter
import TrustSchema.Policy.Load
import TrustSchema.Policy.Locator
import TrustSchema.Policy.Rejection
import TrustSchema.Policy.Relation
import TrustSchema.Policy.Rule
import TrustSchema.Policy.Section
import TrustSchema.Policy.SectionFault
import TrustSchema.Settings
import TrustSchema.Text.Armor
import TrustSchema.Text.Base64
import TrustSchema.Text.Blank
import TrustSchema.Text.Digit
import TrustSchema.Text.Hex
import TrustSchema.Text.Json
import TrustSchema.Text.Keyword
import TrustSchema.Text.Letter
import TrustSchema.Text.Pieces
import TrustSchema.Text.Utf8
import TrustSchema.Unicode.Age
import TrustSchema.Unicode.Breaks
import TrustSchema.Unicode.Casing
import TrustSchema.Unicode.Category
import TrustSchema.Unicode.CharSet
import TrustSchema.Unicode.Derived
import TrustSchema.Unicode.Listed
import TrustSchema.Unicode.Property
import TrustSchema.Unicode.Runs
import TrustSchema.Unicode.Script
import TrustSchema.Validation.Cache
import TrustSchema.Validation.Clock
import TrustSchema.Validation.Fetch
import TrustSchema.Validation.Judge
import TrustSchema.Validation.Outcome
import TrustSchema.Validation.Validator
import TrustSchema.Wire.Error
import TrustSchema.Wire.Format
import TrustSchema.Wire.Length
import TrustSchema.Main
import TrustSchema.Proofs.Validation.Judgement
import TrustSchema.Proofs.Validation.History
import TrustSchema.Proofs.Validation.Unwinding
import TrustSchema.Proofs.Validation.Request
import TrustSchema.Proofs.Validation.Trust
import TrustSchema.Proofs.Validation.Clock
import TrustSchema.Proofs.Validation.Recording
import TrustSchema.Proofs.Validation.Recursion
import TrustSchema.Proofs.Validation.Transparency
import TrustSchema.Proofs.Success
import TrustSchema.Proofs.Wire.Length
import TrustSchema.Proofs.Wire.Canonical
import TrustSchema.Proofs.Packet.Canonical
import TrustSchema.Proofs.Packet.SignedBytes
import TrustSchema.Proofs.Validation.Termination
import TrustSchema.Proofs.Name.Prefix
import TrustSchema.Proofs.Policy.Identity
import TrustSchema.Proofs.Policy.Loaded
import TrustSchema.Proofs.Validation.Namespace
import TrustSchema.Proofs.Packet.SignedInterest
import TrustSchema.Proofs.Document.Grammar
import TrustSchema.Proofs.Document.Reading
import TrustSchema.Proofs.Document.Scanning
import TrustSchema.Proofs.Document.Layout
import TrustSchema.Proofs.Validation.Reload
import TrustSchema.Proofs.Validation.Isolation
import TrustSchema.Proofs.Policy.WellFormed
import TrustSchema.Proofs.Validation.SignatureTypes
import TrustSchema.Proofs.Validation.StepLimit
import TrustSchema.Proofs.Validation.Commutation
import TrustSchema.Proofs.Validation.HonestChain
import TrustSchema.Proofs.Document.Composition
import TrustSchema.Proofs.Policy.Composition
import TrustSchema.Proofs.Certificate.TextForms
import TrustSchema.Proofs.Validation.CacheEffect
import TrustSchema.Proofs.Validation.Recheck
import TrustSchema.Proofs.Validation.FirstMatch
import TrustSchema.Proofs.Validation.FixedSigner
import TrustSchema.Proofs.Policy.Hierarchy
import TrustSchema.Proofs.Name.Reading
import TrustSchema.Proofs.Name.Roundtrip
import TrustSchema.Proofs.Policy.RuleShape
import TrustSchema.Proofs.Validation.Fetching
import TrustSchema.Proofs.Agreement
import TrustSchema.Proofs.Policy.CanonicalForm
import TrustSchema.Proofs.Pattern.GroupNames
import TrustSchema.Proofs.Policy.NameMapping
import TrustSchema.Proofs.Document.Lexemes
import TrustSchema.Proofs.Document.Faults
import TrustSchema.Proofs.Name.Order
import TrustSchema.Proofs.Lint.Summary
