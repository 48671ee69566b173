import Reckoner.Environment
import Reckoner.Main
import Reckoner.Proofs.Evaluator.Closure
import Reckoner.Service.Catalogue
import Reckoner.Service.Routing
import Reckoner.Proofs.Source.Language
import Reckoner.Proofs.Source.Derivation
import Reckoner.Proofs.Source.Soundness
import Reckoner.Proofs.Source.Completeness
import Reckoner.Proofs.Source.Recognition
import Reckoner.Proofs.Source.Literals
import Reckoner.Proofs.Text.Compatibility
import Reckoner.Proofs.Source.Acceptance
import Reckoner.Proofs.Expr.Regrouping
import Reckoner.Proofs.Source.Lexemes
import Reckoner.Proofs.Source.Pieces
import Reckoner.Proofs.Source.Rescanning
import Reckoner.Proofs.Decimal.Display
import Reckoner.Proofs.Expr.Phrase
import Reckoner.Proofs.Expr.Spelling
import Reckoner.Proofs.Expr.Printing
import Reckoner.Proofs.Evaluator.Binding
import Reckoner.Proofs.Sine.Drift
import Reckoner.Proofs.Loop
import Reckoner.Proofs.Source.PlainReading
import Reckoner.Proofs.Evaluator.Enclosure
import Reckoner.Proofs.Evaluator.OperandOrder
import Reckoner.Proofs.Evaluator.Extensionality
import Reckoner.Proofs.Service.Starting
import Reckoner.Proofs.Service.Answers
import Reckoner.Proofs.Sine.Oddness
import Reckoner.Proofs.Sine.PiSeries
import Reckoner.Proofs.Source.Offences
