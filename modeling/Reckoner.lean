import Reckoner.Calculator
import Reckoner.Calculator.Record
import Reckoner.Decimal.Arithmetic
import Reckoner.Decimal.Basic
import Reckoner.Decimal.Binary
import Reckoner.Decimal.Extended
import Reckoner.Decimal.Notation
import Reckoner.Decimal.Rounding
import Reckoner.Evaluation
import Reckoner.Expression
import Reckoner.Glyph
import Reckoner.Json
import Reckoner.Json.Printer
import Reckoner.Json.Reader
import Reckoner.Log
import Reckoner.Main
import Reckoner.Mistake
import Reckoner.Numeral
import Reckoner.Proofs.Calculator
import Reckoner.Proofs.Calculator.Diagnosis
import Reckoner.Proofs.Calculator.Escapes
import Reckoner.Proofs.Calculator.Growth
import Reckoner.Proofs.Calculator.Infix
import Reckoner.Proofs.Calculator.Spelling
import Reckoner.Proofs.Calculator.Stages
import Reckoner.Proofs.Calculator.Verdict
import Reckoner.Proofs.Calculator.Written
import Reckoner.Proofs.Decimal.Arithmetic
import Reckoner.Proofs.Decimal.Display
import Reckoner.Proofs.Decimal.Fit
import Reckoner.Proofs.Decimal.Growth
import Reckoner.Proofs.Decimal.Notation
import Reckoner.Proofs.Decimal.Order
import Reckoner.Proofs.Decimal.Rounding
import Reckoner.Proofs.Decimal.Value
import Reckoner.Proofs.Evaluation
import Reckoner.Proofs.Evaluation.Shape
import Reckoner.Proofs.Exact
import Reckoner.Proofs.FixedPoint
import Reckoner.Proofs.Grammar
import Reckoner.Proofs.Grammar.Meaning
import Reckoner.Proofs.Grammar.Operations
import Reckoner.Proofs.Grammar.Postfix
import Reckoner.Proofs.Numeral
import Reckoner.Proofs.Numeral.Language
import Reckoner.Proofs.Overflow
import Reckoner.Proofs.Rational
import Reckoner.Proofs.Session
import Reckoner.Proofs.Session.Chaining
import Reckoner.Proofs.Stack
import Reckoner.Proofs.Substitution
import Reckoner.Proofs.Terminal.Doors
import Reckoner.Proofs.Terminal.Drawing
import Reckoner.Proofs.Terminal.Encoding
import Reckoner.Proofs.Terminal.Printing
import Reckoner.Proofs.Token.Conserved
import Reckoner.Proofs.Token.Group
import Reckoner.Proofs.Token.Infix
import Reckoner.Proofs.Token.Lossless
import Reckoner.Proofs.Token.Marks
import Reckoner.Proofs.Token.Parentheses
import Reckoner.Proofs.Token.Plain
import Reckoner.Proofs.Token.Reading
import Reckoner.Proofs.Token.Scan
import Reckoner.Proofs.Token.Separate
import Reckoner.Proofs.Token.Signs
import Reckoner.Proofs.Token.Tally
import Reckoner.Record
import Reckoner.Refusal
import Reckoner.Service
import Reckoner.Session
import Reckoner.Settings
import Reckoner.Settings.EnvFile
import Reckoner.Settings.Record
import Reckoner.Settings.Sources
import Reckoner.Settings.WholeNumber
import Reckoner.Setup
import Reckoner.Terminal.Arguments
import Reckoner.Terminal.Console
import Reckoner.Terminal.Dialogue
import Reckoner.Terminal.Emoji
import Reckoner.Terminal.Emoji.Names
import Reckoner.Terminal.Encoding
import Reckoner.Terminal.Markup
import Reckoner.Terminal.Paragraph
import Reckoner.Terminal.Program
import Reckoner.Terminal.Report
import Reckoner.Terminal.Screen
import Reckoner.Terminal.Style
import Reckoner.Terminal.Table
import Reckoner.Text.Blank
import Reckoner.Text.DecimalDigit
import Reckoner.Text.Lower
import Reckoner.Text.Printable
import Reckoner.Text.Quoted
import Reckoner.Text.Upper
import Reckoner.Text.Width
import Reckoner.Token
import Reckoner.Token.Postfix
import Reckoner.Token.Record
import Reckoner.Token.Scan
