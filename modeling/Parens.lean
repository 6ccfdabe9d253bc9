import Parens.Inspect
import Parens.Json.Printer
import Parens.Json.Reader
import Parens.Json.Shape
import Parens.Lexer.Scan
import Parens.Markup
import Parens.Pattern.Place
import Parens.Reduction.Build
import Parens.Reduction.Tree
import Parens.Proofs.TokenStream
import Parens.Proofs.Verdict
import Parens.Proofs.TokenTree
import Parens.Proofs.Fold
import Parens.Proofs.Pass
import Parens.Proofs.Grammar
import Parens.Proofs.Lockstep
import Parens.Proofs.Recognition
import Parens.Proofs.RoundTrip
import Parens.Proofs.Classification
import Parens.Proofs.Anchoring
import Parens.Proofs.Consecutive
import Parens.Proofs.Tiling
import Parens.Proofs.Cover
import Parens.Proofs.Peeking
import Parens.Proofs.Dispatch
import Parens.Proofs.Dialogue
import Parens.Proofs.Exhaustion
import Parens.Proofs.Agreement
import Parens.Proofs.Nesting
import Parens.Proofs.NormalForm
import Parens.Proofs.Translation
import Parens.Proofs.Extension
import Parens.Proofs.ShiftInvariance
import Parens.Proofs.Stopping
import Parens.Proofs.Candidates
import Parens.Proofs.Filtering
import Parens.Proofs.Strides
import Parens.Proofs.Descent
import Parens.Proofs.Numerals
import Parens.Proofs.Rendering
import Parens.Proofs.Completion
import Parens.Proofs.MarkupForm
import Parens.Proofs.Keywords
import Parens.Proofs.Windows
import Parens.Proofs.Documents
import Parens.Proofs.Record
import Parens.Proofs.Coordinates
