import BooleanSearch.Main
import BooleanSearch.Token.Lexer
import BooleanSearch.Proofs.GrammarExactness
import BooleanSearch.Proofs.Spelling
import BooleanSearch.Proofs.Printing
import BooleanSearch.Proofs.Substitution
import BooleanSearch.Proofs.Invariance
import BooleanSearch.Proofs.Faults
import BooleanSearch.Proofs.Precedence
import BooleanSearch.Proofs.Initialization
import BooleanSearch.Proofs.StrayParenthesis
import BooleanSearch.Proofs.Completion
import BooleanSearch.Proofs.UnclosedGroup
import BooleanSearch.Proofs.AllOrNothing
import BooleanSearch.Proofs.JsonText
import BooleanSearch.Proofs.ParseReport
import BooleanSearch.Proofs.JoinedInputs
import BooleanSearch.Proofs.WrittenLexemes
import BooleanSearch.Proofs.ImplicitConjunction
import BooleanSearch.Proofs.MissingOperand
import BooleanSearch.Proofs.Accounting
import BooleanSearch.Proofs.Lookahead
import BooleanSearch.Proofs.OutlineText
import BooleanSearch.Proofs.QueryDocument
import BooleanSearch.Proofs.CaretPlacement
import BooleanSearch.Proofs.WrittenSettings
import BooleanSearch.Proofs.HonouredLimit
import BooleanSearch.Proofs.BoundedCalls
import BooleanSearch.Proofs.TrackedDepth
