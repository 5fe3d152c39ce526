import Calculator.Saved.Text
import Calculator.Window.Frame
import Calculator.Proofs.ReversePolish.Conversion
import Calculator.Proofs.ReversePolish.Evaluation
import Calculator.Proofs.Grammar.Alternation
import Calculator.Proofs.ReversePolish.Acceptance
import Calculator.Proofs.Token.Adjacency
import Calculator.Proofs.Token.Literal
import Calculator.Proofs.Expression.Text
import Calculator.Proofs.Expression.Rewriting
import Calculator.Proofs.Expression.Constants
import Calculator.Proofs.Expression.Calls
import Calculator.Proofs.Evaluate
import Calculator.Proofs.Number.Nearest
import Calculator.Proofs.Number.Scientific
import Calculator.Proofs.Number.Spacing
import Calculator.Proofs.ResultText
import Calculator.Proofs.Token.Point
import Calculator.Proofs.State.Result
import Calculator.Proofs.Number.Overflow
import Calculator.Proofs.State.Kept
import Calculator.Proofs.State.Memory
import Calculator.Proofs.State.History
import Calculator.Proofs.Text.Structured
import Calculator.Proofs.Saved.RoundTrip
import Calculator.Proofs.Window.Clearing
import Calculator.Proofs.Window.Delegation
import Calculator.Proofs.Cursor.Token
import Calculator.Proofs.Cursor.Calls
import Calculator.Proofs.Cursor.Evaluate
import Calculator.Proofs.Expression.Boundary
import Calculator.Proofs.Expression.Marks
import Calculator.Proofs.Expression.Stable
import Calculator.Proofs.Token.Reached
import Calculator.Proofs.Expression.Argument
import Calculator.Proofs.Token.Product
import Calculator.Proofs.Expression.Product
import Calculator.Proofs.ResultText.Shape
import Calculator.Proofs.Expression.Unmarked
import Calculator.Proofs.State.Expression
import Calculator.Proofs.State.Unmarked
import Calculator.Proofs.State.Leading
import Calculator.Proofs.State.Deletion
import Calculator.Proofs.Window.Refusal
import Calculator.Proofs.Window.Timers
import Calculator.Proofs.ReversePolish.Conservation
import Calculator.Proofs.Token.Printed
import Calculator.Proofs.Expression.Blanks
import Calculator.Proofs.Window.Armed
import Calculator.Proofs.Token.Division
import Calculator.Proofs.Cursor.Closing
