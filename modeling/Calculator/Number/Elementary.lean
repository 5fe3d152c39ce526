import Calculator.Number.Bits

set_option autoImplicit false

namespace Calculator

namespace Number

def sin (x : Number) : Number := ofFloat (Float.sin x.toFloat)

def cos (x : Number) : Number := ofFloat (Float.cos x.toFloat)

def tan (x : Number) : Number := ofFloat (Float.tan x.toFloat)

def ln (x : Number) : Number := ofFloat (Float.log x.toFloat)

/-- The decimal logarithm. -/
def log (x : Number) : Number := ofFloat (Float.log10 x.toFloat)

def pow (x y : Number) : Number := ofFloat (Float.pow x.toFloat y.toFloat)

end Number

end Calculator
