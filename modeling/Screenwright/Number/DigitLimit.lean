/-! The most digits with which an integer may be written. -/
namespace Screenwright

/-- The most digits of an integer's text. -/
def maxIntegerDigits : Nat := 4300

/-- An integer written with more digits than are read. -/
structure OversizedInteger where
  digits : Nat
  deriving DecidableEq, Repr

def OversizedInteger.message (e : OversizedInteger) : String :=
  s!"Exceeds the limit ({maxIntegerDigits} digits) for integer string conversion: value has " ++
    s!"{e.digits} digits; use sys.set_int_max_str_digits() to increase the limit"

end Screenwright
