/-! Natural numbers written with the ten digits and the small letters. -/
namespace Screenwright.Text

/-- The digit of a value below thirty-six. -/
def base36Digit (n : Nat) : Char :=
  if n < 10 then Char.ofNat (48 + n) else Char.ofNat (87 + n)

/-- The digits of a number put in front of others; zero has none. -/
def base36Onto (n : Nat) (acc : List Char) : List Char :=
  if n = 0 then acc else base36Onto (n / 36) (base36Digit (n % 36) :: acc)
termination_by n
decreasing_by omega

/-- A number in base thirty-six without leading zeros. -/
def base36 (n : Nat) : String :=
  if n = 0 then "0" else String.ofList (base36Onto n [])

end Screenwright.Text
