/-! Replacing parts of texts. -/
namespace Screenwright.Text

/-- Every occurrence of a pattern, found from left to right without overlap, is replaced; `skip`
counts the characters of a found occurrence that are still to be passed. An empty pattern occurs
nowhere. -/
def replaceFrom (pattern by_ : List Char) : Nat → List Char → List Char
  | _, [] => []
  | skip + 1, _ :: rest => replaceFrom pattern by_ skip rest
  | 0, c :: rest =>
    if pattern ≠ [] ∧ pattern.isPrefixOf (c :: rest) then
      by_ ++ replaceFrom pattern by_ (pattern.length - 1) rest
    else c :: replaceFrom pattern by_ 0 rest

/-- Every occurrence of a pattern in a text is replaced. -/
def replaceAll (pattern by_ s : String) : String :=
  String.ofList (replaceFrom pattern.toList by_.toList 0 s.toList)

end Screenwright.Text
