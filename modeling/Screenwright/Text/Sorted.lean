/-! Texts in the order of their code points. -/
namespace Screenwright.Text

/-- Texts in ascending order, repeated ones side by side. -/
def sorted (xs : List String) : List String := xs.mergeSort fun a b => decide (a ≤ b)

theorem sorted_perm (xs : List String) : (sorted xs).Perm xs := List.mergeSort_perm xs _

end Screenwright.Text
