import Screenwright.Emit.Analysis
import Screenwright.Proofs.Emit.Identifiers
import Screenwright.Proofs.Script.Tokens

/-! Conditions under which a node is shown, read as scripts again. In double and in single quotes
they make the same test, unless a text with a line break stands in single quotes: that is no
script. -/
namespace Screenwright

namespace Script

/-- What a test asks: whether a variable counts as true, or has the given text or another one. -/
inductive Test where
  | truthy (name : String)
  | equal (name text : String)
  | unequal (name text : String)
  deriving DecidableEq, Repr

end Script

/-! ### Meaning -/

section
variable {α : Type} (text : α → String) (counts : α → Bool)

/-- Whether a test holds for values of which some count as true and each has a text. -/
def Script.Test.holds (values : String → α) : Test → Bool
  | truthy x => counts (values x)
  | equal x t => text (values x) == t
  | unequal x t => text (values x) != t

/-- Whether the value of its state satisfies a rule; a rule without a value asks for the empty
text. -/
def VisibilityRule.holds (r : VisibilityRule) (value : α) : Bool :=
  match r.operator with
  | .truthy => counts value
  | .eq => text value == r.value.getD ""
  | .neq => text value != r.value.getD ""

end

namespace Script.Test
open Emit

/-! ### Reading -/

/-- The test that an operator makes of the tokens before and behind it. -/
def ofOperands? : List Token → String → List Token → Option Test
  | [], "!!", [.name x] => some (truthy x)
  | [.name "String", .mark .parenOpen, .name x, .mark .parenClose], "===", [.text t] =>
    some (equal x t)
  | [.name "String", .mark .parenOpen, .name x, .mark .parenClose], "!==", [.text t] =>
    some (unequal x t)
  | _, _, _ => none

def isOperatorChar (c : Char) : Bool := c == '=' || c == '!'

/-- The test of a script with one operator; what has another form is not read. -/
def read? (script : String) : Option Test := do
  let front := script.toList.takeWhile (!isOperatorChar ·)
  let rest := script.toList.dropWhile (!isOperatorChar ·)
  ofOperands? (← tokens front) (String.ofList (rest.takeWhile isOperatorChar))
    (← tokens (rest.dropWhile isOperatorChar))

section
variable {x operator : String} {front back : List Char}

lemma isOperatorChar_of_isNameChar {c : Char} (h : IsNameChar c) : isOperatorChar c = false := by
  have hne : ∀ d : Char, ¬ IsNameChar d → c ≠ d := fun d hd heq => hd (heq ▸ h)
  simp [isOperatorChar, hne '=' (by decide), hne '!' (by decide)]

lemma read?_operator (hfront : ∀ c ∈ front, isOperatorChar c = false)
    (hoperator : operator ∈ ["!!", "===", "!=="])
    (hback : ∀ c ∈ back.head?, isOperatorChar c = false) {script : String}
    (hscript : script.toList = front ++ (operator.toList ++ back)) : read? script =
      (tokens front).bind fun ts => (tokens back).bind fun us => ofOperands? ts operator us := by
  have hchars : (∀ c ∈ operator.toList, isOperatorChar c = true) ∧
      ∀ c ∈ (operator.toList ++ back).head?, isOperatorChar c = true := by
    simp only [List.mem_cons, List.not_mem_nil, or_false] at hoperator
    rcases hoperator with rfl | rfl | rfl <;> simp [isOperatorChar]
  have hfront' : ∀ c ∈ front, (!isOperatorChar c) = true := by simpa using hfront
  have hrest : ∀ c ∈ (operator.toList ++ back).head?, (!isOperatorChar c) = false := by
    simpa using hchars.2
  simp only [read?, hscript, takeWhile_run hfront' hrest, dropWhile_run hfront' hrest,
    takeWhile_run hchars.1 hback, dropWhile_run hchars.1 hback, String.ofList_toList]
  rfl

/-- An identifier is a token of its own before a character that no name has. -/
lemma tokens_identifier (h : IsIdentifier x) (rest : List Char)
    (hrest : ∀ c ∈ rest.head?, isIdentifierChar c = false) :
    tokens (x.toList ++ rest) = (tokens rest).map (.name x :: ·) := by
  obtain ⟨c, hc, hdigit⟩ := h.first
  obtain ⟨cs, hcs⟩ := List.head?_eq_some_iff.1 hc
  have hchars : ∀ d ∈ c :: cs, isIdentifierChar d = true :=
    fun d hd => isNameChar_iff.1 (h.chars d (hcs ▸ hd))
  rw [List.forall_mem_cons] at hchars
  have hne : ∀ d : Char, isIdentifierChar d = false → c ≠ d := by
    rintro d hd rfl
    exact absurd hchars.1 (by simp [hd])
  rw [hcs, List.cons_append, tokens_cons, if_neg (hne ' ' (by decide)), next?,
    if_neg (not_or.2 ⟨hne '"' (by decide), hne '\'' (by decide)⟩),
    if_pos ⟨hchars.1, by simp [hdigit]⟩, takeWhile_run hchars.2 hrest,
    dropWhile_run hchars.2 hrest, Option.bind_some, ← hcs, String.ofList_toList]

lemma read?_truthy (h : IsIdentifier x) : read? ("!!" ++ x) = some (truthy x) := by
  have hlist : ("!!" ++ x).toList = [] ++ ("!!".toList ++ x.toList) := by simp
  have hback : ∀ c ∈ x.toList.head?, isOperatorChar c = false :=
    fun c hc => isOperatorChar_of_isNameChar (h.chars c (List.mem_of_head? hc))
  have hname : tokens x.toList = some [.name x] := by
    simpa using tokens_identifier h [] (by simp)
  rw [read?_operator (by simp) (by simp) hback hlist, hname, tokens_nil]
  rfl

lemma tokens_shown (h : IsIdentifier x) : tokens ("String(" ++ x ++ ") ").toList =
    some [.name "String", .mark .parenOpen, .name x, .mark .parenClose] := by
  have hopen : ∀ cs, tokens ("String(".toList ++ cs) =
      (tokens cs).map ([.name "String", .mark .parenOpen] ++ ·) := fun cs => by
    simp [List.dropPrefix?, isIdentifierChar, Function.comp_def]
  have hclose : tokens ") ".toList = some [.mark .parenClose] := by
    simp [List.dropPrefix?, isIdentifierChar]
  rw [String.toList_append, String.toList_append, List.append_assoc, hopen,
    tokens_identifier h _ (by simp [isIdentifierChar]), hclose]
  rfl

/-- A comparison is read by what is read of its literal. -/
lemma read?_comparison (h : IsIdentifier x) (hoperator : operator ∈ ["===", "!=="])
    (literal : String) : read? ("String(" ++ x ++ ") " ++ operator ++ " " ++ literal) =
      (tokens literal.toList).bind (ofOperands?
        [.name "String", .mark .parenOpen, .name x, .mark .parenClose] operator) := by
  have hlist : ("String(" ++ x ++ ") " ++ operator ++ " " ++ literal).toList =
      ("String(" ++ x ++ ") ").toList ++ (operator.toList ++ ' ' :: literal.toList) := by
    simp
  have hfront : ∀ c ∈ ("String(" ++ x ++ ") ").toList, isOperatorChar c = false := by
    have hname : ∀ c ∈ x.toList, isOperatorChar c = false :=
      fun c hc => isOperatorChar_of_isNameChar (h.chars c hc)
    simpa [isOperatorChar, or_imp, forall_and] using hname
  rw [read?_operator hfront (List.mem_cons_of_mem _ hoperator) (by simp [isOperatorChar]) hlist,
    tokens_shown h, Option.bind_some, tokens_cons, if_pos rfl]

end
end Script.Test

namespace Emit
open Script Script.Test

/-- The test of a rule. -/
def test (r : VisibilityRule) : Test :=
  match r.operator with
  | .truthy => .truthy (stateVar r.state)
  | .eq => .equal (stateVar r.state) (r.value.getD "")
  | .neq => .unequal (stateVar r.state) (r.value.getD "")

/-- A literal that is read as its text, or not at all, makes a condition of the same kind. -/
lemma read?_conditionText (r : VisibilityRule) (quote : String → String) {p : Prop} [Decidable p]
    (hquote : tokens (quote (r.value.getD "")).toList =
      if p then some [.text (r.value.getD "")] else none) :
    read? (conditionText quote r) = if r.operator = .truthy ∨ p then some (test r) else none := by
  have hname := (isVariableName_stateVar r.state).toIsIdentifier
  cases hoperator : r.operator with
  | truthy =>
    have htext : conditionText quote r = "!!" ++ stateVar r.state := by
      rw [conditionText, hoperator]
    rw [htext, read?_truthy hname, if_pos (.inl rfl), test, hoperator]
  | eq =>
    have htext : conditionText quote r = "String(" ++ stateVar r.state ++ ") " ++ "===" ++ " " ++
        quote (r.value.getD "") := by
      simp [conditionText, hoperator, ← String.toList_inj, toString]
    rw [htext, read?_comparison hname (by simp), hquote, test, hoperator]
    by_cases hp : p
    · simp [hp, ofOperands?]
    · simp [hp]
  | neq =>
    have htext : conditionText quote r = "String(" ++ stateVar r.state ++ ") " ++ "!==" ++ " " ++
        quote (r.value.getD "") := by
      simp [conditionText, hoperator, ← String.toList_inj, toString]
    rw [htext, read?_comparison hname (by simp), hquote, test, hoperator]
    by_cases hp : p
    · simp [hp, ofOperands?]
    · simp [hp]

lemma holds_test (r : VisibilityRule) {α : Type} (text : α → String) (counts : α → Bool)
    (values : String → α) :
    (test r).holds text counts values = r.holds text counts (values (stateVar r.state)) := by
  rw [test, VisibilityRule.holds]
  cases r.operator <;> rfl

/-- In double quotes every text is a literal that is read as the text, and every rule is a condition
that is read as its test. In single quotes it is the same text and the same test, except that a text
with a line break is no literal and a rule that compares with it no condition. -/
theorem conditionText_reads (v : String) (r : VisibilityRule) :
    (tokens (Text.quoteDouble v).toList = some [.text v] ∧
      tokens (Text.quoteSingle v).toList =
        if Text.IsUnbroken v.toList then some [.text v] else none) ∧
    ∃ t : Test,
      (∀ (α : Type) (text : α → String) (counts : α → Bool) (values : String → α),
        t.holds text counts values = r.holds text counts (values (stateVar r.state))) ∧
      read? (conditionText Text.quoteDouble r) = some t ∧
      read? (conditionText Text.quoteSingle r) =
        if r.operator = .truthy ∨ Text.IsUnbroken (r.value.getD "").toList then some t
        else none := by
  have hdouble : ∀ v : String, tokens (Text.quoteDouble v).toList = some [.text v] := fun v => by
    simpa using tokens_quoteDouble v []
  have hsingle : ∀ v : String, tokens (Text.quoteSingle v).toList =
      if Text.IsUnbroken v.toList then some [.text v] else none := fun v => by
    simpa using tokens_quoteSingle v []
  refine ⟨⟨hdouble v, hsingle v⟩, test r, fun _ => holds_test r, ?_, ?_⟩
  · have hread := read?_conditionText r Text.quoteDouble (p := True)
      (by rw [if_pos trivial, hdouble])
    rwa [if_pos (.inr trivial)] at hread
  · exact read?_conditionText r Text.quoteSingle (hsingle _)

example : Text.quoteSingle "it's\nhere" = "'it\\'s\nhere'" := by decide

end Emit
end Screenwright
