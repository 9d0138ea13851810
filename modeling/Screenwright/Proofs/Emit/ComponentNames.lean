import Mathlib
import Screenwright.Emit.Name

/-! Names of components: the characters that they are made of, and which routes share a name. -/
namespace Screenwright.Emit

section
variable {p : Char → Bool} {a a' b b' : List Char}

/-- A run of characters of one kind ends where a text goes on with another kind. -/
lemma takeWhile_run (ha : ∀ c ∈ a, p c = true) (hb : ∀ c ∈ b.head?, p c = false) :
    (a ++ b).takeWhile p = a := by
  rw [List.takeWhile_append_of_pos ha]
  cases b with
  | nil => simp
  | cons c b => simp [hb c rfl]

lemma dropWhile_run (ha : ∀ c ∈ a, p c = true) (hb : ∀ c ∈ b.head?, p c = false) :
    (a ++ b).dropWhile p = b := by
  rw [List.dropWhile_append_of_pos ha]
  cases b with
  | nil => rfl
  | cons c b => rw [List.dropWhile_cons_of_neg (by simp [hb c rfl])]

/-- A run of characters of one kind is determined by a text that goes on with another kind. -/
lemma append_inj_of_run (ha : ∀ c ∈ a, p c = true) (ha' : ∀ c ∈ a', p c = true)
    (hb : ∀ c ∈ b.head?, p c = false) (hb' : ∀ c ∈ b'.head?, p c = false)
    (h : a ++ b = a' ++ b') : a = a' ∧ b = b' := by
  have hsame : a = a' := by
    rw [← takeWhile_run ha hb, h, takeWhile_run ha' hb']
  subst hsame
  exact ⟨rfl, List.append_cancel_left h⟩

end

/-! ### Capital letters -/

section
variable {c d : Char}

lemma isUpper_toUpper (h : c.isLower = true) : c.toUpper.isUpper = true := by
  rw [Char.isUpper_toUpper_eq_isAlpha]
  exact Bool.or_eq_true_iff.2 (.inr h)

lemma toUpper_inj (hc : c.isLower = true) (hd : d.isLower = true) (h : c.toUpper = d.toUpper) :
    c = d := by
  have hback : ∀ {c : Char}, c.isLower = true → c.toUpper.toLower = c := fun hc => by
    rw [Char.toLower_toUpper_eq_toLower]
    exact Char.toLower_eq_of_not_isUpper (Char.not_isUpper_of_isLower hc)
  rw [← hback hc, h, hback hd]

lemma isAlphanum_toUpper (h : c.isAlphanum = true) : c.toUpper.isAlphanum = true := by
  cases hc : c.isLower with
  | true => exact Bool.or_eq_true_iff.2 (.inl (Bool.or_eq_true_iff.2 (.inl (isUpper_toUpper hc))))
  | false => rwa [Char.toUpper_eq_of_not_isLower (by simp [hc])]

lemma isDigit_of_isUpper (h : c.isUpper = true) : c.isDigit = false := by
  have hupper : 'A'.val ≤ c.val ∧ c.val ≤ 'Z'.val := of_decide_eq_true h
  have hge : 65 ≤ c.toNat := UInt32.le_iff_toNat_le.1 hupper.1
  have hnine : '9'.toNat = 57 := rfl
  rw [Bool.eq_false_iff, ne_eq, Char.isDigit_iff_toNat]
  omega

lemma isDigit_of_isLower (h : c.isLower = true) : c.isDigit = false := by
  have hlower : 'a'.val ≤ c.val ∧ c.val ≤ 'z'.val := by simpa [Char.isLower] using h
  have hge : 97 ≤ c.toNat := UInt32.le_iff_toNat_le.1 hlower.1
  have hnine : '9'.toNat = 57 := rfl
  rw [Bool.eq_false_iff, ne_eq, Char.isDigit_iff_toNat]
  omega

end

/-! ### Names are made of letters and digits -/

lemma isAlphanum_of_mem_words {route : String} {w : List Char} (hw : w ∈ words route) {c : Char}
    (hc : c ∈ w) : c.isAlphanum = true := by
  obtain ⟨-, hkept⟩ := List.mem_filter.1 hw
  have hall : ∀ d ∈ w, isAsciiWord d = true := by simpa using hkept
  exact hall c hc

lemma isAlphanum_of_mem_capitalize {w : List Char} (hw : ∀ c ∈ w, c.isAlphanum = true) {c : Char}
    (hc : c ∈ capitalize w) : c.isAlphanum = true := by
  cases w with
  | nil => cases hc
  | cons d w =>
    rcases List.mem_cons.1 hc with rfl | hc
    · exact isAlphanum_toUpper (hw d List.mem_cons_self)
    · exact hw c (List.mem_cons_of_mem _ hc)

theorem isAlphanum_of_mem_componentName {route : String} {c : Char}
    (hc : c ∈ (componentName route).toList) : c.isAlphanum = true := by
  have hwords : ∀ c ∈ (words route).flatMap capitalize, c.isAlphanum = true := by
    intro c hc
    obtain ⟨w, hw, hcw⟩ := List.mem_flatMap.1 hc
    exact isAlphanum_of_mem_capitalize (fun d hd => isAlphanum_of_mem_words hw hd) hcw
  unfold componentName at hc
  cases hname : (words route).flatMap capitalize with
  | nil =>
    have hhome : ∀ c ∈ "Home".toList, c.isAlphanum = true := List.all_eq_true.1 (by decide)
    exact hhome c (by simpa [hname] using hc)
  | cons d rest =>
    rw [hname] at hwords
    have hscreen : ∀ c ∈ "Screen".toList, c.isAlphanum = true := List.all_eq_true.1 (by decide)
    simp only [hname, String.toList_ofList] at hc
    split at hc
    · rcases List.mem_append.1 hc with hc | hc
      · exact hscreen c hc
      · exact hwords c hc
    · exact hwords c hc

/-! ### Routes that share a name -/

/-- A small letter, and after it no capital ones. -/
def IsPlainWord (w : List Char) : Prop :=
  ∃ c rest, w = c :: rest ∧ c.isLower = true ∧ ∀ d ∈ rest, d.isUpper = false

/-- A route that leaves capitals to the name of its component. -/
def IsPlainRoute (route : String) : Prop := ∀ w ∈ words route, IsPlainWord w

/-- The words that name a screen; a route without words is the home screen. -/
def screenWords (route : String) : List (List Char) :=
  if words route = [] then ["home".toList] else words route

/-- Capitals tell where words begin. -/
lemma eq_of_flatMap_capitalize {ws ws' : List (List Char)} (hws : ∀ w ∈ ws, IsPlainWord w)
    (hws' : ∀ w ∈ ws', IsPlainWord w) (h : ws.flatMap capitalize = ws'.flatMap capitalize) :
    ws = ws' := by
  have hhead : ∀ ws : List (List Char), (∀ w ∈ ws, IsPlainWord w) →
      ∀ c ∈ (ws.flatMap capitalize).head?, (!c.isUpper) = false := by
    intro ws hws c hc
    cases ws with
    | nil => cases hc
    | cons w ws =>
      obtain ⟨d, rest, rfl, hd, -⟩ := hws w List.mem_cons_self
      obtain rfl : d.toUpper = c := by simpa [capitalize] using hc
      simp [isUpper_toUpper hd]
  induction ws generalizing ws' with
  | nil =>
    cases ws' with
    | nil => rfl
    | cons w' ws' =>
      obtain ⟨d, rest, rfl, -⟩ := hws' w' List.mem_cons_self
      simp [capitalize] at h
  | cons w ws ih =>
    obtain ⟨c, rest, rfl, hc, hrest⟩ := hws w List.mem_cons_self
    cases ws' with
    | nil => simp [capitalize] at h
    | cons w' ws' =>
      obtain ⟨c', rest', rfl, hc', hrest'⟩ := hws' w' List.mem_cons_self
      have htail := fun w hw => hws w (List.mem_cons_of_mem _ hw)
      have htail' := fun w hw => hws' w (List.mem_cons_of_mem _ hw)
      simp only [List.flatMap_cons, capitalize, List.cons_append, List.cons.injEq] at h
      obtain ⟨hsame, hmore⟩ := h
      obtain ⟨rfl, hflat⟩ := append_inj_of_run (by simpa using hrest) (by simpa using hrest')
        (hhead ws htail) (hhead ws' htail') hmore
      rw [toUpper_inj hc hc' hsame, ih htail htail' hflat]

lemma isPlainWord_of_mem_screenWords {route : String} (h : IsPlainRoute route) :
    ∀ w ∈ screenWords route, IsPlainWord w := by
  intro w hw
  unfold screenWords at hw
  split at hw
  · obtain rfl := List.mem_singleton.1 hw
    exact ⟨'h', "ome".toList, rfl, by decide, by simp⟩
  · exact h w hw

lemma componentName_of_plain {route : String} (h : IsPlainRoute route) :
    componentName route = String.ofList ((screenWords route).flatMap capitalize) := by
  unfold componentName screenWords
  cases hwords : words route with
  | nil => rfl
  | cons w ws =>
    obtain ⟨c, rest, rfl, hc, -⟩ := h w (by rw [hwords]; exact List.mem_cons_self)
    have hdigit := isDigit_of_isUpper (isUpper_toUpper hc)
    simp [capitalize, hdigit]

/-- Plain routes share a name exactly when they have the same words, in whatever way the words are
kept apart. -/
theorem componentName_eq_iff {route route' : String} (h : IsPlainRoute route)
    (h' : IsPlainRoute route') :
    componentName route = componentName route' ↔ screenWords route = screenWords route' := by
  rw [componentName_of_plain h, componentName_of_plain h', String.ofList_inj]
  constructor
  · exact eq_of_flatMap_capitalize (isPlainWord_of_mem_screenWords h)
      (isPlainWord_of_mem_screenWords h')
  · intro hwords
    rw [hwords]

example : componentName "/a-b" = componentName "/a/b" := by decide

end Screenwright.Emit
