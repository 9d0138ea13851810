import Screenwright.Proofs.Compilation.Marks
import Screenwright.Proofs.Text.Shortening

/-! Notices of references in what is generated. The marks of a tree are read for notices only, so
that renderings of a tree with marks and without them differ in some letters, which add up. -/
namespace Screenwright

/-! ### Results -/

/-- Computations that end with the same error or with related answers. -/
def Alike {ε α : Type} (P : α → α → Prop) (y x : Except ε α) : Prop :=
  (∃ e, y = .error e ∧ x = .error e) ∨ ∃ a b, y = .ok a ∧ x = .ok b ∧ P a b

namespace Alike
variable {ε α β : Type} {P : α → α → Prop} {Q : β → β → Prop} {y x : Except ε α}

lemma ok {a b : α} (h : P a b) : Alike P (.ok a : Except ε α) (.ok b) := .inr ⟨a, b, rfl, rfl, h⟩

lemma refl (h : ∀ a, P a a) (x : Except ε α) : Alike P x x := by
  cases x with
  | error e => exact .inl ⟨e, rfl, rfl⟩
  | ok a => exact ok (h a)

lemma bind (h : Alike P y x) {f g : α → Except ε β} (hf : ∀ a b, P a b → Alike Q (f a) (g b)) :
    Alike Q (y >>= f) (x >>= g) := by
  rcases h with ⟨e, rfl, rfl⟩ | ⟨a, b, rfl, rfl, h⟩
  · exact .inl ⟨e, rfl, rfl⟩
  · exact hf a b h

/-- What is done first in both computations makes no difference. -/
lemma after (x : Except ε α) {f g : α → Except ε β} (hf : ∀ a, Alike Q (f a) (g a)) :
    Alike Q (x >>= f) (x >>= g) :=
  bind (refl (P := Eq) (fun _ => rfl) x) fun a _ hab => hab ▸ hf a

lemma map (h : Alike P y x) {f g : α → β} (hf : ∀ a b, P a b → Q (f a) (g b)) :
    Alike Q (y.map f) (x.map g) := by
  rcases h with ⟨e, rfl, rfl⟩ | ⟨a, b, rfl, rfl, h⟩
  · exact .inl ⟨e, rfl, rfl⟩
  · exact ok (hf a b h)

lemma mapM {R : ℕ → α → α → Prop} {k : ℕ} {ys xs : List (Except ε α)}
    (h : Totals (fun k => Alike (R k)) k ys xs) : Alike (Totals R k) (ys.mapM id) (xs.mapM id) := by
  induction h with
  | nil => exact ok .nil
  | cons hx _ ih =>
    rw [List.mapM_cons, List.mapM_cons]
    exact hx.bind fun a b hab => ih.bind fun as bs habs => ok (.cons hab habs)

end Alike

namespace Emit
open Node (missing)
open Text (Shortens)

/-! ### Renderings element by element -/

/-- A reference with a usable target whose mark says that it is circular or malformed. -/
structure IsMislabeled (n : Node) : Prop where
  reference : n.type = referenceType
  target : referenceTarget? n.props ≠ none
  mark : n.HasMark .circular ∨ n.HasMark .invalid

/-- Whether the notice of an element gives another reason than a missing definition. -/
def blamesOther (e : Element) : Bool :=
  propIs e "unresolved" "circular" || propIs e "unresolved" "invalid"

/-- A renderer that hands the differences between the markups of children on, and reads the mark of
a reference for its notice only. -/
structure KindRenderer.Carries {α : Type} (r : KindRenderer α) (f : Framework)
    (R : ℕ → α → α → Prop) : Prop where
  refl : ∀ x, R 0 x x
  builtin : ∀ e t k ys xs, t.isContainer = true →
    Totals R k (heldChildren f t ys) (heldChildren f t xs) →
      R k (r.builtin e t ys) (r.builtin e t xs)
  other : ∀ e k ys xs, Totals R k ys xs → R k (r.other e ys) (r.other e xs)
  around : ∀ e k y x, R k y x → R k (r.around e y) (r.around e x)
  marked : ∀ e o, r.around (e.marked o) = r.around e
  reference : ∀ e, ∃ k, R k (r.reference (e.marked .missing)) (r.reference e) ∧
    (0 < k ↔ blamesOther e = true)

lemma blamesOther_iff {n : Node} :
    blamesOther n.head = true ↔ n.HasMark .circular ∨ n.HasMark .invalid := by
  have hmark : ∀ o : Obstacle, propIs n.head "unresolved" o.name = true ↔ n.HasMark o := by
    intro o
    constructor
    · intro h
      by_contra hnot
      rw [propIs_eq_false hnot] at h
      cases h
    · intro h
      have hprop : prop? n.head "unresolved" = some (.str o.name) := h
      rw [propIs, hprop]
      exact beq_self_eq_true _
  rw [blamesOther, Bool.or_eq_true]
  exact or_congr (hmark .circular) (hmark .invalid)

namespace KindRenderer
variable {α : Type} {f : Framework} {plugins : PluginRegistry} {r : KindRenderer α}
  {render : Node → α} {R : ℕ → α → α → Prop}

lemma agreeAt_self (f : Framework) (plugins : PluginRegistry) (e : Element) :
    AgreeAt f plugins plugins e := by
  refine ⟨rfl, fun p q hp hq => ?_⟩
  rw [get?_of_pluginOf? hp] at hq
  rw [Option.some.inj hq]

/-- An element hands the differences between the children that it shows on. -/
lemma Carries.element (hr : r.Carries f R) (hshown : r.HoldsShown f) (e : Element) {k : ℕ}
    {ys xs : List α}
    (h : Totals R k (shownChildren f plugins e ys) (shownChildren f plugins e xs)) :
    R k (r.element f plugins e ys) (r.element f plugins e xs) := by
  have hquiet : shownChildren f plugins e ys = [] → shownChildren f plugins e xs = [] →
      R k (r.element f plugins e ys) (r.element f plugins e xs) := by
    intro hys hxs
    rw [hys, hxs] at h
    cases h
    rw [element_congr hshown (agreeAt_self f plugins e) (hys.trans hxs.symm)]
    exact hr.refl _
  unfold shownChildren at h hquiet
  unfold KindRenderer.element at hquiet ⊢
  cases hkind : NodeKind.classify e.type e.props with
  | reference ref => exact hr.around _ _ _ _ (by rw [hkind] at h; cases h; exact hr.refl _)
  | builtin t =>
    simp only [hkind] at h hquiet ⊢
    cases ht : t.isContainer with
    | true => exact hr.around _ _ _ _ (hr.builtin e t k ys xs ht h)
    | false =>
      exact hquiet (heldChildren_of_not_container ht ys) (heldChildren_of_not_container ht xs)
  | other tag =>
    simp only [hkind] at h hquiet ⊢
    cases hplugin : plugins.get? e.type with
    | some p =>
      rw [hplugin] at h hquiet
      exact hquiet rfl rfl
    | none =>
      rw [hplugin] at h
      exact hr.around _ _ _ _ (hr.other e k ys xs h)

/-- What the marks of a tree change adds up over the mislabeled references that are shown. The
induction stops at references, below which resolution changes nothing. -/
theorem Renders.exists_total (h : r.Renders f plugins render) (hshown : r.HoldsShown f)
    (hr : r.Carries f R) (n : Node) :
    ∃ k, R k (render (n.mapReferences missing)) (render n) ∧
      (0 < k ↔ ∃ m, Shown f plugins n m ∧ IsMislabeled m) := by
  induction n using Node.induction_outside with
  | reference n hn =>
    have hself : ∀ m, Shown f plugins n m ↔ m = n := by
      intro m
      rw [shown_iff, shownChildren_of_reference hn]
      simp
    rw [Node.mapReferences_of_reference missing hn]
    unfold Node.missing
    split
    · next htarget =>
      refine ⟨0, hr.refl _, by simp, ?_⟩
      rintro ⟨m, hm, hlabel⟩
      rw [(hself m).1 hm] at hlabel
      exact absurd htarget hlabel.target
    · next htarget =>
      have htype : (n.marked .missing).type = referenceType := by
        rw [Node.type, Node.head_marked]
        exact hn
      obtain ⟨k, hk, hpos⟩ := hr.reference n.head
      refine ⟨k, ?_, ?_⟩
      · rw [h.reference hn, h.reference htype, Node.head_marked, hr.marked]
        exact hr.around _ _ _ _ hk
      · rw [hpos, blamesOther_iff]
        constructor
        · exact fun hmark => ⟨n, .refl n, hn, htarget, hmark⟩
        · rintro ⟨m, hm, hlabel⟩
          rw [(hself m).1 hm] at hlabel
          exact hlabel.mark
  | leaf e he =>
    rw [Node.mapReferences_leaf missing he]
    refine ⟨0, hr.refl _, by simp, ?_⟩
    rintro ⟨m, hm, hlabel⟩
    obtain rfl : m = .leaf e := by simpa using shown_iff.1 hm
    exact absurd hlabel.reference he
  | branch e cs he ih =>
    have hchildren : ∀ c ∈ shownChildren f plugins e cs, ∃ k,
        R k (render (c.mapReferences missing)) (render c) ∧
          (0 < k ↔ ∃ m, Shown f plugins c m ∧ IsMislabeled m) :=
      fun c hc => ih c ((shownChildren_sublist _).subset hc)
    obtain ⟨k, hk, hpos⟩ := Totals.exists_of_forall hchildren
    refine ⟨k, ?_, hpos.trans ?_⟩
    · rw [Node.mapReferences_branch missing cs he, h, h (.branch e cs), Node.head_branch,
        Node.head_branch, Node.children_branch, Node.children_branch, List.map_map]
      refine hr.element hshown e ?_
      rw [shownChildren_map, shownChildren_map]
      exact hk
    · constructor
      · rintro ⟨c, hc, m, hm, hlabel⟩
        exact ⟨m, .inside hc hm, hlabel⟩
      · rintro ⟨m, hm, hlabel⟩
        rcases shown_iff.1 hm with rfl | ⟨c, hc, hm⟩
        · exact absurd hlabel.reference he
        · exact ⟨c, hc, m, hm, hlabel⟩

end KindRenderer

/-! ### Notices -/

/-- How the notices of references begin. -/
def noticeFronts : List String :=
  ["Circular component reference: ", "Invalid component reference: ", "Missing component: "]

/-- Whether an escape leaves the beginnings of notices as they are. -/
def KeepsNotices (escape : String → String) : Prop :=
  ∀ front ∈ noticeFronts, ∀ t, escape (front ++ t) = front ++ escape t

/-- A notice that gives another reason has the letter in its beginning, and the one of a missing
definition has not. -/
lemma exists_shortens_notice {escape : String → String} (h : KeepsNotices escape) (e : Element) :
    ∃ k, Shortens k (escape (missingNotice e)) (escape (placeholderMessage e)) ∧
      (0 < k ↔ blamesOther e = true) := by
  have hshortens : ∀ front ∈ noticeFronts, ∀ t, Shortens (Text.letters front)
      (escape ("Missing component: " ++ t)) (escape (front ++ t)) := by
    intro front hfront t
    have hfilled : ∀ front ∈ noticeFronts, front ≠ "" ∧ front.toList.head? ≠ some '\x7b' := by
      decide
    have hclosed : ∀ front ∈ noticeFronts, ¬ Text.OpensBrace (front ++ escape t) := by
      intro front hfront
      rw [Text.opensBrace_append]
      exact not_or.2 ⟨(hfilled front hfront).2, fun hopen => (hfilled front hfront).1 hopen.1⟩
    rw [h front hfront, h _ (by decide)]
    refine ⟨?_, iff_of_false (hclosed _ (by decide)) (hclosed front hfront), ?_, fun hnone => ?_⟩
    · simp [hfilled front hfront]
    · have hmissing : Text.letters "Missing component: " = 0 := by decide
      rw [Text.letters_append, Text.letters_append, hmissing]
      omega
    · have honly : ∀ front ∈ noticeFronts, Text.letters front = 0 →
        front = "Missing component: " := by decide
      rw [honly front hfront hnone]
  unfold missingNotice placeholderMessage blamesOther
  dsimp only
  split
  · next hcircular =>
    refine ⟨_, hshortens _ (by decide) _, ?_⟩
    rw [hcircular, Bool.true_or]
    decide
  · next hcircular =>
    split
    · next hinvalid =>
      refine ⟨_, hshortens _ (by decide) _, ?_⟩
      rw [hinvalid, Bool.or_true]
      decide
    · next hinvalid =>
      refine ⟨0, .refl _, ?_⟩
      simp [hcircular, hinvalid]

/-- A character that no escape touches. -/
def isPlain (c : Char) : Bool := Text.markupChar c == [c] && c != '\x7b' && c != '\x7d'

lemma isPlain_of_notice : ∀ front ∈ noticeFronts, front.toList.all isPlain = true := by decide

lemma flatMap_of_plain {g : Char → List Char} {cs : List Char} (hcs : cs.all isPlain = true)
    (hg : ∀ c, isPlain c = true → g c = [c]) : cs.flatMap g = cs := by
  rw [List.flatMap_congr fun c hc => hg c (List.all_eq_true.1 hcs c hc), List.flatMap_singleton']

lemma keepsNotices_escapeMarkup : KeepsNotices Text.escapeMarkup := by
  intro front hfront t
  rw [Text.escapeMarkup, String.toList_append, List.flatMap_append,
    flatMap_of_plain (isPlain_of_notice front hfront) fun c hc => ?_, String.ofList_append,
    String.ofList_toList, Text.escapeMarkup]
  simp_all [isPlain]

lemma keepsNotices_escapeBraced : KeepsNotices Text.escapeBraced := by
  intro front hfront t
  rw [Text.escapeBraced, String.toList_append, List.flatMap_append,
    flatMap_of_plain (isPlain_of_notice front hfront) fun c hc => ?_, String.ofList_append,
    String.ofList_toList, Text.escapeBraced]
  simp_all [isPlain, Text.bracedChar]

lemma mustacheChars_plain {cs : List Char} (hcs : cs.all isPlain = true) (rest : List Char) :
    Text.mustacheChars (cs ++ rest) = cs ++ Text.mustacheChars rest := by
  induction cs with
  | nil => rfl
  | cons c cs ih =>
    rw [List.all_cons, Bool.and_eq_true] at hcs
    have hc : Text.markupChar c = [c] ∧ c ≠ '\x7b' := by simp_all [isPlain]
    rw [List.cons_append, List.cons_append, ← ih hcs.2]
    cases cs ++ rest with
    | nil => simp [Text.mustacheChars, hc]
    | cons d ds => simp [Text.mustacheChars, hc]

lemma keepsNotices_escapeMustache : KeepsNotices Text.escapeMustache := by
  intro front hfront t
  rw [Text.escapeMustache, String.toList_append,
    mustacheChars_plain (isPlain_of_notice front hfront), String.ofList_append,
    String.ofList_toList, Text.escapeMustache]

namespace Markup
variable {d : Dialect} {s : Screen} {e : Element} {tag : String} {ex : Extras} {k : ℕ}
  {y x : String}

lemma shortens_inline (h : Shortens k y x) :
    Shortens k (inline d s e tag ex y) (inline d s e tag ex x) :=
  (h.prepend _).postpend _

lemma shortens_block (h : Shortens k y x) :
    Shortens k (block d s e tag ex y) (block d s e tag ex x) :=
  h.ite_empty (fun _ => shortens_inline h) (((h.indent two_pos).prepend _).postpend _)

/-- Whether a part has lines of its own makes no difference to its letters. -/
lemma shortens_part {css : Fields String} {attrs : List String} (h : Shortens k y x) :
    Shortens k (part d tag css attrs y) (part d tag css attrs x) where
  empty := by
    unfold part
    dsimp only
    split_ifs <;> simp
  opens := by
    unfold part
    dsimp only
    split_ifs <;> simp [Text.OpensBrace]
  count := by
    unfold part
    dsimp only
    have hclose : Text.letters s!"\n</{tag}>" = Text.letters s!"</{tag}>" := by
      change Text.letters ("\n</" ++ tag ++ ">") = Text.letters ("</" ++ tag ++ ">")
      simp only [Text.letters_append]
      rfl
    have hline : Text.letters "\n" = 0 := by decide
    split_ifs <;> simp only [Text.letters_append, Text.letters_indent, h.count, hclose, hline] <;>
      omega
  same hk := by rw [h.same hk]

lemma joined {ys xs : List (Except EmitError String)}
    (h : Totals (fun k => Alike (Shortens k)) k ys xs) {g : String → String}
    (hg : ∀ k y x, Shortens k y x → Shortens k (g y) (g x)) :
    Alike (Shortens k) (joinRendered ys >>= fun t => pure (g t))
      (joinRendered xs >>= fun t => pure (g t)) := by
  refine Alike.bind (P := Shortens k) ?_ fun a b hab => .ok (hg _ _ _ hab)
  exact (Alike.mapM h).bind fun as bs habs => .ok (Shortens.intercalate habs "\n")

lemma shortens_modal (h : Shortens k y x) : Shortens k (modal d s e y) (modal d s e x) := by
  refine shortens_block (Shortens.intercalate (Shortens.filled ?_) "\n")
  simpa using Totals.cons (Shortens.refl _) (.cons h .nil)

lemma shortens_nav (h : Shortens k y x) : Shortens k (nav d s e y) (nav d s e x) :=
  shortens_block (h.behind _ _)

lemma shortens_tabs {ys xs : List String} (h : Totals Shortens k ys xs) :
    Shortens k (tabs d s e ys) (tabs d s e xs) := by
  refine shortens_block (Shortens.intercalate ?_ "\n")
  simpa using Totals.cons (Shortens.refl _)
    (h.mapIdx (g := fun i t => part d "div" [] ("role=\"tabpanel\"" ::
      if i = 0 then [] else ["hidden"]) t) (fun i k y x hyx => shortens_part hyx) 0)

/-- The elements that hold others hand the differences between these on. -/
lemma alike_builtin (hd : d.framework ≠ .expo) {t : BuiltinType} (ht : t.isContainer = true)
    {ys xs : List (Except EmitError String)}
    (h : Totals (fun k => Alike (Shortens k)) k (heldChildren d.framework t ys)
      (heldChildren d.framework t xs)) :
    Alike (Shortens k) (builtin d s t e ys) (builtin d s t e xs) := by
  rw [heldChildren_of_container ht (.inl hd), heldChildren_of_container ht (.inl hd)] at h
  cases t with
  | stack | grid | sectionBox | scrollArea | box | card | form =>
    exact joined h fun _ _ _ hyx => shortens_block hyx
  | modal => exact joined h fun _ _ _ hyx => shortens_modal hyx
  | tabs => exact (Alike.mapM h).bind fun as bs habs => .ok (shortens_tabs habs)
  | nav => exact joined h fun _ _ _ hyx => shortens_nav hyx
  | _ => cases ht

lemma placeholder_marked (d : Dialect) (s : Screen) (e : Element) :
    placeholder d s (e.marked .missing) =
      inline d s e "div"
        { css := placeholderCss
          attrs := [attr d "data-component-ref" (presentOr e "ref" "").text] }
        (d.escape (missingNotice e)) := by
  simp (disch := decide) only [placeholder, inline, opening, placeholderMessage_marked,
    presentOr_marked, propText, prop?_marked]
  rfl

/-- A dialect in which the mark of a reference is seen in its notice only. -/
structure Carries (d : Dialect) : Prop where
  framework : d.framework ≠ .expo
  escape : KeepsNotices d.escape
  conditional : ∀ st e cs k y x, Shortens k y x →
    Shortens k (d.conditional st e cs y) (d.conditional st e cs x)
  marked : ∀ st e o, d.conditional st (e.marked o) = d.conditional st e
  responsive : ∀ (st : ScreenState) es,
    d.conditional { st with responsive := es } = d.conditional st

lemma Carries.kindRenderer (h : Carries d) (s : Screen) :
    (kindRenderer d s).Carries d.framework fun k => Alike (Shortens k) where
  refl x := .refl .refl x
  builtin e t k ys xs ht hs := alike_builtin h.framework ht hs
  other e k ys xs hs := joined hs fun _ _ _ hyx => shortens_block hyx
  around e k y x hyx := hyx.bind fun a b hab => by
    refine .ok ?_
    split
    · exact hab
    · exact h.conditional _ _ _ _ _ _ hab
  marked e o := by
    funext x
    simp only [Markup.kindRenderer, h.marked]
    rfl
  reference e := by
    obtain ⟨k, hk, hpos⟩ := exists_shortens_notice h.escape e
    refine ⟨k, ?_, hpos⟩
    change Alike _ (.ok (placeholder d s (e.marked .missing))) (.ok (placeholder d s e))
    rw [placeholder_marked]
    exact .ok (shortens_inline hk)

end Markup

lemma Html.carries : Markup.Carries Html.dialect where
  framework := by decide
  escape := keepsNotices_escapeMarkup
  conditional _ _ _ _ _ _ h := ((h.indent two_pos).prepend _).postpend _
  marked _ _ _ := rfl
  responsive _ _ := rfl

lemma Vue.carries : Markup.Carries Vue.dialect where
  framework := by decide
  escape := keepsNotices_escapeMustache
  conditional _ _ _ _ _ _ h := ((h.indent two_pos).prepend _).postpend _
  marked _ _ _ := rfl
  responsive _ _ := rfl

lemma Svelte.carries : Markup.Carries Svelte.dialect where
  framework := by decide
  escape := keepsNotices_escapeBraced
  conditional _ _ _ _ _ _ h := (((h.indent two_pos).prepend _).postpend _).postpend _
  marked _ _ _ := rfl
  responsive _ _ := rfl

/-! ### Script markup -/

section
variable {k : ℕ} {y x : String}

lemma shortens_jsxElement (tag : String) (attrs : List String) (h : Shortens k y x) :
    Shortens k (jsxElement tag attrs y) (jsxElement tag attrs x) :=
  h.ite_empty (fun hk => hk ▸ .refl _) (((h.indent two_pos).prepend _).postpend _)

lemma shortens_jsxInline (tag : String) (attrs : List String) (h : Shortens k y x) :
    Shortens k (jsxInline tag attrs y) (jsxInline tag attrs x) :=
  h.ite_empty (fun hk => hk ▸ .refl _) ((h.prepend _).postpend _)

lemma shortens_jsxConditional (conditions : List String) (h : Shortens k y x) :
    Shortens k (jsxConditional conditions y) (jsxConditional conditions x) := by
  unfold jsxConditional braced
  exact ((((h.indent two_pos).prepend _).postpend _).prepend _).postpend _

end

namespace Emission
variable {α β : Type}

/-- Renderings that end with the same error, or with related answers and the same imports. -/
def RunsAlike (P : α → α → Prop) (y x : Emission α) : Prop :=
  Screenwright.Alike (fun a b => P a.1 b.1 ∧ a.2 = b.2) y.run x.run

namespace RunsAlike
variable {P : α → α → Prop} {Q : β → β → Prop} {y x : Emission α} {k : ℕ}

lemma pure {a b : α} (h : P a b) : RunsAlike P (Pure.pure a) (Pure.pure b) := .ok ⟨h, rfl⟩

lemma refl (h : ∀ a, P a a) (x : Emission α) : RunsAlike P x x :=
  Screenwright.Alike.refl (fun a => ⟨h a.1, rfl⟩) x.run

lemma bind (h : RunsAlike P y x) {f g : α → Emission β}
    (hf : ∀ a b, P a b → RunsAlike Q (f a) (g b)) :
    RunsAlike Q (y >>= f) (x >>= g) := by
  unfold RunsAlike
  rw [run_bind, run_bind]
  refine Screenwright.Alike.bind h ?_
  rintro ⟨a, is⟩ ⟨b, js⟩ ⟨hab, rfl⟩
  exact (hf a b hab).map fun c d hcd => ⟨hcd.1, congrArg (is ++ ·) hcd.2⟩

/-- What is done first in both renderings makes no difference. -/
lemma after (x : Emission α) {f g : α → Emission β} (hf : ∀ a, RunsAlike Q (f a) (g a)) :
    RunsAlike Q (x >>= f) (x >>= g) :=
  bind (refl (P := Eq) (fun _ => rfl) x) fun a _ hab => hab ▸ hf a

lemma mapM {R : ℕ → α → α → Prop} {ys xs : List (Emission α)}
    (h : Totals (fun k => RunsAlike (R k)) k ys xs) :
    RunsAlike (Totals R k) (ys.mapM id) (xs.mapM id) := by
  induction h with
  | nil => exact pure .nil
  | cons hx _ ih =>
    rw [List.mapM_cons, List.mapM_cons]
    exact hx.bind fun a b hab => ih.bind fun as bs habs => pure (.cons hab habs)

lemma join {ys xs : List (Emission String)} (h : Totals (fun k => RunsAlike (Shortens k)) k ys xs) :
    RunsAlike (Shortens k) (join ys) (join xs) :=
  (mapM h).bind fun _ _ hts => pure (Shortens.intercalate hts "\n")

end RunsAlike
end Emission

open Emission (RunsAlike)

namespace Nextjs
variable {p : Page} {e : Element} {tag : String} {ex : Extras} {k : ℕ} {y x : String}

lemma alike_inline (h : Shortens k y x) :
    RunsAlike (Shortens k) (inline p e tag ex y) (inline p e tag ex x) :=
  .after _ fun attrs => .pure (shortens_jsxInline tag attrs h)

lemma alike_block (h : Shortens k y x) :
    RunsAlike (Shortens k) (block p e tag ex y) (block p e tag ex x) :=
  .after _ fun attrs => .pure (shortens_jsxElement tag attrs h)

lemma alike_modal (h : Shortens k y x) : RunsAlike (Shortens k) (modal p e y) (modal p e x) :=
  alike_block (h.ite_empty (fun hk => hk ▸ .refl _) (h.prepend _))

lemma alike_tabs {ys xs : List String} (h : Totals Shortens k ys xs) :
    RunsAlike (Shortens k) (tabs p e ys) (tabs p e xs) := by
  refine alike_block (Shortens.intercalate ?_ "\n")
  simpa using Totals.cons (Shortens.refl _)
    (h.mapIdx (g := fun i t => "<div role=\"tabpanel\"" ++ (if i = 0 then "" else " hidden") ++
      ">\n" ++ Text.indent 2 t ++ "\n</div>")
      (fun i k y x hyx => ((hyx.indent two_pos).prepend _).postpend _) 0)

lemma alike_nav (h : Shortens k y x) : RunsAlike (Shortens k) (nav p e y) (nav p e x) := by
  unfold nav
  dsimp only
  split
  · exact .after _ fun _ => alike_block (h.behind _ _)
  · exact alike_block (h.behind _ _)

/-- The elements that hold others hand the differences between these on. -/
lemma alike_builtin {t : BuiltinType} (ht : t.isContainer = true) {ys xs : List (Emission String)}
    (h : Totals (fun k => RunsAlike (Shortens k)) k (heldChildren .nextjs t ys)
      (heldChildren .nextjs t xs)) :
    RunsAlike (Shortens k) (builtin p t e ys) (builtin p t e xs) := by
  rw [heldChildren_of_container ht (.inl (by decide)),
    heldChildren_of_container ht (.inl (by decide))] at h
  have hjoined : ∀ {tag ex}, RunsAlike (Shortens k) (Emission.join ys >>= block p e tag ex)
      (Emission.join xs >>= block p e tag ex) :=
    (RunsAlike.join h).bind fun _ _ hyx => alike_block hyx
  cases t with
  | stack | grid | sectionBox | box => exact hjoined
  | form => exact (RunsAlike.join h).bind fun _ _ hyx => alike_block hyx
  | scrollArea | card =>
    refine .after _ fun tag => ?_
    cases tag <;> exact hjoined
  | modal => exact (RunsAlike.join h).bind fun _ _ hyx => alike_modal hyx
  | tabs => exact (RunsAlike.mapM h).bind fun _ _ hts => alike_tabs hts
  | nav => exact (RunsAlike.join h).bind fun _ _ hyx => alike_nav hyx
  | _ => cases ht

lemma placeholder_marked (p : Page) (e : Element) :
    placeholder p (e.marked .missing) =
      inline p e "div"
        { className := "border border-dashed border-red-500 px-3 py-2 text-sm text-red-700"
          attrs := [jsxAttr "data-component-ref" (presentOr e "ref" "")] }
        (Text.escapeBraced (missingNotice e)) := by
  simp (disch := decide) only [placeholder, inline, attributes, placeholderMessage_marked,
    presentOr_marked, propText, prop?_marked]
  rfl

lemma carries (p : Page) : (kindRenderer p).Carries .nextjs fun k => RunsAlike (Shortens k) where
  refl x := .refl .refl x
  builtin e t k ys xs ht h := alike_builtin ht h
  other e k ys xs h := (RunsAlike.join h).bind fun _ _ hyx => alike_block hyx
  around e k y x h := h.bind fun a b hab => by
    split
    · exact .pure hab
    · exact .pure (shortens_jsxConditional _ hab)
  marked e o := rfl
  reference e := by
    obtain ⟨k, hk, hpos⟩ := exists_shortens_notice keepsNotices_escapeBraced e
    refine ⟨k, ?_, hpos⟩
    change RunsAlike _ (placeholder p (e.marked .missing)) (placeholder p e)
    rw [placeholder_marked]
    exact alike_inline hk

end Nextjs

namespace Expo
variable {s : Screen} {e : Element} {tag : String} {style : Fields Json} {attrs : List String}
  {k : ℕ} {y x : String}

lemma alike_nodeElement {build build' : String → List String → String}
    (h : ∀ tag parts, Shortens k (build tag parts) (build' tag parts)) :
    RunsAlike (Shortens k) (nodeElement s e tag style attrs build)
      (nodeElement s e tag style attrs build') := by
  refine .after _ fun styles => .after _ fun press => .after _ fun tag => ?_
  cases press with
  | none => exact .pure (h _ _)
  | some press =>
    dsimp only [Option.map_some]
    split
    · exact .pure (h _ _)
    · exact .after _ fun wrapper => .pure (shortens_jsxElement _ _ (h _ _))

lemma alike_block (h : Shortens k y x) :
    RunsAlike (Shortens k) (block s e tag style attrs y) (block s e tag style attrs x) :=
  alike_nodeElement fun tag parts => shortens_jsxElement tag parts h

lemma alike_label (h : Shortens k (Text.escapeBraced y) (Text.escapeBraced x)) :
    RunsAlike (Shortens k) (label y style) (label x style) :=
  .after _ fun tag => .pure (shortens_jsxInline tag _ h)

lemma alike_view (h : Shortens k y x) : RunsAlike (Shortens k) (view style y) (view style x) :=
  .after _ fun tag => .pure (shortens_jsxElement tag _ h)

lemma shortens_withChildren (first : String) (h : Shortens k y x) :
    Shortens k (withChildren first y) (withChildren first x) :=
  h.ite_empty (fun hk => hk ▸ .refl _) (h.prepend _)

lemma alike_other (h : Shortens k y x) : RunsAlike (Shortens k) (other s e y) (other s e x) :=
  .after _ fun tag => alike_block (shortens_withChildren tag h)

lemma alike_modal (h : Shortens k y x) : RunsAlike (Shortens k) (modal s e y) (modal s e x) := by
  refine .after _ fun title => .after _ fun header => ?_
  dsimp only
  by_cases hx : x = ""
  · rw [if_pos hx, if_pos (h.empty.2 hx)]
    subst hx
    exact h.eq_zero ▸ .refl .refl _
  · rw [if_neg hx, if_neg (mt h.empty.1 hx)]
    exact (alike_view h).bind fun _ _ hyx => alike_block (shortens_withChildren header hyx)

lemma alike_tabs {ys xs : List (Emission String)}
    (h : Totals (fun k => RunsAlike (Shortens k)) k (ys.take 1) (xs.take 1)) :
    RunsAlike (Shortens k) (tabs s e ys) (tabs s e xs) := by
  refine .after _ fun _ => .after _ fun buttons => .after _ fun bar => ?_
  cases ys with
  | nil =>
    cases xs with
    | nil =>
      cases h
      exact .refl .refl _
    | cons x xs => cases h
  | cons y ys =>
    cases xs with
    | nil => cases h
    | cons x xs =>
      rw [List.take_succ_cons, List.take_zero, List.take_succ_cons, List.take_zero] at h
      cases h with
      | cons hyx hs =>
        cases hs
        refine hyx.bind fun _ _ hyx => (alike_view hyx).bind fun _ _ hyx => ?_
        exact alike_block (shortens_withChildren bar hyx)

lemma alike_nav {ys xs : List (Emission String)}
    (h : Totals (fun k => RunsAlike (Shortens k)) k ys xs) :
    RunsAlike (Shortens k) (nav s e ys) (nav s e xs) :=
  .after _ fun _ => (RunsAlike.join h).bind fun _ _ hyx => alike_block (hyx.behind _ _)

/-- The elements that hold others hand the differences between these on. -/
lemma alike_builtin {t : BuiltinType} (ht : t.isContainer = true) {ys xs : List (Emission String)}
    (h : Totals (fun k => RunsAlike (Shortens k)) k (heldChildren .expo t ys)
      (heldChildren .expo t xs)) :
    RunsAlike (Shortens k) (builtin s t e ys) (builtin s t e xs) := by
  by_cases htabs : t = .tabs
  · subst htabs
    exact alike_tabs h
  · rw [heldChildren_of_container ht (.inr htabs), heldChildren_of_container ht (.inr htabs)] at h
    cases t with
    | stack | grid | sectionBox | scrollArea | box | card | form =>
      exact (RunsAlike.join h).bind fun _ _ hyx => alike_block hyx
    | modal => exact (RunsAlike.join h).bind fun _ _ hyx => alike_modal hyx
    | tabs => exact absurd rfl htabs
    | nav => exact alike_nav h
    | _ => cases ht

lemma placeholder_marked (s : Screen) (e : Element) :
    placeholder s (e.marked .missing) = (do
      let notice ← label (missingNotice e) [("fontSize", .int 12), ("color", .str "#b91c1c")]
      block s e "View" (dashed "#ef4444" ++ [("padding", .int 8)]) [] notice) := by
  rw [placeholder, placeholderMessage_marked]
  rfl

lemma carries (s : Screen) : (kindRenderer s).Carries .expo fun k => RunsAlike (Shortens k) where
  refl x := .refl .refl x
  builtin e t k ys xs ht h := alike_builtin ht h
  other e k ys xs h := (RunsAlike.join h).bind fun _ _ hyx => alike_other hyx
  around e k y x h := h.bind fun a b hab => by
    split
    · exact .pure hab
    · exact .pure (shortens_jsxConditional _ hab)
  marked e o := rfl
  reference e := by
    obtain ⟨k, hk, hpos⟩ := exists_shortens_notice keepsNotices_escapeBraced e
    refine ⟨k, ?_, hpos⟩
    change RunsAlike _ (placeholder s (e.marked .missing)) (placeholder s e)
    rw [placeholder_marked]
    exact (alike_label hk).bind fun _ _ hyx => alike_block hyx

end Expo

end Emit
end Screenwright
