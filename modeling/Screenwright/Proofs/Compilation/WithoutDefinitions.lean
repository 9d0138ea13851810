import Screenwright.Proofs.Compilation.Notices
import Screenwright.Proofs.Compilation.OutputPaths

/-! Compilation without definitions. References are then left alone, where resolution would mark
each of them as missing: what is generated differs by the notices of references whose own mark names
another reason. -/
namespace Screenwright
namespace Emit
open Node (missing)
open Text (Shortens)
open Emission (RunsAlike)

/-! ### Trees -/

section
variable {es : List Element} {tree : Node}

lemma Markup.exists_render {d : Dialect} (h : Carries d) (s : Screen)
    (hes : SameIds es s.state.responsive) :
    ∃ k, Alike (Shortens k)
        (render d (s.withTree (tree.mapReferences missing) es) (tree.mapReferences missing))
        (render d s tree) ∧
      (0 < k ↔ ∃ m, Shown d.framework s.plugins tree m ∧ IsMislabeled m) := by
  have hrender : render d (s.withTree (tree.mapReferences missing) es) = render d s := by
    refine KindRenderer.Renders.unique (r := kindRenderer d s) ?_ (renders d s)
    rw [← kindRenderer_withTree hes fun st => h.responsive st es]
    exact renders d _
  rw [hrender]
  exact (renders d s).exists_total (holdsShown h.framework) (h.kindRenderer s) tree

lemma Nextjs.exists_render (p : Page) (hes : SameIds es p.state.responsive) :
    ∃ k, RunsAlike (Shortens k)
        (render (p.withTree (tree.mapReferences missing) es) (tree.mapReferences missing))
        (render p tree) ∧
      (0 < k ↔ ∃ m, Shown .nextjs p.plugins tree m ∧ IsMislabeled m) := by
  have hrender : render (p.withTree (tree.mapReferences missing) es) = render p := by
    refine KindRenderer.Renders.unique (r := kindRenderer p) ?_ (renders p)
    rw [← kindRenderer_withTree hes]
    exact renders _
  rw [hrender]
  exact (renders p).exists_total holdsShown (carries p) tree

lemma Expo.exists_render (s : Screen) (hes : SameIds es s.state.responsive) :
    ∃ k, RunsAlike (Shortens k)
        (render (s.withTree (tree.mapReferences missing) es) (tree.mapReferences missing))
        (render s tree) ∧
      (0 < k ↔ ∃ m, Shown .expo s.plugins tree m ∧ IsMislabeled m) := by
  have hrender : render (s.withTree (tree.mapReferences missing) es) = render s := by
    refine KindRenderer.Renders.unique (r := kindRenderer s) ?_ (renders s)
    rw [← kindRenderer_withTree hes]
    exact renders _
  rw [hrender]
  exact (renders s).exists_total holdsShown (carries s) tree

end

/-! ### Files -/

section
variable {k : ℕ} {y x : String}

lemma shortens_page (s : Screen) (title : String) (h : Shortens k y x) :
    Shortens k (Html.page s title y) (Html.page s title x) := by
  have hlines : Totals Shortens k ["  <div id=\"app\">", Text.indent 4 y, "  </div>"]
      ["  <div id=\"app\">", Text.indent 4 x, "  </div>"] :=
    .append_left Shortens.refl [_] (.head Shortens.refl (h.indent four_pos) _)
  refine (Shortens.intercalate ?_ "\n").postpend _
  exact .append_right Shortens.refl
    (.append_left Shortens.refl _ (hlines.append_right Shortens.refl _)) _

lemma shortens_vueComponent (s : Screen) (script : List String) (h : Shortens k y x) :
    Shortens k (Vue.component s script y) (Vue.component s script x) := by
  refine (Shortens.intercalate ?_ "\n\n").postpend _
  refine .append_right Shortens.refl (.append_left Shortens.refl _ (.head Shortens.refl ?_ [])) _
  exact ((h.indent two_pos).prepend _).postpend _

lemma shortens_svelteComponent (s : Screen) (script : List String) (h : Shortens k y x) :
    Shortens k (Svelte.component s script y) (Svelte.component s script x) := by
  refine (Shortens.intercalate ?_ "\n\n").postpend _
  exact .append_right Shortens.refl (.append_left Shortens.refl _ (.head Shortens.refl h [])) _

lemma shortens_module (name : String) (header imports preamble hooks : List String)
    (h : Shortens k y x) :
    Shortens k (Jsx.module_ name header imports preamble hooks y)
      (Jsx.module_ name header imports preamble hooks x) := by
  refine (Shortens.intercalate ?_ "\n").postpend _
  refine .append_left Shortens.refl _ (.append_left Shortens.refl [_] ?_)
  exact .head Shortens.refl (h.indent four_pos) _

lemma shortens_fragment (h : Shortens k y x) :
    Shortens k (Jsx.fragment y) (Jsx.fragment x) := by
  have hopens : y.toList.head? = some '\x7b' ↔ x.toList.head? = some '\x7b' := h.opens
  unfold Jsx.fragment
  by_cases hx : x.toList.head? = some '\x7b'
  · rw [if_pos hx, if_pos (hopens.2 hx)]
    exact ((h.indent two_pos).prepend _).postpend _
  · rw [if_neg hx, if_neg (mt hopens.1 hx)]
    exact h

/-- The body of a component, with the style element of responsive rules or without. -/
lemma shortens_body (responsive : String) (h : Shortens k y x) :
    Shortens k (Nextjs.body responsive y) (Nextjs.body responsive x) := by
  unfold Nextjs.body
  split
  · exact shortens_fragment h
  · exact ((h.indent two_pos).prepend _).postpend _

end

/-! ### Screens -/

lemma ofTree_missing_eq_withTree (c : Context) (tree : Node) :
    Screen.ofTree c (tree.mapReferences missing) =
      (Screen.ofTree c tree).withTree (tree.mapReferences missing)
        ((tree.mapReferences missing).elements.filter isResponsive) := by
  simp only [Screen.ofTree, Screen.withTree, ofTree_missing tree]

lemma sameIds_missing (tree : Node) :
    SameIds ((tree.mapReferences missing).elements.filter isResponsive)
      (ScreenState.ofTree tree).responsive := isResponsiveId_missing tree

lemma startedFetches_missing (c : Context) (tree : Node) :
    (Screen.ofTree c (tree.mapReferences missing)).startedFetches =
      (Screen.ofTree c tree).startedFetches := by
  have hrows : ∀ f, (Screen.ofTree c (tree.mapReferences missing)).rowsBefore f =
      (Screen.ofTree c tree).rowsBefore f := rowsBefore_missing c tree
  have hfetches : (Screen.ofTree c (tree.mapReferences missing)).state.fetches =
      (Screen.ofTree c tree).state.fetches := by
    rw [ofTree_missing_eq_withTree]
    rfl
  simp only [Screen.startedFetches, hrows, hfetches]

lemma css_missing (c : Context) (tree : Node) (selector : String → String) :
    responsiveCss (Screen.ofTree c (tree.mapReferences missing)).tokens selector
        (Screen.ofTree c (tree.mapReferences missing)).state.responsive =
      responsiveCss (Screen.ofTree c tree).tokens selector
        (Screen.ofTree c tree).state.responsive :=
  responsiveCss_missing c.tokens selector tree

lemma Html.on_missing (c : Context) (tree : Node) :
    Screen.on .html c (tree.mapReferences missing) =
      (Screen.on .html c tree).withTree (tree.mapReferences missing)
        ((tree.mapReferences missing).elements.filter isResponsive) := by
  simp only [Screen.on, ofTree_missing_eq_withTree, ofTree_missing tree]
  rfl

lemma Html.page_missing (c : Context) (tree : Node) :
    page (Screen.on .html c (tree.mapReferences missing)) = page (Screen.on .html c tree) := by
  have hcss : ∀ selector, responsiveCss
      (Screen.on .html c (tree.mapReferences missing)).tokens selector
        (Screen.on .html c (tree.mapReferences missing)).state.responsive =
      responsiveCss (Screen.on .html c tree).tokens selector
        (Screen.on .html c tree).state.responsive := css_missing c tree
  funext title markup
  simp only [page, hcss]
  rw [on_missing]
  rfl

lemma Vue.scriptLines_missing (c : Context) (tree : Node) :
    scriptLines (Screen.ofTree c (tree.mapReferences missing)) =
      scriptLines (Screen.ofTree c tree) := by
  simp only [scriptLines, startedFetches_missing]
  rw [ofTree_missing_eq_withTree]
  rfl

lemma Svelte.scriptLines_missing (c : Context) (tree : Node) :
    scriptLines (Screen.ofTree c (tree.mapReferences missing)) =
      scriptLines (Screen.ofTree c tree) := by
  simp only [scriptLines, startedFetches_missing]
  rw [ofTree_missing_eq_withTree]
  rfl

lemma hookLines_missing (d : ReactDialect) (c : Context) (tree : Node) :
    Jsx.hookLines d (Screen.ofTree c (tree.mapReferences missing)) =
      Jsx.hookLines d (Screen.ofTree c tree) := by
  simp only [Jsx.hookLines, startedFetches_missing]
  rw [ofTree_missing_eq_withTree]
  rfl

lemma Expo.hookLines_missing (c : Context) (tree : Node) :
    hookLines (Screen.ofTree c (tree.mapReferences missing)) =
      hookLines (Screen.ofTree c tree) := by
  have hempty : (Screen.ofTree c (tree.mapReferences missing)).state.responsive.isEmpty =
      (Screen.ofTree c tree).state.responsive.isEmpty := by
    have hmap := congrArg List.isEmpty
      (map_responsive_missing (f := fun _ => ()) (fun _ => rfl) tree)
    rw [List.isEmpty_map, List.isEmpty_map] at hmap
    exact hmap
  simp only [hookLines, Emit.hookLines_missing, hempty]

/-- The marks of missing definitions change the text of a file by letters of its notices. -/
theorem exists_screenContents (f : Framework) (c : Context) (name : String) (tree : Node) :
    ∃ k, Alike (Shortens k) (screenContents f c name (tree.mapReferences missing))
        (screenContents f c name tree) ∧
      (0 < k ↔ ∃ m, Shown f c.plugins tree m ∧ IsMislabeled m) := by
  cases f with
  | html =>
    obtain ⟨k, hk, hpos⟩ := Markup.exists_render Html.carries (Screen.on .html c tree)
      (sameIds_missing tree)
    rw [← Html.on_missing] at hk
    refine ⟨k, ?_, hpos⟩
    change Alike _ (Markup.render _ _ _ >>= fun markup =>
        pure (Html.page (Screen.on .html c (tree.mapReferences missing)) name markup))
      (_ >>= fun markup => pure (Html.page (Screen.on .html c tree) name markup))
    rw [Html.page_missing]
    exact hk.bind fun _ _ hyx => .ok (shortens_page _ name hyx)
  | vue =>
    obtain ⟨k, hk, hpos⟩ := Markup.exists_render Vue.carries (Screen.ofTree c tree)
      (sameIds_missing tree)
    rw [← ofTree_missing_eq_withTree] at hk
    refine ⟨k, ?_, hpos⟩
    simp only [screenContents, Vue.contents, Vue.scriptLines_missing, Vue.component, css_missing]
    exact hk.bind fun _ _ hyx => .after _ fun lines => .ok (shortens_vueComponent _ lines hyx)
  | svelte =>
    obtain ⟨k, hk, hpos⟩ := Markup.exists_render Svelte.carries (Screen.ofTree c tree)
      (sameIds_missing tree)
    rw [← ofTree_missing_eq_withTree] at hk
    refine ⟨k, ?_, hpos⟩
    simp only [screenContents, Svelte.contents, Svelte.scriptLines_missing, Svelte.component,
      css_missing]
    exact hk.bind fun _ _ hyx => .after _ fun lines => .ok (shortens_svelteComponent _ lines hyx)
  | nextjs =>
    let p : Nextjs.Page :=
      { Screen.ofTree c tree with library := ComponentLibrary.ofName? c.config.componentLibrary }
    obtain ⟨k, hk, hpos⟩ := Nextjs.exists_render p (sameIds_missing tree)
    refine ⟨k, ?_, hpos⟩
    have hheader : Nextjs.header (Screen.ofTree c (tree.mapReferences missing)).state =
        Nextjs.header (Screen.ofTree c tree).state := by
      rw [ofTree_missing_eq_withTree]
      rfl
    have hpage : p.withTree (tree.mapReferences missing)
        ((tree.mapReferences missing).elements.filter isResponsive) =
          { Screen.ofTree c (tree.mapReferences missing) with library := p.library } := by
      rw [ofTree_missing_eq_withTree]
      rfl
    rw [hpage] at hk
    simp only [screenContents, Nextjs.contents, hookLines_missing, css_missing, hheader]
    refine Alike.bind hk fun a b hab => .after _ fun hooks => .ok ?_
    rw [hab.2]
    exact shortens_module _ _ _ _ _ (shortens_body _ hab.1)
  | expo =>
    obtain ⟨k, hk, hpos⟩ := Expo.exists_render (Screen.ofTree c tree) (sameIds_missing tree)
    rw [← ofTree_missing_eq_withTree] at hk
    refine ⟨k, ?_, hpos⟩
    simp only [screenContents, Expo.contents, Expo.hookLines_missing]
    refine Alike.bind hk fun a b hab => .after _ fun hooks => .ok ?_
    rw [hab.2]
    exact shortens_module _ _ _ _ _ (shortens_fragment hab.1)

end Emit

namespace Compiler
variable {c : Compiler} {spec : ScreenSpec}

/-- Without definitions a compiler leaves references alone. What it generates is what it would
generate after resolution, unless a reference with a usable target is shown whose own mark says
that it is circular or malformed; a screen that cannot be rendered fails in the same way. -/
theorem emitScreen_resolve_eq_iff (hc : c.registry = []) :
    Emit.emitScreen c.target c.context { spec with tree := spec.tree.resolve c.registry } =
        Emit.emitScreen c.target c.context (c.resolved spec) ↔
      Breaks (Emit.emitScreen c.target c.context (c.resolved spec)) ∨
        ∀ m, Emit.Shown c.target c.context.plugins spec.tree m → ¬ Emit.IsMislabeled m := by
  obtain ⟨k, hk, hpos⟩ := Emit.exists_screenContents c.target c.context
    (Emit.componentName spec.route) spec.tree
  have hresolved : c.resolved spec = spec := by rw [resolved, hc]; rfl
  have hnone : k = 0 ↔
      ∀ m, Emit.Shown c.target c.context.plugins spec.tree m → ¬ Emit.IsMislabeled m := by
    rw [← not_iff_not, ← Ne, ← Nat.pos_iff_ne_zero, hpos]
    push Not
    rfl
  rw [hresolved, hc, Node.resolve_nil, ← hnone]
  unfold Emit.emitScreen
  dsimp only
  rcases hk with ⟨e, hmarked, hplain⟩ | ⟨y, x, hmarked, hplain, hyx⟩
  · rw [hmarked, hplain]
    exact iff_of_true rfl (.inl (breaks_error e))
  · rw [hmarked, hplain, ← hyx.eq_iff]
    simp [bind, Except.bind, pure, Except.pure, Breaks]

/-- A screen with one reference, which says of itself that it is circular. -/
def mislabeledScreen : SourceScreen where
  name := "home"
  document := .obj [("version", .int 1), ("route", .str "/home"),
    ("tree", .obj [("id", .str "card"), ("type", .str "ComponentRef"),
      ("props", .obj [("ref", .str "card"), ("unresolved", .str "circular")])])]

/-- A valid screen for which it makes a difference that references are left alone. -/
theorem emitScreen_resolve_ne_mislabeledScreen :
    ∃ spec, pages.validator.screen "home" mislabeledScreen.document = .ok spec ∧
      Emit.emitScreen pages.target pages.context
          { spec with tree := spec.tree.resolve pages.registry } ≠
        Emit.emitScreen pages.target pages.context (pages.resolved spec) := by
  have hscreen : (pages.validator.screen "home" mislabeledScreen.document).toOption.map
      (fun spec => ((Emit.emitScreen pages.target pages.context (pages.resolved spec)).isOk,
        spec.tree.type, referenceTarget? spec.tree.props, Emit.blamesOther spec.tree.head)) =
        some (true, referenceType, some "card", true) := by
    decide +kernel
  obtain ⟨spec, hspec, hread⟩ := exists_ok_of_toOption hscreen
  simp only [Prod.mk.injEq] at hread
  obtain ⟨hemits, htype, htarget, hblames⟩ := hread
  have hlabel : Emit.IsMislabeled spec.tree := by
    refine ⟨htype, ?_, Emit.blamesOther_iff.1 hblames⟩
    rw [htarget]
    exact Option.some_ne_none _
  refine ⟨spec, hspec, fun hsame => ?_⟩
  rcases (emitScreen_resolve_eq_iff (c := pages) rfl).1 hsame with ⟨e, herror⟩ | hnone
  · rw [herror] at hemits
    cases hemits
  · exact hnone _ (.refl _) hlabel

end Compiler
end Screenwright
