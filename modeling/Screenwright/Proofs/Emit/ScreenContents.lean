import Screenwright.Proofs.Emit.MarkupParts
import Screenwright.Proofs.Emit.ReactParts

/-! What a screen's file holds of its tree. The rendering of the tree stands in it as a whole, and
it fails when the rendering does or when the first rows of a fetch cannot be read. -/
namespace Screenwright.Emit
open Text (Keeps)

/-- A text as a target writes it. -/
def escapeText : Framework → String → String
  | .html => Html.escape
  | .vue => Vue.escape
  | .nextjs | .svelte | .expo => Text.escapeBraced

/-! ### Rows that fetches start with -/

section
variable {s : Screen}

/-- A fetch whose first rows cannot be read. -/
def HasUnreadableFetch (s : Screen) : Prop := ∃ fetch ∈ s.state.fetches, Breaks (s.rowsBefore fetch)

lemma breaks_startedFetches : Breaks s.startedFetches ↔ HasUnreadableFetch s := by
  rw [Screen.startedFetches, breaks_mapError, breaks_mapM]
  simp only [breaks_map, HasUnreadableFetch]

lemma Emission.breaks_run {α : Type} (x : Emission α) : Breaks x.run ↔ Breaks x.value :=
  (breaks_map Prod.fst x.run).symm

section
variable {α β : Type} {test fault : Prop} [Decidable test] {x y : Emission α}

/-- Which of two steps comes first does not matter when neither fails. -/
lemma Emission.breaks_either {f : α → Emission β} (hx : ¬ Breaks x.value) (hy : ¬ Breaks y.value)
    (hf : ∀ a, Breaks (f a).value ↔ fault) :
    Breaks (if test then x >>= f else y >>= f).value ↔ fault := by
  split_ifs
  · exact breaks_value_bind hx hf
  · exact breaks_value_bind hy hf

lemma Emission.breaks_optional {rest : Emission β} (hx : ¬ Breaks x.value)
    (hrest : Breaks rest.value ↔ fault) :
    Breaks (if test then x >>= fun _ => rest else rest).value ↔ fault := by
  split_ifs
  · exact breaks_value_bind hx fun _ => hrest
  · exact hrest

end

/-- Of the hooks of a component, only the rows that fetches start with can fail. -/
lemma breaks_hookLines {d : ReactDialect} (hd : ¬ Breaks d.routerLines.value) :
    Breaks (Jsx.hookLines d s).value ↔ Breaks s.startedFetches := by
  refine Emission.breaks_either hd (breaks_ok _) fun router => ?_
  refine Emission.breaks_optional (breaks_ok _) (Emission.breaks_optional (breaks_ok _) ?_)
  rw [Emission.value_bind, Emission.value_ofExcept]
  exact breaks_bind_pure _ _

lemma Expo.breaks_hookLines : Breaks (Expo.hookLines s).value ↔ Breaks s.startedFetches := by
  rw [← Emit.breaks_hookLines (d := Expo.dialect) (breaks_ok _), Expo.hookLines,
    Emission.value_bind, breaks_bind_of_ok]
  intro hooks
  split_ifs
  · exact breaks_ok _
  · exact Emission.not_breaks_value_bind (breaks_ok _) fun _ => breaks_ok _

lemma Vue.breaks_scriptLines : Breaks (Vue.scriptLines s) ↔ Breaks s.startedFetches :=
  breaks_bind_pure _ _

lemma Svelte.breaks_scriptLines : Breaks (Svelte.scriptLines s) ↔ Breaks s.startedFetches :=
  breaks_bind_pure _ _

end

/-! ### Texts around the markup -/

section
variable {markup : String}

lemma Html.keeps_page (s : Screen) (title : String) : Keeps markup (Html.page s title markup) := by
  unfold Html.page Html.document
  refine (Keeps.intercalate "\n" ((Keeps.refl markup).indent 4) ?_).append_right "\n"
  simp

lemma Vue.keeps_component (s : Screen) (lines : List String) :
    Keeps markup (Vue.component s lines markup) := by
  have htemplate : Keeps markup ("<template>\n" ++ Text.indent 2 markup ++ "\n</template>") :=
    (((Keeps.refl markup).indent 2).append_left _).append_right _
  unfold Vue.component
  refine (Keeps.intercalate "\n\n" htemplate ?_).append_right "\n"
  simp

lemma Svelte.keeps_component (s : Screen) (lines : List String) :
    Keeps markup (Svelte.component s lines markup) := by
  unfold Svelte.component
  refine (Keeps.intercalate "\n\n" (Keeps.refl markup) ?_).append_right "\n"
  simp

lemma Jsx.keeps_module {name body : String} {header imports preamble hooks : List String} :
    Keeps body (Jsx.module_ name header imports preamble hooks body) := by
  unfold Jsx.module_
  refine (Keeps.intercalate "\n" ((Keeps.refl body).indent 4) ?_).append_right "\n"
  simp

lemma Jsx.keeps_fragment : Keeps markup (Jsx.fragment markup) := by
  unfold Jsx.fragment
  split_ifs
  · exact (((Keeps.refl markup).indent 2).append_left _).append_right _
  · exact Keeps.refl markup

lemma Nextjs.keeps_body {responsive : String} : Keeps markup (Nextjs.body responsive markup) := by
  unfold Nextjs.body
  split_ifs
  · exact Jsx.keeps_fragment
  · exact (((Keeps.refl markup).indent 2).append_left _).append_right _

end

/-! ### The contents of a screen -/

/-- Contents made of a rendering of the tree of a screen and of the rows that its fetches start
with. The rendering shows the texts of the tree. -/
structure Holds (f : Framework) (s : Screen) (contents : Except EmitError String)
    (draw : Node → Except EmitError String) : Prop where
  draws : Draws f s draw
  texts : ∀ n text, NodeKind.classify n.head.type n.head.props = .builtin .text →
    escapeText f (propText n.head "text") ≠ "" → draw n = .ok text →
    Keeps (escapeText f (propText n.head "text") ++ "<") text
  breaks : Breaks contents ↔ Breaks (draw s.tree) ∨ HasUnreadableFetch s
  keeps : ∀ text, contents = .ok text → ∃ markup, draw s.tree = .ok markup ∧ Keeps markup text

variable {c : Context} {name : String} {tree : Node}

lemma holds_html : Holds .html (Screen.on .html c tree) (Html.contents c name tree)
    (Markup.render Html.dialect (Screen.on .html c tree)) := by
  have hconditional : ∀ state e cs markup,
      Keeps markup (Html.dialect.conditional state e cs markup) := fun _ _ _ markup =>
    (((Keeps.refl markup).indent 2).append_left _).append_right _
  constructor
  case draws => exact Markup.draws_render hconditional (by decide)
  case texts => exact fun n text htype _ htext => Markup.keeps_text hconditional htype htext
  case breaks =>
    have hfetches : ¬ HasUnreadableFetch (Screen.on .html c tree) := by
      rintro ⟨fetch, hfetch, -⟩
      cases hfetch
    rw [or_iff_left hfetches]
    exact breaks_bind_pure _ _
  case keeps =>
    intro text htext
    obtain ⟨markup, hmarkup, htext⟩ := bind_eq_ok_iff.1 htext
    refine ⟨markup, hmarkup, ?_⟩
    rw [← Except.ok.inj htext]
    exact Html.keeps_page _ _

lemma holds_vue : Holds .vue (Screen.on .vue c tree) (Vue.contents c tree)
    (Markup.render Vue.dialect (Screen.on .vue c tree)) := by
  have hconditional : ∀ state e cs markup,
      Keeps markup (Vue.dialect.conditional state e cs markup) := fun _ _ _ markup =>
    (((Keeps.refl markup).indent 2).append_left _).append_right _
  constructor
  case draws => exact Markup.draws_render hconditional (by decide)
  case texts => exact fun n text htype _ htext => Markup.keeps_text hconditional htype htext
  case breaks =>
    rw [← breaks_startedFetches, ← Vue.breaks_scriptLines]
    exact breaks_bind_bind_pure _ _ _
  case keeps =>
    intro text htext
    obtain ⟨markup, hmarkup, htext⟩ := bind_eq_ok_iff.1 htext
    obtain ⟨lines, -, htext⟩ := bind_eq_ok_iff.1 htext
    refine ⟨markup, hmarkup, ?_⟩
    rw [← Except.ok.inj htext]
    exact Vue.keeps_component _ _

lemma holds_svelte : Holds .svelte (Screen.on .svelte c tree) (Svelte.contents c tree)
    (Markup.render Svelte.dialect (Screen.on .svelte c tree)) := by
  have hconditional : ∀ state e cs markup,
      Keeps markup (Svelte.dialect.conditional state e cs markup) := fun _ _ _ markup =>
    ((((Keeps.refl markup).indent 2).append_left _).append_right _).append_right _
  constructor
  case draws => exact Markup.draws_render hconditional (by decide)
  case texts => exact fun n text htype _ htext => Markup.keeps_text hconditional htype htext
  case breaks =>
    rw [← breaks_startedFetches, ← Svelte.breaks_scriptLines]
    exact breaks_bind_bind_pure _ _ _
  case keeps =>
    intro text htext
    obtain ⟨markup, hmarkup, htext⟩ := bind_eq_ok_iff.1 htext
    obtain ⟨lines, -, htext⟩ := bind_eq_ok_iff.1 htext
    refine ⟨markup, hmarkup, ?_⟩
    rw [← Except.ok.inj htext]
    exact Svelte.keeps_component _ _

lemma holds_nextjs : ∃ draw,
    Holds .nextjs (Screen.on .nextjs c tree) (Nextjs.contents c name tree) draw := by
  let p : Nextjs.Page :=
    { Screen.ofTree c tree with library := ComponentLibrary.ofName? c.config.componentLibrary }
  refine ⟨fun n => (Nextjs.render p n).value, ?_⟩
  constructor
  case draws => exact Nextjs.draws_render p
  case texts => exact fun n text => Nextjs.keeps_text
  case breaks =>
    rw [← breaks_startedFetches, ← breaks_hookLines (d := Nextjs.dialect) (breaks_ok _),
      ← Emission.breaks_run, ← Emission.breaks_run]
    exact breaks_bind_bind_pure _ _ _
  case keeps =>
    intro text htext
    obtain ⟨⟨markup, imports⟩, hmarkup, htext⟩ := bind_eq_ok_iff.1 htext
    obtain ⟨⟨hooks, hookImports⟩, -, htext⟩ := bind_eq_ok_iff.1 htext
    refine ⟨markup, map_eq_ok_iff.2 ⟨_, hmarkup, rfl⟩, ?_⟩
    rw [← Except.ok.inj htext]
    exact Nextjs.keeps_body.trans Jsx.keeps_module

lemma holds_expo : Holds .expo (Screen.on .expo c tree) (Expo.contents c name tree)
    fun n => (Expo.render (Screen.on .expo c tree) n).value := by
  constructor
  case draws => exact Expo.draws_render _
  case texts => exact fun n text => Expo.keeps_text
  case breaks =>
    rw [← breaks_startedFetches, ← Expo.breaks_hookLines, ← Emission.breaks_run,
      ← Emission.breaks_run]
    exact breaks_bind_bind_pure _ _ _
  case keeps =>
    intro text htext
    obtain ⟨⟨markup, imports⟩, hmarkup, htext⟩ := bind_eq_ok_iff.1 htext
    obtain ⟨⟨hooks, hookImports⟩, -, htext⟩ := bind_eq_ok_iff.1 htext
    refine ⟨markup, map_eq_ok_iff.2 ⟨_, hmarkup, rfl⟩, ?_⟩
    rw [← Except.ok.inj htext]
    exact Jsx.keeps_fragment.trans Jsx.keeps_module

lemma exists_holds (f : Framework) (c : Context) (name : String) (tree : Node) :
    ∃ draw, Holds f (Screen.on f c tree) (screenContents f c name tree) draw := by
  cases f with
  | html => exact ⟨_, holds_html⟩
  | vue => exact ⟨_, holds_vue⟩
  | svelte => exact ⟨_, holds_svelte⟩
  | nextjs => exact holds_nextjs
  | expo => exact ⟨_, holds_expo⟩

/-- The contents of a screen fail exactly when a node that is shown has a fault, or the first rows
of a fetch cannot be read. -/
theorem breaks_screenContents (f : Framework) (c : Context) (name : String) (tree : Node) :
    Breaks (screenContents f c name tree) ↔
      (∃ n, Shown f c.plugins tree n ∧ Faulty f (Screen.on f c tree) n.head) ∨
        HasUnreadableFetch (Screen.on f c tree) := by
  obtain ⟨draw, h⟩ := exists_holds f c name tree
  rw [h.breaks, h.draws.breaks_iff]
  rfl

/-- The contents of a screen hold the text of every element of the text type that is shown. -/
theorem keeps_screenContents {f : Framework} {contents : String}
    (h : screenContents f c name tree = .ok contents) {n : Node} (hn : Shown f c.plugins tree n)
    (htype : NodeKind.classify n.head.type n.head.props = .builtin .text)
    (hne : escapeText f (propText n.head "text") ≠ "") :
    Keeps (escapeText f (propText n.head "text") ++ "<") contents := by
  obtain ⟨draw, hholds⟩ := exists_holds f c name tree
  obtain ⟨markup, hmarkup, hkept⟩ := hholds.keeps contents h
  obtain ⟨text, htext, hkept'⟩ := hholds.draws.keeps hn hmarkup
  exact ((hholds.texts n text htype hne htext).trans hkept').trans hkept

end Screenwright.Emit
