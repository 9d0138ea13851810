import Screenwright.Proofs.Compilation.Totality
import Screenwright.Proofs.Reference.Remaining
import Screenwright.Proofs.Text.Entities

/-! Texts of valid screens in their files. The text of every element that is shown is there, escaped
as its target escapes texts, also after the file is tidied. -/
namespace Screenwright

/-! ### Escaped texts -/

namespace Emit
variable {f : Framework} {text : String}

/-- Every target spells the characters of a text with entities on one line. -/
lemma exists_spells_escapeText (f : Framework) (text : String) :
    ∃ t specials, (∀ e ∈ t.entries, Text.IsUnbroken e.1) ∧
      Text.Spells t specials (escapeText f text).toList text.toList := by
  cases f with
  | html => exact ⟨_, _, by decide, Text.spells_escapeMarkup text⟩
  | vue => exact ⟨_, _, by decide, Text.spells_escapeMustache text⟩
  | nextjs | svelte | expo => exact ⟨_, _, by decide, Text.spells_escapeBraced text⟩

/-- A text on one line is escaped to a text on one line. -/
lemma isUnbroken_escapeText (h : Text.IsUnbroken text.toList) :
    Text.IsUnbroken (escapeText f text).toList := by
  obtain ⟨t, specials, hentities, hspells⟩ := exists_spells_escapeText f text
  constructor
  · intro hmem
    rcases hspells.mem hmem with hmem | ⟨e, he, hmem⟩
    · exact h.1 hmem
    · exact (hentities e he).1 hmem
  · intro hmem
    rcases hspells.mem hmem with hmem | ⟨e, he, hmem⟩
    · exact h.2 hmem
    · exact (hentities e he).2 hmem

lemma escapeText_ne_empty (h : text ≠ "") : escapeText f text ≠ "" := by
  obtain ⟨t, specials, -, hspells⟩ := exists_spells_escapeText f text
  have hne : (escapeText f text).toList ≠ [] := hspells.ne_nil (mt String.toList_eq_nil_iff.1 h)
  exact mt String.toList_eq_nil_iff.2 hne

/-- The text of an element that is shown stands in the tidied contents of its screen. -/
lemma infix_tidied_contents {c : Context} {name contents : String} {tree n : Node}
    (h : screenContents f c name tree = .ok contents) (hn : Shown f c.plugins tree n)
    (htype : n.type = BuiltinType.text.name) (htext : n.props.get? "text" = some (.str text))
    (hne : text ≠ "") (hline : Text.IsUnbroken text.toList) (path : String) :
    (escapeText f text).toList <:+: (Text.tidy contents path).toList := by
  have hprop : propText n.head "text" = text := by
    rw [propText, prop?, show n.head.props.get? "text" = some (.str text) from htext]
    rfl
  have hkept := keeps_screenContents h hn (classify_eq_builtin_iff.2 htype)
    (by rw [hprop]; exact escapeText_ne_empty hne)
  rw [hprop] at hkept
  have hfull : Text.IsFullLine (escapeText f text ++ "<").toList := by
    rw [String.toList_append]
    exact .append (isUnbroken_escapeText hline) (by decide)
  have hclosed := Text.infix_tidy hfull (hkept _ hfull.1.1 (List.infix_refl _)) path
  refine List.IsInfix.trans ?_ hclosed
  rw [String.toList_append]
  exact (List.prefix_append _ _).isInfix

end Emit

/-! ### Files -/

/-- A tree without references is resolved to itself. -/
lemma Node.resolve_eq_self {tree : Node} (registry : Registry)
    (h : ∀ e ∈ tree.elements, e.type ≠ referenceType) : tree.resolve registry = tree := by
  refine mapReferences_eq_self fun ref href => ?_
  obtain ⟨htype, t, rfl, -⟩ := href
  exact absurd htype (h _ (List.mem_map_of_mem (Trail.mem_nodes_plug t ref ref.self_mem_nodes)))

namespace Compiler
variable {c : Compiler} {s : SourceScreen} {spec : ScreenSpec} {screens : List SourceScreen}
  {specs : List ScreenSpec}

lemma screenContents_of_emitScreen {f : Framework} {context : Emit.Context}
    {e : Emit.EmittedScreen} (h : Emit.emitScreen f context spec = .ok e) :
    Emit.screenContents f context (Emit.componentName spec.route) spec.tree =
      .ok e.file.contents := by
  obtain ⟨contents, hcontents, h⟩ := bind_eq_ok_iff.1 h
  rw [hcontents, ← Except.ok.inj h]

/-- A screen without references and without nodes of plugins. -/
structure IsSelfContained (c : Compiler) (spec : ScreenSpec) : Prop where
  references : ∀ e ∈ spec.tree.elements, e.type ≠ referenceType
  plugins : ∀ e ∈ spec.tree.elements, c.context.plugins.get? e.type = none

lemma IsSelfContained.resolved_eq (h : c.IsSelfContained spec) : c.resolved spec = spec := by
  unfold resolved
  split_ifs
  · rfl
  · rw [Node.resolve_eq_self _ h.references]

/-- The files of a valid batch hold the texts of its screens. Each screen that can be rendered has a
file, and in it the text of every element of the text type that its target shows. -/
theorem compile_keeps_texts (hwalk : c.validator = .walk) (h : c.Reads screens specs)
    (hown : ∀ spec ∈ specs, c.IsSelfContained spec) :
    ∃ result, c.compile screens = .ok result ∧
      ∀ spec ∈ specs, ¬ Emit.Unrenderable c.target spec.tree →
        ∃ file ∈ result.files, file.path = c.screenPath (Emit.componentName spec.route) ∧
          ∀ n, Emit.Shown c.target .empty spec.tree n → n.type = BuiltinType.text.name →
            ∀ text, n.props.get? "text" = some (.str text) → text ≠ "" →
              Text.IsUnbroken text.toList →
              (Emit.escapeText c.target text).toList <:+: file.contents.toList := by
  obtain ⟨results, -, hresults, -, -⟩ := c.mapM_compileScreen h
  refine ⟨c.collect results, by rw [compile_eq, hresults]; rfl, fun spec hspec hrenders => ?_⟩
  obtain ⟨s, hs, hread⟩ := exists_left_of_forall₂ h hspec
  obtain ⟨r, hr, hresult⟩ := exists_ok_of_mapM hresults hs
  have hplugins := (hown spec hspec).plugins
  rw [compileScreen_of_own hread hplugins (hown spec hspec).resolved_eq] at hresult
  have hemits : ¬ Breaks (Emit.emitScreen c.target c.context spec) := by
    rw [breaks_emitScreen,
      Emit.breaks_screenContents_iff hplugins (passes_of_screen hwalk hread).tree]
    exact hrenders
  obtain ⟨e, he⟩ := exists_ok_of_not_breaks hemits
  obtain ⟨hname, hpath⟩ := c.emits_of_emitScreen he
  obtain rfl : .ok e = r := by
    rw [he] at hresult
    exact Except.ok.inj hresult
  refine ⟨tidied e.file, ?_, by rw [← hname]; exact hpath, ?_⟩
  · refine List.mem_map_of_mem (List.mem_append_left _ (List.mem_map_of_mem ?_))
    exact List.mem_filterMap.2 ⟨_, hr, rfl⟩
  · intro n hn htype text htext hne hline
    exact Emit.infix_tidied_contents (screenContents_of_emitScreen he)
      ((Emit.shown_iff_of_own hplugins).2 hn) htype htext hne hline _

/-! ### A text inside an element -/

/-- A screen with a text inside an element of the given type. -/
def wrappedScreen (type : String) : SourceScreen where
  name := type
  document := .obj [("version", .int 1), ("route", .str "/"),
    ("tree", .obj [("id", .str "outer"), ("type", .str type), ("children", .arr [
      .obj [("id", .str "inner"), ("type", .str "Text"),
        ("props", .obj [("text", .str "Fish & chips")])]])])]

/-- The tree of such a screen. -/
def isWrapped (type : String) : Node → Bool
  | .branch e [.leaf e'] => e.id == "outer" && e.type == type && e'.id == "inner" &&
    e'.type == "Text" && (e'.props.get? "text").bind Json.asString? == some "Fish & chips"
  | _ => false

lemma exists_wrapped {x : Except ScreenError ScreenSpec} {type : String}
    (h : (x.toOption.any fun spec => isWrapped type spec.tree) = true) : ∃ spec e e',
      x = .ok spec ∧ spec.tree = .branch e [.leaf e'] ∧ e.id = "outer" ∧ e.type = type ∧
        e'.id = "inner" ∧ e'.type = "Text" ∧
        e'.props.get? "text" = some (.str "Fish & chips") := by
  cases x with
  | error err => cases h
  | ok spec =>
    have hwrapped : isWrapped type spec.tree = true := by simpa [Except.toOption] using h
    unfold isWrapped at hwrapped
    split at hwrapped
    · next e e' htree =>
      simp only [Bool.and_eq_true, beq_iff_eq, Option.bind_eq_some_iff] at hwrapped
      obtain ⟨⟨⟨⟨hid, htype⟩, hid'⟩, htype'⟩, v, hv, htext⟩ := hwrapped
      cases v <;> cases htext
      exact ⟨spec, e, e', rfl, htree, hid, htype, hid', htype', hv⟩
    · cases hwrapped

/-- A compiler of Svelte components. -/
def components : Compiler := { pages with target := .svelte }

lemma isSelfContained_components (h : ∀ e ∈ spec.tree.elements, e.type ≠ referenceType) :
    components.IsSelfContained spec :=
  ⟨h, fun _ _ => rfl⟩

/-- A text in a card is in the file. -/
theorem compile_keeps_texts_card :
    ∃ result, components.compile [wrappedScreen "Card"] = .ok result ∧
      ∃ file ∈ result.files, "Fish &amp; chips".toList <:+: file.contents.toList := by
  have hscreen : ((components.validator.screen "Card"
      (wrappedScreen "Card").document).toOption.any
        fun spec => isWrapped "Card" spec.tree) = true := by decide +kernel
  obtain ⟨spec, e, e', hspec, htree, hid, htype, hid', htype', htext⟩ := exists_wrapped hscreen
  have hreads : components.Reads [wrappedScreen "Card"] [spec] := .cons hspec .nil
  have hown : components.IsSelfContained spec := isSelfContained_components (by
    simp [htree, htype, htype', referenceType])
  have hrenders : ¬ Emit.Unrenderable .svelte spec.tree := Emit.not_unrenderable
    (by simp [htree, hid, hid']) (by simp [htree, htype, htype', BuiltinType.name])
  obtain ⟨result, hresult, hfiles⟩ := compile_keeps_texts rfl hreads (by simpa using hown)
  obtain ⟨file, hfile, -, hkeeps⟩ := hfiles spec (List.mem_singleton_self _) hrenders
  have hshown : Emit.Shown .svelte .empty spec.tree (.leaf e') := by
    rw [htree]
    refine .inside (c := .leaf e') ?_ (.refl _)
    have hcard : NodeKind.classify e.type e.props = .builtin .card :=
      Emit.classify_eq_builtin_iff.2 htype
    simp [Emit.shownChildren, hcard, Emit.heldChildren, BuiltinType.isContainer]
  have hescaped : Emit.escapeText .svelte "Fish & chips" = "Fish &amp; chips" := by decide +kernel
  refine ⟨result, hresult, file, hfile, ?_⟩
  rw [← hescaped]
  exact hkeeps _ hshown htype' _ htext (by decide) (by decide)

/-- A text in a divider is in no file, although the screen is compiled. -/
theorem not_compile_keeps_texts_divider : ∃ spec result,
    components.Reads [wrappedScreen "Divider"] [spec] ∧ components.IsSelfContained spec ∧
    components.compile [wrappedScreen "Divider"] = .ok result ∧ result.isOk = true ∧
    ∃ n ∈ spec.tree.nodes, n.type = "Text" ∧
      n.props.get? "text" = some (.str "Fish & chips") ∧
      ∀ file ∈ result.files,
        ¬ (Emit.escapeText .svelte "Fish & chips").toList <:+: file.contents.toList := by
  have hscreen : ((components.validator.screen "Divider"
      (wrappedScreen "Divider").document).toOption.any
        fun spec => isWrapped "Divider" spec.tree) = true := by decide +kernel
  obtain ⟨spec, e, e', hspec, htree, -, htype, -, htype', htext⟩ := exists_wrapped hscreen
  have hfiles : ((components.compile [wrappedScreen "Divider"]).toOption.any fun r => r.isOk &&
      r.files.all fun file => !decide
        ((Emit.escapeText .svelte "Fish & chips").toList <:+: file.contents.toList)) = true := by
    decide +kernel
  cases hresult : components.compile [wrappedScreen "Divider"] with
  | error f => simp [hresult, Except.toOption] at hfiles
  | ok result =>
    simp only [hresult, Except.toOption, Option.any_some, Bool.and_eq_true, List.all_eq_true,
      Bool.not_eq_true', decide_eq_false_iff_not] at hfiles
    refine ⟨spec, result, .cons hspec .nil, isSelfContained_components ?_, rfl, hfiles.1,
      .leaf e', ?_, htype', htext, hfiles.2⟩
    · simp [htree, htype, htype', referenceType]
    · simp [htree, Node.nodes_branch, Node.self_mem_nodes]

end Compiler
end Screenwright
