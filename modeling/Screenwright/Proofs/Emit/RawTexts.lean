import Screenwright.Proofs.Compilation.OutputPaths
import Screenwright.Proofs.Emit.ScriptTags
import Screenwright.Proofs.Validation.Styles

/-! The texts of a screen that stand in its HTML document as they are: names of props in the markup,
ids and values in the rules for narrower screens, and the names in the literals of the script. The
script tags of a document are those of these texts and of its own script. -/
namespace Screenwright.Emit
open ScriptTag

section
variable {m : ScriptTag} {tokens : Option Tokens} {b : Breakpoint}

/-- Lists whose members have as many tags as texts that stand for them. -/
lemma sum_flatMap_congr {α : Type} {f g : α → List String}
    (h : ∀ a, ((f a).map m.count).sum = ((g a).map m.count).sum) (xs : List α) :
    ((xs.flatMap f).map m.count).sum = ((xs.flatMap g).map m.count).sum := by
  induction xs with
  | nil => rfl
  | cons a xs ih => simp only [List.flatMap_cons, List.map_append, List.sum_append, h, ih]

/-! ### Style sheets -/

lemma notMem_kebab_name (p : StyleProperty) : '<' ∉ (kebab p.name).toList := by
  rw [kebab, Text.lower, String.toList_ofList, String.toList_ofList]
  cases p <;> (rw [StyleProperty.name, String.toList_ofList]; decide)

lemma notMem_property {style : Option NodeStyle} {d : String × String}
    (h : d ∈ cssProperties style tokens) : '<' ∉ d.1.toList := by
  obtain ⟨p, -, rfl⟩ := List.mem_map.1 h
  exact notMem_kebab_name p.1

/-- The texts of an element that its rule at a breakpoint shows as they are. -/
def ruleTexts (tokens : Option Tokens) (b : Breakpoint) (e : Element) : List String :=
  match cssProperties (e.responsive.bind b.style?) tokens with
  | [] => []
  | declarations => e.id :: declarations.map Prod.snd

lemma count_nodeSelector (id : String) : m.count (nodeSelector id) = m.count id := by
  rw [nodeSelector, count_append_right (by decide) (by decide),
    count_append_left (by decide) (by decide)]

/-- Of a declaration only the value may hold script tags. -/
lemma count_declaration {d : String × String} (h : '<' ∉ d.1.toList) :
    m.count (declaration d ++ " !important;") = m.count d.2 := by
  have hproperty : '<' ∉ (d.1 ++ ": ").toList := by simp [h]
  rw [declaration, count_append_right (by decide) (by decide),
    count_append_left (endsApart_append (by decide) (by decide)) hproperty]

lemma count_responsiveRule? (e : Element) :
    ((responsiveRule? tokens nodeSelector b e).toList.map m.count).sum =
      ((ruleTexts tokens b e).map m.count).sum := by
  have hproperties : ∀ d ∈ cssProperties (e.responsive.bind b.style?) tokens,
      m.count (declaration d ++ " !important;") = m.count d.2 := fun d hd =>
    count_declaration (notMem_property hd)
  unfold responsiveRule? ruleTexts
  cases hdeclared : cssProperties (e.responsive.bind b.style?) tokens with
  | nil => rfl
  | cons d ds =>
    rw [hdeclared] at hproperties
    have hbody :
        m.count (" ".intercalate ((d :: ds).map fun d => declaration d ++ " !important;")) =
          (((d :: ds).map Prod.snd).map m.count).sum := by
      rw [count_intercalate separates_blank, List.map_map, List.map_map]
      exact congrArg List.sum (List.map_congr_left hproperties)
    have hrule : ∀ selector body : String,
        m.count ("  " ++ selector ++ " \x7b " ++ body ++ " \x7d") =
          m.count selector + m.count body := by
      intro selector body
      rw [count_append_right (by decide) (by decide),
        count_append (.inl (endsApart_append (by decide) (by decide))),
        count_append_right (by decide) (by decide), count_append_left (by decide) (by decide)]
    dsimp only
    rw [Option.toList_some, List.map_singleton, List.sum_singleton, hrule, count_nodeSelector,
      hbody, ← List.sum_cons, ← List.map_cons]

/-- The texts of elements that the rules for narrower screens show as they are. -/
def styleTexts (tokens : Option Tokens) (es : List Element) : List String :=
  Breakpoint.all.flatMap fun b => es.flatMap (ruleTexts tokens b)

lemma count_responsiveCss (es : List Element) :
    m.count (responsiveCss tokens nodeSelector es) = ((styleTexts tokens es).map m.count).sum := by
  rw [responsiveCss, count_intercalate separates_newline, styleTexts,
    List.filterMap_eq_flatMap_toList]
  refine sum_flatMap_congr (fun b => ?_) _
  have hrules : ((es.filterMap (responsiveRule? tokens nodeSelector b)).map m.count).sum =
      ((es.flatMap (ruleTexts tokens b)).map m.count).sum := by
    rw [List.filterMap_eq_flatMap_toList]
    exact sum_flatMap_congr count_responsiveRule? es
  rw [← hrules]
  have hmedia : '<' ∉ (s!"@media (max-width: {b.maxWidth}px) \x7b\n").toList := by
    cases b <;> decide
  have hends : EndsApart s!"@media (max-width: {b.maxWidth}px) \x7b\n" := by
    cases b <;> decide
  cases es.filterMap (responsiveRule? tokens nodeSelector b) with
  | nil => rfl
  | cons r rs =>
    dsimp only
    rw [Option.toList_some, List.map_singleton, List.sum_singleton,
      count_append_right (by decide) (by decide), count_append_left hends hmedia,
      count_intercalate separates_newline]

end

namespace Html
variable {m : ScriptTag}

/-! ### Scripts -/

lemma notMem_scriptBody : ∀ line ∈ scriptBody, '<' ∉ line.toList := by
  unfold scriptBody
  repeat refine List.forall_mem_cons.2 ⟨by rw [String.toList_ofList]; decide, ?_⟩
  exact List.forall_mem_nil _

lemma notMem_baseCss : ∀ line ∈ baseCss, '<' ∉ line.toList := by
  unfold baseCss
  repeat refine List.forall_mem_cons.2 ⟨by rw [String.toList_ofList]; decide, ?_⟩
  exact List.forall_mem_nil _

/-- Whether a document has a script. -/
def hasScript (s : ScreenState) : Bool := !(s.toggled.isEmpty && s.values.isEmpty)

/-- A literal has the script tags of its names. -/
lemma count_literal {v : Json} (hv : '<' ∉ v.literal.toList) (names : List String) :
    m.count (Json.obj (names.map fun name => (name, v))).literal = (names.map m.count).sum := by
  have hfield : ∀ name, m.count (Text.quoteDouble name ++ ": " ++ v.literal) = m.count name := by
    intro name
    rw [count_append (.inl (endsApart_append (by decide) (by decide))), count_of_notMem hv,
      Nat.add_zero, count_append_right (by decide) (by decide), count_quoteDouble]
  have hfields : Json.literalFields (names.map fun name => (name, v)) =
      names.map fun name => Text.quoteDouble name ++ ": " ++ v.literal := by
    induction names with
    | nil => rfl
    | cons name names ih => rw [List.map_cons, Json.literalFields, ih, List.map_cons]
  rw [Json.literal, Json.bracketed, hfields, count_append_right (by decide) (by decide),
    count_append_left (by decide) (by decide), count_intercalate separates_comma, List.map_map]
  simp only [Function.comp_def, hfield]

lemma count_script (s : ScreenState) :
    m.count (script s) = ((s.toggled ++ s.values).map m.count).sum := by
  have hassigned : ∀ front literal : String, EndsApart front → '<' ∉ front.toList →
      m.count (front ++ literal ++ ";") = m.count literal := by
    intro front literal hends hnone
    rw [count_append_right (by decide) (by decide), count_append_left hends hnone]
  have hbody : (scriptBody.map m.count).sum = 0 := Markup.sum_count_eq_zero notMem_scriptBody
  unfold script
  split
  · next hnone =>
    simp only [Bool.and_eq_true, List.isEmpty_iff] at hnone
    rw [hnone.1, hnone.2]
    exact count_of_notMem (by decide)
  · dsimp only
    rw [count_intercalate separates_newline, List.map_append, List.sum_append, hbody]
    simp only [List.map_cons, List.map_nil, List.sum_cons, List.sum_nil, List.map_append,
      List.sum_append, Nat.add_zero]
    rw [← count_literal (v := .bool true) (by decide) s.toggled,
      ← count_literal (v := .str "") (by decide) s.values]
    exact congrArg₂ (· + ·) (hassigned "var ssVisible = " _ (by decide) (by decide))
      (hassigned "var ssState = " _ (by decide) (by decide))

lemma script_eq_empty_iff (s : ScreenState) : script s = "" ↔ hasScript s = false := by
  unfold script hasScript
  split
  · simp_all
  · next hsome => simp [hsome]

/-! ### Documents -/

lemma count_notice : m.count ("<!-- " ++ generatedMarker ++ " -->") = 0 := by
  rw [count, String.toList_append, String.toList_append, generatedMarker, String.toList_ofList,
    String.toList_ofList, String.toList_ofList]
  cases m <;> decide

/-- A document has the script tags of its lines. -/
lemma count_document (head body : List String) :
    m.count (document head body) = (head.map m.count).sum + (body.map m.count).sum := by
  have hlines : ∀ line ∈ ["<!DOCTYPE html>", "<html lang=\"en\">", "<head>",
      "  <meta charset=\"UTF-8\" />", "</head>", "<body>", "</body>", "</html>"],
      m.count line = 0 := by
    repeat
      refine List.forall_mem_cons.2 ⟨?_, ?_⟩
      · rw [count, String.toList_ofList]
        cases m <;> decide
    exact List.forall_mem_nil _
  simp only [List.forall_mem_cons] at hlines
  obtain ⟨hdoctype, hhtml, hhead, hcharset, hhead', hbody, hbody', hhtml', -⟩ := hlines
  rw [document, count_append_right (by decide) (by decide), count_intercalate separates_newline]
  simp only [List.map_append, List.sum_append, List.map_cons, List.map_nil, List.sum_cons,
    List.sum_nil, count_notice, hdoctype, hhtml, hhead, hcharset, hhead', hbody, hbody', hhtml']
  omega

/-- The document of a screen has the script tags of its markup, of its rules for narrower screens
and of the names in its script, and those around the script. -/
lemma count_page (s : Screen) (title markup : String) :
    m.count (page s title markup) = (if hasScript s.state then 1 else 0) +
      (((styleTexts s.tokens s.state.responsive).map m.count).sum + m.count markup +
        ((s.state.toggled ++ s.state.values).map m.count).sum) := by
  have hlines : ∀ line ∈ [
      "  <meta name=\"viewport\" content=\"width=device-width, initial-scale=1.0\" />",
      "  <title>", "</title>", "  <style>", "  </style>", "  <div id=\"app\">", "  </div>"],
      m.count line = 0 := by
    repeat
      refine List.forall_mem_cons.2 ⟨?_, ?_⟩
      · rw [count, String.toList_ofList]
        cases m <;> decide
    exact List.forall_mem_nil _
  simp only [List.forall_mem_cons] at hlines
  obtain ⟨hviewport, htitle, htitle', hstyle, hstyle', hdiv, hdiv', -⟩ := hlines
  have htitle : m.count s!"  <title>{escape title}</title>" = 0 := by
    change m.count ("  <title>" ++ escape title ++ "</title>") = 0
    rw [count_append (.inr (by decide)), count_append (.inl (by decide)), htitle, htitle', escape,
      count_of_notMem (notMem_escapeMarkup title)]
  have hcss : ∀ responsive : String, m.count ("\n".intercalate
      (baseCss ++ if responsive = "" then [] else [responsive])) = m.count responsive := by
    have hbase : (baseCss.map m.count).sum = 0 := Markup.sum_count_eq_zero notMem_baseCss
    intro responsive
    rw [count_intercalate separates_newline, List.map_append, List.sum_append, hbase]
    split
    · next hnone => simp [hnone, count_of_notMem]
    · simp
  have hcode : ((if script s.state = "" then []
      else ["  <script>", Text.indent 4 (script s.state), "  </script>"]).map m.count).sum =
      (if hasScript s.state then 1 else 0) +
        ((s.state.toggled ++ s.state.values).map m.count).sum := by
    rw [← count_script]
    by_cases hnone : script s.state = ""
    · simp [hnone, (script_eq_empty_iff _).1 hnone, count_of_notMem]
    · have hscript : hasScript s.state = true := by
        simpa [script_eq_empty_iff] using hnone
      have haround : m.count "  <script>" + m.count "  </script>" = 1 := by
        rw [count, count, String.toList_ofList, String.toList_ofList]
        cases m <;> decide
      simp only [if_neg hnone, hscript, if_true, List.map_cons, List.map_nil, List.sum_cons,
        List.sum_nil, count_indent]
      omega
  unfold page
  dsimp only
  rw [count_document, List.map_append, List.sum_append, hcode]
  simp only [List.map_cons, List.map_nil, List.sum_cons, List.sum_nil, count_indent, hcss,
    count_responsiveCss, hviewport, htitle, hstyle, hstyle', hdiv, hdiv']
  omega

/-- The texts of a screen that stand in its document as they are. -/
def rawTexts (tokens : Option Tokens) (tree : Node) : List String :=
  let state := ScreenState.ofTree tree
  styleTexts tokens state.responsive ++ Markup.shownNames tree ++ (state.toggled ++ state.values)

/-- The script tags of a screen's document are those of the texts that stand in it as they are and,
if the screen has state, the two of its script. Where the texts have none, the document has at most
one script, and it stops where its own stop tag is. -/
theorem emitScreen_scriptTags {c : Context} {spec : ScreenSpec} {e : EmittedScreen}
    (hown : ∀ x ∈ spec.tree.elements, c.plugins.get? x.type = none)
    (h : emitScreen .html c spec = .ok e) :
    (∀ m : ScriptTag, m.count e.file.contents =
      (if hasScript (.ofTree spec.tree) then 1 else 0) +
        ((rawTexts c.tokens spec.tree).map m.count).sum) ∧
      ((∀ t ∈ rawTexts c.tokens spec.tree, ∀ m : ScriptTag, m.count t = 0) →
        start.count e.file.contents ≤ 1 ∧
          stop.count e.file.contents = start.count e.file.contents) := by
  have hcount : ∀ m : ScriptTag, m.count e.file.contents =
      (if hasScript (.ofTree spec.tree) then 1 else 0) +
        ((rawTexts c.tokens spec.tree).map m.count).sum := by
    intro m
    obtain ⟨text, htext, he⟩ := bind_eq_ok_iff.1 h
    obtain ⟨markup, hmarkup, hpage⟩ := bind_eq_ok_iff.1 htext
    rw [← Except.ok.inj he, ← Except.ok.inj hpage]
    dsimp only
    rw [count_page, Markup.count_render rfl hown hmarkup]
    simp only [rawTexts, List.map_append, List.sum_append]
    rfl
  refine ⟨hcount, fun hnone => ?_⟩
  have hraw : ∀ m : ScriptTag, ((rawTexts c.tokens spec.tree).map m.count).sum = 0 := by
    intro m
    refine List.sum_eq_zero fun n hn => ?_
    obtain ⟨t, ht, rfl⟩ := List.mem_map.1 hn
    exact hnone t ht m
  rw [hcount, hcount, hraw, hraw]
  split <;> decide

/-- A chart that has a prop with the name of a tag. -/
def taggedChart : ScreenSpec where
  route := "/"
  tree := .leaf { id := "chart", type := "Chart", props := [("<script", .str "x")] }

/-- A button that hides itself and has a tag in its label. -/
def taggedButton : ScreenSpec where
  route := "/"
  tree := .leaf
    { id := "button"
      type := BuiltinType.button.name
      props := [("label", .str "</script>")]
      interactions := some ⟨some ⟨.toggleVisibility, some "button", none⟩, none, none⟩ }

/-- The chart's document has a start tag of a script that never stops; the button's has its own
script only. -/
theorem emitScreen_scriptTags_taggedChart :
    (∃ e, emitScreen .html Compiler.pages.context taggedChart = .ok e ∧
      start.count e.file.contents = 1 ∧ stop.count e.file.contents = 0) ∧
    ∃ e, emitScreen .html Compiler.pages.context taggedButton = .ok e ∧
      start.count e.file.contents ≤ 1 ∧
        stop.count e.file.contents = start.count e.file.contents := by
  have hemitted : ∀ spec ∈ [taggedChart, taggedButton],
      (emitScreen .html Compiler.pages.context spec).toOption.isSome := by
    decide +kernel
  have hexists : ∀ spec ∈ [taggedChart, taggedButton],
      ∃ e, emitScreen .html Compiler.pages.context spec = .ok e := fun spec hspec => by
    obtain ⟨e, he⟩ := Option.isSome_iff_exists.1 (hemitted spec hspec)
    exact ⟨e, toOption_eq_some_iff.1 he⟩
  have hown : ∀ spec : ScreenSpec, ∀ x ∈ spec.tree.elements,
      Compiler.pages.context.plugins.get? x.type = none := fun _ _ _ => rfl
  have hchart : rawTexts Compiler.pages.context.tokens taggedChart.tree = ["<script"] ∧
      hasScript (.ofTree taggedChart.tree) = false := by
    decide +kernel
  have hbutton : rawTexts Compiler.pages.context.tokens taggedButton.tree = ["button"] := by
    decide +kernel
  obtain ⟨e, he⟩ := hexists taggedChart (by simp)
  obtain ⟨e', he'⟩ := hexists taggedButton (by simp)
  have hcounts := (emitScreen_scriptTags (hown _) he).1
  have hstops := (emitScreen_scriptTags (hown _) he').2
  rw [hchart.1, hchart.2] at hcounts
  rw [hbutton] at hstops
  refine ⟨⟨e, he, ?_, ?_⟩, e', he', hstops fun t ht m => ?_⟩
  · rw [hcounts]
    decide +kernel
  · rw [hcounts]
    decide +kernel
  · rw [List.mem_singleton.1 ht]
    exact count_of_notMem (by decide)

end Html
end Screenwright.Emit
