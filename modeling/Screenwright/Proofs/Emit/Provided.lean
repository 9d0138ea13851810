import Screenwright.Proofs.Compilation.OutputPaths
import Screenwright.Proofs.Emit.References

/-! Files that have what their code refers to. A component declares the variables of its screen and
imports the functions that declare them, and a document has a script with the screen's nodes and
states. -/
namespace Screenwright.Emit

/-! ### Declarations -/

/-- The import lines and the script lines in the file of a component. -/
inductive HasCode : Framework → String → List String → List String → Prop
  | nextjs (name : String) (header imports preamble lines : List String) (body : String) :
    HasCode .nextjs (Jsx.module_ name header imports preamble lines body) imports lines
  | expo (name : String) (header imports preamble lines : List String) (body : String) :
    HasCode .expo (Jsx.module_ name header imports preamble lines body) imports lines
  | vue (s : Screen) (lines : List String) (markup : String) :
    HasCode .vue (Vue.component s lines markup) lines lines
  | svelte (s : Screen) (lines : List String) (markup : String) :
    HasCode .svelte (Svelte.component s lines markup) lines lines

/-- The script at the end of a document, with the objects that it starts from. -/
inductive HasData : String → Fields Json → Fields Json → Prop
  | document (head body : List String) (visible values : Fields Json) :
    HasData (Html.document head (body ++ ["  <script>", Text.indent 4 ("\n".intercalate
      ([s!"var ssVisible = {(Json.obj visible).literal};",
        s!"var ssState = {(Json.obj values).literal};"] ++ Html.scriptBody)), "  </script>"]))
      visible values

/-- The functions that declare what a reference names, each with its module. -/
def declaringFunctions : Framework → Reference → List (String × String)
  | .nextjs, .router => [("next/navigation", "useRouter")]
  | .expo, .router => [("expo-router", "router")]
  | .vue, .router => [("vue-router", "useRouter")]
  | .svelte, .router => [("$app/navigation", "goto")]
  | .nextjs, .rows _ | .expo, .rows _ => [("react", "useState"), ("react", "useEffect")]
  | .vue, .rows _ => [("vue", "ref"), ("vue", "onMounted")]
  | .svelte, .rows _ => [("svelte", "onMount")]
  | .nextjs, .visibility _ | .expo, .visibility _ => [("react", "useState")]
  | .nextjs, .value _ | .expo, .value _ => [("react", "useState")]
  | .vue, .visibility _ | .vue, .value _ => [("vue", "ref")]
  | _, _ => []

/-- Script lines that make a router, on the targets that import no finished one. -/
def DeclaresRouter (f : Framework) (lines : List String) : Prop :=
  f = .nextjs ∨ f = .vue → "const router = useRouter();" ∈ lines

/-- A component that imports and declares what a reference names. -/
def IsDeclared (f : Framework) (text : String) (r : Reference) : Prop :=
  ∃ imports lines, HasCode f text imports lines ∧
    (∀ i ∈ declaringFunctions f r, HasImport imports i.1 i.2) ∧
    (∀ name ∈ r.variableName?, ∃ line ∈ lines, IsDeclaration f name line) ∧
    (r = .router → DeclaresRouter f lines)

/-- A document with the script, whose objects start with what a reference names. -/
def IsInDocument (text : String) (r : Reference) : Prop :=
  ∃ visible values, HasData text visible values ∧
    (∀ id, r = .visibility id → (id, Json.bool true) ∈ visible) ∧
    (∀ name, r = .value name → (name, Json.str "") ∈ values)

/-- A file of a target that has what a reference names. -/
def Provides (f : Framework) (text : String) (r : Reference) : Prop :=
  if f = .html then IsInDocument text r else IsDeclared f text r

/-! ### What a file has -/

section
variable {f : Framework} {s : ScreenState} {r : Reference} {text name : String}
  {imports lines names : List String}

lemma Declares.exists_line (h : Declares f lines names) (hname : name ∈ names) :
    ∃ line ∈ lines, IsDeclaration f name line := by
  obtain ⟨before, declarations, after, rfl, hdeclared⟩ := h
  obtain ⟨i, hi, rfl⟩ := List.getElem_of_mem hname
  have hlength := hdeclared.length_eq
  refine ⟨declarations[i], ?_, hdeclared.get hi (hlength ▸ hi)⟩
  exact List.mem_append_left _ (List.mem_append_right _ (List.getElem_mem _))

lemma mem_declaredNames (hr : s.Knows r) (hname : name ∈ r.variableName?) :
    name ∈ s.declaredNames := by
  unfold ScreenState.declaredNames
  cases r with
  | visibility id =>
    rw [← Option.some.inj hname]
    exact List.mem_append_left _ (List.mem_append_left _ (List.mem_map_of_mem hr))
  | value state =>
    rw [← Option.some.inj hname]
    exact List.mem_append_left _ (List.mem_append_right _ (List.mem_map_of_mem hr))
  | rows id =>
    obtain ⟨fetch, hfetch, rfl⟩ := List.mem_map.1 hr
    rw [← Option.some.inj hname]
    exact List.mem_append_right _ (List.mem_map_of_mem hfetch)
  | router | script => simp [Reference.variableName?] at hname

lemma isStateful_of_knows (hr : s.Knows r) (hvariable : r.variableName? ≠ none) :
    s.isStateful = true := by
  cases r with
  | visibility id => simp [ScreenState.isStateful, List.ne_nil_of_mem (show id ∈ s.toggled from hr)]
  | value state =>
    simp [ScreenState.isStateful, List.ne_nil_of_mem (show state ∈ s.values from hr)]
  | rows id =>
    obtain ⟨fetch, hfetch, -⟩ := List.mem_map.1 hr
    simp [ScreenState.isStateful, List.ne_nil_of_mem hfetch]
  | router | script => exact absurd rfl hvariable

lemma fetches_ne_nil_of_knows {id : String} (hr : s.Knows (.rows id)) : s.fetches ≠ [] := by
  obtain ⟨fetch, hfetch, -⟩ := List.mem_map.1 hr
  exact List.ne_nil_of_mem hfetch

/-- A component that declares the names of its screen has a line for each variable. -/
lemma isDeclared_of_declares (hcode : HasCode f text imports lines)
    (hlines : Declares f lines s.declaredNames) (hr : s.Knows r)
    (himports : ∀ i ∈ declaringFunctions f r, HasImport imports i.1 i.2)
    (hrouter : r = .router → DeclaresRouter f lines) : IsDeclared f text r :=
  ⟨imports, lines, hcode, himports,
    fun _ hname => hlines.exists_line (mem_declaredNames hr hname), hrouter⟩

end

/-! ### The targets -/

section
variable {c : Context} {name text : String} {tree : Node} {r : Reference}

/-- The hooks of a React target import the functions that declare state. -/
lemma hasImport_of_hooks {f : Framework} (hf : f = .nextjs ∨ f = .expo) {s : ScreenState}
    {x : Emission (List String)} {hooks : List String} {markupImports hookImports : List Import}
    (hrun : x.run = .ok (hooks, hookImports))
    (hstate : s.isStateful = true → x.Collects ⟨"react", "useState", false⟩)
    (heffect : s.fetches ≠ [] → x.Collects ⟨"react", "useEffect", false⟩)
    (hr : s.Knows r) (hrouter : r ≠ .router) :
    ∀ i ∈ declaringFunctions f r,
      HasImport (Import.lines (markupImports ++ hookImports)) i.1 i.2 := by
  have huseState : r.variableName? ≠ none →
      HasImport (Import.lines (markupImports ++ hookImports)) "react" "useState" := fun h =>
    Import.hasImport_lines (List.mem_append_right _
      (hstate (isStateful_of_knows hr h) _ _ hrun))
  rcases hf with rfl | rfl
  all_goals
    cases r with
    | visibility id => simpa [declaringFunctions] using huseState nofun
    | value state => simpa [declaringFunctions] using huseState nofun
    | rows id =>
      have huseEffect := Import.hasImport_lines (List.mem_append_right markupImports
        (heffect (fetches_ne_nil_of_knows hr) _ _ hrun))
      simpa [declaringFunctions] using ⟨huseState nofun, huseEffect⟩
    | router => exact absurd rfl hrouter
    | script => simp [declaringFunctions]

/-- A component that navigates starts with the router. -/
lemma mem_hookLines_of_router {d : ReactDialect} {s : Screen} {line : String}
    {router hooks : List String} (h : s.state.navigates = true)
    (hrouter : ∀ lines, d.routerLines.Gives lines → lines = router) (hline : line ∈ router)
    (hhooks : (Jsx.hookLines d s).Gives hooks) : line ∈ hooks := by
  unfold Jsx.hookLines at hhooks
  dsimp only at hhooks
  rw [if_pos h] at hhooks
  obtain ⟨lines, hlines, hhooks⟩ := Emission.gives_bind.1 hhooks
  obtain rfl := hrouter lines hlines
  have hhooks := Emission.gives_of_optional (Emission.gives_of_optional hhooks)
  obtain ⟨started, -, hhooks⟩ := Emission.gives_bind.1 hhooks
  rw [← Emission.gives_pure.1 hhooks]
  simp [hline]

lemma isDeclared_nextjs (h : Nextjs.contents c name tree = .ok text)
    (hr : (ScreenState.ofTree tree).Knows r) : IsDeclared .nextjs text r := by
  obtain ⟨⟨markup, imports⟩, -, h⟩ := bind_eq_ok_iff.1 h
  obtain ⟨⟨hooks, hookImports⟩, hhooks, h⟩ := bind_eq_ok_iff.1 h
  rw [← Except.ok.inj h]
  refine isDeclared_of_declares (.nextjs ..) (declares_hookLines (.inl rfl) ⟨_, hhooks⟩) hr ?_ ?_
  · by_cases hrouter : r = .router
    · subst hrouter
      have huse : (Nextjs.dialect.routerLines).Collects ⟨"next/navigation", "useRouter", false⟩ :=
        (Emission.collects_use "next/navigation" "useRouter").discard.bind _
      have himport := Import.hasImport_lines (List.mem_append_right imports
        (collects_router huse (by exact hr) _ _ hhooks))
      simpa [declaringFunctions] using himport
    · exact hasImport_of_hooks (.inl rfl) hhooks collects_useState collects_useEffect hr hrouter
  · rintro rfl -
    have hlines : ∀ lines, Nextjs.dialect.routerLines.Gives lines →
        lines = ["const router = useRouter();"] := by
      intro lines hlines
      obtain ⟨-, -, hlines⟩ := Emission.gives_bind.1 hlines
      exact (Emission.gives_pure.1 hlines).symm
    exact mem_hookLines_of_router (by exact hr) hlines (List.mem_singleton_self _) ⟨_, hhooks⟩

/-- Expo's router is a finished one, imported where a node on the screen navigates. -/
lemma isDeclared_expo (h : Expo.contents c name tree = .ok text)
    (hr : (ScreenState.ofTree tree).Knows r)
    (hrouter : r = .router → ∃ n, Shown .expo c.plugins tree n ∧
      pluginOf? c.plugins n.head = none ∧ navigates n.head = true) : IsDeclared .expo text r := by
  obtain ⟨⟨markup, imports⟩, hmarkup, h⟩ := bind_eq_ok_iff.1 h
  obtain ⟨⟨hooks, hookImports⟩, hhooks, h⟩ := bind_eq_ok_iff.1 h
  rw [← Except.ok.inj h]
  refine isDeclared_of_declares (.expo ..) (declares_expo ⟨_, hhooks⟩) hr ?_ ?_
  · by_cases heq : r = .router
    · obtain ⟨n, hshown, hplugin, hgo⟩ := hrouter heq
      have himport := Import.hasImport_lines (List.mem_append_left hookImports
        (Expo.collects_expoRouter (s := Screen.ofTree c tree) hshown hplugin hgo _ _ hmarkup))
      simpa [declaringFunctions, heq] using himport
    · exact hasImport_of_hooks (.inr rfl) hhooks (fun h => (collects_useState h).bind _)
        (fun h => (collects_useEffect h).bind _) hr heq
  · rintro rfl hf
    rcases hf with hf | hf <;> cases hf

lemma hasImport_vue {s : ScreenState} {function : String} (h : function ∈ Vue.imports s) :
    HasImport (Vue.importLines s) "vue" function := by
  have hline : ∀ names, importLine "vue" names =
      "import \x7b " ++ ", ".intercalate names ++ " \x7d from \"vue\";" := by
    intro names
    have hquote : Text.quoteDouble "vue" = "\"vue\"" := by decide
    have hend : " \x7d from " ++ ("\"vue\"" ++ ";") = " \x7d from \"vue\";" := by decide
    simp only [importLine, hquote, String.append_assoc, hend]
  refine ⟨Vue.imports s, h, ?_⟩
  rw [hline]
  unfold Vue.importLines
  split
  · next hnone => simp [hnone] at h
  · exact List.mem_append_left _ (List.mem_singleton_self _)

lemma HasImport.mono {lines lines' : List String} {source function : String} (h : lines ⊆ lines')
    (himport : HasImport lines source function) : HasImport lines' source function := by
  obtain ⟨names, hname, hline⟩ := himport
  exact ⟨names, hname, h hline⟩

lemma isDeclared_vue (h : Vue.contents c tree = .ok text)
    (hr : (ScreenState.ofTree tree).Knows r) : IsDeclared .vue text r := by
  obtain ⟨markup, -, h⟩ := bind_eq_ok_iff.1 h
  obtain ⟨lines, hscript, h⟩ := bind_eq_ok_iff.1 h
  rw [← Except.ok.inj h]
  obtain ⟨started, -, hlines⟩ := bind_eq_ok_iff.1 hscript
  replace hlines := Except.ok.inj hlines
  have himports : Vue.importLines (ScreenState.ofTree tree) ⊆ lines := by
    rw [← hlines]
    simp only [List.append_assoc]
    exact List.subset_append_left _ _
  have hvue : ∀ {function}, function ∈ Vue.imports (ScreenState.ofTree tree) →
      HasImport lines "vue" function := fun h => (hasImport_vue h).mono himports
  have href : r.variableName? ≠ none → HasImport lines "vue" "ref" := fun h =>
    hvue (by simp [Vue.imports, isStateful_of_knows hr h])
  refine isDeclared_of_declares (.vue _ lines markup) (declares_vue hscript) hr ?_ ?_
  · cases r with
    | visibility id => simpa [declaringFunctions] using href nofun
    | value state => simpa [declaringFunctions] using href nofun
    | rows id =>
      have hmounted : HasImport lines "vue" "onMounted" :=
        hvue (by simp [Vue.imports, fetches_ne_nil_of_knows hr])
      simpa [declaringFunctions] using ⟨href nofun, hmounted⟩
    | router =>
      have hline : importLine "vue-router" ["useRouter"] ∈
          Vue.importLines (ScreenState.ofTree tree) := by
        refine List.mem_append_right _ ?_
        rw [if_pos (by exact hr)]
        exact List.mem_singleton.2 (by decide)
      have himport : HasImport lines "vue-router" "useRouter" :=
        ⟨_, List.mem_singleton_self _, himports hline⟩
      simpa [declaringFunctions] using himport
    | script => simp [declaringFunctions]
  · rintro rfl -
    have hgo : (ScreenState.ofTree tree).navigates = true := hr
    rw [← hlines]
    simp [Screen.ofTree, hgo]

lemma isDeclared_svelte (h : Svelte.contents c tree = .ok text)
    (hr : (ScreenState.ofTree tree).Knows r) : IsDeclared .svelte text r := by
  obtain ⟨markup, -, h⟩ := bind_eq_ok_iff.1 h
  obtain ⟨lines, hscript, h⟩ := bind_eq_ok_iff.1 h
  rw [← Except.ok.inj h]
  obtain ⟨started, -, hlines⟩ := bind_eq_ok_iff.1 hscript
  replace hlines := Except.ok.inj hlines
  have himports : Svelte.importLines (ScreenState.ofTree tree) ⊆ lines := by
    rw [← hlines]
    simp only [List.append_assoc]
    exact List.subset_append_left _ _
  refine isDeclared_of_declares (.svelte _ lines markup) (declares_svelte hscript) hr ?_ ?_
  · cases r with
    | visibility id | value state => simp [declaringFunctions]
    | rows id =>
      have hline : importLine "svelte" ["onMount"] ∈
          Svelte.importLines (ScreenState.ofTree tree) := by
        refine List.mem_append_left _ ?_
        rw [if_neg (by simpa using fetches_ne_nil_of_knows hr)]
        exact List.mem_singleton.2 (by decide)
      have himport : HasImport lines "svelte" "onMount" :=
        ⟨_, List.mem_singleton_self _, himports hline⟩
      simpa [declaringFunctions] using himport
    | router =>
      have hline : importLine "$app/navigation" ["goto"] ∈
          Svelte.importLines (ScreenState.ofTree tree) := by
        refine List.mem_append_right _ ?_
        rw [if_pos (by exact hr)]
        exact List.mem_singleton.2 (by decide)
      have himport : HasImport lines "$app/navigation" "goto" :=
        ⟨_, List.mem_singleton_self _, himports hline⟩
      simpa [declaringFunctions] using himport
    | script => simp [declaringFunctions]
  · rintro rfl hf
    rcases hf with hf | hf <;> cases hf

/-- The objects of a document's script start with the nodes and states of the screen. -/
lemma isInDocument_page {s : Screen} {title markup : String} (hfetches : s.state.fetches = [])
    (hr : s.state.Knows r) (hrouter : r ≠ .router) :
    IsInDocument (Html.page s title markup) r := by
  have hstate : ¬ (s.state.toggled.isEmpty && s.state.values.isEmpty) = true := by
    intro hnone
    simp only [Bool.and_eq_true, List.isEmpty_iff] at hnone
    cases r with
    | visibility id => exact absurd hr (by simp [ScreenState.Knows, hnone])
    | value state => exact absurd hr (by simp [ScreenState.Knows, hnone])
    | rows id => exact absurd hfetches (fetches_ne_nil_of_knows hr)
    | router => exact hrouter rfl
    | script => exact absurd hr (by simp [ScreenState.Knows, hnone])
  let visible := Json.obj (s.state.toggled.map fun id => (id, .bool true))
  let values := Json.obj (s.state.values.map fun name => (name, .str ""))
  have hscript : Html.script s.state = "\n".intercalate
      ([s!"var ssVisible = {visible.literal};", s!"var ssState = {values.literal};"] ++
        Html.scriptBody) := by
    rw [Html.script, if_neg hstate]
  have hne : Html.script s.state ≠ "" := by
    rw [hscript, ← String.toList_inj.ne, String.toList_intercalate]
    simp [String.toList_append]
  unfold Html.page
  dsimp only
  rw [if_neg hne, hscript]
  refine ⟨_, _, .document _ _ _ _, ?_, ?_⟩
  · rintro id rfl
    exact List.mem_map_of_mem hr
  · rintro state rfl
    exact List.mem_map_of_mem hr

lemma Uses.router_notMem {code : String} {rs : List Reference} (h : Uses .html code rs) :
    .router ∉ rs := by
  cases h <;> simp_all

end

/-- What the code of the rendered elements refers to is in the file of the screen: its variables are
declared, with the functions that declare them imported, and a document has the script with its
objects. -/
theorem references_provided {f : Framework} {c : Context} {name text : String} {tree : Node}
    (h : screenContents f c name tree = .ok text) {n : Node} (hn : Shown f c.plugins tree n)
    {code : String} (hcode : Writes f c.plugins (Screen.on f c tree).state n.head code) :
    ∃ rs, Uses f code rs ∧ ∀ r ∈ rs, Provides f text r := by
  have hfetches : f = .html → (Screen.on f c tree).state.fetches = [] := by
    rintro rfl
    rfl
  obtain ⟨rs, huses, hrs⟩ := hcode.exists_uses (covers_on f c hn.head_mem_elements) hfetches
  refine ⟨rs, huses, fun r hr => ?_⟩
  obtain ⟨hknown, hrouter⟩ := hrs r hr
  unfold Provides
  cases f with
  | html =>
    obtain ⟨markup, -, hpage⟩ := bind_eq_ok_iff.1 h
    rw [if_pos rfl, ← Except.ok.inj hpage]
    refine isInDocument_page rfl hknown ?_
    rintro rfl
    exact huses.router_notMem hr
  | nextjs => exact isDeclared_nextjs h hknown
  | expo => exact isDeclared_expo h hknown fun heq => ⟨n, hn, (hrouter heq).2, (hrouter heq).1⟩
  | vue => exact isDeclared_vue h hknown
  | svelte => exact isDeclared_svelte h hknown

/-- A button that goes to the first route. -/
def goHome : Node :=
  .leaf
    { id := "home"
      type := BuiltinType.button.name
      interactions := some ⟨some ⟨.navigate, some "/", none⟩, none, none⟩ }

theorem references_provided_goHome :
    ∃ text, screenContents .expo Compiler.pages.context "Home" goHome = .ok text ∧
      Shown .expo Compiler.pages.context.plugins goHome goHome ∧
      ∃ code rs, Writes .expo Compiler.pages.context.plugins
        (Screen.on .expo Compiler.pages.context goHome).state goHome.head code ∧
        Uses .expo code rs ∧ ∀ r ∈ rs, Provides .expo text r := by
  have hemitted : (screenContents .expo Compiler.pages.context "Home" goHome).toOption.isSome := by
    decide +kernel
  have hcontents : ¬ Breaks (screenContents .expo Compiler.pages.context "Home" goHome) := by
    rintro ⟨e, he⟩
    simp [he, Except.toOption] at hemitted
  obtain ⟨text, htext⟩ := exists_ok_of_not_breaks hcontents
  have hclick : "() => router.push(\"/\")" ∈ clickCode .expo goHome.head := by decide +kernel
  have hwrites : Writes .expo Compiler.pages.context.plugins
      (Screen.on .expo Compiler.pages.context goHome).state goHome.head
      "() => router.push(\"/\")" :=
    .click (by decide +kernel) (by simp [goHome]) hclick
  obtain ⟨rs, huses, hrs⟩ := references_provided htext (.refl goHome) hwrites
  exact ⟨text, htext, .refl goHome, _, rs, hwrites, huses, hrs⟩

end Screenwright.Emit
