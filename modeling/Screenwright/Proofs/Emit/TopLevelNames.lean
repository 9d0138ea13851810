import Screenwright.Proofs.Compilation.OutputPaths
import Screenwright.Proofs.Emit.Identifiers
import Screenwright.Proofs.Emit.OwnImports
import Screenwright.Proofs.Record.Reading

/-! Names at the top level of a React module. The imports bind each name once; the function of the
module is called like its route, and the nodes shown decide whether an import has the same name. -/
namespace Screenwright.Emit

/-! ### Statements -/

/-- A statement that imports the default export of a module or some of its names. -/
inductive ImportStatement where
  | default (source name : String)
  | named (source : String) (names : List String)

namespace ImportStatement

def text : ImportStatement → String
  | default source name => s!"import {name} from {Text.quoteDouble source};"
  | named source names => importLine source names

/-- The names that a statement binds. -/
def names : ImportStatement → List String
  | default _ name => [name]
  | named _ names => names

end ImportStatement

namespace Import

/-- The statements of some imports. -/
def statements (is : List Import) : List ImportStatement :=
  let defaults := is.filter (·.isDefault)
  let named := is.filter (!·.isDefault)
  (sources defaults).flatMap (fun source => (namesOf defaults source).map (.default source)) ++
    (sources named).map fun source => .named source (namesOf named source)

lemma lines_eq_statements (is : List Import) :
    lines is = (statements is).map ImportStatement.text := by
  simp only [lines, statements, List.map_append, List.map_flatMap, List.map_map]
  rfl

/-- The names that are bound by the statements of some imports. -/
def boundNames (is : List Import) : List String := (statements is).flatMap ImportStatement.names

section
variable {is : List Import} {source name : String}

lemma mem_sources : source ∈ sources is ↔ ∃ i ∈ is, i.source = source := by
  rw [sources, (Text.sorted_perm _).mem_iff, List.mem_eraseDups, List.mem_map]

lemma mem_namesOf :
    name ∈ namesOf is source ↔ ∃ i ∈ is, i.source = source ∧ i.name = name := by
  rw [namesOf, (Text.sorted_perm _).mem_iff, List.mem_eraseDups, List.mem_map]
  simp [and_assoc]

lemma nodup_sources : (sources is).Nodup :=
  (Text.sorted_perm _).nodup_iff.2 (nodup_eraseDups _)

lemma nodup_namesOf : (namesOf is source).Nodup :=
  (Text.sorted_perm _).nodup_iff.2 (nodup_eraseDups _)

/-- The names of all sources. -/
def allNames (is : List Import) : List String := (sources is).flatMap (namesOf is)

lemma mem_allNames : name ∈ allNames is ↔ ∃ i ∈ is, i.name = name := by
  simp only [allNames, List.mem_flatMap, mem_sources, mem_namesOf]
  constructor
  · rintro ⟨source, -, i, hi, -, hname⟩
    exact ⟨i, hi, hname⟩
  · rintro ⟨i, hi, hname⟩
    exact ⟨i.source, ⟨i, hi, rfl⟩, i, hi, rfl, hname⟩

/-- Imports that are told apart by their names have different names from all sources. -/
lemma nodup_allNames (h : ∀ i ∈ is, ∀ j ∈ is, i.name = j.name → i = j) : (allNames is).Nodup := by
  refine List.nodup_flatMap.2 ⟨fun _ _ => nodup_namesOf, nodup_sources.imp fun hne name hi hj => ?_⟩
  obtain ⟨i, hi, hsource, hname⟩ := mem_namesOf.1 hi
  obtain ⟨j, hj, hsource', hname'⟩ := mem_namesOf.1 hj
  obtain rfl := h i hi j hj (hname.trans hname'.symm)
  exact hne (hsource.symm.trans hsource')

lemma boundNames_eq :
    boundNames is = allNames (is.filter (·.isDefault)) ++ allNames (is.filter (!·.isDefault)) := by
  simp [boundNames, statements, allNames, List.flatMap_map, List.flatMap_assoc,
    ImportStatement.names]

lemma mem_boundNames : name ∈ boundNames is ↔ ∃ i ∈ is, i.name = name := by
  rw [boundNames_eq, List.mem_append, mem_allNames, mem_allNames]
  simp only [List.mem_filter]
  constructor
  · rintro (⟨i, ⟨hi, -⟩, hname⟩ | ⟨i, ⟨hi, -⟩, hname⟩) <;> exact ⟨i, hi, hname⟩
  · rintro ⟨i, hi, hname⟩
    cases hdefault : i.isDefault with
    | true => exact .inl ⟨i, ⟨hi, hdefault⟩, hname⟩
    | false => exact .inr ⟨i, ⟨hi, by simp [hdefault]⟩, hname⟩

/-- Imports that are told apart by their names are bound by different names. -/
lemma nodup_boundNames (h : ∀ i ∈ is, ∀ j ∈ is, i.name = j.name → i = j) :
    (boundNames is).Nodup := by
  have hpart : ∀ p : Import → Bool, ∀ i ∈ is.filter p, ∀ j ∈ is.filter p, i.name = j.name → i = j :=
    fun p i hi j hj => h i (List.mem_of_mem_filter hi) j (List.mem_of_mem_filter hj)
  rw [boundNames_eq]
  refine (nodup_allNames (hpart _)).append (nodup_allNames (hpart _)) fun name hi hj => ?_
  obtain ⟨i, hi, hname⟩ := mem_allNames.1 hi
  obtain ⟨j, hj, hname'⟩ := mem_allNames.1 hj
  obtain ⟨hi, hdefault⟩ := List.mem_filter.1 hi
  obtain ⟨hj, hnamed⟩ := List.mem_filter.1 hj
  obtain rfl := h i hi j hj (hname.trans hname'.symm)
  simp [hdefault] at hnamed

end
end Import

/-! ### Where a name comes from -/

/-- The import of a name in the modules of a target. -/
def importNamed (f : Framework) (importAlias name : String) : Import :=
  if "Icon".toList.isSuffixOf name.toList then ⟨"lucide-react", name, false⟩
  else if name = "useState" ∨ name = "useEffect" then ⟨"react", name, false⟩
  else if f = .expo then
    if name = "router" then Expo.routerImport else Expo.nativeImport name
  else if name = "Link" then Nextjs.linkImport
  else
    match ComponentLibrary.shadcn.components.find? (·.2.tag == name) with
    | some c =>
      ⟨((ComponentLibrary.shadcn.import? c.1 importAlias).map Prod.snd).getD "", name, false⟩
    | none => ⟨"next/navigation", name, false⟩

/-- The names of native components and of what opens links. -/
def nativeNames : List String :=
  ["Text", "View", "Image", "TextInput", "ScrollView", "TouchableOpacity", "Pressable", "Linking"]

section
variable {f : Framework} {s : Screen} {e : Element} {i : Import}

lemma eq_shadcn_of_ofName? {name : Option String} {l : ComponentLibrary}
    (h : ComponentLibrary.ofName? name = some l) : l = .shadcn := by
  obtain ⟨n, -, hl⟩ := Option.bind_eq_some_iff.1 h
  exact List.mem_singleton.1 (List.mem_of_find?_eq_some hl)

/-- The library's components have different tags. -/
lemma importNamed_tag (importAlias : String) {c : String × ComponentMapping}
    (hc : c ∈ ComponentLibrary.shadcn.components) :
    importNamed .nextjs importAlias c.2.tag =
      ⟨((ComponentLibrary.shadcn.import? c.1 importAlias).map Prod.snd).getD "", c.2.tag,
        false⟩ := by
  simp only [ComponentLibrary.shadcn, List.mem_cons, List.not_mem_nil, or_false] at hc
  rcases hc with rfl | rfl | rfl | rfl | rfl <;> rfl

lemma Nextjs.importNamed_of_library {p : Page}
    (hlibrary : p.library = ComponentLibrary.ofName? p.config.componentLibrary)
    (hi : i ∈ libraryImports p e) : importNamed .nextjs p.config.importAlias i.name = i := by
  obtain ⟨m, hm, rfl⟩ := List.mem_map.1 hi
  obtain ⟨l, hl, himport⟩ := Option.bind_eq_some_iff.1 (Option.mem_toList.1 hm)
  obtain rfl := eq_shadcn_of_ofName? (hlibrary.symm.trans hl)
  obtain ⟨c, hc, hname⟩ := Option.map_eq_some_iff.1 himport
  have htag : m.1 = c.tag := by rw [← hname]
  have hnamed := importNamed_tag p.config.importAlias (Fields.mem_of_get? hc)
  rw [himport] at hnamed
  rw [htag, hnamed]
  rfl

lemma Nextjs.importNamed_of_own {p : Page}
    (hlibrary : p.library = ComponentLibrary.ofName? p.config.componentLibrary)
    (hi : i ∈ Nextjs.ownImports p e) : importNamed .nextjs p.config.importAlias i.name = i := by
  have hlink : importNamed .nextjs p.config.importAlias linkImport.name = linkImport := rfl
  unfold ownImports at hi
  split at hi
  all_goals try exact importNamed_of_library hlibrary hi
  · rwa [List.mem_singleton.1 hi]
  · split_ifs at hi
    · cases hi
    · rwa [List.mem_singleton.1 hi]
  · dsimp only at hi
    split_ifs at hi
    · have hsuffix :
          "Icon".toList.isSuffixOf (propText e "name" "Star" ++ "Icon").toList = true := by
        rw [List.isSuffixOf_iff_suffix, String.toList_append]
        exact List.suffix_append _ _
      rw [List.mem_singleton.1 hi, importNamed, if_pos hsuffix]
    · cases hi
  · cases hi

lemma Expo.exists_of_targetImports {href : String} (hi : i ∈ targetImports href) :
    i = routerImport ∨ ∃ name ∈ nativeNames, i = nativeImport name := by
  unfold targetImports at hi
  split_ifs at hi
  · cases hi
  · exact .inl (List.mem_singleton.1 hi)
  · exact .inr ⟨"Linking", by decide, List.mem_singleton.1 hi⟩

lemma Expo.exists_of_tagImports {tag : String} (htag : tag ∈ nativeNames)
    (hi : i ∈ tagImports e tag) :
    i = routerImport ∨ ∃ name ∈ nativeNames, i = nativeImport name := by
  simp only [tagImports, List.cons_append, List.mem_cons, List.mem_append,
    List.mem_ite_nil_right, List.not_mem_nil, or_false] at hi
  rcases hi with rfl | ⟨-, rfl⟩ | ⟨-, rfl⟩
  · exact .inr ⟨tag, htag, rfl⟩
  · exact .inl rfl
  · exact .inr ⟨"Pressable", by decide, rfl⟩

lemma Expo.nativeTag_mem (e : Element) : nativeTag e ∈ nativeNames := by
  unfold nativeTag
  split <;> try split_ifs
  all_goals decide

lemma Expo.exists_of_innerImports (hi : i ∈ innerImports s e) :
    i = routerImport ∨ ∃ name ∈ nativeNames, i = nativeImport name := by
  have htarget := @exists_of_targetImports i
  unfold innerImports at hi
  split at hi <;> grind [nativeNames]

lemma Expo.importNamed_of_own (alias_ : String) (hi : i ∈ Expo.ownImports s e) :
    importNamed .expo alias_ i.name = i := by
  have hvocabulary : i = routerImport ∨ ∃ name ∈ nativeNames, i = nativeImport name := by
    unfold ownImports elementImports at hi
    split_ifs at hi
    · cases hi
    · exact (List.mem_append.1 hi).elim exists_of_innerImports
        (exists_of_tagImports (nativeTag_mem e))
  rcases hvocabulary with rfl | ⟨name, hname, rfl⟩
  · rfl
  · simp only [nativeNames, List.mem_cons, List.not_mem_nil, or_false] at hname
    rcases hname with rfl | rfl | rfl | rfl | rfl | rfl | rfl | rfl <;> rfl

lemma importNamed_of_hook (alias_ : String) (hf : f = .nextjs ∨ f = .expo)
    (hi : i ∈ hookImports f s.state) : importNamed f alias_ i.name = i := by
  have hstate : i ∈ stateImports s.state → importNamed f alias_ i.name = i := by
    intro h
    simp only [stateImports, List.mem_append, List.mem_ite_nil_left, List.mem_ite_nil_right,
      List.mem_singleton] at h
    rcases h with ⟨-, rfl⟩ | ⟨-, rfl⟩ <;> rfl
  rcases List.mem_append.1 hi with hi | hi
  · exact hstate hi
  · rcases hf with rfl | rfl
    · obtain ⟨-, hi⟩ := List.mem_ite_nil_right.1 hi
      rw [List.mem_singleton.1 hi]
      rfl
    · obtain ⟨-, hi⟩ := List.mem_ite_nil_left.1 hi
      rw [List.mem_singleton.1 hi]
      rfl

end
/-! ### Modules -/

/-- The lines in front of the imports of a module. -/
def moduleHeader (f : Framework) (s : Screen) : List String :=
  match f with
  | .nextjs => Nextjs.header s.state
  | _ => ["// " ++ generatedMarker]

/-- The constants between the imports of a module and its function. -/
def modulePreamble (f : Framework) (s : Screen) : List String :=
  match f with
  | .nextjs =>
    let responsive := responsiveCss s.tokens nodeSelector s.state.responsive
    if responsive = "" then []
    else [s!"const {Nextjs.responsiveConstant} = {Text.quoteDouble responsive};"]
  | _ => []

/-- What a module imports: what the nodes that it shows and its hooks do. -/
def IsModuleImport (f : Framework) (s : Screen) (i : Import) : Prop :=
  (∃ n, Shown f s.plugins s.tree n ∧ i ∈ ownImports f s n.head) ∨ i ∈ hookImports f s.state

section
variable {f : Framework} {c : Context} {tree : Node} {name contents : String}

lemma exists_module (hf : f = .nextjs ∨ f = .expo)
    (h : screenContents f c name tree = .ok contents) :
    ∃ is hooks body,
      contents = Jsx.module_ name (moduleHeader f (.ofTree c tree)) (Import.lines is)
        (modulePreamble f (.ofTree c tree)) hooks body ∧
      ∀ i, i ∈ is ↔ IsModuleImport f (.ofTree c tree) i := by
  rcases hf with rfl | rfl
  · obtain ⟨⟨markup, is⟩, hrender, h⟩ := bind_eq_ok_iff.1 h
    obtain ⟨⟨hooks, js⟩, hhooks, h⟩ := bind_eq_ok_iff.1 h
    obtain rfl := Except.ok.inj h
    refine ⟨is ++ js, hooks, _, rfl, fun i => ?_⟩
    rw [List.mem_append, Nextjs.imports_render _ _ _ _ hrender i,
      Nextjs.imports_hooks _ _ _ hhooks i]
    rfl
  · obtain ⟨⟨markup, is⟩, hrender, h⟩ := bind_eq_ok_iff.1 h
    obtain ⟨⟨hooks, js⟩, hhooks, h⟩ := bind_eq_ok_iff.1 h
    obtain rfl := Except.ok.inj h
    refine ⟨is ++ js, hooks, _, rfl, fun i => ?_⟩
    rw [List.mem_append, Expo.imports_render _ _ _ _ hrender i, Expo.imports_hooks _ _ _ hhooks i]
    rfl

/-- The imports of a module are told apart by their names. -/
lemma IsModuleImport.eq_importNamed (hf : f = .nextjs ∨ f = .expo) {i : Import}
    (hi : IsModuleImport f (.ofTree c tree) i) :
    importNamed f c.config.importAlias i.name = i := by
  rcases hi with ⟨n, -, hi⟩ | hi
  · rcases hf with rfl | rfl
    · have hconfig : c.config = (Nextjs.pageOf (.ofTree c tree)).config := rfl
      rw [hconfig]
      exact Nextjs.importNamed_of_own rfl hi
    · exact Expo.importNamed_of_own _ hi
  · exact importNamed_of_hook _ hf hi

/-- No hook is called like a component. -/
lemma not_isComponentName_of_hook {s : ScreenState} {i : Import} (hi : i ∈ hookImports f s) :
    ¬ IsComponentName i.name := by
  have hname : i.name ∈ ["useState", "useEffect", "useRouter", "useWindowDimensions"] := by
    rcases List.mem_append.1 hi with hi | hi
    · simp only [stateImports, List.mem_append, List.mem_ite_nil_left, List.mem_ite_nil_right,
        List.mem_singleton] at hi
      rcases hi with ⟨-, rfl⟩ | ⟨-, rfl⟩ <;> simp
    · cases f with
      | nextjs =>
        obtain ⟨-, rfl⟩ := by simpa only [List.mem_ite_nil_right, List.mem_singleton] using hi
        simp
      | expo =>
        obtain ⟨-, rfl⟩ := by simpa only [List.mem_ite_nil_left, List.mem_singleton] using hi
        simp [Expo.nativeImport]
      | vue | svelte | html => cases hi
  have hsmall : ∀ name ∈ ["useState", "useEffect", "useRouter", "useWindowDimensions"],
      name.toList.head? = some 'u' := by
    decide
  rintro ⟨⟨l, hl, hupper⟩, -⟩
  obtain rfl : 'u' = l := Option.some.inj ((hsmall _ hname).symm.trans hl)
  exact absurd hupper (by decide)

/-- The imports of a React module bind every name once. Its function is called like none of them
unless one of the nodes shown imports what has the name of the route. -/
theorem emitScreen_topLevelNames (hf : f = .nextjs ∨ f = .expo) {spec : ScreenSpec}
    {e : EmittedScreen} (h : emitScreen f c spec = .ok e) :
    ∃ (statements : List ImportStatement) (hooks : List String) (body : String),
      e.file.contents = Jsx.module_ e.componentName (moduleHeader f (.ofTree c spec.tree))
        (statements.map ImportStatement.text) (modulePreamble f (.ofTree c spec.tree)) hooks body ∧
      (statements.flatMap ImportStatement.names).Nodup ∧
      ((e.componentName :: statements.flatMap ImportStatement.names).Nodup ↔
        ∀ n, Shown f c.plugins spec.tree n →
          ∀ i ∈ ownImports f (.ofTree c spec.tree) n.head, i.name ≠ e.componentName) := by
  obtain ⟨contents, hcontents, h⟩ := bind_eq_ok_iff.1 h
  obtain rfl := Except.ok.inj h
  obtain ⟨is, hooks, body, hmodule, his⟩ := exists_module hf hcontents
  have hnames : (Import.boundNames is).Nodup := by
    refine Import.nodup_boundNames fun i hi j hj hname => ?_
    rw [← ((his i).1 hi).eq_importNamed hf, hname, ((his j).1 hj).eq_importNamed hf]
  refine ⟨Import.statements is, hooks, body, ?_, hnames, ?_⟩
  · rw [← Import.lines_eq_statements]
    exact hmodule
  · change (componentName spec.route :: Import.boundNames is).Nodup ↔ _
    rw [List.nodup_cons, and_iff_left hnames, Import.mem_boundNames]
    constructor
    · intro hfresh n hn i hi hname
      exact hfresh ⟨i, (his i).2 (.inl ⟨n, hn, hi⟩), hname⟩
    · rintro hfree ⟨i, hi, hname⟩
      rcases (his i).1 hi with ⟨n, hn, hi⟩ | hi
      · exact hfree n hn i hi hname
      · exact not_isComponentName_of_hook hi (hname ▸ isComponentName_componentName spec.route)

end

/-- A link on a screen of its own. -/
def linkScreen : ScreenSpec where
  route := "/link"
  tree := .leaf { id := "link", type := BuiltinType.link.name }

/-- The function of the link's module has the name of the component that it imports. -/
theorem emitScreen_topLevelNames_linkScreen :
    ∃ e, emitScreen .nextjs Compiler.pages.context linkScreen = .ok e ∧
      e.componentName = "Link" ∧
      ∃ (statements : List ImportStatement) (hooks : List String) (body : String),
        e.file.contents = Jsx.module_ "Link"
          (moduleHeader .nextjs (.ofTree Compiler.pages.context linkScreen.tree))
          (statements.map ImportStatement.text)
          (modulePreamble .nextjs (.ofTree Compiler.pages.context linkScreen.tree)) hooks body ∧
        (statements.flatMap ImportStatement.names).Nodup ∧
        ¬ ("Link" :: statements.flatMap ImportStatement.names).Nodup := by
  have hemits : (emitScreen .nextjs Compiler.pages.context linkScreen).toOption.map
      (·.componentName) = some "Link" := by
    decide +kernel
  obtain ⟨e, he, hname⟩ := exists_ok_of_toOption hemits
  obtain ⟨statements, hooks, body, hcontents, hnodup, hiff⟩ :=
    emitScreen_topLevelNames (.inl rfl) he
  rw [hname] at hcontents hiff
  refine ⟨e, he, hname, statements, hooks, body, hcontents, hnodup, fun hdistinct => ?_⟩
  exact hiff.1 hdistinct linkScreen.tree (.refl _) Nextjs.linkImport (by decide) rfl

end Screenwright.Emit
