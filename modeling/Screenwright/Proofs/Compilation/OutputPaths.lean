import Mathlib.Data.List.Forall2
import Mathlib.Data.List.Nodup
import Screenwright.Compilation
import Screenwright.Proofs.Computation
import Screenwright.Proofs.Emit.Index

/-! Where the files of a batch go: each screen has the path of its component's name, so that screens
are kept apart exactly when their components have different names. -/
namespace Screenwright

lemma Config.generatedPath_inj {c : Config} {file file' : String} :
    c.generatedPath file = c.generatedPath file' ↔ file = file' := by
  simp [Config.generatedPath, String.append_right_inj]

namespace Compiler
variable (c : Compiler)

/-- The path of a component's file. -/
def screenPath (name : String) : String :=
  c.context.config.generatedPath (name ++ ".generated" ++ Emit.extension c.target)

def indexName : Framework → String
  | .html => "index.html"
  | _ => "index.ts"

/-- The path of the index. -/
def indexPath : String := c.context.config.generatedPath (indexName c.target)

lemma screenPath_injective : Function.Injective c.screenPath := by
  intro name name' h
  rw [screenPath, screenPath, Config.generatedPath_inj] at h
  simpa using h

/-- No screen is written over the index. -/
lemma screenPath_ne_indexPath {name : String} (h : Emit.IsAlphanumeric name) :
    c.screenPath name ≠ c.indexPath := by
  have hindex : ∀ f, ∃ rest, (indexName f).toList = "index".toList ++ '.' :: rest ∧
      '.' :: rest ≠ ".generated".toList ++ (Emit.extension f).toList := by
    intro f
    cases f with
    | html => exact ⟨"html".toList, by decide⟩
    | nextjs | vue | svelte | expo => exact ⟨"ts".toList, by decide⟩
  have hdot : ∀ cs : List Char, ∀ d ∈ ('.' :: cs).head?, d.isAlphanum = false := by
    intro cs d hd
    cases hd
    decide
  intro heq
  rw [screenPath, indexPath, Config.generatedPath_inj] at heq
  obtain ⟨rest, hname, hrest⟩ := hindex c.target
  have hlists := congrArg String.toList heq
  rw [hname, String.toList_append, String.toList_append, List.append_assoc] at hlists
  have hletters : ∀ d ∈ "index".toList, d.isAlphanum = true := List.all_eq_true.1 (by decide)
  exact hrest (Emit.append_inj_of_run h hletters (hdot _) (hdot _) hlists).2.symm

lemma path_emitIndex (names : List String) :
    (Emit.emitIndex c.target c.context.config names).path = c.indexPath := by
  unfold indexPath Emit.emitIndex
  cases c.target <;> rfl

/-! ### One screen -/

/-- What is emitted for a screen: the component of its route, at the path of its name. -/
structure Emits (spec : ScreenSpec) (e : Emit.EmittedScreen) : Prop where
  name : e.componentName = Emit.componentName spec.route
  path : e.file.path = c.screenPath e.componentName

lemma emits_of_emitScreen {spec : ScreenSpec} {e : Emit.EmittedScreen}
    (h : Emit.emitScreen c.target c.context spec = .ok e) : c.Emits spec e := by
  unfold Emit.emitScreen at h
  cases hcontents :
    Emit.screenContents c.target c.context (Emit.componentName spec.route) spec.tree with
  | error err => simp [hcontents, bind, Except.bind] at h
  | ok contents =>
    simp only [hcontents, bind, Except.bind, pure, Except.pure] at h
    rw [← Except.ok.inj h]
    exact ⟨rfl, rfl⟩

lemma route_resolved (spec : ScreenSpec) : (c.resolved spec).route = spec.route := by
  unfold resolved
  split <;> rfl

/-- A valid screen has a result, whether or not it is a file. -/
lemma compileScreen_of_valid {s : SourceScreen} {spec : ScreenSpec}
    (h : c.validator.screen s.name s.document = .ok spec) :
    ∃ r, c.compileScreen s = .ok r ∧ ∀ e, r = .ok e → c.Emits spec e := by
  unfold compileScreen
  simp only [h]
  cases hissues : c.context.plugins.treeIssues spec.tree with
  | cons i is => exact ⟨_, rfl, fun e he => by cases he⟩
  | nil =>
    refine ⟨_, rfl, fun e he => ?_⟩
    cases hemit : Emit.emitScreen c.target c.context (c.resolved spec) with
    | error err => simp [hemit, Except.mapError] at he
    | ok e' =>
      obtain rfl : e' = e := by simpa [hemit, Except.mapError] using he
      obtain ⟨hname, hpath⟩ := c.emits_of_emitScreen hemit
      exact ⟨by rw [hname, route_resolved], hpath⟩

/-! ### The batch -/

/-- The screens of a batch, each with the specification that its document holds. -/
def Reads (screens : List SourceScreen) (specs : List ScreenSpec) : Prop :=
  List.Forall₂ (fun s spec => c.validator.screen s.name s.document = .ok spec) screens specs

/-- The emitted screens of a valid batch belong to some of its screens, in the same order. -/
lemma mapM_compileScreen {screens : List SourceScreen} {specs : List ScreenSpec}
    (h : c.Reads screens specs) :
    ∃ results kept, screens.mapM c.compileScreen = .ok results ∧ kept.Sublist specs ∧
      List.Forall₂ c.Emits kept (emittedOf results) := by
  induction h with
  | nil => exact ⟨[], [], rfl, .slnil, .nil⟩
  | @cons s spec screens specs hs _ ih =>
    obtain ⟨results, kept, hresults, hkept, hemits⟩ := ih
    obtain ⟨r, hr, hemit⟩ := c.compileScreen_of_valid hs
    have hmapM : (s :: screens).mapM c.compileScreen = .ok (r :: results) := by
      rw [List.mapM_cons, hr, hresults]
      rfl
    cases r with
    | error err => exact ⟨_, kept, hmapM, hkept.cons spec, hemits⟩
    | ok e => exact ⟨_, spec :: kept, hmapM, hkept.cons_cons spec, .cons (hemit e rfl) hemits⟩

/-- The names of the components of some screens. -/
def componentNames (specs : List ScreenSpec) : List String :=
  specs.map fun spec => Emit.componentName spec.route

lemma isAlphanumeric_of_mem_componentNames {specs : List ScreenSpec} {name : String}
    (h : name ∈ componentNames specs) : Emit.IsAlphanumeric name := by
  obtain ⟨spec, -, rfl⟩ := List.mem_map.1 h
  exact Emit.isAlphanumeric_componentName spec.route

section
variable {c} {kept : List ScreenSpec} {emitted : List Emit.EmittedScreen}

lemma names_of_emits (h : List.Forall₂ c.Emits kept emitted) :
    emitted.map (·.componentName) = componentNames kept := by
  induction h with
  | nil => rfl
  | cons hspec _ ih => rw [List.map_cons, ih, hspec.name, componentNames, componentNames,
      List.map_cons]

lemma paths_of_emits (h : List.Forall₂ c.Emits kept emitted) :
    emitted.map (·.file.path) = (componentNames kept).map c.screenPath := by
  rw [← names_of_emits h]
  induction h with
  | nil => rfl
  | cons hspec _ ih => rw [List.map_cons, ih, hspec.path, List.map_cons, List.map_cons]

end

/-- The paths of a batch repeat exactly where names of its components do. -/
lemma nodup_paths_iff (specs : List ScreenSpec) :
    ((componentNames specs).map c.screenPath ++ [c.indexPath]).Nodup ↔
      (componentNames specs).Nodup := by
  have hindex : c.indexPath ∉ (componentNames specs).map c.screenPath := by
    intro hmem
    obtain ⟨name, hname, heq⟩ := List.mem_map.1 hmem
    exact c.screenPath_ne_indexPath (isAlphanumeric_of_mem_componentNames hname) heq
  rw [List.nodup_append, List.nodup_map_iff c.screenPath_injective]
  constructor
  · exact And.left
  · refine fun hnames => ⟨hnames, List.nodup_singleton _, fun path hpath index hmem heq => ?_⟩
    rw [List.mem_singleton.1 hmem] at heq
    exact hindex (heq ▸ hpath)

/-- Where the screens with files are found in a compiled batch. Their files, and the index as the
last one, are at different paths exactly when their components have different names; the index has
as many lines for a component as there are screens of its name. Names of plain routes are different
exactly when their words are. -/
structure Places (result : Compilation) (kept : List ScreenSpec) : Prop where
  succeeded : result.succeeded = kept.length
  paths : result.files.map (·.path) = (componentNames kept).map c.screenPath ++ [c.indexPath]
  apart : (result.files.map (·.path)).Nodup ↔ (componentNames kept).Nodup
  listed : ∃ index, result.files.getLast? = some index ∧ ∀ route,
    (Text.lines index.contents).count (Emit.indexLine c.target (Emit.componentName route)) =
      (componentNames kept).count (Emit.componentName route)
  plain : (∀ spec ∈ kept, Emit.IsPlainRoute spec.route) →
    ((componentNames kept).Nodup ↔ (kept.map fun spec => Emit.screenWords spec.route).Nodup)

lemma nodup_names_iff_of_plain {kept : List ScreenSpec}
    (h : ∀ spec ∈ kept, Emit.IsPlainRoute spec.route) :
    (componentNames kept).Nodup ↔ (kept.map fun spec => Emit.screenWords spec.route).Nodup := by
  rw [componentNames, List.Nodup, List.Nodup, List.pairwise_map, List.pairwise_map]
  refine List.Pairwise.iff_of_mem fun {spec spec'} hspec hspec' => ?_
  exact not_congr (Emit.componentName_eq_iff (h spec hspec) (h spec' hspec'))

/-- The results of a batch are brought together at the places of its screens. -/
lemma places_collect {results : List ScreenResult} {kept : List ScreenSpec}
    (h : List.Forall₂ c.Emits kept (emittedOf results)) : c.Places (c.collect results) kept := by
  have hpaths : (c.collect results).files.map (·.path) =
      (componentNames kept).map c.screenPath ++ [c.indexPath] := by
    rw [← paths_of_emits h, ← c.path_emitIndex ((emittedOf results).map (·.componentName))]
    simp [collect, tidied, Function.comp_def]
  have halnum : ∀ name ∈ componentNames kept, Emit.IsAlphanumeric name := fun _ hname =>
    isAlphanumeric_of_mem_componentNames hname
  have hindex : (c.collect results).files.getLast? =
      some (tidied (Emit.emitIndex c.target c.context.config (componentNames kept))) := by
    rw [collect, names_of_emits h, List.map_append, List.map_singleton, List.getLast?_concat]
  constructor
  case succeeded => exact h.length_eq.symm
  case paths => exact hpaths
  case apart => rw [hpaths, c.nodup_paths_iff kept]
  case listed =>
    refine ⟨_, hindex, fun route => ?_⟩
    rw [tidied, Emit.tidy_emitIndex c.target c.context.config halnum]
    exact Emit.count_lines_emitIndex c.target c.context.config halnum
      (Emit.isAlphanumeric_componentName route)
  case plain => exact nodup_names_iff_of_plain

/-- Every valid batch is compiled, and what it is compiled to tells its screens apart exactly when
the names of their components do. -/
theorem compile_places {screens : List SourceScreen} {specs : List ScreenSpec}
    (h : c.Reads screens specs) :
    ∃ result kept, c.compile screens = .ok result ∧ kept.Sublist specs ∧ c.Places result kept := by
  obtain ⟨results, kept, hresults, hkept, hemits⟩ := c.mapM_compileScreen h
  refine ⟨c.collect results, kept, ?_, hkept, c.places_collect hemits⟩
  rw [compile, Compiler.results, if_neg (by simp [Schedule.isShared, Schedule.single]), hresults]
  rfl

/-- A compiler of plain pages. -/
def pages : Compiler where
  target := .html
  context := .create
    { framework := .html, appDir := "app", componentsDir := "components",
      generatedDir := "generated", screensDir := "screens", schemaPath := "schema.json",
      importAlias := "@", componentLibrary := none, plugins := [], tokens := none, fonts := [],
      components := none } none .empty
  registry := []
  validator := .walk

/-- A screen with one element. -/
def plainScreen (route type : String) : SourceScreen where
  name := type
  document := .obj [("version", .int 1), ("route", .str route),
    ("tree", .obj [("id", .str "root"), ("type", .str type)])]

/-- Two screens of different routes whose files have one path. -/
theorem compile_places_sameName :
    ∃ specs result kept, specs.map ScreenSpec.route = ["/a-b", "/a/b"] ∧
      pages.Reads [plainScreen "/a-b" "Spacer", plainScreen "/a/b" "Divider"] specs ∧
      pages.compile [plainScreen "/a-b" "Spacer", plainScreen "/a/b" "Divider"] = .ok result ∧
      pages.Places result kept ∧ result.succeeded = 2 ∧
      ¬ (result.files.map (·.path)).Nodup := by
  have hdashed : (pages.validator.screen "Spacer"
      (plainScreen "/a-b" "Spacer").document).toOption.map (·.route) = some "/a-b" := by
    decide +kernel
  have hnested : (pages.validator.screen "Divider"
      (plainScreen "/a/b" "Divider").document).toOption.map (·.route) = some "/a/b" := by
    decide +kernel
  obtain ⟨first, hfirst, hroute⟩ := exists_ok_of_toOption hdashed
  obtain ⟨second, hsecond, hroute'⟩ := exists_ok_of_toOption hnested
  have hreads : pages.Reads [plainScreen "/a-b" "Spacer", plainScreen "/a/b" "Divider"]
      [first, second] := .cons hfirst (.cons hsecond .nil)
  obtain ⟨result, kept, hcompile, hkept, hplaces⟩ := compile_places pages hreads
  have hsucceeded : result.succeeded = 2 := by
    have hcount : (pages.compile
        [plainScreen "/a-b" "Spacer", plainScreen "/a/b" "Divider"]).toOption.map (·.succeeded) =
          some 2 := by decide +kernel
    rw [hcompile] at hcount
    exact Option.some.inj hcount
  have hall : kept = [first, second] :=
    hkept.eq_of_length (by rw [← hplaces.succeeded, hsucceeded]; rfl)
  refine ⟨[first, second], result, kept, by simp [hroute, hroute'], hreads, hcompile, hplaces,
    hsucceeded, fun hpaths => ?_⟩
  have hnames := hplaces.apart.1 hpaths
  rw [hall, componentNames, List.map_cons, List.map_singleton, hroute, hroute'] at hnames
  exact absurd hnames (by decide)

end Compiler
end Screenwright
