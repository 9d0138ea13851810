import Screenwright.Emit.Backend
import Screenwright.Proofs.Computation
import Screenwright.Proofs.Emit.StateNames

/-! The scripts of the targets with state: each declares the variables of a screen, one line for
each name. -/
namespace Screenwright.Emit

namespace Emission
variable {α β : Type} {a : α} {b : β}

/-- A rendering that comes out as a value, whatever it imports. -/
def Gives (x : Emission α) (a : α) : Prop := ∃ imports, x.run = .ok (a, imports)

lemma gives_pure {a' : α} : (pure a' : Emission α).Gives a ↔ a' = a := by
  constructor
  · rintro ⟨imports, h⟩
    exact (Prod.mk.inj (Except.ok.inj h)).1
  · rintro rfl
    exact ⟨[], rfl⟩

lemma run_bind (x : Emission α) (f : α → Emission β) :
    (x >>= f).run = x.run.bind fun r => (f r.1).run.map fun r' => (r'.1, r.2 ++ r'.2) := by
  change Emission.bind x f = _
  unfold Emission.bind run
  cases x with
  | error e => rfl
  | ok r =>
    dsimp only [Except.bind]
    cases f r.1 <;> rfl

lemma gives_bind {x : Emission α} {f : α → Emission β} :
    (x >>= f).Gives b ↔ ∃ a, x.Gives a ∧ (f a).Gives b := by
  simp only [Gives, run_bind]
  constructor
  · rintro ⟨imports, h⟩
    obtain ⟨⟨a, is⟩, hx, h⟩ := bind_eq_ok_iff.1 h
    obtain ⟨⟨b', js⟩, hf, h⟩ := map_eq_ok_iff.1 h
    cases h
    exact ⟨a, ⟨is, hx⟩, ⟨js, hf⟩⟩
  · rintro ⟨a, ⟨is, hx⟩, ⟨js, hf⟩⟩
    exact ⟨is ++ js, bind_eq_ok_iff.2 ⟨_, hx, map_eq_ok_iff.2 ⟨_, hf, rfl⟩⟩⟩

lemma gives_ofExcept {x : Except EmitError α} : (ofExcept x).Gives a ↔ x = .ok a := by
  cases x with
  | error e => simp [Gives, ofExcept, run]
  | ok a' => exact gives_pure.trans (by simp)

section
variable {c : Prop} [Decidable c]

lemma gives_of_either {x y : Emission α} {f : α → Emission β}
    (h : (if c then x >>= f else y >>= f).Gives b) : ∃ a, (f a).Gives b := by
  split_ifs at h <;> exact (gives_bind.1 h).imp fun _ h => h.2

/-- What is only imported on some condition does not matter for the rest. -/
lemma gives_of_optional {x : Emission α} {rest : Emission β}
    (h : (if c then x >>= fun _ => rest else rest).Gives b) : rest.Gives b := by
  split_ifs at h
  · exact (gives_bind.1 h).choose_spec.2
  · exact h

end

end Emission

/-! ### Declarations -/

/-- A line that declares a state variable in the script of a target. -/
inductive IsDeclaration : Framework → String → String → Prop
  | nextjs (name initial : String) : IsDeclaration .nextjs name (Jsx.stateLine name initial)
  | expo (name initial : String) : IsDeclaration .expo name (Jsx.stateLine name initial)
  | vue (name initial : String) :
    IsDeclaration .vue name ("const " ++ name ++ (" = ref" ++ initial))
  | svelte (name initial : String) :
    IsDeclaration .svelte name ("let " ++ name ++ (" = " ++ initial))
  | svelteRows (name initial : String) :
    IsDeclaration .svelte name ("let " ++ name ++ (": any[] = " ++ initial))

/-- Lines among which are, one after the other, the declarations of some names. -/
def Declares (f : Framework) (lines names : List String) : Prop :=
  ∃ before declarations after, lines = before ++ declarations ++ after ∧
    List.Forall₂ (IsDeclaration f) names declarations

lemma map_fst_startedFetches {s : Screen} {started : List (DataFetch × String)}
    (h : s.startedFetches = .ok started) : started.map Prod.fst = s.state.fetches := by
  have hstarted := mapM_eq_ok_iff.1 (mapError_eq_ok_iff.1 h)
  clear h
  generalize s.state.fetches = fetches at hstarted ⊢
  induction hstarted with
  | nil => rfl
  | cons hfetch _ ih =>
    obtain ⟨rows, -, rfl⟩ := map_eq_ok_iff.1 hfetch
    rw [List.map_cons, ih]

/-- A script declares the names of its screen when it has a line for each toggle, each state and
each fetch. -/
lemma declares_lines {f : Framework} {s : Screen} {started : List (DataFetch × String)}
    (hstarted : s.startedFetches = .ok started) {toggle value : String → String}
    {fetch : DataFetch × String → String}
    (htoggle : ∀ id, IsDeclaration f (visibilityVar id) (toggle id))
    (hvalue : ∀ name, IsDeclaration f (stateVar name) (value name))
    (hfetch : ∀ e, IsDeclaration f e.1.rows (fetch e)) (before after : List String) :
    Declares f (before ++ s.state.toggled.map toggle ++ s.state.values.map value ++
      started.map fetch ++ after) s.state.declaredNames := by
  have hmap : ∀ {α : Type} (xs : List α) (name line : α → String),
      (∀ x, IsDeclaration f (name x) (line x)) →
        List.Forall₂ (IsDeclaration f) (xs.map name) (xs.map line) := by
    intro α xs name line h
    rw [List.forall₂_map_left_iff, List.forall₂_map_right_iff, List.forall₂_same]
    exact fun x _ => h x
  refine ⟨before, s.state.toggled.map toggle ++ s.state.values.map value ++ started.map fetch,
    after, by simp, ?_⟩
  rw [ScreenState.declaredNames, ← map_fst_startedFetches hstarted, List.map_map]
  exact List.rel_append (List.rel_append (hmap _ _ _ htoggle) (hmap _ _ _ hvalue))
    (hmap _ _ _ hfetch)

/-! ### The targets -/

section
variable {s : Screen} {lines : List String}

lemma declares_hookLines {d : ReactDialect} {f : Framework} (hf : f = .nextjs ∨ f = .expo)
    (h : (Jsx.hookLines d s).Gives lines) : Declares f lines s.state.declaredNames := by
  have hline : ∀ name initial, IsDeclaration f name (Jsx.stateLine name initial) := by
    rcases hf with rfl | rfl
    · exact .nextjs
    · exact .expo
  obtain ⟨router, h⟩ := Emission.gives_of_either h
  have h := Emission.gives_of_optional (Emission.gives_of_optional h)
  obtain ⟨started, hstarted, h⟩ := Emission.gives_bind.1 h
  rw [← Emission.gives_pure.1 h]
  exact declares_lines (Emission.gives_ofExcept.1 hstarted) (fun _ => hline _ _)
    (fun _ => hline _ _) (fun _ => hline _ _) router _

lemma declares_expo (h : (Expo.hookLines s).Gives lines) :
    Declares .expo lines s.state.declaredNames := by
  obtain ⟨hooks, hhooks, h⟩ := Emission.gives_bind.1 h
  obtain ⟨before, declarations, after, rfl, hdeclared⟩ := declares_hookLines (.inr rfl) hhooks
  split_ifs at h
  · rw [← Emission.gives_pure.1 h]
    exact ⟨before, declarations, after, rfl, hdeclared⟩
  · obtain ⟨-, -, h⟩ := Emission.gives_bind.1 h
    rw [← Emission.gives_pure.1 h]
    exact ⟨_ :: before, declarations, after, rfl, hdeclared⟩

lemma declares_vue (h : Vue.scriptLines s = .ok lines) :
    Declares .vue lines s.state.declaredNames := by
  obtain ⟨started, hstarted, h⟩ := bind_eq_ok_iff.1 h
  have hrows : ∀ e : DataFetch × String,
      IsDeclaration .vue e.1.rows ("const " ++ e.1.rows ++ " = ref<any[]>(" ++ e.2 ++ ");") := by
    intro e
    have hline : "const " ++ e.1.rows ++ " = ref<any[]>(" ++ e.2 ++ ");" =
        "const " ++ e.1.rows ++ (" = ref" ++ ("<any[]>(" ++ e.2 ++ ");")) :=
      String.toList_inj.1 (by simp [String.toList_append])
    rw [hline]
    exact .vue _ _
  rw [← Except.ok.inj h]
  exact declares_lines hstarted (fun _ => .vue _ "(true);") (fun _ => .vue _ "(\"\");") hrows _ _

lemma declares_svelte (h : Svelte.scriptLines s = .ok lines) :
    Declares .svelte lines s.state.declaredNames := by
  obtain ⟨started, hstarted, h⟩ := bind_eq_ok_iff.1 h
  have hrows : ∀ e : DataFetch × String,
      IsDeclaration .svelte e.1.rows ("let " ++ e.1.rows ++ ": any[] = " ++ e.2 ++ ";") := by
    intro e
    have hline : "let " ++ e.1.rows ++ ": any[] = " ++ e.2 ++ ";" =
        "let " ++ e.1.rows ++ (": any[] = " ++ (e.2 ++ ";")) :=
      String.toList_inj.1 (by simp [String.toList_append])
    rw [hline]
    exact .svelteRows _ _
  rw [← Except.ok.inj h]
  exact declares_lines hstarted (fun _ => .svelte _ "true;") (fun _ => .svelte _ "\"\";") hrows _ _

end

/-- The lines of the script in the file of a screen. -/
inductive HasScript : Framework → String → List String → Prop
  | nextjs (name : String) (header imports preamble lines : List String) (body : String) :
    HasScript .nextjs (Jsx.module_ name header imports preamble lines body) lines
  | expo (name : String) (header imports preamble lines : List String) (body : String) :
    HasScript .expo (Jsx.module_ name header imports preamble lines body) lines
  | vue (s : Screen) (lines : List String) (markup : String) :
    HasScript .vue (Vue.component s lines markup) lines
  | svelte (s : Screen) (lines : List String) (markup : String) :
    HasScript .svelte (Svelte.component s lines markup) lines

/-- The file of a screen has a script that declares the names of its tree. -/
lemma exists_script {f : Framework} (hf : f ≠ .html) {c : Context} {name text : String}
    {tree : Node} (h : screenContents f c name tree = .ok text) :
    ∃ lines, HasScript f text lines ∧ Declares f lines (ScreenState.ofTree tree).declaredNames := by
  cases f with
  | html => contradiction
  | nextjs =>
    obtain ⟨⟨markup, imports⟩, -, h⟩ := bind_eq_ok_iff.1 h
    obtain ⟨⟨hooks, hookImports⟩, hhooks, h⟩ := bind_eq_ok_iff.1 h
    rw [← Except.ok.inj h]
    exact ⟨hooks, .nextjs .., declares_hookLines (.inl rfl) ⟨hookImports, hhooks⟩⟩
  | expo =>
    obtain ⟨⟨markup, imports⟩, -, h⟩ := bind_eq_ok_iff.1 h
    obtain ⟨⟨hooks, hookImports⟩, hhooks, h⟩ := bind_eq_ok_iff.1 h
    rw [← Except.ok.inj h]
    exact ⟨hooks, .expo .., declares_expo ⟨hookImports, hhooks⟩⟩
  | vue =>
    obtain ⟨markup, -, h⟩ := bind_eq_ok_iff.1 h
    obtain ⟨lines, hlines, h⟩ := bind_eq_ok_iff.1 h
    rw [← Except.ok.inj h]
    exact ⟨lines, .vue .., declares_vue hlines⟩
  | svelte =>
    obtain ⟨markup, -, h⟩ := bind_eq_ok_iff.1 h
    obtain ⟨lines, hlines, h⟩ := bind_eq_ok_iff.1 h
    rw [← Except.ok.inj h]
    exact ⟨lines, .svelte .., declares_svelte hlines⟩

/-- A target with state declares a line for each name of a tree. Where no id is repeated, no name is
declared twice exactly when ids and states are apart, as plain ones are. -/
theorem declares_once_iff {f : Framework} (hf : f ≠ .html) {tree : Node} (hids : tree.ids.Nodup) :
    (∀ c name text, screenContents f c name tree = .ok text → ∃ lines, HasScript f text lines ∧
      Declares f lines (ScreenState.ofTree tree).declaredNames) ∧
    ((ScreenState.ofTree tree).declaredNames.Nodup ↔ (ScreenState.ofTree tree).NamesApart) ∧
    ((∀ id ∈ (ScreenState.ofTree tree).toggled ++ (ScreenState.ofTree tree).fetchedIds,
        IsPlainName id ∧ ¬ "state".toList <+: id.toList) →
      (∀ name ∈ (ScreenState.ofTree tree).values, IsPlainName name) →
        (ScreenState.ofTree tree).declaredNames.Nodup) := by
  have hiff := ScreenState.nodup_declaredNames_ofTree hids
  refine ⟨fun c name text h => exists_script hf h, hiff, fun hplain hvalues => ?_⟩
  exact hiff.2 (ScreenState.namesApart_of_plain hplain hvalues)

/-- A button that shows and hides itself. -/
def selfToggle (id : String) : Node :=
  .leaf
    { id := id
      type := BuiltinType.button.name
      interactions := some ⟨some ⟨.toggleVisibility, some id, none⟩, none, none⟩ }

/-- Two ids that differ in a sign have one name. -/
theorem declares_once_iff_selfToggle :
    let tree : Node :=
      .branch { id := "root", type := "Stack" } [selfToggle "a-b", selfToggle "a.b"]
    tree.ids.Nodup ∧ (ScreenState.ofTree tree).declaredNames = ["a_bVisible", "a_bVisible"] ∧
      ¬ (ScreenState.ofTree tree).NamesApart := by
  intro tree
  have hids : tree.ids.Nodup := by decide
  have hnames : (ScreenState.ofTree tree).declaredNames = ["a_bVisible", "a_bVisible"] := by
    decide +kernel
  refine ⟨hids, hnames, fun hapart => ?_⟩
  have hnodup := (declares_once_iff (f := .svelte) nofun hids).2.1.2 hapart
  rw [hnames] at hnodup
  exact absurd hnodup (by decide)

end Screenwright.Emit
