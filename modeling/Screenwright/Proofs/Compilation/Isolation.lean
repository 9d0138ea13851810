import Screenwright.Proofs.Compilation.OutputPaths
import Screenwright.Proofs.Validation.Checkable

/-! What becomes of each screen of a batch is its own affair: a screen that fails leaves one failure
and no file. Only a document that cannot be checked ends a batch. -/
namespace Screenwright

namespace Compiler
variable (c : Compiler) {s : SourceScreen} {screens : List SourceScreen}

/-! ### One screen -/

/-- A screen ends the batch exactly when its document cannot be checked. -/
lemma breaks_compileScreen :
    Breaks (c.compileScreen s) ↔ Breaks (c.validator.issues s.document) := by
  unfold compileScreen Validator.screen
  cases c.validator.issues s.document with
  | error f => simp
  | ok is =>
    refine iff_of_false ?_ (breaks_ok _)
    cases is with
    | cons i is => exact breaks_ok _
    | nil =>
      cases ScreenSpec.decode s.document with
      | bad faults => exact breaks_ok _
      | ok spec =>
        dsimp only
        cases c.context.plugins.treeIssues spec.tree <;> exact breaks_ok _

lemma screen_of_invalid {e : InvalidScreen}
    (h : c.validator.screen s.name s.document = .error (.invalid e)) : e.name = s.name := by
  unfold Validator.screen at h
  cases hissues : c.validator.issues s.document with
  | error f => simp [hissues] at h
  | ok is =>
    cases is with
    | cons i is =>
      simp only [hissues, Except.error.injEq, ScreenError.invalid.injEq] at h
      rw [← h]
    | nil =>
      cases hspec : ScreenSpec.decode s.document with
      | ok spec => simp [hissues, hspec] at h
      | bad faults =>
        simp only [hissues, hspec, Except.error.injEq, ScreenError.invalid.injEq] at h
        rw [← h]

/-- A failure is reported under the name of its screen. -/
lemma screen_of_compileScreen {f : ScreenFailure} (h : c.compileScreen s = .ok (.error f)) :
    f.screen = s.name := by
  unfold compileScreen at h
  cases hscreen : c.validator.screen s.name s.document with
  | error e =>
    cases e with
    | unchecked f => simp [hscreen] at h
    | invalid e =>
      simp only [hscreen, Except.ok.injEq, Except.error.injEq] at h
      rw [← h]
      exact c.screen_of_invalid hscreen
  | ok spec =>
    cases hissues : c.context.plugins.treeIssues spec.tree with
    | cons i is =>
      simp only [hscreen, hissues, Except.ok.injEq, Except.error.injEq] at h
      rw [← h]
      rfl
    | nil =>
      simp only [hscreen, hissues, Except.ok.injEq] at h
      cases hemit : Emit.emitScreen c.target c.context (c.resolved spec) with
      | ok e => simp [hemit, Except.mapError] at h
      | error e =>
        simp only [hemit, Except.mapError, Except.error.injEq] at h
        rw [← h]
        rfl

/-- Whether a screen has a failure in place of a file. -/
def fails (s : SourceScreen) : Bool :=
  match c.compileScreen s with
  | .ok (.error _) => true
  | _ => false

/-! ### The batch -/

/-- Each screen of a batch with its own result. -/
def Results (screens : List SourceScreen) (results : List ScreenResult) : Prop :=
  List.Forall₂ (fun s r => c.compileScreen s = .ok r) screens results

section
variable {c} {results : List ScreenResult}

lemma failures_of_results (h : c.Results screens results) :
    List.Forall₂ (fun s f => c.compileScreen s = .ok (.error f) ∧ f.screen = s.name)
      (screens.filter c.fails) (failuresOf results) := by
  induction h with
  | nil => exact .nil
  | @cons s r screens results hs _ ih =>
    cases r with
    | ok e =>
      have hfails : ¬ c.fails s = true := by simp [fails, hs]
      rw [List.filter_cons_of_neg hfails]
      exact ih
    | error f =>
      have hfails : c.fails s = true := by simp [fails, hs]
      rw [List.filter_cons_of_pos hfails]
      exact .cons ⟨hs, c.screen_of_compileScreen hs⟩ ih

lemma emitted_of_results (h : c.Results screens results) :
    List.Forall₂ (fun s e => c.compileScreen s = .ok (.ok e))
      (screens.filter fun s => !c.fails s) (emittedOf results) := by
  induction h with
  | nil => exact .nil
  | @cons s r screens results hs _ ih =>
    cases r with
    | ok e =>
      have hfails : (!c.fails s) = true := by simp [fails, hs]
      rw [List.filter_cons_of_pos (p := fun s => !c.fails s) hfails]
      exact .cons hs ih
    | error f =>
      have hfails : ¬ (!c.fails s) = true := by simp [fails, hs]
      rw [List.filter_cons_of_neg (p := fun s => !c.fails s) hfails]
      exact ih

/-- A file of a batch is that of a screen. -/
lemma exists_emits_of_compileScreen {e : Emit.EmittedScreen}
    (h : c.compileScreen s = .ok (.ok e)) : ∃ spec, c.Emits spec e := by
  cases hscreen : c.validator.screen s.name s.document with
  | error err => cases err <;> simp [compileScreen, hscreen] at h
  | ok spec =>
    obtain ⟨r, hr, hemits⟩ := c.compileScreen_of_valid hscreen
    obtain rfl : r = .ok e := Except.ok.inj (hr.symm.trans h)
    exact ⟨spec, hemits e rfl⟩

/-- A file of a batch has the name of a component. -/
lemma isAlphanumeric_of_compileScreen {e : Emit.EmittedScreen}
    (h : c.compileScreen s = .ok (.ok e)) : Emit.IsAlphanumeric e.componentName := by
  obtain ⟨spec, hemits⟩ := exists_emits_of_compileScreen h
  rw [hemits.name]
  exact Emit.isAlphanumeric_componentName spec.route

end

/-- Each screen of a compiled batch is there once. The failures are those of the failing screens,
one for each, and the files those of the others, both in the order of the batch; the last file is
the index, with a line for each of the components of the other files. -/
structure Isolates (screens : List SourceScreen) (result : Compilation) : Prop where
  counted : result.succeeded + result.failed = screens.length
  failures : List.Forall₂ (fun s f => c.compileScreen s = .ok (.error f) ∧ f.screen = s.name)
    (screens.filter c.fails) result.failures
  files : ∃ emitted index,
    List.Forall₂ (fun s e => c.compileScreen s = .ok (.ok e))
      (screens.filter fun s => !c.fails s) emitted ∧
    result.succeeded = emitted.length ∧
    result.files = emitted.map (fun e => tidied e.file) ++ [index] ∧
    index = Emit.emitIndex c.target c.context.config (emitted.map (·.componentName)) ∧
    ∀ name, Emit.IsAlphanumeric name →
      (Text.lines index.contents).count (Emit.indexLine c.target name) =
        (emitted.map (·.componentName)).count name

lemma isolates_collect {results : List ScreenResult} (h : c.Results screens results) :
    c.Isolates screens (c.collect results) := by
  have hfailures := failures_of_results h
  have hemitted := emitted_of_results h
  have halnum : ∀ name ∈ (emittedOf results).map (·.componentName), Emit.IsAlphanumeric name := by
    intro name hname
    obtain ⟨e, he, rfl⟩ := List.mem_map.1 hname
    obtain ⟨s, -, hs⟩ := exists_left_of_forall₂ hemitted he
    exact isAlphanumeric_of_compileScreen hs
  constructor
  case counted =>
    have hparts := List.length_eq_length_filter_add (l := screens) c.fails
    rw [hfailures.length_eq, hemitted.length_eq] at hparts
    rw [hparts, Nat.add_comm]
    rfl
  case failures => exact hfailures
  case files =>
    refine ⟨emittedOf results, _, hemitted, rfl, ?_, rfl, fun name hname => ?_⟩
    · rw [collect, List.map_append, List.map_map, List.map_singleton]
      rw [tidied.eq_def (Emit.emitIndex ..), Emit.tidy_emitIndex c.target c.context.config halnum]
      rfl
    · exact Emit.count_lines_emitIndex c.target c.context.config halnum hname

lemma compile_eq : c.compile screens = (screens.mapM c.compileScreen).map c.collect := by
  rw [compile, Compiler.results, if_neg (by simp [Schedule.isShared, Schedule.single])]

/-- A batch that is checked by the walk is compiled, with its failures kept apart from its files,
unless one of its documents has a node of compound type. Such a document ends it. -/
theorem compile_isolates (hwalk : c.validator = .walk) (screens : List SourceScreen) :
    ((∀ s ∈ screens, ¬ RawScreen.HasCompoundType s.document) →
      ∃ result, c.compile screens = .ok result ∧ c.Isolates screens result) ∧
    ((∃ s ∈ screens, RawScreen.HasCompoundType s.document) →
      ∃ fault, c.compile screens = .error fault) := by
  have hbreaks : Breaks (c.compile screens) ↔
      ∃ s ∈ screens, RawScreen.HasCompoundType s.document := by
    rw [compile_eq, breaks_map, breaks_mapM]
    simp only [breaks_compileScreen, hwalk, Validator.breaks_issues_walk]
  refine ⟨fun hplain => ?_, hbreaks.2⟩
  obtain ⟨result, hresult⟩ := exists_ok_of_not_breaks fun h => by
    obtain ⟨s, hs, hcompound⟩ := hbreaks.1 h
    exact hplain s hs hcompound
  refine ⟨result, hresult, ?_⟩
  rw [compile_eq] at hresult
  cases hresults : screens.mapM c.compileScreen with
  | error f => simp [hresults, Except.map] at hresult
  | ok results =>
    rw [hresults] at hresult
    rw [← Except.ok.inj hresult]
    exact c.isolates_collect (mapM_eq_ok_iff.1 hresults)

/-- A screen whose only element has the given type. -/
def typedScreen (type : Json) : SourceScreen where
  name := "typed"
  document := .obj [("version", .int 1), ("route", .str "/typed"),
    ("tree", .obj [("id", .str "root"), ("type", type)])]

lemma hasCompoundType_iff_of_leaf {doc : Json} {fs : Fields Json}
    (htree : doc.get? "tree" = some (.obj fs)) (hleaf : RawNode.children fs = []) :
    RawScreen.HasCompoundType doc ↔ RawNode.HasCompoundType fs := by
  have hinside : (∃ gs, RawNode.IsIn gs (.obj fs) ∧ RawNode.HasCompoundType gs) ↔
      RawNode.HasCompoundType fs := by
    rw [RawNode.exists_isIn_obj, hleaf]
    simp
  simp [RawScreen.HasCompoundType, htree, hinside]

/-- A screen with a number for a type fails beside one that does not; with a list for a type it
ends the batch of both. -/
theorem compile_isolates_typedScreen :
    (∃ result, pages.compile [plainScreen "/" "Spacer", typedScreen (.int 5)] = .ok result ∧
      result.succeeded + result.failed = 2 ∧
      result.failures.map (·.screen) = ["typed"]) ∧
    ∃ fault, pages.compile [plainScreen "/" "Spacer", typedScreen (.arr [])] = .error fault := by
  have hspacer : ¬ RawScreen.HasCompoundType (plainScreen "/" "Spacer").document := by
    rw [hasCompoundType_iff_of_leaf rfl (by decide)]
    decide
  have hnumber : ¬ RawScreen.HasCompoundType (typedScreen (.int 5)).document := by
    rw [hasCompoundType_iff_of_leaf rfl (by decide)]
    decide
  have hlist : RawScreen.HasCompoundType (typedScreen (.arr [])).document := by
    rw [hasCompoundType_iff_of_leaf rfl (by decide)]
    decide
  have hgood : pages.fails (plainScreen "/" "Spacer") = false := by decide +kernel
  have hbad : pages.fails (typedScreen (.int 5)) = true := by decide +kernel
  obtain ⟨result, hresult, hisolates⟩ := (compile_isolates pages rfl
    [plainScreen "/" "Spacer", typedScreen (.int 5)]).1 (by simp [hspacer, hnumber])
  refine ⟨⟨result, hresult, hisolates.counted, ?_⟩,
    (compile_isolates pages rfl [plainScreen "/" "Spacer", typedScreen (.arr [])]).2
      ⟨typedScreen (.arr []), by simp, hlist⟩⟩
  have hfailures := hisolates.failures
  rw [List.filter_cons_of_neg (by simp [hgood]), List.filter_cons_of_pos hbad, List.filter_nil,
    List.forall₂_cons_left_iff] at hfailures
  obtain ⟨f, rest, ⟨-, hname⟩, hrest, hall⟩ := hfailures
  rw [hall, List.forall₂_nil_left_iff.1 hrest, List.map_singleton, hname]
  rfl

end Compiler
end Screenwright
