import Screenwright.Project.Run
import Screenwright.Proofs.Computation
import Screenwright.Proofs.Files.Changes
import Screenwright.Proofs.Files.Places
import Screenwright.Proofs.Text.Splitting

/-! What a project reads does not depend on files that are none of its inputs: a compiler that was
loaded once is loaded again after they are written. -/
namespace Screenwright.Project
variable {p p' : Project} {c : Config} {d : Path} {place : List String}
  {es : List (List String × FileEntry)}

/-- The files that a configuration names: the schema, the tokens and the components. -/
def inputPaths (p : Project) (c : Config) : List Path :=
  (c.schemaPath :: ((setting? c.tokens).toList ++ (setting? c.components).toList)).map p.resolve

/-- A project before and after changes of its tree that write none of its inputs, and no file of the
name of a module or of a screen. -/
structure Undisturbed (c : Config) (es : List (List String × FileEntry)) (p p' : Project) :
    Prop where
  root : p'.root = p.root
  modules : p'.modules = p.modules
  wellFormed : p.files.WellFormed
  changes : p.files.Changes es p'.files
  inputs : ∀ path ∈ p.inputPaths c, ∀ s, (path.parts, .file s) ∉ es
  names : ∀ above name s, (above ++ [name], FileEntry.file s) ∈ es →
    name.endsWith moduleSuffix = false ∧ name.endsWith screenSuffix = false

lemma follow_resolve (file : String) : Path.follow [] (p.resolve file).parts =
    (p.resolve file).parts :=
  Path.follow_eq_append (Path.dots_notMem_resolve p.root (Path.ofText file))

/-- A project in which whatever is read for a compiler is read as in another one. -/
structure Rereads (c : Config) (p p' : Project) : Prop where
  root : p'.root = p.root
  modules : p'.modules = p.modules
  validator : p'.validator c = p.validator c
  input : ∀ path ∈ p.inputPaths c, ∀ text,
    p.files.readText path = .ok text → p'.files.readText path = .ok text
  moduleFile : ∀ reference, isFileReference reference = true → ∀ text,
    p.files.readText (p.resolve reference) = .ok text →
      p'.files.readText (p.resolve reference) = .ok text
  modulePlace? : ∀ d name m, name ≠ ".." →
    p.modulePlace? d name = some m → p'.modulePlace? d name = some m

lemma resolve_eq_of_root (h : p'.root = p.root) : p'.resolve = p.resolve := by
  funext file
  rw [resolve, h, resolve]

/-- A document that is read is read again when its text is. -/
lemma readJson_eq_ok {path : Path} {what : String} {document : Json}
    (hread : ∀ text, p.files.readText path = .ok text → p'.files.readText path = .ok text)
    (hdocument : p.readJson path what = .ok document) : p'.readJson path what = .ok document := by
  unfold readJson at hdocument ⊢
  cases htext : p.files.readText path with
  | error e =>
    simp only [htext] at hdocument
    split at hdocument <;> cases hdocument
  | ok text =>
    rw [hread text htext]
    rwa [htext] at hdocument

/-! ### Texts that are read as values -/

section
variable {cs : List Char}

end

namespace Rereads

/-! ### Settings -/

lemma resolve_eq (h : Rereads c p p') : p'.resolve = p.resolve := resolve_eq_of_root h.root

lemma source_eq (h : Rereads c p p') : p'.source = p.source := by
  funext screen
  rw [source, h.root, source]

lemma loadTokens (h : Rereads c p p') {tokens : Option Tokens}
    (htokens : p.loadTokens c = .ok tokens) : p'.loadTokens c = .ok tokens := by
  unfold Project.loadTokens at htokens ⊢
  cases hfile : setting? c.tokens with
  | none => simpa only [hfile] using htokens
  | some file =>
    simp only [hfile, h.resolve_eq] at htokens ⊢
    have hinput : p.resolve file ∈ p.inputPaths c := List.mem_map_of_mem (by simp [hfile])
    cases htext : p.files.readText (p.resolve file) with
    | error e =>
      rw [readTokens, htext] at htokens
      dsimp only at htokens
      split at htokens <;> cases htokens
    | ok text =>
      rw [readTokens, htext] at htokens
      rw [readTokens, h.input _ hinput text htext]
      exact htokens

lemma loadComponents (h : Rereads c p p') {defs : List ComponentDef}
    (hdefs : p.loadComponents c = .ok defs) : p'.loadComponents c = .ok defs := by
  unfold Project.loadComponents at hdefs ⊢
  cases hfile : setting? c.components with
  | none => simpa only [hfile] using hdefs
  | some file =>
    simp only [hfile, h.resolve_eq] at hdefs ⊢
    obtain ⟨document, hdocument, hdecoded⟩ := bind_eq_ok_iff.1 hdefs
    have hinput : p.resolve file ∈ p.inputPaths c := List.mem_map_of_mem (by simp [hfile])
    rw [readJson_eq_ok (h.input _ hinput) hdocument]
    exact hdecoded

/-! ### Plugins -/

lemma modulePlace (h : Rereads c p p') {seen names : List String} {m : ModulePlace}
    (hnames : ∀ name ∈ names, name ≠ "..") (hm : p.modulePlace d seen names = .ok m) :
    p'.modulePlace d seen names = .ok m := by
  induction names generalizing d seen with
  | nil => cases hm
  | cons name names ih =>
    obtain ⟨hname, hrest⟩ := List.forall_mem_cons.1 hnames
    unfold Project.modulePlace at hm ⊢
    cases hplace : p.modulePlace? d name with
    | none => simp [hplace] at hm
    | some m' =>
      rw [h.modulePlace? _ _ _ hname hplace]
      rw [hplace] at hm
      cases names with
      | nil => exact hm
      | cons next names =>
        cases hdirectory : m'.directory? with
        | none => simp [hdirectory] at hm
        | some d' =>
          simp only [hdirectory] at hm ⊢
          exact ih hrest hm

lemma findModule (h : Rereads c p p') {name : String} {m : ModulePlace}
    (hm : p.findModule name = .ok m) : p'.findModule name = .ok m := by
  unfold Project.findModule at hm ⊢
  split at hm
  · cases hm
  · split at hm
    · cases hm
    · next hempty hrelative =>
      rw [if_neg hempty, if_neg hrelative, h.root]
      refine h.modulePlace (fun part hpart => ?_) hm
      -- the parts between dots have no dots
      obtain ⟨piece, hpiece, rfl⟩ := List.mem_map.1 hpart
      intro hdots
      refine Text.notMem_of_mem_splitOn hpiece ?_
      have hlist := congrArg String.toList hdots
      rw [String.toList_ofList] at hlist
      rw [hlist]
      decide

lemma member?_eq (h : Rereads c p p') : p'.member? = p.member? := by
  funext loaded m owner name
  have hexports : p'.exportsOf = p.exportsOf := by
    funext path
    rw [exportsOf, h.modules, exportsOf]
  rw [member?, hexports, member?]

lemma importModule (h : Rereads c p p') {loaded : List String} {r : ModuleReference}
    {e : PluginExport} (he : p.importModule loaded r = .ok e) :
    p'.importModule loaded r = .ok e := by
  unfold Project.importModule at he ⊢
  obtain ⟨m, hm, hmember⟩ := bind_eq_ok_iff.1 he
  rw [h.findModule hm, h.member?_eq]
  exact hmember

lemma importFile (h : Rereads c p p') {reference : String} {e : PluginExport}
    (hreference : isFileReference reference = true) (he : p.importFile reference = .ok e) :
    p'.importFile reference = .ok e := by
  unfold Project.importFile at he ⊢
  cases htext : p.files.readText (p.resolve reference) with
  | error err => simp [htext] at he
  | ok text =>
    simp only [htext, exportsOf] at he
    simpa only [h.resolve_eq, h.moduleFile _ hreference text htext, exportsOf, h.modules] using he

lemma importReference (h : Rereads c p p') {before : List String} {reference : String}
    {e : PluginExport} (he : p.importReference before reference = .ok e) :
    p'.importReference before reference = .ok e := by
  unfold Project.importReference at he ⊢
  split at he
  · next hfile => rw [if_pos hfile, h.importFile hfile he]
  · next hmodule =>
    rw [if_neg hmodule, h.importModule (mapError_eq_ok_iff.1 he)]
    rfl

lemma loadPluginsAfter (h : Rereads c p p') {before references : List String}
    {r r' : PluginRegistry} (hr : p.loadPluginsAfter before r references = .ok r') :
    p'.loadPluginsAfter before r references = .ok r' := by
  induction references generalizing before r with
  | nil => exact hr
  | cons reference references ih =>
    rw [Project.loadPluginsAfter] at hr ⊢
    obtain ⟨e, he, hr⟩ := bind_eq_ok_iff.1 hr
    obtain ⟨r₁, hr₁, hr⟩ := bind_eq_ok_iff.1 hr
    exact bind_eq_ok_iff.2 ⟨e, h.importReference he, bind_eq_ok_iff.2 ⟨r₁, hr₁, ih hr⟩⟩

/-- A compiler that was loaded is loaded again. -/
lemma compiler (h : Rereads c p p') {k : Compiler} (hk : p.compiler c = .ok k) :
    p'.compiler c = .ok k := by
  unfold Project.compiler at hk ⊢
  obtain ⟨tokens, htokens, hk⟩ := bind_eq_ok_iff.1 hk
  obtain ⟨defs, hdefs, hk⟩ := bind_eq_ok_iff.1 hk
  obtain ⟨plugins, hplugins, hk⟩ := bind_eq_ok_iff.1 hk
  rw [refuse, h.loadTokens (mapError_eq_ok_iff.1 htokens)]
  rw [refuse, h.loadComponents (mapError_eq_ok_iff.1 hdefs)]
  rw [refuse, Project.loadPlugins, h.loadPluginsAfter (mapError_eq_ok_iff.1 hplugins)]
  rw [h.validator]
  exact hk

end Rereads

/-! ### Places of modules -/

lemma endsWith_append (first ending : String) : (first ++ ending).endsWith ending = true := by
  rw [endsWith_iff, String.toList_append]
  exact List.suffix_append _ _

lemma endsWith_packageFile : packageFile.endsWith moduleSuffix = true := endsWith_append _ _

lemma exists_locate_of_mem_namesIn {name : String} (h : name ∈ p.files.namesIn d) :
    ∃ place, p.files.locate d = .ok place := by
  cases hd : p.files.locate d with
  | error kind => simp [FileTree.namesIn, hd] at h
  | ok place => exact ⟨place, rfl⟩

/-- A file of a directory that the path leads to. -/
lemma hasFile_iff_locate {name : String} (hname : name ≠ "..") : p.hasFile d name = true ↔
    ∃ place s, p.files.locate d = .ok place ∧ p.files.get? place = some .directory ∧
      p.files.get? (place ++ [name]) = some (.file s) := by
  rw [hasFile, Bool.and_eq_true, List.contains_iff_mem, Option.isSome_iff_exists]
  simp only [FileTree.contents?_eq_some_iff, FileTree.locate_child_iff hname]
  constructor
  · rintro ⟨-, s, _, ⟨place, hplace, hdirectory, rfl⟩, hs⟩
    exact ⟨place, s, hplace, hdirectory, hs⟩
  · rintro ⟨place, s, hplace, hdirectory, hs⟩
    exact ⟨(FileTree.mem_namesIn_iff hplace).2 (by simp [hs]), s, _,
      ⟨place, hplace, hdirectory, rfl⟩, hs⟩

lemma hasDirectory_iff_locate {name : String} (hname : name ≠ "..") :
    p.hasDirectory d name = true ↔
      ∃ place, p.files.locate d = .ok place ∧ p.files.get? place = some .directory ∧
        p.files.get? (place ++ [name]) = some .directory := by
  rw [hasDirectory, Bool.and_eq_true, List.contains_iff_mem, FileTree.isDirectory_iff]
  simp only [FileTree.locate_child_iff hname]
  constructor
  · rintro ⟨-, _, ⟨place, hplace, habove, rfl⟩, hdirectory⟩
    exact ⟨place, hplace, habove, hdirectory⟩
  · rintro ⟨place, hplace, habove, hdirectory⟩
    exact ⟨(FileTree.mem_namesIn_iff hplace).2 (by simp [hdirectory]), _,
      ⟨place, hplace, habove, rfl⟩, hdirectory⟩

lemma hasFile_iff (hwf : p.files.WellFormed) (hd : p.files.locate d = .ok place) {name : String}
    (hname : name ≠ "..") :
    p.hasFile d name = true ↔ ∃ s, p.files.get? (place ++ [name]) = some (.file s) := by
  rw [hasFile_iff_locate hname]
  constructor
  · rintro ⟨place', s, hplace, -, hs⟩
    cases hd.symm.trans hplace
    exact ⟨s, hs⟩
  · rintro ⟨s, hs⟩
    exact ⟨place, s, hd, hwf.above (List.cons_ne_nil name []) hs, hs⟩

lemma hasDirectory_iff (hwf : p.files.WellFormed) (hd : p.files.locate d = .ok place)
    {name : String} (hname : name ≠ "..") :
    p.hasDirectory d name = true ↔ p.files.get? (place ++ [name]) = some .directory := by
  rw [hasDirectory_iff_locate hname]
  constructor
  · rintro ⟨place', hplace, -, hdirectory⟩
    cases hd.symm.trans hplace
    exact hdirectory
  · intro hdirectory
    exact ⟨place, hd, hwf.above (List.cons_ne_nil name []) hdirectory, hdirectory⟩

lemma locate_of_hasDirectory (hwf : p.files.WellFormed) (hd : p.files.locate d = .ok place)
    {name : String} (hname : name ≠ "..") (h : p.hasDirectory d name = true) :
    p.files.locate (d.child name) = .ok (place ++ [name]) := by
  have hdirectory := (hasDirectory_iff hwf hd hname).1 h
  have habove := hwf.above (List.cons_ne_nil name []) hdirectory
  exact (FileTree.locate_child_iff hname).2 ⟨place, hd, habove, rfl⟩

namespace Undisturbed

lemma resolve_eq (h : Undisturbed c es p p') : p'.resolve = p.resolve := resolve_eq_of_root h.root

lemma validator_eq (h : Undisturbed c es p p') : p'.validator c = p.validator c := by
  have hschema : p.resolve c.schemaPath ∈ p.inputPaths c := List.mem_cons_self
  have hdots : ".." ∉ (p.resolve c.schemaPath).parts := Path.dots_notMem_resolve _ _
  rw [validator, h.resolve_eq, validator,
    h.changes.readText_toOption h.wellFormed hdots (h.inputs _ hschema)]

lemma readText_input (h : Undisturbed c es p p') {path : Path} (hpath : path ∈ p.inputPaths c)
    {text : String} (htext : p.files.readText path = .ok text) :
    p'.files.readText path = .ok text := by
  obtain ⟨file, -, rfl⟩ := List.mem_map.1 hpath
  refine h.changes.keeps_readText (fun s => ?_) htext
  rw [follow_resolve]
  exact h.inputs _ hpath s

lemma module_notMem (h : Undisturbed c es p p') {above : List String} {name : String}
    (hname : name.endsWith moduleSuffix = true) (s : String) :
    (above ++ [name], .file s) ∉ es := by
  intro hs
  rw [(h.names _ _ _ hs).1] at hname
  cases hname

lemma hasFile_eq (h : Undisturbed c es p p') (hd : p.files.locate d = .ok place) {name : String}
    (hname : name.endsWith moduleSuffix = true) : p'.hasFile d name = p.hasFile d name := by
  have hdots : name ≠ ".." := Path.ne_dots_of_endsWith (by decide) hname
  rw [Bool.eq_iff_iff, hasFile_iff h.wellFormed hd hdots,
    hasFile_iff (h.changes.wellFormed h.wellFormed) (h.changes.keeps_locate hd) hdots]
  simp only [h.changes.get?_eq_file_iff (h.module_notMem hname)]

/-- A package that is found now was one before: its file was not written. -/
lemma hasDirectory_of_package (h : Undisturbed c es p p') (hd : p.files.locate d = .ok place)
    {name : String} (hname : name ≠ "..") (hdirectory : p'.hasDirectory d name = true)
    (hfile : p'.hasFile (d.child name) packageFile = true) : p.hasDirectory d name = true := by
  have hwf' := h.changes.wellFormed h.wellFormed
  have hplace := locate_of_hasDirectory hwf' (h.changes.keeps_locate hd) hname hdirectory
  obtain ⟨s, hs⟩ := (hasFile_iff hwf' hplace (by decide)).1 hfile
  rw [h.changes.get?_eq_file_iff (h.module_notMem endsWith_packageFile)] at hs
  exact (hasDirectory_iff h.wellFormed hd hname).2 (h.wellFormed.above (List.cons_ne_nil _ _) hs)

lemma modulePlace? (h : Undisturbed c es p p') {name : String} {m : ModulePlace}
    (hname : name ≠ "..") (hm : p.modulePlace? d name = some m) :
    p'.modulePlace? d name = some m := by
  have hmember : ∃ name, name ∈ p.files.namesIn d := by
    by_contra hnone
    simp only [not_exists] at hnone
    simp [Project.modulePlace?, hasDirectory, hasFile, hnone] at hm
  obtain ⟨_, hmember⟩ := hmember
  obtain ⟨place, hd⟩ := exists_locate_of_mem_namesIn hmember
  have hfile := h.hasFile_eq hd (endsWith_append name moduleSuffix)
  unfold Project.modulePlace? at hm ⊢
  rw [hfile]
  by_cases hdirectory : p.hasDirectory d name = true
  · have hplace := locate_of_hasDirectory h.wellFormed hd hname hdirectory
    have hdirectory' : p'.hasDirectory d name = true := by
      rw [hasDirectory_iff h.wellFormed hd hname] at hdirectory
      rw [hasDirectory_iff (h.changes.wellFormed h.wellFormed) (h.changes.keeps_locate hd) hname]
      exact h.changes.keeps_directory hdirectory
    rw [h.hasFile_eq hplace endsWith_packageFile, hdirectory']
    rwa [hdirectory] at hm
  · have hpackage : ¬ (p'.hasDirectory d name && p'.hasFile (d.child name) packageFile) = true := by
      rw [Bool.and_eq_true]
      rintro ⟨hdirectory', hpackage⟩
      exact hdirectory (h.hasDirectory_of_package hd hname hdirectory' hpackage)
    rw [if_neg (by simp [hdirectory])] at hm
    rw [if_neg hpackage]
    split at hm
    · next hmodule => rwa [if_pos hmodule]
    · cases hm

lemma rereads (h : Undisturbed c es p p') : Rereads c p p' := by
  constructor
  case root => exact h.root
  case modules => exact h.modules
  case validator => exact h.validator_eq
  case input => exact fun _ hpath _ htext => h.readText_input hpath htext
  case moduleFile =>
    intro reference hreference text htext
    obtain ⟨above, name, hparts, hname⟩ :=
      Path.exists_name_resolve p.root (by decide : Path.IsEnding moduleSuffix) hreference
    refine h.changes.keeps_readText (fun s => ?_) htext
    rw [follow_resolve, Project.resolve, hparts]
    exact h.module_notMem hname s
  case modulePlace? => exact fun _ _ _ hname hm => h.modulePlace? hname hm

end Undisturbed

end Screenwright.Project
