import Screenwright.Proofs.Compilation.Scheduling
import Screenwright.Proofs.Files.Places
import Screenwright.Proofs.Project.Screens

/-! Projects whose trees agree. A project whose directories are listed in another order has the same
screens in the same order, and is compiled to the same on every schedule. -/
namespace Screenwright.Project
variable {p p' : Project} {c : Config} {d : Path} {kept : List String → Prop}
  {schedule schedule' : Nat → Schedule} {xs : List DiscoveredScreen}

/-! ### What a project is compiled to -/

/-- A project is compiled when its screens are, one by one. -/
theorem compile_eq_ok_iff {r : Compilation}
    (hs : ∀ xs, p.screens c = .ok xs → (schedule xs.length).Completes xs.length) :
    p.compile c schedule = .ok r ↔ ∃ k xs results, p.compiler c = .ok k ∧ p.screens c = .ok xs ∧
      List.Forall₂ (fun s r => k.compileScreen (p.source s) = .ok r) xs results ∧
      k.collect results = r := by
  have hsources : ∀ xs, p.screens c = .ok xs →
      (schedule (xs.map p.source).length).Completes (xs.map p.source).length := by
    simpa using hs
  unfold compile
  constructor
  · intro hr
    obtain ⟨k, hk, hr⟩ := bind_eq_ok_iff.1 hr
    obtain ⟨xs, hxs, hr⟩ := bind_eq_ok_iff.1 hr
    have hxs := mapError_eq_ok_iff.1 hxs
    obtain ⟨results, hresults, hcollect⟩ :=
      (Compiler.compile_eq_ok_iff (hsources xs hxs)).1 (mapError_eq_ok_iff.1 hr)
    exact ⟨k, xs, results, hk, hxs, List.forall₂_map_left_iff.1 hresults, hcollect⟩
  · rintro ⟨k, xs, results, hk, hxs, hown, hcollect⟩
    rw [hk, refuse, hxs]
    exact mapError_eq_ok_iff.2 ((Compiler.compile_eq_ok_iff (hsources xs hxs)).2
      ⟨results, List.forall₂_map_left_iff.2 hown, hcollect⟩)

/-! ### Projects whose trees agree -/

section
variable (h : FileTree.Agree kept p.files p'.files)
include h

lemma hasDirectory_eq_of_agree {name : String} (hname : name ≠ "..") :
    p'.hasDirectory d name = p.hasDirectory d name := by
  rw [Bool.eq_iff_iff, hasDirectory_iff_locate hname, hasDirectory_iff_locate hname]
  simp only [h.locate_iff, h.directory]

lemma hasFile_eq_of_agree {name : String} (hname : name ≠ "..")
    (hkept : ∀ above, kept (above ++ [name])) : p'.hasFile d name = p.hasFile d name := by
  rw [Bool.eq_iff_iff, hasFile_iff_locate hname, hasFile_iff_locate hname]
  simp only [h.locate_iff, h.directory, h.file _ (hkept _)]

/-- Whatever is read for a compiler is the same where the inputs and the modules are kept. -/
lemma rereads_of_agree (hroot : p'.root = p.root) (hmodules : p'.modules = p.modules)
    (hinputs : ∀ path ∈ p.inputPaths c, kept path.parts)
    (hnames : ∀ above name, name.endsWith moduleSuffix = true → kept (above ++ [name])) :
    Rereads c p p' := by
  have hresolve := resolve_eq_of_root hroot
  have hfollow : ∀ path ∈ p.inputPaths c, kept (Path.follow [] path.parts) := by
    intro path hpath
    obtain ⟨file, -, rfl⟩ := List.mem_map.1 hpath
    rw [follow_resolve]
    exact hinputs _ hpath
  constructor
  case root => exact hroot
  case modules => exact hmodules
  case validator =>
    rw [validator, hresolve, validator, h.readText_toOption (hfollow _ List.mem_cons_self)]
  case input => exact fun path hpath text => (h.readText_iff (hfollow path hpath)).2
  case moduleFile =>
    intro reference hreference text
    obtain ⟨above, name, hparts, hname⟩ :=
      Path.exists_name_resolve p.root (by decide : Path.IsEnding moduleSuffix) hreference
    refine (h.readText_iff ?_).2
    rw [follow_resolve, resolve, hparts]
    exact hnames above name hname
  case modulePlace? =>
    intro d name m hname hm
    have hmodule : name ++ moduleSuffix ≠ ".." :=
      Path.ne_dots_of_endsWith (by decide) (endsWith_append name moduleSuffix)
    rw [← hm, modulePlace?, modulePlace?, hasDirectory_eq_of_agree h hname,
      hasFile_eq_of_agree h hmodule fun _ => hnames _ _ (endsWith_append _ _),
      hasFile_eq_of_agree h (by decide) fun _ => hnames _ _ endsWith_packageFile]

/-- A screen is read again where its place is kept. -/
lemma readScreen_of_agree {name : String} {screen : DiscoveredScreen}
    (hname : name.endsWith screenSuffix = true)
    (hkept : kept ((p.resolve c.screensDir).parts ++ [name]))
    (hscreen : p.readScreen (p.resolve c.screensDir) name = .ok screen) :
    p'.readScreen (p.resolve c.screensDir) name = .ok screen := by
  obtain ⟨document, hdocument, rfl⟩ := map_eq_ok_iff.1 hscreen
  rw [readScreen, readJson_eq_ok (fun _ => (h.readText_iff ?_).2) hdocument]
  · rfl
  · rwa [follow_screen hname]

end

/-! ### Projects in another order -/

/-- The same project with its directories listed in another order. -/
structure Relisted (p p' : Project) : Prop where
  root : p'.root = p.root
  modules : p'.modules = p.modules
  entries : ∀ place, p'.files.get? place = p.files.get? place
  names : ∀ d, (p'.files.namesIn d).Perm (p.files.namesIn d)

namespace Relisted

lemma symm (h : Relisted p p') : Relisted p' p where
  root := h.root.symm
  modules := h.modules.symm
  entries place := (h.entries place).symm
  names d := (h.names d).symm

lemma agree (h : Relisted p p') : FileTree.Agree (fun _ => True) p.files p'.files where
  directory place := by rw [h.entries]
  file place _ s := by rw [h.entries]

lemma resolve_eq (h : Relisted p p') : p'.resolve = p.resolve := resolve_eq_of_root h.root

lemma rereads (h : Relisted p p') : Rereads c p p' :=
  rereads_of_agree h.agree h.root h.modules (fun _ _ => trivial) fun _ _ _ => trivial

lemma screens (h : Relisted p p') (hxs : p.screens c = .ok xs) :
    p'.screens c = .ok xs := by
  have hnames : (p'.screenNames c).Perm (p.screenNames c) := by
    rw [screenNames, h.resolve_eq]
    exact (h.names _).filter _
  have hfound := discovers_of_screens hxs
  refine screens_eq_ok_iff.2 (hfound.again ?_ hnames fun _ _ hname hscreen => ?_)
  · rw [h.resolve_eq, h.agree.isDirectory_eq]
    exact hfound.directory
  · rw [h.resolve_eq]
    exact readScreen_of_agree h.agree hname trivial hscreen

/-- What a project is compiled to depends neither on listings nor on schedules. -/
lemma compile (h : Relisted p p') (hs : ∀ size, (schedule size).Completes size)
    (hs' : ∀ size, (schedule' size).Completes size) {r : Compilation}
    (hr : p.compile c schedule = .ok r) : p'.compile c schedule' = .ok r := by
  rw [compile_eq_ok_iff fun _ _ => hs _] at hr
  rw [compile_eq_ok_iff fun _ _ => hs' _, (h.rereads (c := c)).source_eq]
  obtain ⟨k, xs, results, hk, hxs, hresults, hcollect⟩ := hr
  exact ⟨k, xs, results, h.rereads.compiler hk, h.screens hxs, hresults, hcollect⟩

end Relisted

end Screenwright.Project
