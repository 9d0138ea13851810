import Screenwright.Proofs.Project.Relisting

/-! Compilations of a project that write nothing. They bring together what each of its screens gives
when it is the only one, whatever the order of listing and the schedule. -/
namespace Screenwright.Project
variable {p p' q : Project} {c : Config} {schedule schedule' : Nat → Schedule}
  {xs : List DiscoveredScreen}

/-! ### Projects with one of the screens -/

/-- A place of the screens directory with the name of a screen. -/
def IsScreenPlace (p : Project) (c : Config) (place : List String) : Prop :=
  ∃ name, name.endsWith screenSuffix = true ∧ place = (p.resolve c.screensDir).parts ++ [name]

/-- The same project with one screen as the only one. -/
structure OnlyScreen (c : Config) (p : Project) (s : DiscoveredScreen) (q : Project) : Prop where
  root : q.root = p.root
  modules : q.modules = p.modules
  screens : q.screens c = .ok [s]
  inputs : ∀ path ∈ p.inputPaths c, q.files.get? path.parts = p.files.get? path.parts
  others : ∀ place, ¬ p.IsScreenPlace c place → q.files.get? place = p.files.get? place

/-- Where the screens are read none of them is a directory. -/
lemma get?_ne_directory_of_screens (h : p.screens c = .ok xs) {name : String}
    (hname : name.endsWith screenSuffix = true) :
    p.files.get? ((p.resolve c.screensDir).parts ++ [name]) ≠ some .directory := by
  intro hentry
  have hfound := discovers_of_screens h
  obtain ⟨screen, hscreen⟩ := hfound.exists_read
    ((mem_screenNames_iff hfound.directory).2 ⟨by simp [hentry], hname⟩)
  rw [(readScreen_directory hfound.directory hname hentry).2] at hscreen
  cases hscreen

namespace OnlyScreen
variable {s : DiscoveredScreen}

lemma agree (h : OnlyScreen c p s q) (hxs : p.screens c = .ok xs) :
    FileTree.Agree (fun place => ¬ p.IsScreenPlace c place ∨
      ∃ path ∈ p.inputPaths c, place = path.parts) p.files q.files := by
  have hresolve : q.resolve = p.resolve := resolve_eq_of_root h.root
  constructor
  case directory =>
    intro place
    by_cases hplace : p.IsScreenPlace c place
    · obtain ⟨name, hname, rfl⟩ := hplace
      have hnone := get?_ne_directory_of_screens hxs hname
      have hnone' := get?_ne_directory_of_screens h.screens hname
      rw [hresolve] at hnone'
      exact iff_of_false hnone' hnone
    · rw [h.others place hplace]
  case file =>
    rintro place (hplace | ⟨path, hpath, rfl⟩) s
    · rw [h.others place hplace]
    · rw [h.inputs path hpath]

lemma rereads (h : OnlyScreen c p s q) (hxs : p.screens c = .ok xs) : Rereads c p q := by
  refine rereads_of_agree (h.agree hxs) h.root h.modules
    (fun path hpath => .inr ⟨path, hpath, rfl⟩) fun above name hname => .inl ?_
  rintro ⟨screen, hscreen, hplace⟩
  obtain ⟨-, rfl⟩ := List.append_singleton_inj.1 hplace
  rw [endsWith_eq_false hname (by decide +kernel) (by decide +kernel)] at hscreen
  cases hscreen

end OnlyScreen

/-! ### Taking the other screens away -/

/-- Whether a place is kept when all screens but the one of a name are taken away. -/
def keepsScreen (p : Project) (c : Config) (name : String) (place : List String) : Bool :=
  (FileTree.nameIn (p.resolve c.screensDir).parts place).all fun other =>
    !other.endsWith screenSuffix || other == name

/-- The project without the screens of other names. -/
def only (p : Project) (c : Config) (name : String) : Project :=
  { p with files := ⟨p.files.entries.filter fun e => p.keepsScreen c name e.1⟩ }

section
variable {name : String} {place : List String}

end

/-! ### Arrangements -/

def screenText (route type : String) : String :=
  "\x7b\"version\":1,\"route\":\"" ++ route ++ "\",\"tree\":\x7b\"id\":\"a\",\"type\":\"" ++ type ++
    "\"\x7d\x7d"

/-- A project with two screens of one route, and a third one whose route is no route. -/
def twins : Project where
  root := ⟨.root, ["project"]⟩
  files := ⟨[(["project"], .directory), (["project", "screens"], .directory),
    (["project", "screens", "b.screen.json"], .file (screenText "/a" "Divider")),
    (["project", "screens", "c.screen.json"], .file (screenText "" "Spacer")),
    (["project", "screens", "a.screen.json"], .file (screenText "/a" "Spacer"))]⟩

end Screenwright.Project
