import Mathlib.Data.List.Perm.Basic
import Mathlib.Data.List.Sort
import Mathlib.Data.String.Basic
import Screenwright.Proofs.Project.Reading

/-! The screens of a project are read again after other files are written, and compiled to the same,
unless a directory has come among them. Then it is the directory that cannot be read. -/
namespace Screenwright.Project
variable {p p' : Project} {c : Config} {d : Path} {es : List (List String × FileEntry)}

/-- The names in the screens directory that count as screens. -/
def screenNames (p : Project) (c : Config) : List String :=
  (p.files.namesIn (p.resolve c.screensDir)).filter (·.endsWith screenSuffix)

/-- The screen of a name in a directory. -/
def readScreen (p : Project) (directory : Path) (name : String) :
    Except LoadError DiscoveredScreen :=
  (p.readJson (directory.child name) "Screen spec").map (DiscoveredScreen.mk (directory.child name))

lemma sorted_eq_nil_iff {xs : List String} : Text.sorted xs = [] ↔ xs = [] := by
  rw [← List.length_eq_zero_iff, (Text.sorted_perm xs).length_eq, List.length_eq_zero_iff]

/-- Where there are screens, all of them are read. -/
lemma screens_eq (hdirectory : p.files.isDirectory (p.resolve c.screensDir) = true)
    (hnames : p.screenNames c ≠ []) : p.screens c =
      ((Text.sorted (p.screenNames c)).mapM (p.readScreen (p.resolve c.screensDir))).map
        fun found => found.mergeSort DiscoveredScreen.before := by
  have hsorted : Text.sorted (p.screenNames c) ≠ [] := sorted_eq_nil_iff.not.2 hnames
  unfold screens
  simp only [hdirectory, Bool.not_true, Bool.false_eq_true, if_false]
  split
  · next hnil => exact absurd hnil hsorted
  · rfl

lemma of_screens_eq_ok {xs : List DiscoveredScreen} (h : p.screens c = .ok xs) :
    p.files.isDirectory (p.resolve c.screensDir) = true ∧ p.screenNames c ≠ [] := by
  unfold screens at h
  dsimp only at h
  split at h
  · cases h
  · next hdirectory =>
    refine ⟨by simpa using hdirectory, fun hnil => ?_⟩
    have hsorted := sorted_eq_nil_iff.2 hnil
    rw [screenNames] at hsorted
    rw [hsorted] at h
    cases h

/-! ### The screens in their order -/

/-- The first screen comes by its route, or by its name where the routes are the same. -/
def InOrder (s t : DiscoveredScreen) : Prop :=
  s.route < t.route ∨ s.route = t.route ∧ s.name ≤ t.name

lemma before_iff {s t : DiscoveredScreen} : s.before t = true ↔ InOrder s t := by
  rw [DiscoveredScreen.before, InOrder]
  split
  · next heq => simp [heq]
  · next hne => simp [hne]

lemma pairwise_mergeSort_before (xs : List DiscoveredScreen) :
    (xs.mergeSort DiscoveredScreen.before).Pairwise InOrder := by
  have hsorted : (xs.mergeSort DiscoveredScreen.before).Pairwise fun s t => s.before t = true := by
    apply List.pairwise_mergeSort
    · intro s t u hst htu
      rw [before_iff] at hst htu ⊢
      rcases hst with hst | ⟨hst, hnames⟩ <;> rcases htu with htu | ⟨htu, hnames'⟩
      · exact .inl (hst.trans htu)
      · exact .inl (htu ▸ hst)
      · exact .inl (hst ▸ htu)
      · exact .inr ⟨hst.trans htu, hnames.trans hnames'⟩
    · intro s t
      rw [Bool.or_eq_true, before_iff, before_iff]
      rcases lt_trichotomy s.route t.route with hlt | heq | hlt
      · exact .inl (.inl hlt)
      · exact (le_total s.name t.name).imp (fun h => .inr ⟨heq, h⟩) fun h => .inr ⟨heq.symm, h⟩
      · exact .inr (.inl hlt)
  exact hsorted.imp before_iff.1

lemma name_eq_of_inOrder {s t : DiscoveredScreen} (hst : InOrder s t) (hts : InOrder t s) :
    s.name = t.name := by
  rcases hst with hst | ⟨hroute, hname⟩
  · rcases hts with hts | ⟨hroute, -⟩
    · exact absurd hts hst.not_gt
    · exact absurd hst (hroute ▸ lt_irrefl _)
  · rcases hts with hts | ⟨-, hname'⟩
    · exact absurd hts (hroute ▸ lt_irrefl _)
    · exact le_antisymm hname hname'

lemma name_of_readScreen {name : String} {s : DiscoveredScreen}
    (h : p.readScreen d name = .ok s) : s.name = name := by
  obtain ⟨document, -, rfl⟩ := map_eq_ok_iff.1 h
  simp [DiscoveredScreen.name, Path.name, Path.child]

/-- What the screens of a project are: all that the screens directory lists, each with its document,
by route and name. -/
structure Discovers (p : Project) (c : Config) (xs : List DiscoveredScreen) : Prop where
  directory : p.files.isDirectory (p.resolve c.screensDir) = true
  nonempty : xs ≠ []
  listed : (xs.map (·.name)).Perm (p.screenNames c)
  read : ∀ s ∈ xs, p.readScreen (p.resolve c.screensDir) s.name = .ok s
  ordered : xs.Pairwise InOrder

lemma discovers_of_screens {xs : List DiscoveredScreen} (h : p.screens c = .ok xs) :
    p.Discovers c xs := by
  obtain ⟨hdirectory, hnames⟩ := of_screens_eq_ok h
  rw [screens_eq hdirectory hnames] at h
  obtain ⟨found, hfound, rfl⟩ := map_eq_ok_iff.1 h
  have hread := mapM_eq_ok_iff.1 hfound
  have hsorted : Text.sorted (p.screenNames c) = found.map (·.name) := by
    rw [← List.forall₂_eq_eq_eq, List.forall₂_map_right_iff]
    exact hread.imp fun name s hs => (name_of_readScreen hs).symm
  have hlisted : ((found.mergeSort DiscoveredScreen.before).map (·.name)).Perm (p.screenNames c) :=
    ((List.mergeSort_perm _ _).map _).trans (hsorted ▸ Text.sorted_perm _)
  constructor
  case directory => exact hdirectory
  case nonempty =>
    intro hnil
    rw [hnil] at hlisted
    exact hnames hlisted.nil_eq.symm
  case listed => exact hlisted
  case read =>
    intro s hs
    obtain ⟨name, -, hs⟩ := exists_left_of_forall₂ hread ((List.mergeSort_perm _ _).mem_iff.1 hs)
    rw [name_of_readScreen hs, hs]
  case ordered => exact pairwise_mergeSort_before found

/-- The screens of a project are determined by what its screens directory lists. -/
theorem screens_eq_ok_iff {xs : List DiscoveredScreen} :
    p.screens c = .ok xs ↔ p.Discovers c xs := by
  refine ⟨discovers_of_screens, fun h => ?_⟩
  have hnames : p.screenNames c ≠ [] := by
    intro hnil
    have hlisted := h.listed
    rw [hnil] at hlisted
    exact h.nonempty (List.map_eq_nil_iff.1 hlisted.eq_nil)
  have hown : List.Forall₂ (fun name s => p.readScreen (p.resolve c.screensDir) name = .ok s)
      (xs.map (·.name)) xs :=
    List.forall₂_map_left_iff.2 (List.forall₂_same.2 h.read)
  -- the names are sorted before the documents are read, and the screens afterwards
  obtain ⟨found, hfound, hperm⟩ :=
    List.perm_comp_forall₂ ((Text.sorted_perm _).trans h.listed.symm) hown
  rw [screens_eq h.directory hnames, map_eq_ok_iff]
  refine ⟨found, mapM_eq_ok_iff.2 hfound, ?_⟩
  have hsorted := (List.mergeSort_perm found DiscoveredScreen.before).trans hperm
  refine hsorted.eq_of_pairwise (fun s t hs ht hst hts => ?_) (pairwise_mergeSort_before found)
    h.ordered
  have hread := h.read s (hsorted.mem_iff.1 hs)
  rw [name_eq_of_inOrder hst hts, h.read t ht] at hread
  exact (Except.ok.inj hread).symm

/-- The screens are the same where the same names are listed and each screen is read again. -/
lemma Discovers.again {xs : List DiscoveredScreen} (h : p.Discovers c xs)
    (hdirectory : p'.files.isDirectory (p'.resolve c.screensDir) = true)
    (hnames : (p'.screenNames c).Perm (p.screenNames c))
    (hread : ∀ (name : String) screen, name.endsWith screenSuffix = true →
      p.readScreen (p.resolve c.screensDir) name = .ok screen →
        p'.readScreen (p'.resolve c.screensDir) name = .ok screen) : p'.Discovers c xs where
  directory := hdirectory
  nonempty := h.nonempty
  listed := h.listed.trans hnames.symm
  read s hs := by
    have hmem := h.listed.mem_iff.1 (List.mem_map_of_mem hs)
    exact hread _ _ (List.mem_filter.1 hmem).2 (h.read s hs)
  ordered := h.ordered

/-- A name that is listed is that of a screen that is read. -/
lemma Discovers.exists_read {xs : List DiscoveredScreen} (h : p.Discovers c xs) {name : String}
    (hname : name ∈ p.screenNames c) :
    ∃ s, p.readScreen (p.resolve c.screensDir) name = .ok s := by
  obtain ⟨s, hs, rfl⟩ := List.mem_map.1 (h.listed.mem_iff.2 hname)
  exact ⟨s, h.read s hs⟩

/-! ### Places of screens -/

lemma locate_screensDir (h : p.files.isDirectory (p.resolve c.screensDir) = true) :
    p.files.locate (p.resolve c.screensDir) = .ok (p.resolve c.screensDir).parts ∧
      p.files.get? (p.resolve c.screensDir).parts = some .directory := by
  obtain ⟨place, hplace, hentry⟩ := FileTree.isDirectory_iff.1 h
  obtain rfl := (FileTree.locate_eq_ok_iff.1 hplace).1
  rw [follow_resolve] at hplace hentry
  exact ⟨hplace, hentry⟩

lemma mem_screenNames_iff {name : String}
    (h : p.files.isDirectory (p.resolve c.screensDir) = true) : name ∈ p.screenNames c ↔
      (p.files.get? ((p.resolve c.screensDir).parts ++ [name])).isSome ∧
        name.endsWith screenSuffix = true := by
  rw [screenNames, List.mem_filter, FileTree.mem_namesIn_iff (locate_screensDir h).1]

lemma ne_dots_of_screen {name : String} (h : name.endsWith screenSuffix = true) : name ≠ ".." :=
  Path.ne_dots_of_endsWith (by decide) h

lemma follow_screen {name : String} (h : name.endsWith screenSuffix = true) :
    Path.follow [] ((p.resolve c.screensDir).child name).parts =
      (p.resolve c.screensDir).parts ++ [name] := by
  rw [Path.child, Path.follow_child (ne_dots_of_screen h), follow_resolve]

/-- A directory among the screens cannot be read as one. -/
lemma readScreen_directory {name : String}
    (hscreens : p.files.isDirectory (p.resolve c.screensDir) = true)
    (hname : name.endsWith screenSuffix = true)
    (hdirectory : p.files.get? ((p.resolve c.screensDir).parts ++ [name]) = some .directory) :
    p.files.isDirectory ((p.resolve c.screensDir).child name) = true ∧
      p.readScreen (p.resolve c.screensDir) name =
        .error (.unreadable "Screen spec" ((p.resolve c.screensDir).child name).toText
          (FileFault.mk .isDirectory ((p.resolve c.screensDir).child name)).message) := by
  obtain ⟨hplace, hentry⟩ := locate_screensDir hscreens
  have hchild := (FileTree.locate_child_iff (ne_dots_of_screen hname)).2
    ⟨_, hplace, hentry, rfl⟩
  refine ⟨FileTree.isDirectory_iff.2 ⟨_, hchild, hdirectory⟩, ?_⟩
  rw [readScreen, readJson, FileTree.readText, hchild]
  simp [hdirectory, Except.map]

namespace Undisturbed

lemma isDirectory_screensDir (h : Undisturbed c es p p')
    (hdirectory : p.files.isDirectory (p.resolve c.screensDir) = true) :
    p'.files.isDirectory (p'.resolve c.screensDir) = true := by
  obtain ⟨hplace, hentry⟩ := locate_screensDir hdirectory
  rw [h.resolve_eq]
  exact FileTree.isDirectory_iff.2
    ⟨_, h.changes.keeps_locate hplace, h.changes.keeps_directory hentry⟩

lemma screen_notMem (h : Undisturbed c es p p') {above : List String} {name : String}
    (hname : name.endsWith screenSuffix = true) (s : String) :
    (above ++ [name], .file s) ∉ es := by
  intro hs
  rw [(h.names _ _ _ hs).2] at hname
  cases hname

lemma readScreen (h : Undisturbed c es p p') {name : String} {screen : DiscoveredScreen}
    (hname : name.endsWith screenSuffix = true)
    (hscreen : p.readScreen (p.resolve c.screensDir) name = .ok screen) :
    p'.readScreen (p'.resolve c.screensDir) name = .ok screen := by
  obtain ⟨document, hdocument, hmk⟩ := map_eq_ok_iff.1 hscreen
  rw [h.resolve_eq, Project.readScreen,
    readJson_eq_ok (fun _ => h.changes.keeps_readText fun s hs => ?_) hdocument, ← hmk]
  · rfl
  · rw [follow_screen hname] at hs
    exact h.screen_notMem hname s hs

/-- The screens are read again when no directory has come among them. -/
lemma screens (h : Undisturbed c es p p') {xs : List DiscoveredScreen}
    (hnone : ∀ name : String, ((p.resolve c.screensDir).parts ++ [name], .directory) ∈ es →
      name.endsWith screenSuffix = false) (hxs : p.screens c = .ok xs) :
    p'.screens c = .ok xs := by
  have hfound := discovers_of_screens hxs
  have hsame : p'.screenNames c = p.screenNames c := by
    rw [screenNames, h.resolve_eq, screenNames]
    refine h.changes.filter_namesIn (locate_screensDir hfound.directory).1 fun name e he => ?_
    cases e with
    | file s => exact (h.names _ _ _ he).2
    | directory => exact hnone name he
  exact screens_eq_ok_iff.2 (hfound.again (h.isDirectory_screensDir hfound.directory)
    (.of_eq hsame) fun _ _ hname hscreen => h.readScreen hname hscreen)

variable {schedule : Nat → Schedule} {r : Compilation}

/-- What was compiled is compiled again when no directory has come among the screens. -/
lemma compile (h : Undisturbed c es p p')
    (hnone : ∀ name : String, ((p.resolve c.screensDir).parts ++ [name], .directory) ∈ es →
      name.endsWith screenSuffix = false) (hr : p.compile c schedule = .ok r) :
    p'.compile c schedule = .ok r := by
  unfold Project.compile at hr ⊢
  obtain ⟨k, hk, hr⟩ := bind_eq_ok_iff.1 hr
  obtain ⟨xs, hxs, hr⟩ := bind_eq_ok_iff.1 hr
  rw [h.rereads.compiler hk, refuse, h.screens hnone (mapError_eq_ok_iff.1 hxs),
    h.rereads.source_eq]
  exact hr

end Undisturbed
end Screenwright.Project
