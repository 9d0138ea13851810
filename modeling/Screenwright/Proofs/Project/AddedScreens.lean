import Screenwright.Proofs.Files.Effects
import Screenwright.Proofs.Json.Documents
import Screenwright.Proofs.Project.Screens
import Screenwright.Proofs.Text.Tidying

/-! Screens that are added. A new screen is written where there was nothing, with a document that is
read again, and the screens of the project are then those it had and the new one. Its file is new,
but its route may be that of a screen that is there. -/
namespace Screenwright

/-- The document of a new screen is one that is read again. -/
lemma ScreenName.isRestorable_template (name : String) : (template name).IsRestorable := by
  have hone : (Nat.toDigits 10 1).length ≤ maxIntegerDigits := by decide
  simp [template, Fields.keys, hone]

namespace Project
variable {p p' : Project} {c : Config} {name : String} {path : Path} {e : Interruption}

/-! ### The file of a new screen -/

lemma ne_dots_of_screenName (name : String) : name ++ screenSuffix ≠ ".." :=
  ne_dots_of_screen (endsWith_append name screenSuffix)

lemma dots_notMem_screensDir (p : Project) (c : Config) :
    ".." ∉ (p.resolve c.screensDir).parts := Path.dots_notMem_resolve p.root _

lemma get?_of_free (hwf : p.files.WellFormed)
    (h : p.files.pathExists ((p.resolve c.screensDir).child (name ++ screenSuffix)) = false) :
    p.files.get? ((p.resolve c.screensDir).child (name ++ screenSuffix)).parts = none := by
  refine FileTree.get?_of_not_pathExists hwf ?_ h
  simp only [Path.child, List.mem_append, List.mem_singleton, not_or]
  exact ⟨dots_notMem_screensDir p c, (ne_dots_of_screenName name).symm⟩

/-- The place of a new screen. -/
def newPlace (p : Project) (c : Config) (name : String) : List String :=
  (p.resolve c.screensDir).parts ++ [name ++ screenSuffix]

lemma follow_newPlace : Path.follow []
    ((p.resolve c.screensDir).child (name ++ screenSuffix)).parts = p.newPlace c name :=
  follow_screen (endsWith_append name screenSuffix)

/-- A screen is added where there was nothing. -/
lemma changesWithin_addScreen (hwf : p.files.WellFormed) :
    p.files.ChangesWithin
      (fun place => p.files.get? place = none ∧ place = p.newPlace c name)
      (p.addScreen c name).1.files := by
  unfold addScreen
  split
  · exact .refl
  · dsimp only
    split
    · exact .refl
    · next hfree =>
      dsimp only
      refine (FileTree.changesWithin_writeWithDirectory hwf).mono ?_
      rintro _ rfl
      rw [follow_newPlace]
      exact ⟨get?_of_free hwf (Bool.eq_false_iff.2 hfree), rfl⟩

/-- What adding a screen does to the files: its document is there, where there was nothing, and
beside it only directories on the way to it have come. -/
structure Adds (p p' : Project) (c : Config) (name : String) (path : Path)
    (es : List (List String × FileEntry)) : Prop where
  root : p'.root = p.root
  path_eq : path = (p.resolve c.screensDir).child (name ++ screenSuffix)
  absent : p.files.get? (p.newPlace c name) = none
  contents : p'.files.contents? path = some ((ScreenName.template name).document 0 ++ "\n")
  changes : p.files.Changes es p'.files
  parts : ∀ x ∈ es, FileTree.PartOfWriting path ((ScreenName.template name).document 0 ++ "\n") x

lemma exists_adds (hwf : p.files.WellFormed) (h : p.addScreen c name = (p', .ok path)) :
    ∃ es, Adds p p' c name path es := by
  unfold addScreen at h
  split at h
  · cases h
  · dsimp only at h
    split at h
    · cases h
    · next hfree =>
      cases hwrite : p.files.writeWithDirectory
          ((p.resolve c.screensDir).child (name ++ screenSuffix))
          ((ScreenName.template name).document 0 ++ "\n") with
      | mk t written =>
        rw [hwrite] at h
        obtain ⟨rfl, hpath⟩ := Prod.mk.inj h
        obtain ⟨_, hwritten, rfl⟩ := map_eq_ok_iff.1 hpath
        obtain rfl := mapError_eq_ok_iff.1 hwritten
        obtain ⟨hcontents, es, hchanges, hparts⟩ :=
          FileTree.changes_of_writeWithDirectory hwf hwrite
        exact ⟨es, rfl, rfl, get?_of_free hwf (Bool.eq_false_iff.2 hfree), hcontents, hchanges,
          hparts⟩

namespace Adds
variable {es : List (List String × FileEntry)}

lemma resolve_eq (h : Adds p p' c name path es) : p'.resolve = p.resolve :=
  resolve_eq_of_root h.root

/-- In the screens directory nothing else has changed. -/
lemma eq_of_mem (h : Adds p p' c name path es) {other : String} {e : FileEntry}
    (he : ((p.resolve c.screensDir).parts ++ [other], e) ∈ es) : other = name ++ screenSuffix := by
  have hpart := h.parts _ he
  cases e with
  | file s =>
    have hplace := hpart.place_eq
    rw [h.path_eq, follow_newPlace, newPlace] at hplace
    simpa using hplace
  | directory =>
    -- a directory on the way is not as deep as the screens are
    have hleads := hpart.leadsThrough
    have hdots := dots_notMem_screensDir p c
    rw [h.path_eq, Path.leadsThrough_child, follow_resolve] at hleads
    obtain ⟨n, hn, hplace⟩ | hplace := hleads
    · rw [Path.follow_eq_append fun hmem => hdots (List.mem_of_mem_take hmem)] at hplace
      have hlength := congrArg List.length hplace
      simp only [List.length_append, List.length_singleton, List.length_nil,
        List.length_take] at hlength
      omega
    · simp at hplace

lemma get?_newPlace (h : Adds p p' c name path es) :
    p'.files.locate path = .ok (p.newPlace c name) ∧ p'.files.get? (p.newPlace c name) =
      some (.file ((ScreenName.template name).document 0 ++ "\n")) := by
  obtain ⟨place, hplace, hfile⟩ := FileTree.contents?_eq_some_iff.1 h.contents
  obtain rfl := (FileTree.locate_eq_ok_iff.1 hplace).1
  rw [h.path_eq, follow_newPlace] at hplace hfile
  exact ⟨h.path_eq ▸ hplace, hfile⟩

lemma isDirectory_screensDir (h : Adds p p' c name path es) :
    p'.files.isDirectory (p'.resolve c.screensDir) = true := by
  have hplace := h.get?_newPlace.1
  rw [h.path_eq, FileTree.locate_child_iff (ne_dots_of_screenName name)] at hplace
  obtain ⟨above, habove, hdirectory, -⟩ := hplace
  rw [h.resolve_eq]
  exact FileTree.isDirectory_iff.2 ⟨above, habove, hdirectory⟩

/-- The new screen is listed after those that were there. -/
lemma screenNames_eq (h : Adds p p' c name path es) (hwf : p.files.WellFormed) :
    p'.screenNames c = p.screenNames c ++ [name ++ screenSuffix] := by
  rw [screenNames, h.resolve_eq]
  refine h.changes.filter_namesIn_concat hwf (dots_notMem_screensDir p c)
    (endsWith_append name screenSuffix) h.absent ?_ fun other e he => .inl (h.eq_of_mem he)
  exact Option.isSome_iff_exists.2 ⟨_, h.get?_newPlace.2⟩

/-- The new screen is read with the document it was given. -/
lemma readScreen_new (h : Adds p p' c name path es) :
    p'.readScreen (p'.resolve c.screensDir) (name ++ screenSuffix) =
      .ok ⟨path, ScreenName.template name⟩ := by
  have hrestorable := ScreenName.isRestorable_template name
  have htext : p'.files.readText path =
      .ok ((ScreenName.template name).document 0 ++ "\n") := by
    obtain ⟨hplace, hfile⟩ := h.get?_newPlace
    refine FileTree.readText_eq_ok_iff.2 ⟨_, _, hplace, hfile, ?_⟩
    rw [Text.unixLineEnds_eq_self, String.ofList_toList]
    simpa using Json.cr_notMem_document hrestorable 0
  rw [readScreen, h.resolve_eq, ← h.path_eq, readJson, htext]
  simp only [Json.ofText_document hrestorable]
  rfl

/-- The screens that were there are read as before. -/
lemma readScreen_old (h : Adds p p' c name path es) {other : String} {s : DiscoveredScreen}
    (hwf : p.files.WellFormed) (hother : other ∈ p.screenNames c)
    (hs : p.readScreen (p.resolve c.screensDir) other = .ok s) :
    p'.readScreen (p'.resolve c.screensDir) other = .ok s := by
  obtain ⟨document, hdocument, hmk⟩ := map_eq_ok_iff.1 hs
  rw [h.resolve_eq, readScreen, readJson_eq_ok (fun _ => h.changes.keeps_readText fun s hs => ?_)
    hdocument, ← hmk]
  · rfl
  · obtain ⟨hlisted, hscreen⟩ := List.mem_filter.1 hother
    have hsome := FileTree.isSome_of_mem_namesIn hwf (dots_notMem_screensDir p c) hlisted
    rw [follow_screen hscreen] at hs
    have habsent := h.absent
    rw [newPlace, ← h.eq_of_mem hs] at habsent
    rw [habsent] at hsome
    cases hsome

end Adds

/-! ### The screens of the project -/

/-- The screens of a project, of which there may be none. -/
def HasScreens (p : Project) (c : Config) (xs : List DiscoveredScreen) : Prop :=
  p.screens c = .ok xs ∨ xs = [] ∧ p.screenNames c = []

lemma HasScreens.listed {xs : List DiscoveredScreen} (h : p.HasScreens c xs) :
    (xs.map (·.name)).Perm (p.screenNames c) := by
  obtain h | ⟨rfl, h⟩ := h
  · exact (discovers_of_screens h).listed
  · rw [h]
    exact .refl _

lemma HasScreens.read {xs : List DiscoveredScreen} (h : p.HasScreens c xs) :
    ∀ s ∈ xs, p.readScreen (p.resolve c.screensDir) s.name = .ok s := by
  obtain h | ⟨rfl, -⟩ := h
  · exact (discovers_of_screens h).read
  · simp

/-- When a screen has been added, the screens of the project are those it had and the new one. -/
theorem screens_addScreen {xs : List DiscoveredScreen} (hwf : p.files.WellFormed)
    (hxs : p.HasScreens c xs) (h : p.addScreen c name = (p', .ok path)) :
    ∃ ys, p'.screens c = .ok ys ∧ ys.Perm (⟨path, ScreenName.template name⟩ :: xs) := by
  obtain ⟨es, hadds⟩ := exists_adds hwf h
  have hnew := hadds.readScreen_new
  have hname := name_of_readScreen hnew
  have hsorted := List.mergeSort_perm (⟨path, ScreenName.template name⟩ :: xs)
    DiscoveredScreen.before
  refine ⟨_, screens_eq_ok_iff.2 ?_, hsorted⟩
  constructor
  case directory => exact hadds.isDirectory_screensDir
  case nonempty => exact fun hnil => by simpa [hnil] using hsorted.length_eq
  case listed =>
    rw [hadds.screenNames_eq hwf]
    refine (hsorted.map _).trans ?_
    rw [List.map_cons, hname]
    exact (hxs.listed.cons _).trans (List.perm_append_singleton _ _).symm
  case read =>
    intro s hs
    obtain rfl | hs := List.mem_cons.1 (hsorted.mem_iff.1 hs)
    · rw [hname, hnew]
    · exact hadds.readScreen_old hwf (hxs.listed.mem_iff.1 (List.mem_map_of_mem hs)) (hxs.read s hs)
  case ordered => exact pairwise_mergeSort_before _

/-- When a screen has been added, the routes of all screens are distinct, as they were before,
unless the new route was claimed by one of them. -/
theorem addScreen_routes {xs : List DiscoveredScreen} (hwf : p.files.WellFormed)
    (hxs : p.HasScreens c xs) (hroutes : (xs.map (·.route)).Nodup)
    (h : p.addScreen c name = (p', .ok path)) :
    ∃ ys, p'.screens c = .ok ys ∧ ys.Perm (⟨path, ScreenName.template name⟩ :: xs) ∧
      ((ys.map (·.route)).Nodup ↔ ScreenName.route name ∉ xs.map (·.route)) := by
  obtain ⟨ys, hys, hperm⟩ := screens_addScreen hwf hxs h
  refine ⟨ys, hys, hperm, ?_⟩
  rw [(hperm.map _).nodup_iff, List.map_cons, List.nodup_cons, and_iff_left hroutes]
  rfl

/-! ### Two names of one route -/

/-- A project without screens. -/
def blank : Project where
  root := ⟨.root, ["project"]⟩
  files := ⟨[(["project"], .directory), (["project", "screens"], .directory)]⟩

def blankConfig : Config where
  framework := .html
  appDir := "app"
  componentsDir := "components"
  generatedDir := "out"
  screensDir := "screens"
  schemaPath := "schema.json"
  importAlias := "@"
  componentLibrary := none
  plugins := []
  tokens := none
  fonts := []
  components := none

/-- The first screen of a project has a route of its own. A second one of another name takes the
same route where the names differ in how their words are set apart. -/
theorem addScreen_routes_userProfile :
    ∃ p q path path' xs ys, blank.addScreen blankConfig "userProfile" = (p, .ok path) ∧
      p.addScreen blankConfig "user-profile" = (q, .ok path') ∧
      p.screens blankConfig = .ok xs ∧ (xs.map (·.route)).Nodup ∧
      q.screens blankConfig = .ok ys ∧ ¬ (ys.map (·.route)).Nodup := by
  have hwf : blank.files.WellFormed := by decide
  have hnone : blank.HasScreens blankConfig [] := .inr ⟨rfl, by decide +kernel⟩
  have hfirst : blank.addScreen blankConfig "userProfile" =
      ((blank.addScreen blankConfig "userProfile").1,
        .ok ⟨.root, ["project", "screens", "userProfile.screen.json"]⟩) :=
    Prod.ext rfl (by decide +kernel)
  have hsecond : (blank.addScreen blankConfig "userProfile").1.addScreen blankConfig
      "user-profile" = (((blank.addScreen blankConfig "userProfile").1.addScreen blankConfig
        "user-profile").1, .ok ⟨.root, ["project", "screens", "user-profile.screen.json"]⟩) :=
    Prod.ext rfl (by decide +kernel)
  obtain ⟨xs, hxs, hperm, hdistinct⟩ := addScreen_routes hwf hnone List.nodup_nil hfirst
  have hnodup := hdistinct.2 List.not_mem_nil
  obtain ⟨ys, hys, -, hroutes⟩ := addScreen_routes ((changesWithin_addScreen hwf).wellFormed hwf)
    (.inl hxs) hnodup hsecond
  refine ⟨_, _, _, _, xs, ys, hfirst, hsecond, hxs, hnodup, hys, fun h => hroutes.1 h ?_⟩
  have hroute : ScreenName.route "user-profile" = ScreenName.route "userProfile" := by
    decide +kernel
  rw [hroute, (hperm.map _).mem_iff]
  exact List.mem_cons_self

end Project
end Screenwright
