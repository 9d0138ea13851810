import Screenwright.Proofs.Files.Changes

/-! What writing leaves alone, whether or not it succeeds: files are changed only where they may be
written, and a file of a new name is written without fail where its directory is. -/
namespace Screenwright.FileTree
variable {t t' : FileTree} {place : List String} {e : FileEntry} {p d : Path} {s name : String}
  {written written' : List String → Prop}

/-- A tree after changes that write no files but at some places. -/
def ChangesWithin (written : List String → Prop) (t t' : FileTree) : Prop :=
  ∃ es, t.Changes es t' ∧ ∀ place s, (place, .file s) ∈ es → written place

namespace ChangesWithin

lemma refl : t.ChangesWithin written t := ⟨[], .nil t, by simp⟩

lemma trans {t'' : FileTree} (h : t.ChangesWithin written t')
    (h' : t'.ChangesWithin written t'') : t.ChangesWithin written t'' := by
  obtain ⟨es, hchanges, hes⟩ := h
  obtain ⟨es', hchanges', hes'⟩ := h'
  refine ⟨es ++ es', hchanges.trans hchanges', fun place s hs => ?_⟩
  exact (List.mem_append.1 hs).elim (hes place s) (hes' place s)

lemma mono (h : t.ChangesWithin written t') (himp : ∀ place, written place → written' place) :
    t.ChangesWithin written' t' := by
  obtain ⟨es, hchanges, hes⟩ := h
  exact ⟨es, hchanges, fun place s hs => himp place (hes place s hs)⟩

lemma wellFormed (h : t.ChangesWithin written t') (hwf : t.WellFormed) : t'.WellFormed := by
  obtain ⟨es, hchanges, -⟩ := h
  exact hchanges.wellFormed hwf

/-- Elsewhere the files are the same before and after. -/
lemma get?_eq_file_iff (h : t.ChangesWithin written t') (hplace : ¬ written place) :
    t'.get? place = some (.file s) ↔ t.get? place = some (.file s) := by
  obtain ⟨es, hchanges, hes⟩ := h
  exact hchanges.get?_eq_file_iff fun s hs => hplace (hes place s hs)

end ChangesWithin

lemma changesWithin_writeWithDirectory (hwf : t.WellFormed) :
    t.ChangesWithin (· = Path.follow [] p.parts) (t.writeWithDirectory p s).1 := by
  unfold writeWithDirectory
  split
  · exact .refl
  · next t₁ hdirectories =>
    obtain ⟨es, hchanges, hes⟩ := changes_of_makeDirectories hdirectories
    have hfirst : t.ChangesWithin (· = Path.follow [] p.parts) t₁ := by
      refine ⟨es, hchanges, fun place s hs => ?_⟩
      obtain ⟨n, -, heq⟩ := hes _ hs
      cases heq
    split
    · exact hfirst
    · next hwrite =>
      obtain ⟨-, hchange, rfl⟩ := change_of_writeFile (hfirst.wellFormed hwf) hwrite
      exact hfirst.trans ⟨_, .single hchange, by simp⟩

/-! ### A new name in a directory -/

/-- Nothing is at a path that does not exist. -/
lemma get?_of_not_pathExists (hwf : t.WellFormed) (hdots : ".." ∉ p.parts)
    (h : t.pathExists p = false) : t.get? p.parts = none := by
  cases he : t.get? p.parts with
  | none => rfl
  | some e =>
    have hentry : t.entry? p = some e := entry?_eq_some_iff.2 ⟨_, locate_of_get? hwf hdots he, he⟩
    rw [pathExists, hentry] at h
    cases h

end Screenwright.FileTree
