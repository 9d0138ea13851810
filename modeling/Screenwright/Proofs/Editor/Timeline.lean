import Mathlib.Data.List.DropRight
import Screenwright.Proofs.Editor.Steps

/-! The timeline of an editor: the screens before the current one, the current one, and those that
were undone. Undo and redo walk along it, and a change cuts it off behind the current screen. -/
namespace Screenwright

namespace History
variable {α : Type}

/-- The snapshots around a current state, oldest first. -/
def timeline (h : History α) (current : α) : List α := h.past.reverse ++ current :: h.future

/-- Past and future together stay within the limit. -/
def Fits (h : History α) : Prop := h.undoDepth + h.redoDepth ≤ h.limit

lemma past_reverse_remember (h : History α) (s : α) :
    (h.remember s).reverse = (h.past.reverse ++ [s]).rtake h.limit := by
  simp [remember, List.rtake_eq_reverse_take_reverse]

/-- While something can be redone there is room for one more snapshot. -/
lemma remember_of_fits {h : History α} (hfits : h.Fits) (hredo : h.future ≠ []) (s : α) :
    h.remember s = s :: h.past := by
  apply List.take_of_length_le
  have hpos : 0 < h.future.length := List.length_pos_iff.2 hredo
  simp only [Fits, undoDepth, redoDepth] at hfits
  simp only [List.length_cons]
  omega

lemma timeline_record (h : History α) (s s' : α) :
    (h.record s).timeline s' = (h.past.reverse ++ [s]).rtake h.limit ++ [s'] := by
  simp [timeline, record, past_reverse_remember]

lemma fits_record (h : History α) (s : α) : (h.record s).Fits := by
  simp only [Fits, record, remember, undoDepth, redoDepth, List.length_take, List.length_nil]
  omega

end History

/-- A column with one text in it. -/
def textColumn : ScreenSpec :=
  { route := "/"
    tree := .branch { id := "root", type := "Stack" } [.leaf { id := "title", type := "Text" }] }

namespace Editor

/-- The screens before the current one, the current one, and the undone ones. -/
def timeline (ed : Editor) : List ScreenSpec := ed.history.timeline ed.spec

/-- An undo with a past steps back on the timeline. -/
lemma undo_spec {ed : Editor} {s : ScreenSpec} {past : List ScreenSpec}
    (h : ed.history.past = s :: past) :
    ed.undo.2 = .applied ∧ ed.undo.1.spec = s ∧
      ed.undo.1.history =
        { ed.history with past := past, future := ed.spec :: ed.history.future } := by
  rcases ed.undo_cases with ⟨hnil, -⟩ | ⟨s', past', hpast, hundo⟩
  · simp [hnil] at h
  · obtain ⟨rfl, rfl⟩ : s = s' ∧ past = past' := by simpa [h] using hpast
    rw [hundo]
    exact ⟨rfl, rfl, rfl⟩

/-- A redo with a future steps forward on the timeline, and drops nothing while past and future
fit. -/
lemma redo_spec {ed : Editor} {s : ScreenSpec} {future : List ScreenSpec} (hfits : ed.history.Fits)
    (h : ed.history.future = s :: future) :
    ed.redo.2 = .applied ∧ ed.redo.1.spec = s ∧
      ed.redo.1.history =
        { ed.history with past := ed.spec :: ed.history.past, future := future } := by
  rcases ed.redo_cases with ⟨hnil, -⟩ | ⟨s', future', hfuture, hredo⟩
  · simp [hnil] at h
  · obtain ⟨rfl, rfl⟩ : s = s' ∧ future = future' := by simpa [h] using hfuture
    rw [hredo, History.remember_of_fits hfits (by simp [h])]
    exact ⟨rfl, rfl, rfl⟩

lemma fits_undo {ed : Editor} (hfits : ed.history.Fits) :
    ed.undo.1.history.Fits ∧ ed.undo.1.history.limit = ed.history.limit := by
  cases h : ed.history.past with
  | nil =>
    rcases ed.undo_cases with ⟨-, hundo⟩ | ⟨_, _, hpast, -⟩
    · rw [hundo]; exact ⟨hfits, rfl⟩
    · simp [h] at hpast
  | cons s past =>
    rw [(undo_spec h).2.2]
    refine ⟨?_, rfl⟩
    simp only [History.Fits, History.undoDepth, History.redoDepth, h, List.length_cons] at hfits ⊢
    omega

lemma fits_redo {ed : Editor} (hfits : ed.history.Fits) :
    ed.redo.1.history.Fits ∧ ed.redo.1.history.limit = ed.history.limit := by
  cases h : ed.history.future with
  | nil =>
    rcases ed.redo_cases with ⟨-, hredo⟩ | ⟨_, _, hfuture, -⟩
    · rw [hredo]; exact ⟨hfits, rfl⟩
    · simp [h] at hfuture
  | cons s future =>
    rw [(redo_spec hfits h).2.2]
    refine ⟨?_, rfl⟩
    simp only [History.Fits, History.undoDepth, History.redoDepth, h, List.length_cons] at hfits ⊢
    omega

/-- Every command keeps past and future within the limit, and the limit itself. -/
theorem fits_step (source : IdSource) {ed : Editor} (c : Command) (hfits : ed.history.Fits) :
    (ed.step source c).1.history.Fits ∧ (ed.step source c).1.history.limit = ed.history.limit := by
  by_cases hc : c.isMutation = true
  · obtain ⟨r, hstep, ⟨_, -, hed⟩ | ⟨-, hrec⟩⟩ := ed.step_mutation source hc
    · rw [hstep, replying, hed]
      exact ⟨hfits, rfl⟩
    · rw [hstep, replying, hrec.history]
      exact ⟨History.fits_record _ _, rfl⟩
  · by_cases hundo : c = .undo
    · subst hundo; exact fits_undo hfits
    · by_cases hredo : c = .redo
      · subst hredo; exact fits_redo hfits
      · rw [(ed.step_still source (by simpa using hc) hundo hredo).2]
        exact ⟨hfits, rfl⟩

theorem fits_run (source : IdSource) {ed : Editor} (cs : List Command) (hfits : ed.history.Fits) :
    (ed.run source cs).history.Fits ∧ (ed.run source cs).history.limit = ed.history.limit := by
  induction cs generalizing ed with
  | nil => exact ⟨hfits, rfl⟩
  | cons c cs ih =>
    obtain ⟨hstep, hlimit⟩ := fits_step source c hfits
    obtain ⟨hrun, hlimit'⟩ := ih hstep
    exact ⟨hrun, hlimit'.trans hlimit⟩

/-- As many redos as undos lead back, if there is a past for the undos. -/
theorem run_undo_redo (source : IdSource) (k : Nat) {ed : Editor} (hfits : ed.history.Fits)
    (hk : k ≤ ed.history.undoDepth) :
    (ed.run source (List.replicate k .undo ++ List.replicate k .redo)).spec = ed.spec ∧
      (ed.run source (List.replicate k .undo ++ List.replicate k .redo)).history = ed.history := by
  induction k generalizing ed with
  | zero => exact ⟨rfl, rfl⟩
  | succ k ih =>
    cases h : ed.history.past with
    | nil => simp [History.undoDepth, h] at hk
    | cons s past =>
      obtain ⟨-, hspec, hhistory⟩ := undo_spec h
      have hk' : k ≤ ed.undo.1.history.undoDepth := by
        simp only [hhistory, History.undoDepth, h, List.length_cons] at hk ⊢
        omega
      obtain ⟨hs, hh⟩ := ih (fits_undo hfits).1 hk'
      rw [List.replicate_succ, List.replicate_succ', List.cons_append, run_cons,
        ← List.append_assoc, run_append]
      change ((ed.undo.1.run source _).redo.1).spec = _ ∧
        ((ed.undo.1.run source _).redo.1).history = _
      generalize ed.undo.1.run source (List.replicate k .undo ++ List.replicate k .redo) = back
        at hs hh ⊢
      rw [hspec] at hs
      rw [hhistory] at hh
      have hback : back.history.Fits := by
        rw [hh, ← hhistory]
        exact (fits_undo hfits).1
      have hfuture : back.history.future = ed.spec :: ed.history.future := by rw [hh]
      obtain ⟨-, hs', hh'⟩ := redo_spec hback hfuture
      rw [hs', hh', hs, hh, ← h]
      exact ⟨rfl, rfl⟩

/-- How an editor with room for `limit` snapshots moves on its timeline. -/
structure WalksTimeline (source : IdSource) (limit : Nat) (ed : Editor) : Prop where
  undo : ed.history.past ≠ [] →
    ed.undo.2 = .applied ∧ ed.undo.1.timeline = ed.timeline ∧
      ed.undo.1.history.undoDepth + 1 = ed.history.undoDepth
  undo_at_start : ed.history.past = [] → ed.undo = (ed, .rejected .nothingToUndo)
  redo : ed.history.future ≠ [] →
    ed.redo.2 = .applied ∧ ed.redo.1.timeline = ed.timeline ∧
      ed.redo.1.history.undoDepth = ed.history.undoDepth + 1
  redo_at_end : ed.history.future = [] → ed.redo = (ed, .rejected .nothingToRedo)
  change : ∀ c : Command, c.isMutation → (ed.step source c).2 = .outcome .applied →
    (ed.step source c).1.timeline =
      (ed.history.past.reverse ++ [ed.spec]).rtake limit ++ [(ed.step source c).1.spec]
  bounded : ed.history.undoDepth + ed.history.redoDepth ≤ limit
  there_and_back : ∀ k ≤ ed.history.undoDepth,
    (ed.run source (List.replicate k .undo ++ List.replicate k .redo)).spec = ed.spec ∧
      (ed.run source (List.replicate k .undo ++ List.replicate k .redo)).history = ed.history

lemma walksTimeline_of_fits (source : IdSource) {ed : Editor} (hfits : ed.history.Fits) :
    ed.WalksTimeline source ed.history.limit where
  undo hpast := by
    obtain ⟨s, past, h⟩ := List.exists_cons_of_ne_nil hpast
    obtain ⟨happlied, hspec, hhistory⟩ := undo_spec h
    refine ⟨happlied, ?_, ?_⟩
    · simp [timeline, History.timeline, hspec, hhistory, h]
    · simp [hhistory, History.undoDepth, h]
  undo_at_start hpast := by
    rcases ed.undo_cases with ⟨-, hundo⟩ | ⟨s, past, h, -⟩
    · exact hundo
    · simp [hpast] at h
  redo hfuture := by
    obtain ⟨s, future, h⟩ := List.exists_cons_of_ne_nil hfuture
    obtain ⟨happlied, hspec, hhistory⟩ := redo_spec hfits h
    refine ⟨happlied, ?_, ?_⟩
    · simp [timeline, History.timeline, hspec, hhistory, h]
    · simp [hhistory, History.undoDepth]
  redo_at_end hfuture := by
    rcases ed.redo_cases with ⟨-, hredo⟩ | ⟨s, future, h, -⟩
    · exact hredo
    · simp [hfuture] at h
  change c hc happlied := by
    obtain ⟨r, hstep, ⟨reason, ho, -⟩ | ⟨-, hrec⟩⟩ := ed.step_mutation source hc
    · simp [hstep, replying, ho] at happlied
    · rw [hstep, replying, timeline, hrec.history, History.timeline_record]
  bounded := hfits
  there_and_back k hk := run_undo_redo source k hfits hk

/-- Whatever commands an editor has run, it walks a timeline that its limit bounds. -/
theorem run_walksTimeline (source : IdSource) (spec : ScreenSpec) {limit : Int}
    (hlimit : 1 ≤ limit) :
    ∃ start, create spec limit = .ok start ∧
      ∀ commands, (start.run source commands).WalksTimeline source limit.toNat := by
  refine ⟨_, create_eq spec hlimit, fun commands => ?_⟩
  let start : Editor := { spec := spec, history := History.empty limit.toNat }
  have hempty : start.history.Fits := by
    simp [start, History.Fits, History.empty, History.undoDepth, History.redoDepth]
  obtain ⟨hfits, hsame⟩ := fits_run source commands hempty
  have h := walksTimeline_of_fits source hfits
  rwa [hsame] at h

/-- Two snapshots are kept of three additions, one of which is undone. -/
theorem run_walksTimeline_additions :
    (1 : Int) ≤ 2 ∧ ∃ start, create textColumn 2 = .ok start ∧
      (start.run (.clocked fun _ => 0)
        [.addNode "root" (.leaf { id := "a", type := "Text" }) none,
          .addNode "root" (.leaf { id := "b", type := "Text" }) (some 0),
          .addNode "root" (.leaf { id := "c", type := "Text" }) none,
          .undo]).WalksTimeline (.clocked fun _ => 0) 2 := by
  obtain ⟨start, hstart, h⟩ :=
    run_walksTimeline (.clocked fun _ => 0) textColumn (show (1 : Int) ≤ 2 by decide)
  exact ⟨by decide, start, hstart, h _⟩

end Editor
end Screenwright
