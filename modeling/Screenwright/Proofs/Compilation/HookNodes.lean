import Screenwright.Proofs.Compilation.Isolation
import Screenwright.Proofs.Emit.Hooks
import Screenwright.Proofs.Reference.Replacement
import Screenwright.Proofs.Validation.Documents

/-! Which of the nodes that the hooks of plugins are given have been checked. The nodes of a
screen's own document have been, before its references were expanded; those of an expansion have
not. -/
namespace Screenwright

namespace Emit
open Node
variable {f : Framework} {plugins : PluginRegistry} {n k : Node} {p : NodePlugin}

lemma classify_of_reference (h : n.type = referenceType) :
    NodeKind.classify n.head.type n.head.props = .reference (referenceTarget? n.props) := by
  have hname : BuiltinType.ofName? referenceType = none := by decide
  rw [NodeKind.classify, show n.head.type = referenceType from h, hname]
  rfl

lemma shownChildren_of_reference {α : Type} (h : n.type = referenceType) (cs : List α) :
    shownChildren f plugins n.head cs = [] := by
  rw [shownChildren, classify_of_reference h]

lemma mapReferences_outside (g : Node → Node) (hn : n.type ≠ referenceType) :
    (mapReferences g n).head = n.head ∧
      (mapReferences g n).children = n.children.map (mapReferences g) := by
  cases n with
  | leaf e =>
    rw [mapReferences_leaf (e := e) g hn]
    exact ⟨rfl, rfl⟩
  | branch e cs =>
    rw [mapReferences_branch (e := e) g cs hn]
    exact ⟨rfl, rfl⟩

lemma Shown.trans {m : Node} (hm : Shown f plugins n m) (hk : Shown f plugins m k) :
    Shown f plugins n k := by
  induction hm with
  | refl n => exact hk
  | inside hc _ ih => exact .inside hc (ih hk)

/-- A node that is shown is shown after the replacement of references, or its replacement is. -/
lemma Shown.mapReferences {m : Node} (g : Node → Node) (hm : Shown f plugins n m) :
    Shown f plugins (mapReferences g n) (mapReferences g m) := by
  induction hm with
  | refl n => exact .refl _
  | @inside e cs c m hc _ ih =>
    have hn : (branch e cs).type ≠ referenceType := by
      intro href
      rw [← head_branch e cs, shownChildren_of_reference href] at hc
      cases hc
    obtain ⟨hhead, hchildren⟩ := mapReferences_outside g hn
    refine shown_iff.2 (.inr ⟨_, ?_, ih⟩)
    rw [hhead, hchildren, shownChildren_map]
    exact List.mem_map_of_mem hc

end Emit

namespace Compiler
open Emit
variable {c : Compiler} {s : SourceScreen} {spec : ScreenSpec} {e : EmittedScreen}

/-- A tree with its references expanded, as in the screens of the compiler. -/
def expanded (c : Compiler) (n : Node) : Node :=
  if c.registry.isEmpty then n else n.resolve c.registry

end Compiler
end Screenwright
