import Screenwright.Proofs.Compilation.Isolation
import Screenwright.Proofs.Emit.Faults

/-! Which valid screens are compiled. A compiler without definitions and plugins gives a file to
each of them, but for those whose trees cannot be rendered. -/
namespace Screenwright

/-! ### Nodes of plugins -/

/-- Plugins have nothing against a tree without nodes of theirs. -/
lemma PluginRegistry.treeIssues_eq_nil {r : PluginRegistry} {tree : Node}
    (h : ∀ e ∈ tree.elements, r.get? e.type = none) : r.treeIssues tree = [] := by
  refine List.flatMap_eq_nil_iff.2 fun e he => ?_
  have hmem : e.1 ∈ tree.nodes := Node.map_fst_walk tree "tree" ▸ List.mem_map_of_mem he
  have hnone : r.get? e.1.type = none := h e.1.head (List.mem_map_of_mem hmem)
  rw [nodeIssues, hnone]

namespace Compiler
variable {c : Compiler} {s : SourceScreen} {spec : ScreenSpec}

/-- A valid screen without nodes of plugins and with nothing to resolve is emitted as it is. -/
lemma compileScreen_of_own (h : c.validator.screen s.name s.document = .ok spec)
    (hplugins : ∀ e ∈ spec.tree.elements, c.context.plugins.get? e.type = none)
    (hresolved : c.resolved spec = spec) :
    c.compileScreen s =
      .ok ((Emit.emitScreen c.target c.context spec).mapError (.emission s.name)) := by
  unfold compileScreen
  rw [h]
  dsimp only
  rw [PluginRegistry.treeIssues_eq_nil hplugins, hresolved]

/-- A screen that the walk found valid. -/
lemma passes_of_screen (hwalk : c.validator = .walk)
    (h : c.validator.screen s.name s.document = .ok spec) : spec.Passes := by
  rw [hwalk] at h
  obtain ⟨haccepts, hread⟩ := Validator.screen_eq_ok_iff.1 h
  exact ScreenSpec.passes_of_decode haccepts hread

lemma breaks_emitScreen {f : Framework} {context : Emit.Context} :
    Breaks (Emit.emitScreen f context spec) ↔
      Breaks (Emit.screenContents f context (Emit.componentName spec.route) spec.tree) :=
  breaks_bind_pure _ _

end Compiler
end Screenwright
