import Screenwright.Document.Node

/-! Screen documents: a route with its metadata and the tree of nodes. -/
namespace Screenwright

/-- Metadata of a screen; keys beyond the two known ones are kept. -/
structure ScreenMeta where
  layout : Option String
  auth : Option String
  extras : Fields Json

/-- A screen document. -/
structure ScreenSpec where
  version : Int := 1
  route : String
  metadata : Option ScreenMeta := none
  tree : Node
  deriving Inhabited

namespace ScreenMeta

def decode : Json → Decoded ScreenMeta :=
  Decode.record "ScreenMeta" fun fs =>
    (fun layout auth => ⟨layout, auth, Decode.unknown ["layout", "auth"] fs⟩)
      <$> Decode.optional fs "layout" Decode.text <*> Decode.optional fs "auth" Decode.text

def toJson (m : ScreenMeta) : Json :=
  .obj (presentFields [("layout", m.layout.map .str), ("auth", m.auth.map .str)] ++
    m.extras.filter fun e => !e.2.isNull)

end ScreenMeta

namespace ScreenSpec

def decode : Json → Decoded ScreenSpec :=
  Decode.record "ScreenSpec" fun fs =>
    Decode.closed ["version", "route", "meta", "tree"] fs
      (ScreenSpec.mk <$> Decode.fieldOr fs "version" 1 Decode.integer
        <*> Decode.required fs "route" Decode.text
        <*> Decode.optional fs "meta" ScreenMeta.decode
        <*> Decode.required fs "tree" Node.decodeInside)

def toJson (s : ScreenSpec) : Json :=
  .obj (presentFields [("version", some (.int s.version)), ("route", some (.str s.route)),
    ("meta", s.metadata.map ScreenMeta.toJson), ("tree", some s.tree.toJson)])

end ScreenSpec
end Screenwright
