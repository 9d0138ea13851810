import Screenwright.Json.Text
import Screenwright.Record.Decoded

/-! The configuration of a project. -/
namespace Screenwright

/-- The targets that screens are compiled for. -/
inductive Framework where
  | nextjs | vue | svelte | html | expo
  deriving DecidableEq, Repr

namespace Framework

def all : List Framework := [nextjs, vue, svelte, html, expo]

def name : Framework → String
  | nextjs => "nextjs"
  | vue => "vue"
  | svelte => "svelte"
  | html => "html"
  | expo => "expo"

def ofName? (s : String) : Option Framework := all.find? (name · == s)

@[simp] theorem ofName?_name (f : Framework) : ofName? f.name = some f := by
  cases f <;> rfl

end Framework

/-- Where a font comes from. -/
inductive FontSource where
  | google
  | local_
  deriving DecidableEq, Repr

namespace FontSource

def all : List FontSource := [google, local_]

def name : FontSource → String
  | google => "google"
  | local_ => "local"

end FontSource

/-- A font of the generated project. -/
structure FontEntry where
  family : String
  source : FontSource
  weights : Option (List String)
  files : Option (List String)

/-- A project's configuration; directories and files are relative to the project. -/
structure Config where
  framework : Framework
  appDir : String
  componentsDir : String
  generatedDir : String
  screensDir : String
  schemaPath : String
  importAlias : String
  componentLibrary : Option String
  plugins : List String
  tokens : Option String
  fonts : List FontEntry
  components : Option String

namespace FontEntry

def textList : Json → Decoded (List String) := Decode.listOf Decode.text

def decode : Json → Decoded FontEntry :=
  Decode.record "FontEntry" fun fs =>
    Decode.closed ["family", "source", "weights", "files"] fs
      (FontEntry.mk <$> Decode.required fs "family" Decode.text
        <*> Decode.required fs "source" (Decode.named FontSource.all FontSource.name)
        <*> Decode.optional fs "weights" textList
        <*> Decode.optional fs "files" textList)

def texts (xs : List String) : Json := .arr (xs.map .str)

def toJson (f : FontEntry) : Json :=
  .obj [("family", .str f.family), ("source", .str f.source.name),
    ("weights", (f.weights.map texts).getD .null), ("files", (f.files.map texts).getD .null)]

end FontEntry

namespace Config

/-- A text that is not empty. -/
def filledText : Json → Decoded String
  | .str s => if s = "" then .fault .emptyText else .ok s
  | _ => .fault .notString

/-- Reads a configuration; keys beyond its own are ignored. -/
def ofFields (fs : Fields Json) : Decoded Config :=
  Config.mk <$> Decode.required fs "framework" (Decode.named Framework.all Framework.name)
    <*> Decode.required fs "appDir" filledText
    <*> Decode.required fs "componentsDir" filledText
    <*> Decode.required fs "generatedDir" filledText
    <*> Decode.required fs "screensDir" filledText
    <*> Decode.required fs "schemaPath" filledText
    <*> Decode.required fs "importAlias" filledText
    <*> Decode.optional fs "componentLibrary" Decode.text
    <*> Decode.fieldOr fs "plugins" [] (Decode.listOf Decode.text)
    <*> Decode.optional fs "tokens" Decode.text
    <*> Decode.fieldOr fs "fonts" [] (Decode.listOf FontEntry.decode)
    <*> Decode.optional fs "components" Decode.text

def decode : Json → Decoded Config := Decode.record "StudioConfig" ofFields

def optionalText (s : Option String) : Json := (s.map Json.str).getD .null

/-- The document of a configuration, with null for what is not set. -/
def toJson (c : Config) : Json :=
  .obj [("framework", .str c.framework.name), ("appDir", .str c.appDir),
    ("componentsDir", .str c.componentsDir), ("generatedDir", .str c.generatedDir),
    ("screensDir", .str c.screensDir), ("schemaPath", .str c.schemaPath),
    ("importAlias", .str c.importAlias), ("componentLibrary", optionalText c.componentLibrary),
    ("plugins", FontEntry.texts c.plugins), ("tokens", optionalText c.tokens),
    ("fonts", .arr (c.fonts.map FontEntry.toJson)), ("components", optionalText c.components)]

/-- The path of a generated file. -/
def generatedPath (c : Config) (file : String) : String :=
  let directory := c.generatedDir.toList.reverse.dropWhile (· == '/') |>.reverse
  String.ofList directory ++ "/" ++ file

end Config
end Screenwright
