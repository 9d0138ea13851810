import Screenwright.Emit.Jsx

/-! Expo: function components of native elements, with style objects in points and overrides that
follow the width of the window. -/
namespace Screenwright.Emit.Expo

/-- Properties without a native counterpart. -/
def unsupported : List StyleProperty := [.backgroundImage, .boxShadow]

/-- Properties that hold a word or a plain number instead of a length. -/
def keywords : List StyleProperty := [
  .fontStyle, .textAlign, .textTransform, .color, .backgroundColor, .borderColor, .borderStyle,
  .opacity, .overflow, .justifyContent, .alignItems, .flexWrap, .flexGrow, .flexShrink,
  .alignSelf, .position, .zIndex]

/-- The native form of one property, if it has one. -/
def nativeProperty? (p : StyleProperty) (v : StyleValue) : Option (String × Json) :=
  if unsupported.contains p then none
  else if p = .textDecoration then some ("textDecorationLine", v.toJson)
  else if p = .fontWeight then some (p.name, .str v.toJson.text)
  else if keywords.contains p then some (p.name, v.toJson)
  else some (p.name, lengthToPoints v.toJson)

/-- The native style object of a style bag; lengths become points. -/
def nativeStyle (style : Option NodeStyle) (tokens : Option Tokens) : Fields Json :=
  (resolveStyle style tokens).filterMap fun e => nativeProperty? e.1 e.2

def muted : Json := .str "#6b7280"
def border : Json := .str "#e5e7eb"
def accent : Json := .str "#2563eb"
def white : Json := .str "#ffffff"

/-- A native element, imported. -/
def native (tag : String) : Emission String := Emission.use "react-native" tag

def navigateCall (target : String) : Emission String := do
  discard (Emission.use "expo-router" "router")
  pure s!"router.push({Text.quoteDouble target})"

def dialect : ReactDialect where
  navigate := navigateCall
  setterAttr setter := "onChangeText=" ++ braced setter
  codeAttr code := "onChangeText=" ++ braced ("(text) => \x7b " ++ code ++ " \x7d")
  routerLines := pure []

/-- The override of a style at a breakpoint, applied while the window is narrow. -/
def override? (s : Screen) (r : ResponsiveStyle) (b : Breakpoint) : Option String :=
  match nativeStyle (b.style? r) s.tokens with
  | [] => none
  | style => some (s!"width <= {b.maxWidth} && " ++ objectLiteral style)

/-- The style attribute of a node: its own style over the given one, then its overrides. An
element that shares the id of a responsive one has to have overrides too. -/
def styleParts (s : Screen) (e : Element) (style : Fields Json) : Emission (List String) :=
  let base := style.merge (nativeStyle e.style s.tokens)
  if s.state.isResponsiveId e.id then
    match e.responsive with
    | none => Emission.ofExcept (.error (.noOverrides Breakpoint.tablet.name))
    | some r =>
      let entries := objectLiteral base :: Breakpoint.all.filterMap (override? s r)
      pure ["style=" ++ braced ("[" ++ ", ".intercalate entries ++ "]")]
  else pure (styleAttr base)

/-- Tags that take a press themselves. -/
def takesPress (tag : String) : Bool := tag == "TouchableOpacity" || tag == "Pressable"

/-- The element of a node. A press goes to a tag that takes it, or to a wrapper. -/
def nodeElement (s : Screen) (e : Element) (tag : String) (style : Fields Json)
    (attrs : List String) (build : String → List String → String) : Emission String := do
  let styles ← styleParts s e style
  let press := (← Jsx.clickHandler? dialect e).map fun h => "onPress=" ++ braced h
  let tag ← native tag
  match press with
  | none => pure (build tag (attrs ++ styles))
  | some press =>
    if takesPress tag then pure (build tag (attrs ++ styles ++ [press]))
    else
      let wrapper ← native "Pressable"
      pure (jsxElement wrapper [press] (build tag (attrs ++ styles)))

def block (s : Screen) (e : Element) (tag : String) (style : Fields Json) (attrs : List String)
    (body : String) : Emission String :=
  nodeElement s e tag style attrs fun tag parts => jsxElement tag parts body

def inline (s : Screen) (e : Element) (tag : String) (style : Fields Json) (body : String) :
    Emission String :=
  nodeElement s e tag style [] fun tag parts => jsxInline tag parts body

/-- A text with no node behind it. -/
def label (text : String) (style : Fields Json) : Emission String := do
  pure (jsxInline (← native "Text") (styleAttr style) (Text.escapeBraced text))

def gapPoints (s : Screen) (e : Element) : Json := stepToPoints (s.gapValue (prop? e "gap"))

def padding (s : Screen) (e : Element) (default : Option String) : Fields Json :=
  match propKey? e "padding" default with
  | none => []
  | some key => [("padding", stepToPoints (s.sizeValue (some key)))]

/-- What a press on a link does: routes are gone to, other targets are opened outside. -/
def openTarget? (href : String) : Emission (Option String) :=
  if href = "" ∨ href = "#" then pure none
  else if href.toList.head? = some '/' then do pure (some ("() => " ++ (← navigateCall href)))
  else do
    discard (native "Linking")
    pure (some s!"() => Linking.openURL({Text.quoteDouble href})")

def pressAttr (handler : Option String) : List String :=
  handler.toList.map fun h => "onPress=" ++ braced h

def dashed (color : String) : Fields Json :=
  [("borderWidth", .int 1), ("borderStyle", .str "dashed"), ("borderColor", .str color)]

def placeholder (s : Screen) (e : Element) : Emission String := do
  let notice ← label (placeholderMessage e) [("fontSize", .int 12), ("color", .str "#b91c1c")]
  block s e "View" (dashed "#ef4444" ++ [("padding", .int 8)]) [] notice

/-- Texts on lines of their own, the second left out when it is empty. -/
def withChildren (first children : String) : String :=
  if children = "" then first else first ++ "\n" ++ children

def other (s : Screen) (e : Element) (children : String) : Emission String := do
  let tag ← label ("<" ++ e.type ++ ">") [("fontSize", .int 12), ("color", muted)]
  block s e "View" (dashed "#9ca3af" ++ [("borderRadius", .int 4), ("padding", .int 8)]) []
    (withChildren tag children)

def fontStyle (e : Element) : Fields Json :=
  let font := propText e "fontFamily"
  if font = "" then [] else [("fontFamily", .str font)]

def headingSizes : List Int := [32, 28, 24, 20, 18, 16]

def heading (s : Screen) (e : Element) : Emission String := do
  let level ← Emission.ofExcept (headingLevel e)
  inline s e "Text"
    ([("fontSize", .int (headingSizes[level - 1]?.getD 16)), ("fontWeight", .str "bold")] ++
      fontStyle e)
    (Text.escapeBraced (propText e "text"))

def paragraph (s : Screen) (e : Element) : Emission String :=
  let style : Fields Json :=
    if propText e "variant" = "muted" then [("fontSize", .int 14), ("color", muted)] else []
  inline s e "Text" (style ++ fontStyle e) (Text.escapeBraced (propText e "text"))

def centered : Fields Json := [("alignItems", .str "center"), ("justifyContent", .str "center")]

/-- An image; without a source a box stands in its place. -/
def image (s : Screen) (e : Element) : Emission String := do
  let size : Fields Json :=
    [("width", propNumber e "width" 200), ("height", propNumber e "height" 200)]
  let source := propText e "src"
  if source = "" then
    let notice ← label "Image" [("fontSize", .int 12), ("color", .str "#9ca3af")]
    block s e "View"
      (size ++ [("backgroundColor", .str "#f3f4f6"), ("borderRadius", .int 8)] ++ centered) [] notice
  else
    let alt := propText e "alt"
    block s e "Image" size
      (["source=" ++ braced ("\x7b uri: " ++ Text.quoteDouble source ++ " \x7d"),
          textAttr "resizeMode" "cover"] ++
        if alt = "" then [] else [textAttr "accessibilityLabel" alt]) ""

/-- The attributes of an input's kind. -/
def inputKindAttrs (kind : String) : List String :=
  if kind = "password" then ["secureTextEntry"]
  else if kind = "email" then [textAttr "keyboardType" "email-address"]
  else if kind = "number" then [textAttr "keyboardType" "numeric"]
  else []

def fieldStyle : Fields Json := [
  ("borderWidth", .int 1), ("borderColor", .str "#d1d5db"), ("borderRadius", .int 8),
  ("padding", .int 10), ("fontSize", .int 14)]

def input (s : Screen) (e : Element) : Emission String := do
  let hint := propText e "placeholder"
  let attrs := (if hint = "" then [] else [textAttr "placeholder" hint]) ++
    inputKindAttrs (propText e "type" "text") ++ Jsx.changeAttrs dialect e
  let name := propText e "label"
  if name = "" then block s e "TextInput" fieldStyle attrs ""
  else
    let control := jsxElement (← native "TextInput") (attrs ++ styleAttr fieldStyle) ""
    let caption ← label name
      [("fontSize", .int 14), ("fontWeight", .str "500"), ("marginBottom", .int 4)]
    block s e "View" [] [] (caption ++ "\n" ++ control)

def link (s : Screen) (e : Element) : Emission String := do
  let href := propText e "href" "#"
  let shown := propText e "text"
  let own ← Jsx.clickHandler? dialect e
  let press ← if own.isSome then pure none else openTarget? href
  let body ← label (if shown = "" then href else shown)
    [("color", accent), ("textDecorationLine", .str "underline")]
  block s e "TouchableOpacity" [] (pressAttr press) body

def itemStyle : Fields Json := [("fontSize", .int 14), ("paddingVertical", .int 2)]

def itemExpression : String :=
  "typeof item === \"object\" && item !== null ? Object.values(item).join(\" - \") : String(item)"

def fetchedItems (f : DataFetch) (ordered : Bool) : String :=
  let marker := if ordered then braced "index + 1" ++ ". " else "• "
  braced (f.rows ++ ".map((item, index) => (\n  <Text key=" ++ braced "index" ++ " style=" ++
    braced (objectLiteral itemStyle) ++ ">" ++ marker ++ braced itemExpression ++ "</Text>\n))")

def list (s : Screen) (e : Element) : Emission String := do
  let ordered := propIsTrue e "ordered"
  match s.state.fetchFor? e.id with
  | some f =>
    discard (native "Text")
    block s e "View" [] [] (fetchedItems f ordered)
  | none =>
    let items := (listItems e).zipIdx.map fun i =>
      label (if ordered then s!"{i.2 + 1}. " ++ i.1 else "• " ++ i.1) itemStyle
    block s e "View" [] [] (← Emission.join items)

def icon (s : Screen) (e : Element) : Emission String := do
  let size := propNumber e "size" 24
  let color := propText e "color"
  let name ← label ("[" ++ propText e "name" "Star" ++ "]")
    (("fontSize", .int 12) :: if color = "" then [] else [("color", .str color)])
  block s e "View" ([("width", size), ("height", size)] ++ centered) [] name

/-- The colours of a button: its ground, its text, and its border if it has one. -/
structure ButtonColors where
  ground : Json
  text : Json
  border : Option Json := none

def primaryColors : ButtonColors := { ground := accent, text := white }

def buttonIntents : Fields ButtonColors := [
  ("primary", primaryColors),
  ("default", primaryColors),
  ("secondary", { ground := .str "#f3f4f6", text := .str "#111827" }),
  ("destructive", { ground := .str "#dc2626", text := white }),
  ("outline", { ground := .str "transparent", text := accent, border := some accent }),
  ("ghost", { ground := .str "transparent", text := .str "#111827" }),
  ("link", { ground := .str "transparent", text := accent })]

/-- The vertical and horizontal padding of a button. -/
def buttonPadding : Fields (Int × Int) := [
  ("xs", (4, 8)), ("sm", (6, 12)), ("default", (10, 20)), ("lg", (14, 28)), ("icon", (10, 10))]

def button (s : Screen) (e : Element) : Emission String := do
  let colors := (buttonIntents.get? (propText e "intent" "primary")).getD primaryColors
  let padding := (buttonPadding.get? (propText e "size" "default")).getD (10, 20)
  let style : Fields Json := [
    ("backgroundColor", colors.ground), ("paddingVertical", .int padding.1),
    ("paddingHorizontal", .int padding.2), ("borderRadius", .int 8),
    ("alignItems", .str "center")]
  let border : Fields Json := match colors.border with
    | some c => [("borderWidth", .int 1), ("borderColor", c)]
    | none => []
  let body ← label (propText e "label" "Button")
    [("color", colors.text), ("fontWeight", .str "600"), ("fontSize", .int 14)]
  block s e "TouchableOpacity" (style ++ border) [] body

def bottomLine : Fields Json := [("borderBottomWidth", .int 1), ("borderBottomColor", border)]

/-- A view with no node behind it. -/
def view (style : Fields Json) (body : String) : Emission String := do
  pure (jsxElement (← native "View") (styleAttr style) body)

def modal (s : Screen) (e : Element) (children : String) : Emission String := do
  let title ← label (propText e "title" "Dialog")
    [("fontWeight", .str "600"), ("fontSize", .int 14)]
  let header ← view
    ([("paddingHorizontal", .int 16), ("paddingVertical", .int 12)] ++ bottomLine) title
  let content ← if children = "" then pure "" else view [("padding", .int 16)] children
  block s e "View"
    [("backgroundColor", white), ("borderRadius", .int 12), ("borderWidth", .int 1),
      ("borderColor", border), ("maxWidth", .int 400)] []
    (withChildren header content)

def tabButton (name : String) (active : Bool) : Emission String := do
  let text ← label name
    ([("fontSize", .int 14), ("color", if active then accent else muted)] ++
      if active then [("fontWeight", .str "500")] else [])
  pure (jsxElement (← native "TouchableOpacity")
    (styleAttr [("paddingHorizontal", .int 16), ("paddingVertical", .int 8),
      ("borderBottomWidth", .int 2),
      ("borderBottomColor", if active then accent else .str "transparent")]) text)

/-- Tabs: a button for each label, and the first child alone. -/
def tabs (s : Screen) (e : Element) (children : List (Emission String)) : Emission String := do
  discard (native "TouchableOpacity")
  let buttons := (tabLabels e).zipIdx.map fun l => tabButton l.1 (l.2 == 0)
  let bar ← view (("flexDirection", .str "row") :: bottomLine) (← Emission.join buttons)
  let content ← match children with
    | [] => pure ""
    | c :: _ => do view [("paddingTop", .int 12)] (← c)
  block s e "View" [] [] (withChildren bar content)

def navButton (l : String × String) : Emission String := do
  let press ← openTarget? l.2
  let tag ← native "TouchableOpacity"
  let text ← label l.1 [("fontSize", .int 14)]
  pure (jsxElement tag
    (styleAttr [("paddingHorizontal", .int 12), ("paddingVertical", .int 6),
      ("borderRadius", .int 6)] ++ pressAttr press) text)

def nav (s : Screen) (e : Element) (children : List (Emission String)) : Emission String := do
  let buttons ← ((navItems e).map navButton).mapM id
  let children ← Emission.join children
  let direction := if propIs e "orientation" "vertical" then "column" else "row"
  block s e "View" [("flexDirection", .str direction), ("gap", .int 4)] []
    ("\n".intercalate (if children = "" then buttons else buttons ++ [children]))

def rowStyle : Fields Json := ("flexDirection", .str "row") :: bottomLine

def cellStyle : Fields Json := [("flex", .int 1), ("fontSize", .int 12), ("padding", .int 8)]

def headerCell (text : String) : Emission String :=
  label text
    [("flex", .int 1), ("fontWeight", .str "600"), ("fontSize", .int 12), ("padding", .int 8)]

def emptyRow : Emission String := do
  let notice ← label "No data" [("color", .str "#9ca3af"), ("fontSize", .int 12)]
  view [("padding", .int 8), ("alignItems", .str "center")] notice

def fetchedRows (f : DataFetch) (columns : List (String × String)) (empty : String) : String :=
  let cells := columns.map fun c =>
    "<Text style=" ++ braced (objectLiteral cellStyle) ++ ">" ++
      braced ("String(row[" ++ Text.quoteSingle c.1 ++ "] ?? \"\")") ++ "</Text>"
  braced (f.rows ++ ".map((row, index) => (\n  <View key=" ++ braced "index" ++ " style=" ++
      braced (objectLiteral rowStyle) ++ ">\n" ++ Text.indent 4 ("\n".intercalate cells) ++
      "\n  </View>\n))") ++
    "\n" ++ braced (f.rows ++ ".length === 0 && (\n" ++ Text.indent 2 empty ++ "\n)")

def tableRow (columns : List (String × String)) (row : Fields Json) : Emission String := do
  let cells ← Emission.join (columns.map fun c => label (cellText row c.1) cellStyle)
  view rowStyle cells

def table (s : Screen) (e : Element) : Emission String := do
  let columns := tableColumns e
  let headerCells ← Emission.join (columns.map fun c => headerCell c.2)
  let empty ← emptyRow
  let rows ← match s.state.fetchFor? e.id with
    | some f => do
      discard (native "Text")
      pure (fetchedRows f columns empty)
    | none =>
      match ← Emission.ofExcept (rowsAtHand e) with
      | [] => pure empty
      | rows => Emission.join (rows.map (tableRow columns))
  let header ← view
    ([("flexDirection", .str "row"), ("backgroundColor", .str "#f9fafb")] ++ bottomLine) headerCells
  block s e "View"
    [("borderWidth", .int 1), ("borderColor", border), ("borderRadius", .int 8),
      ("overflow", .str "hidden")] [] (header ++ "\n" ++ rows)

def cardStyle (s : Screen) (e : Element) : Fields Json :=
  [("backgroundColor", white), ("borderRadius", .int 12)] ++ padding s e "md" ++
    [("borderWidth", .int 1), ("borderColor", border), ("shadowColor", .str "#000"),
      ("shadowOpacity", .float (.ofDecimal false 5 (-2))), ("shadowRadius", .int 4),
      ("elevation", .int 2)]

/-- The markup of an element of a built-in type. -/
def builtin (s : Screen) (t : BuiltinType) (e : Element) (children : List (Emission String)) :
    Emission String :=
  match t with
  | .stack => do
    let direction := if propIs e "direction" "row" then "row" else "column"
    block s e "View"
      ([("flexDirection", .str direction), ("gap", gapPoints s e)] ++ padding s e none) []
      (← Emission.join children)
  | .grid => do
    block s e "View"
      [("flexDirection", .str "row"), ("flexWrap", .str "wrap"), ("gap", gapPoints s e)] []
      (← Emission.join children)
  | .sectionBox => do
    block s e "View" (("width", .str "100%") :: padding s e none) [] (← Emission.join children)
  | .scrollArea => do
    let height := propText e "height" "auto"
    block s e "ScrollView"
      (if height = "auto" then [] else [("height", lengthToPoints (.str height))]) []
      (← Emission.join children)
  | .spacer =>
    block s e "View" [("height", stepToPoints (s.sizeValue (prop? e "size")))] [] ""
  | .box => do block s e "View" [] [] (← Emission.join children)
  | .heading => heading s e
  | .text => paragraph s e
  | .image => image s e
  | .input => input s e
  | .link => link s e
  | .divider =>
    block s e "View"
      [("height", .int 1), ("backgroundColor", border), ("width", .str "100%")] [] ""
  | .list => list s e
  | .icon => icon s e
  | .card => do block s e "View" (cardStyle s e) [] (← Emission.join children)
  | .button => button s e
  | .form => do block s e "View" [("gap", .int 16)] [] (← Emission.join children)
  | .modal => do modal s e (← Emission.join children)
  | .tabs => tabs s e children
  | .nav => nav s e children
  | .dataTable => table s e

/-- The markup of an element before its conditions. -/
def unconditional (s : Screen) (e : Element) (children : List (Emission String)) :
    Emission String :=
  match NodeKind.classify e.type e.props with
  | .reference _ => placeholder s e
  | .builtin t => builtin s t e children
  | .other _ =>
    match s.plugins.get? e.type with
    | some plugin => Emission.ofExcept (renderPlugin plugin .expo e)
    | none => do other s e (← Emission.join children)

def element (s : Screen) (e : Element) (children : List (Emission String)) : Emission String := do
  let markup ← unconditional s e children
  match conditions Text.quoteDouble s.state e with
  | [] => pure markup
  | cs => pure (jsxConditional cs markup)

mutual

/-- The markup of a tree. -/
def render (s : Screen) : Node → Emission String
  | .leaf e => element s e []
  | .branch e cs => element s e (renderAll s cs)

def renderAll (s : Screen) : List Node → List (Emission String)
  | [] => []
  | c :: cs => render s c :: renderAll s cs

end

/-- The hooks of a component, the window's width first where overrides need it. -/
def hookLines (s : Screen) : Emission (List String) := do
  let hooks ← Jsx.hookLines dialect s
  if s.state.responsive.isEmpty then pure hooks
  else
    discard (native "useWindowDimensions")
    pure ("const \x7b width \x7d = useWindowDimensions();" :: hooks)

/-- The module of a screen with the given component name. -/
def contents (c : Context) (name : String) (tree : Node) : Except EmitError String := do
  let s := Screen.ofTree c tree
  let (markup, imports) ← (render s tree).run
  let (hooks, hookImports) ← (hookLines s).run
  pure (Jsx.module_ name ["// " ++ generatedMarker] (Import.lines (imports ++ hookImports)) [] hooks
    (Jsx.fragment markup))

end Screenwright.Emit.Expo
