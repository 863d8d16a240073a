import WebExtract.Html.Formatting

/-!
# Rules of tree construction

One rule for each mode: what a token does to the tree and to the open elements. A rule is done with
the token, or asks for it to be handled again after a change of mode. Scripts count as supported,
so the content of a noscript element is text.
-/
namespace WebExtract.Html

open WebExtract.Dom

inductive Step
  | done
  | again (t : Token)

namespace Rules

open Build

/-- Handles the token in another mode. -/
def again (m : Mode) (t : Token) : Build Step := do
  setMode m
  return .again t

/-! ## Head and templates -/

/-- A second html tag adds its attributes to the root. -/
def mergeHtml (t : Tag) : Build Unit := do
  let b ← get
  if !b.hasOpen "template" then
    match b.stack.getLast? with
    | some root => addAttributes root t
    | none => return

def openTemplate (t : Tag) : Build Unit := do
  pushMarker
  forbidFrameset
  modify fun b => { b with mode := .inTemplate, templateModes := .inTemplate :: b.templateModes }
  let _ ← insertTag t

def closeTemplate : Build Unit := do
  if (← get).hasOpen "template" then
    popWhile fun b => b.isAmong thoroughlyImpliedEndNames
    popThroughNamed "template"
    clearFormatting
    modify fun b => { b with templateModes := b.templateModes.tail }
    resetMode

/-- The end of the page closes the innermost template. -/
def endInTemplate : Build Step := do
  if (← get).hasOpen "template" then
    popThroughNamed "template"
    clearFormatting
    modify fun b => { b with templateModes := b.templateModes.tail }
    resetMode
    return .again .eof
  else return .done

def replaceTemplateMode (m : Mode) (t : Token) : Build Step := do
  modify fun b => { b with templateModes := m :: b.templateModes.tail }
  again m t

def leaveHead (t : Token) : Build Step := do
  pop
  again .afterHead t

def inHead (t : Token) : Build Step := do
  match t with
  | .blanks s => appendText s
  | .comment s => appendComment s
  | .startTag tag =>
    if tag.name = "html" then mergeHtml tag
    else if ["base", "basefont", "bgsound", "link", "meta"].contains tag.name then insertVoid tag
    else if tag.name = "title" then insertText tag (.decoded tag.name)
    else if ["noframes", "style", "noscript"].contains tag.name then
      insertText tag (.raw tag.name)
    else if tag.name = "script" then insertText tag .script
    else if tag.name = "template" then openTemplate tag
    else if tag.name = "head" then return .done
    else return ← leaveHead t
  | .endTag tag =>
    if tag.name = "head" then
      pop
      setMode .afterHead
    else if tag.name = "template" then closeTemplate
    else if ["body", "html", "br"].contains tag.name then return ← leaveHead t
  | _ => return ← leaveHead t
  return .done

/-! ## Body -/

/-- The body element, if it is where it should be. -/
def body? (b : Builder) : Option NodeId := b.stack.reverse[1]?.filter (b.isNamed "body")

/-- A list item or a definition closes the one before it, unless another element lies between. -/
def closeItem (names : List String) : Build Unit := do
  let b ← get
  let stops (n : NodeId) : Bool :=
    b.isAmong names n || (b.isAmong specialNames n && !b.isAmong ["address", "div", "p"] n)
  match b.stack.find? stops with
  | some n =>
    if b.isAmong names n then
      match b.element? n with
      | some e =>
        closeImpliedExcept e.name
        popThroughNamed e.name
      | none => return
  | none => return

def isHiddenInput (t : Tag) : Bool :=
  match t.attribute? "type" with
  | some v => Text.lowerAscii v = "hidden"
  | none => false

def openFrameset (t : Tag) : Build Unit := do
  let b ← get
  if b.framesetAllowed then
    match body? b with
    | some n =>
      modify fun b =>
        { b with
          store := b.store.detach n
          stack := b.stack.drop (b.stack.length - 1) }
      let _ ← insertTag t
      setMode .inFrameset
    | none => return

/-- Opens an SVG or MathML element. -/
def openForeign (vocabulary : Vocabulary) (name : String) (t : Tag) : Build Unit := do
  let attributes := t.attributes.map (foreignAttribute vocabulary)
  if t.selfClosing then
    let _ ← insertClosed vocabulary name attributes
  else
    let _ ← insertOpen vocabulary name attributes

/-- A start tag in the body, of an element that belongs to a block structure. -/
def openBlock (t : Tag) : Build Unit := do
  closeParagraphInScope
  if headingNames.contains t.name && (← get).currentIsAmong headingNames then pop
  let _ ← insertTag t
  if ["pre", "listing"].contains t.name then
    modify ({ · with dropNewline := true, framesetAllowed := false })

def openForm (t : Tag) : Build Unit := do
  let inTemplate := (← get).hasOpen "template"
  if (← get).form.isNone || inTemplate then
    closeParagraphInScope
    let n ← insertTag t
    if !inTemplate then modify ({ · with form := some n })

def openButton (t : Tag) : Build Unit := do
  if (← get).hasInScope "button" then
    closeImplied
    popThroughNamed "button"
  reconstruct
  let _ ← insertTag t
  forbidFrameset

def openSelect (t : Tag) : Build Unit := do
  reconstruct
  let _ ← insertTag t
  forbidFrameset
  let inTable := [Mode.inTable, .inCaption, .inTableBody, .inRow, .inCell].contains (← get).mode
  setMode (if inTable then .inSelectInTable else .inSelect)

/-- A start tag of a ruby part; `keep` stays open around it. -/
def openRuby (keep : Option String) (t : Tag) : Build Unit := do
  if (← get).hasInScope "ruby" then
    match keep with
    | some name => closeImpliedExcept name
    | none => closeImplied
  let _ ← insertTag t

def openNobr (t : Tag) : Build Unit := do
  reconstruct
  if (← get).hasInScope "nobr" then
    closeFormatting "nobr"
    reconstruct
  insertFormatting t

def insertVoidInText (t : Tag) : Build Unit := do
  reconstruct
  insertVoid t

/-- Start tags in the body, apart from those that belong into the head. -/
def startInBody (t : Tag) : Build Unit := do
  let name := t.name
  if name = "html" then mergeHtml t
  else if name = "body" then
    let b ← get
    match body? b with
    | some n =>
      if !b.hasOpen "template" then
        forbidFrameset
        addAttributes n t
    | none => return
  else if name = "frameset" then openFrameset t
  else if blockNames.contains name || headingNames.contains name ||
      ["p", "pre", "listing"].contains name then openBlock t
  else if name = "form" then openForm t
  else if name = "li" then
    forbidFrameset
    closeItem ["li"]
    openBlock t
  else if ["dd", "dt"].contains name then
    forbidFrameset
    closeItem ["dd", "dt"]
    openBlock t
  else if name = "plaintext" then
    openBlock t
    modify ({ · with reading := .plain })
  else if name = "button" then openButton t
  else if name = "a" then
    closeOpenLink
    reconstruct
    insertFormatting t
  else if formattingNames.contains name then
    reconstruct
    insertFormatting t
  else if name = "nobr" then openNobr t
  else if ["applet", "marquee", "object"].contains name then
    reconstruct
    let _ ← insertTag t
    pushMarker
    forbidFrameset
  else if name = "table" then
    if !(← get).oldRules then closeParagraphInScope
    let _ ← insertTag t
    forbidFrameset
    setMode .inTable
  else if ["area", "br", "embed", "img", "keygen", "wbr"].contains name then
    insertVoidInText t
    forbidFrameset
  else if name = "input" then
    insertVoidInText t
    if !isHiddenInput t then forbidFrameset
  else if ["param", "source", "track"].contains name then insertVoid t
  else if name = "hr" then
    closeParagraphInScope
    insertVoid t
    forbidFrameset
  else if name = "image" then
    insertVoidInText { t with name := "img" }
    forbidFrameset
  else if name = "textarea" then
    insertText t (.decoded name)
    modify ({ · with dropNewline := true, framesetAllowed := false })
  else if name = "xmp" then
    closeParagraphInScope
    reconstruct
    forbidFrameset
    insertText t (.raw name)
  else if name = "iframe" then
    forbidFrameset
    insertText t (.raw name)
  else if ["noembed", "noscript"].contains name then insertText t (.raw name)
  else if name = "select" then openSelect t
  else if ["optgroup", "option"].contains name then
    if (← get).currentIsNamed "option" then pop
    reconstruct
    let _ ← insertTag t
  else if ["rb", "rtc"].contains name then openRuby none t
  else if ["rp", "rt"].contains name then openRuby (some "rtc") t
  else if name = "math" then openForeign .mathml name t
  else if name = "svg" then openForeign .svg name t
  else if ["frame", "head"].contains name || tablePartNames.contains name then return
  else
    reconstruct
    let _ ← insertTag t

def closeForm : Build Unit := do
  let b ← get
  if b.hasOpen "template" then
    if b.hasInScope "form" then
      closeImplied
      popThroughNamed "form"
  else
    modify ({ · with form := none })
    match b.form with
    | none => return
    | some n =>
      if b.inDefaultScope (· = n) then
        closeImplied
        removeFromStack n

/-- End tags in the body that do not change the mode. -/
def endInBody (t : Tag) : Build Unit := do
  let name := t.name
  let b ← get
  if blockNames.contains name || ["button", "listing", "pre"].contains name then
    if b.hasInScope name then
      closeImplied
      popThroughNamed name
  else if name = "form" then closeForm
  else if name = "p" then
    if !b.hasInButtonScope "p" then
      let _ ← insertImplied "p"
    closeParagraph
  else if ["li", "dd", "dt"].contains name then
    if if name = "li" then b.hasInListScope name else b.hasInScope name then
      closeImpliedExcept name
      popThroughNamed name
  else if headingNames.contains name then
    if b.inDefaultScope (b.isAmong headingNames) then
      closeImplied
      popThrough fun b => b.isAmong headingNames
  else if formattingNames.contains name || ["a", "nobr"].contains name then closeFormatting name
  else if ["applet", "marquee", "object"].contains name then
    if b.hasInScope name then
      closeImplied
      popThroughNamed name
      clearFormatting
  else if name = "br" then
    insertVoidInText ⟨"br", [], false⟩
    forbidFrameset
  else closeByName name

def inBody (t : Token) : Build Step := do
  match t with
  | .null | .fault => return .done
  | .blanks s =>
    reconstruct
    appendText s
  | .text s =>
    reconstruct
    forbidFrameset
    appendText s
  | .comment s => appendComment s
  | .startTag tag =>
    if headContentNames.contains tag.name then return ← inHead t else startInBody tag
  | .endTag tag =>
    if tag.name = "template" then closeTemplate
    else if tag.name = "body" then
      if (← get).hasInScope "body" then setMode .afterBody
    else if tag.name = "html" then
      if (← get).hasInScope "body" then return ← again .afterBody t
    else endInBody tag
  | .eof => if !(← get).templateModes.isEmpty then return ← endInTemplate
  | .doctype _ => return .done
  return .done

/-! ## Tables -/

/-- Handles by the rules of the body what is misplaced in a table, before the table. -/
def foster (t : Token) : Build Step := do
  modify ({ · with fostering := true })
  let step ← inBody t
  modify ({ · with fostering := false })
  return step

def charactersInTable (t : Token) : Build Step := do
  let b ← get
  if b.currentIsAmong tableOuterNames then
    modify ({ · with textRun := .inTable [] })
    return .again t
  else foster t

def inTable (t : Token) : Build Step := do
  match t with
  | .null | .blanks _ | .text _ => charactersInTable t
  | .fault => return .done
  | .comment s =>
    appendComment s
    return .done
  | .startTag tag =>
    let name := tag.name
    if name = "caption" then
      popToAmong tableScopeNames
      pushMarker
      let _ ← insertTag tag
      setMode .inCaption
      return .done
    else if name = "colgroup" then
      popToAmong tableScopeNames
      let _ ← insertTag tag
      setMode .inColumnGroup
      return .done
    else if name = "col" then
      popToAmong tableScopeNames
      let _ ← insertImplied "colgroup"
      again .inColumnGroup t
    else if ["tbody", "tfoot", "thead"].contains name then
      popToAmong tableScopeNames
      let _ ← insertTag tag
      setMode .inTableBody
      return .done
    else if ["td", "th", "tr"].contains name then
      popToAmong tableScopeNames
      let _ ← insertImplied "tbody"
      again .inTableBody t
    else if name = "table" then
      if (← get).hasInTableScope "table" then
        popThroughNamed "table"
        resetMode
        return .again t
      else return .done
    else if ["style", "script", "template"].contains name then inHead t
    else if name = "input" && isHiddenInput tag then
      insertVoid tag
      return .done
    else if name = "form" then
      let b ← get
      if !b.hasOpen "template" && b.form.isNone then
        let n ← insertClosed .html name (tag.attributes.map plainAttribute)
        modify ({ · with form := some n })
      return .done
    else foster t
  | .endTag tag =>
    let name := tag.name
    if name = "table" then
      if (← get).hasInTableScope "table" then
        popThroughNamed "table"
        resetMode
      return .done
    else if ["body", "html"].contains name || tablePartNames.contains name then return .done
    else if name = "template" then inHead t
    else foster t
  | .eof => inBody t
  | .doctype _ => return .done

/-- Text in a table goes before it, unless it is blank. -/
def insertTableText (run : List Token) : Build Unit := do
  let isText : Token → Bool
    | .text _ => true
    | _ => false
  if run.any isText then
    for t in run do
      let _ ← foster t
  else
    for t in run do
      match t with
      | .blanks s => appendText s
      | _ => pure ()

/-- `found` is the text found in the table so far, the latest first. -/
def inTableText (found : List Token) (t : Token) : Build Step := do
  match t with
  | .null => return .done
  | .blanks _ | .text _ =>
    modify ({ · with textRun := .inTable (t :: found) })
    return .done
  | t =>
    insertTableText found.reverse
    modify ({ · with textRun := .none })
    return .again t

def inCaption (t : Token) : Build Step := do
  let close (next : Build Step) : Build Step := do
    if (← get).hasInTableScope "caption" then
      closeImplied
      popThroughNamed "caption"
      clearFormatting
      setMode .inTable
      next
    else return .done
  match t with
  | .startTag tag => if tablePartNames.contains tag.name then close (return .again t) else inBody t
  | .endTag tag =>
    if tag.name = "table" then close (return .again t)
    else if tag.name = "caption" then close (return .done)
    else if ["body", "html"].contains tag.name || tablePartNames.contains tag.name then
      return .done
    else inBody t
  | t => inBody t

def inColumnGroup (t : Token) : Build Step := do
  let leave : Build Step := do
    if (← get).currentIsNamed "colgroup" then
      pop
      again .inTable t
    else return .done
  match t with
  | .blanks s =>
    appendText s
    return .done
  | .comment s =>
    appendComment s
    return .done
  | .startTag tag =>
    if tag.name = "html" then inBody t
    else if tag.name = "col" then
      insertVoid tag
      return .done
    else if tag.name = "template" then inHead t
    else leave
  | .endTag tag =>
    if tag.name = "colgroup" then
      if (← get).currentIsNamed "colgroup" then
        pop
        setMode .inTable
      return .done
    else if tag.name = "col" then return .done
    else if tag.name = "template" then inHead t
    else leave
  | .eof => inBody t
  | _ => leave

def bodyContext : List String := ["tbody", "tfoot", "thead", "template", "html"]

def rowContext : List String := ["tr", "template", "html"]

def inTableBody (t : Token) : Build Step := do
  let leave : Build Step := do
    if (← get).hasAnyInTableScope ["table", "tbody", "tfoot"] then
      popToAmong bodyContext
      pop
      again .inTable t
    else return .done
  match t with
  | .startTag tag =>
    if tag.name = "tr" then
      popToAmong bodyContext
      let _ ← insertTag tag
      setMode .inRow
      return .done
    else if ["td", "th"].contains tag.name then
      popToAmong bodyContext
      let _ ← insertImplied "tr"
      again .inRow t
    else if tablePartNames.contains tag.name then leave
    else inTable t
  | .endTag tag =>
    if ["tbody", "tfoot", "thead"].contains tag.name then
      if (← get).hasInTableScope tag.name then
        popToAmong bodyContext
        pop
        setMode .inTable
      return .done
    else if tag.name = "table" then leave
    else if ["body", "html"].contains tag.name || tablePartNames.contains tag.name then
      return .done
    else inTable t
  | t => inTable t

def inRow (t : Token) : Build Step := do
  let leave (next : Build Step) : Build Step := do
    if (← get).hasInTableScope "tr" then
      popToAmong rowContext
      pop
      setMode .inTableBody
      next
    else return .done
  match t with
  | .startTag tag =>
    if ["td", "th"].contains tag.name then
      popToAmong rowContext
      let _ ← insertTag tag
      setMode .inCell
      pushMarker
      return .done
    else if tablePartNames.contains tag.name then leave (return .again t)
    else inTable t
  | .endTag tag =>
    if tag.name = "tr" then leave (return .done)
    else if tag.name = "table" then leave (return .again t)
    else if ["tbody", "tfoot", "thead"].contains tag.name then
      if (← get).hasInTableScope tag.name then leave (return .again t) else return .done
    else if ["body", "html"].contains tag.name || tablePartNames.contains tag.name then
      return .done
    else inTable t
  | t => inTable t

def inCell (t : Token) : Build Step := do
  let closeCell : Build Step := do
    closeImplied
    popThrough fun b => b.isAmong ["td", "th"]
    clearFormatting
    again .inRow t
  match t with
  | .startTag tag =>
    if tablePartNames.contains tag.name then
      if (← get).hasAnyInTableScope ["td", "th"] then closeCell else return .done
    else inBody t
  | .endTag tag =>
    if ["td", "th"].contains tag.name then
      if (← get).hasInTableScope tag.name then
        closeImplied
        popThroughNamed tag.name
        clearFormatting
        setMode .inRow
      return .done
    else if ["body", "caption", "col", "colgroup", "html"].contains tag.name then return .done
    else if tableOuterNames.contains tag.name then
      if (← get).hasInTableScope tag.name then closeCell else return .done
    else inBody t
  | t => inBody t

/-! ## Select elements -/

def inSelect (t : Token) : Build Step := do
  let popIf (name : String) : Build Unit := do
    if (← get).currentIsNamed name then pop
  let leave (next : Build Step) : Build Step := do
    if (← get).hasInSelectScope "select" then
      popThroughNamed "select"
      resetMode
      next
    else return .done
  match t with
  | .null | .fault => return .done
  | .blanks s | .text s =>
    appendText s
    return .done
  | .comment s =>
    appendComment s
    return .done
  | .startTag tag =>
    let name := tag.name
    if name = "html" then inBody t
    else if name = "option" then
      popIf "option"
      let _ ← insertTag tag
      return .done
    else if name = "optgroup" then
      popIf "option"
      popIf "optgroup"
      let _ ← insertTag tag
      return .done
    else if name = "hr" then
      popIf "option"
      popIf "optgroup"
      insertVoid tag
      return .done
    else if name = "select" then leave (return .done)
    else if ["input", "keygen", "textarea"].contains name then leave (return .again t)
    else if ["script", "template"].contains name then inHead t
    else return .done
  | .endTag tag =>
    let name := tag.name
    if name = "optgroup" then
      let b ← get
      if b.currentIsNamed "option" && b.stack[1]?.any (b.isNamed "optgroup") then pop
      popIf "optgroup"
      return .done
    else if name = "option" then
      popIf "option"
      return .done
    else if name = "select" then leave (return .done)
    else if name = "template" then inHead t
    else return .done
  | .eof => inBody t
  | .doctype _ => return .done

def inSelectInTable (t : Token) : Build Step := do
  let leave : Build Step := do
    popThroughNamed "select"
    resetMode
    return .again t
  let isPart (name : String) : Bool :=
    ["caption", "table", "tbody", "tfoot", "thead", "tr", "td", "th"].contains name
  match t with
  | .startTag tag => if isPart tag.name then leave else inSelect t
  | .endTag tag =>
    if isPart tag.name then
      if (← get).hasInTableScope tag.name then leave else return .done
    else inSelect t
  | t => inSelect t

/-! ## The frame of the page -/

def initial (t : Token) : Build Step := do
  match t with
  | .blanks _ => return .done
  | .comment s =>
    appendCommentTo Store.documentId s
    return .done
  | t =>
    modify ({ · with oldRules := true })
    again .beforeHtml t

def createRoot (attributes : List Attribute) : Build Unit := do
  let n ← createElement .html "html" attributes
  modify fun b => { b with store := b.store.append Store.documentId n }
  push n

def beforeHtml (t : Token) : Build Step := do
  let implied : Build Step := do
    createRoot []
    again .beforeHead t
  match t with
  | .blanks _ => return .done
  | .comment s =>
    appendCommentTo Store.documentId s
    return .done
  | .startTag tag =>
    if tag.name = "html" then
      createRoot (tag.attributes.map plainAttribute)
      setMode .beforeHead
      return .done
    else implied
  | .endTag tag =>
    if ["head", "body", "html", "br"].contains tag.name then implied else return .done
  | _ => implied

def beforeHead (t : Token) : Build Step := do
  let implied : Build Step := do
    let n ← insertImplied "head"
    modify ({ · with head := some n })
    again .inHead t
  match t with
  | .blanks _ => return .done
  | .comment s =>
    appendComment s
    return .done
  | .startTag tag =>
    if tag.name = "html" then inBody t
    else if tag.name = "head" then
      let n ← insertTag tag
      modify ({ · with head := some n, mode := .inHead })
      return .done
    else implied
  | .endTag tag =>
    if ["head", "body", "html", "br"].contains tag.name then implied else return .done
  | _ => implied

def afterHead (t : Token) : Build Step := do
  let implied : Build Step := do
    let _ ← insertImplied "body"
    again .inBody t
  match t with
  | .blanks s =>
    appendText s
    return .done
  | .comment s =>
    appendComment s
    return .done
  | .startTag tag =>
    if tag.name = "html" then inBody t
    else if tag.name = "body" then
      let _ ← insertTag tag
      forbidFrameset
      setMode .inBody
      return .done
    else if tag.name = "frameset" then
      let _ ← insertTag tag
      setMode .inFrameset
      return .done
    else if headContentNames.contains tag.name then
      match (← get).head with
      | none => inHead t
      | some head => do
        push head
        let step ← inHead t
        removeFromStack head
        return step
    else if tag.name = "head" then return .done
    else implied
  | .endTag tag =>
    if tag.name = "template" then inHead t
    else if ["body", "html", "br"].contains tag.name then implied
    else return .done
  | _ => implied

/-- A run of text inside one element. -/
def text (t : Token) : Build Step := do
  match t with
  | .blanks s | .text s =>
    appendText s
    return .done
  | .endTag _ =>
    pop
    modify ({ · with textRun := .none })
    return .done
  | .eof =>
    pop
    modify ({ · with textRun := .none })
    return .again t
  | _ => return .done

def inTemplate (t : Token) : Build Step := do
  match t with
  | .blanks _ | .text _ | .comment _ => inBody t
  | .startTag tag =>
    let name := tag.name
    if headContentNames.contains name then inHead t
    else if ["caption", "colgroup", "tbody", "tfoot", "thead"].contains name then
      replaceTemplateMode .inTable t
    else if name = "col" then replaceTemplateMode .inColumnGroup t
    else if name = "tr" then replaceTemplateMode .inTableBody t
    else if ["td", "th"].contains name then replaceTemplateMode .inRow t
    else replaceTemplateMode .inBody t
  | .endTag tag => if tag.name = "template" then inHead t else return .done
  | .eof => endInTemplate
  | _ => return .done

def afterBody (t : Token) : Build Step := do
  match t with
  | .blanks _ => inBody t
  | .comment s =>
    appendCommentTo ((← get).stack.getLast?.getD Store.documentId) s
    return .done
  | .startTag tag => if tag.name = "html" then inBody t else again .inBody t
  | .endTag tag =>
    if tag.name = "html" then
      setMode .afterAfterBody
      return .done
    else again .inBody t
  | .eof => return .done
  | t => again .inBody t

def inFrameset (t : Token) : Build Step := do
  match t with
  | .blanks s => appendText s
  | .comment s => appendComment s
  | .startTag tag =>
    if tag.name = "html" then return ← inBody t
    else if tag.name = "frameset" then
      let _ ← insertTag tag
    else if tag.name = "frame" then insertVoid tag
    else if tag.name = "noframes" then return ← inHead t
  | .endTag tag =>
    if tag.name = "frameset" && 1 < (← get).stack.length then
      pop
      if !(← get).currentIsNamed "frameset" then setMode .afterFrameset
  | _ => return .done
  return .done

def afterFrameset (t : Token) : Build Step := do
  match t with
  | .blanks s => appendText s
  | .comment s => appendComment s
  | .startTag tag =>
    if tag.name = "html" then return ← inBody t
    else if tag.name = "noframes" then return ← inHead t
  | .endTag tag => if tag.name = "html" then setMode .afterAfterFrameset
  | _ => return .done
  return .done

def afterAfterBody (t : Token) : Build Step := do
  match t with
  | .blanks _ => inBody t
  | .comment s =>
    appendCommentTo Store.documentId s
    return .done
  | .startTag tag => if tag.name = "html" then inBody t else again .inBody t
  | .eof => return .done
  | t => again .inBody t

def afterAfterFrameset (t : Token) : Build Step := do
  match t with
  | .blanks _ => inBody t
  | .comment s =>
    appendCommentTo Store.documentId s
    return .done
  | .startTag tag =>
    if tag.name = "html" then inBody t
    else if tag.name = "noframes" then inHead t
    else return .done
  | _ => return .done

/-- The rule of a mode. -/
def inMode : Mode → Token → Build Step
  | .initial => initial
  | .beforeHtml => beforeHtml
  | .beforeHead => beforeHead
  | .inHead => inHead
  | .afterHead => afterHead
  | .inBody => inBody
  | .inTable => inTable
  | .inCaption => inCaption
  | .inColumnGroup => inColumnGroup
  | .inTableBody => inTableBody
  | .inRow => inRow
  | .inCell => inCell
  | .inSelect => inSelect
  | .inSelectInTable => inSelectInTable
  | .inTemplate => inTemplate
  | .afterBody => afterBody
  | .inFrameset => inFrameset
  | .afterFrameset => afterFrameset
  | .afterAfterBody => afterAfterBody
  | .afterAfterFrameset => afterAfterFrameset

/-- The rule that applies apart from foreign content. -/
def ruleFor (b : Builder) : Token → Build Step :=
  match b.textRun with
  | .none => inMode b.mode
  | .inElement => text
  | .inTable found => inTableText found

/-! ## Foreign content -/

/-- Whether the rules for foreign content apply: the innermost element is foreign, and the token is
not of the kind that is HTML at that point. -/
def isForeign (b : Builder) (t : Token) : Bool :=
  match b.stack.head?.bind b.element? with
  | none => false
  | some e =>
    if e.vocabulary = .html then false
    else
      match t with
      | .eof => false
      | .blanks _ | .text _ | .null => !isMathText e && !isSvgHtml e
      | .startTag tag =>
        !(isMathText e && !(["mglyph", "malignmark"].contains tag.name)) && !isSvgHtml e &&
          !(e.vocabulary = .mathml && e.name = "annotation-xml" && tag.name = "svg")
      | _ => true

/-- Closes all foreign content and handles the tag by the rule that applies outside it. -/
def breakOut (t : Token) : Build Step := do
  popWhile fun b n =>
    !(b.element? n).any fun e => e.vocabulary = .html || isMathText e || isSvgHtml e
  ruleFor (← get) t

def startInForeign (t : Tag) : Build Unit := do
  let b ← get
  match b.stack.head?.bind b.element? with
  | none => return
  | some e =>
    let name := if e.vocabulary = .svg then respell svgElementNames t.name else t.name
    openForeign e.vocabulary name t

/-- An end tag closes the foreign element of its name; further out than the first HTML element the
rule applies that holds outside foreign content. -/
def endInForeign (t : Tag) (first : Bool) : List NodeId → Build Step
  | [] => return .done
  | [_] => return .done
  | n :: ns => do
    let b ← get
    match b.element? n with
    | none => endInForeign t false ns
    | some e =>
      if !first && e.vocabulary = .html then ruleFor b (.endTag t)
      else if Text.lowerAscii e.name = t.name then
        modify ({ · with stack := ns })
        return .done
      else endInForeign t false ns

def foreign (t : Token) : Build Step := do
  match t with
  | .null => appendText (String.singleton Text.replacement)
  | .blanks s => appendText s
  | .text s =>
    forbidFrameset
    appendText s
  | .comment s => appendComment s
  | .startTag tag =>
    let breaks := breakoutNames.contains tag.name ||
      (tag.name = "font" && tag.attributes.any fun a => ["color", "face", "size"].contains a.1)
    if breaks then return ← breakOut t else startInForeign tag
  | .endTag tag =>
    if ["br", "p"].contains tag.name then return ← breakOut t
    else return ← endInForeign tag true (← get).stack
  | _ => return .done
  return .done

end Rules

/-! ## Tokens in turn -/

namespace Build

def step (t : Token) : Build Step := do
  let b ← get
  if Rules.isForeign b t then Rules.foreign t else Rules.ruleFor b t

/-- Handles a token until a rule is done with it, at most `fuel` times. -/
def handle : (fuel : Nat) → Token → Build Unit
  | 0, _ => return
  | fuel + 1, t => do
    match ← step t with
    | .done => return
    | .again t => handle fuel t

/-- Handles a token until a rule is done with it. A rule that asks for the token again has closed an
element or a template, or has gone on in the order of the modes, so that the steps are bounded by
what is open after the first one (`handles_iff`). -/
def handleFully (t : Token) : Build Unit := do
  match ← step t with
  | .done => return
  | .again t =>
    let b ← get
    handle (b.stack.length + 9 * b.templateModes.length + 11) t

def receiveDoctype (d : Doctype) : Build Unit := do
  if (← get).mode = .initial then
    let n ← create .doctype
    modify fun b =>
      { b with
        store := b.store.append Store.documentId n
        oldRules := d.isOld
        mode := .beforeHtml }

/-- Handles a token; a newline at the front of some elements does not count. -/
def receive (t : Token) : Build Unit := do
  let b ← get
  modify ({ · with dropNewline := false })
  match t with
  | .doctype d => receiveDoctype d
  | .fault => return
  | .blanks s =>
    match b.dropNewline, s.toList with
    | true, '\n' :: cs => if !cs.isEmpty then handleFully (.blanks (String.ofList cs))
    | _, _ => handleFully t
  | t => handleFully t

end Build

end WebExtract.Html
