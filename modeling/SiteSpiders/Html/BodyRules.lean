import SiteSpiders.Html.Builder

/-!
# Rules for the head and the body

What a token does to the page while the builder is in the head or in the body.
The other parts of a page fall back on these rules.
-/
namespace SiteSpiders.Html

/-- Whether a tag is a hidden input. -/
def isHiddenInput (tag : StartTag) : Bool :=
  tag.attributes.any fun a => a.1 == "type" && a.2.toLower == "hidden"

/-- Closes the template the builder is in. -/
def closeTemplate : Build Outcome := do
  if (← get).hasOpen "template" then
    closeWhile thoroughEnd
    closeNamed "template"
    clearFormatting
    modify fun b => { b with templateModes := b.templateModes.drop 1 }
    modify fun b => { b with mode := b.fittingMode }
  done

def openTemplate (tag : StartTag) : Build Outcome := do
  markFormatting
  forbidFrameset
  modify fun b => { b with mode := .inTemplate, templateModes := .inTemplate :: b.templateModes }
  insertTag tag
  done

/-- The tags of the head that other parts of a page also take. -/
def headTags : List String :=
  ["base", "basefont", "bgsound", "link", "meta", "noframes", "script", "style", "template",
   "title"]

def headTag (tag : StartTag) : Build Outcome :=
  match tag.name with
  | "title" => insertTextElement tag .escapable
  | "noframes" | "style" | "noscript" => insertTextElement tag .raw
  | "script" => insertTextElement tag .script
  | "template" => openTemplate tag
  | _ => do
    insertVoid tag
    done

/-- Adds the attributes of a repeated page element. -/
def repeatHtml (tag : StartTag) : Build Outcome := do
  modify fun b =>
    if b.hasOpen "template" then b
    else match b.opened.getLast? with
      | some top => { b with draft := b.draft.addMissing top tag.attributes }
      | none => b
  done

def inHead (token : Token) : Build Outcome :=
  let leave : Build Outcome := do
    closeCurrent
    again .afterHead
  match token with
  | .space cs => do
    addText cs
    done
  | .comment => do
    addComment
    done
  | .startTag name attributes selfClosing =>
    let tag : StartTag := { name, attributes, selfClosing }
    if name == "html" then repeatHtml tag
    else if name == "noscript" || headTags.contains name then headTag tag
    else if name == "head" then done
    else leave
  | .endTag name =>
    if name == "head" then do
      closeCurrent
      goTo .afterHead
    else if name == "template" then closeTemplate
    else if ["body", "html", "br"].contains name then leave
    else done
  | _ => leave

/-- The end of the page inside a template. -/
def templateEnd : Build Outcome := do
  if (← get).hasOpen "template" then
    closeNamed "template"
    clearFormatting
    modify fun b => { b with templateModes := b.templateModes.drop 1 }
    modify fun b => { b with mode := b.fittingMode }
    again (← get).mode
  else done

/-- Start tags that close a paragraph and open a block. -/
def blockTags : List String :=
  ["address", "article", "aside", "blockquote", "center", "details", "dialog", "dir", "div", "dl",
   "fieldset", "figcaption", "figure", "footer", "header", "hgroup", "main", "menu", "nav", "ol",
   "p", "search", "section", "summary", "ul"]

/-- End tags that close a block. -/
def blockEnds : List String :=
  ["address", "article", "aside", "blockquote", "button", "center", "details", "dialog", "dir",
   "div", "dl", "fieldset", "figcaption", "figure", "footer", "header", "hgroup", "listing",
   "main", "menu", "nav", "ol", "pre", "search", "section", "summary", "ul"]

/-- Tags of formatting other than links and unbroken text. -/
def formattingTags : List String :=
  ["b", "big", "code", "em", "font", "i", "s", "small", "strike", "strong", "tt", "u"]

/-- Start tags that mean nothing outside their own part of a page. -/
def strayTags : List String :=
  ["caption", "col", "colgroup", "frame", "head", "tbody", "td", "tfoot", "th", "thead", "tr"]

/-- Opens a list item, closing one of its kind. -/
def openListItem (tag : StartTag) : Build Outcome := do
  let closers := if tag.name == "li" then ["li"] else ["dd", "dt"]
  forbidFrameset
  let b ← get
  match b.opened.find? fun id => named closers (b.tagOf id) || listBarrier (b.tagOf id) with
  | some id =>
    let found := b.tagOf id
    if named closers found then
      closeImpliedBut found.name
      closeNamed found.name
  | none => pure ()
  closeOpenParagraph
  insertTag tag
  done

/-- Opens a link, closing one that is still open. -/
def openLink (tag : StartTag) : Build Outcome := do
  let b ← get
  match (recentFormatting b.formatting).find? fun e => named ["a"] (b.tagOf e.1) with
  | some (id, _) =>
    closeFormatting "a"
    dropFormatting id
    dropOpened id
  | none => pure ()
  reopenFormatting
  insertFormatting tag
  done

/-- Opens a drawing or a formula. -/
def openForeign (space : Namespace) (tag : StartTag) : Build Outcome := do
  let _ ← insertElement (!tag.selfClosing) space tag
  done

def voidInText (tag : StartTag) : Build Outcome := do
  reopenFormatting
  insertVoid tag
  unless tag.name == "input" && isHiddenInput tag do forbidFrameset
  done

/-- A frameset in place of the body. -/
def replaceBody (tag : StartTag) : Build Outcome := do
  let b ← get
  match b.framesetOk, b.body? with
  | true, some body =>
    set { b with draft := b.draft.detach body, opened := b.opened.drop (b.opened.length - 1) }
    insertTag tag
    goTo .inFrameset
  | _, _ => done

/-- A start tag in the body. -/
def bodyStart (tag : StartTag) : Build Outcome := do
  let name := tag.name
  let b ← get
  if name == "html" then repeatHtml tag
  else if headTags.contains name then headTag tag
  else if name == "body" then
    match b.body? with
    | some body =>
      unless b.hasOpen "template" do
        forbidFrameset
        modify fun b => { b with draft := b.draft.addMissing body tag.attributes }
      done
    | none => done
  else if name == "frameset" then replaceBody tag
  else if blockTags.contains name then
    closeOpenParagraph
    insertTag tag
    done
  else if headings.contains name then
    closeOpenParagraph
    if (← get).currentIs (named headings) then closeCurrent
    insertTag tag
    done
  else if name == "pre" || name == "listing" then
    closeOpenParagraph
    insertTag tag
    modify fun b => { b with skipLineFeed := true, framesetOk := false }
    done
  else if name == "form" then
    if b.form.isSome && !b.hasOpen "template" then done
    else
      closeOpenParagraph
      let id ← insertElement true .html tag
      unless (← get).hasOpen "template" do modify fun b => { b with form := some id }
      done
  else if ["li", "dd", "dt"].contains name then openListItem tag
  else if name == "plaintext" then
    closeOpenParagraph
    insertTag tag
    pure (.reading .plain)
  else if name == "button" then
    if b.inScopeNamed ordinaryScope "button" then
      closeImplied
      closeNamed "button"
    reopenFormatting
    insertTag tag
    forbidFrameset
    done
  else if name == "a" then openLink tag
  else if formattingTags.contains name then
    reopenFormatting
    insertFormatting tag
    done
  else if name == "nobr" then
    reopenFormatting
    if (← get).inScopeNamed ordinaryScope "nobr" then
      closeFormatting "nobr"
      reopenFormatting
    insertFormatting tag
    done
  else if ["applet", "marquee", "object"].contains name then
    reopenFormatting
    insertTag tag
    markFormatting
    forbidFrameset
    done
  else if name == "table" then
    unless b.oldRules do closeOpenParagraph
    insertTag tag
    forbidFrameset
    goTo .inTable
  else if ["area", "br", "embed", "img", "keygen", "wbr", "input"].contains name then
    voidInText tag
  else if name == "image" then voidInText { tag with name := "img" }
  else if ["param", "source", "track"].contains name then
    insertVoid tag
    done
  else if name == "hr" then
    closeOpenParagraph
    insertVoid tag
    forbidFrameset
    done
  else if name == "textarea" then
    modify fun b => { b with skipLineFeed := true, framesetOk := false }
    insertTextElement tag .escapable
  else if name == "xmp" then
    closeOpenParagraph
    reopenFormatting
    forbidFrameset
    insertTextElement tag .raw
  else if name == "iframe" then
    forbidFrameset
    insertTextElement tag .raw
  else if name == "noembed" || name == "noscript" then insertTextElement tag .raw
  else if name == "select" then
    reopenFormatting
    insertTag tag
    forbidFrameset
    let tableModes : List Mode := [.inTable, .inCaption, .inTableBody, .inRow, .inCell]
    goTo (if tableModes.contains (← get).mode then .inSelectInTable else .inSelect)
  else if name == "optgroup" || name == "option" then
    if b.currentNamed "option" then closeCurrent
    reopenFormatting
    insertTag tag
    done
  else if name == "rb" || name == "rtc" then
    if b.inScopeNamed ordinaryScope "ruby" then closeImplied
    insertTag tag
    done
  else if name == "rp" || name == "rt" then
    if b.inScopeNamed ordinaryScope "ruby" then closeImpliedBut "rtc"
    insertTag tag
    done
  else if name == "math" then openForeign .mathml tag
  else if name == "svg" then openForeign .svg tag
  else if strayTags.contains name then done
  else
    reopenFormatting
    insertTag tag
    done

def closeForm : Build Outcome := do
  let b ← get
  if b.hasOpen "template" then
    if b.inScopeNamed ordinaryScope "form" then
      closeImplied
      closeNamed "form"
    done
  else
    match b.form with
    | none => done
    | some id =>
      modify fun b => { b with form := none }
      if b.withinScope ordinaryScope (· == id) b.opened then
        closeImplied
        dropOpened id
      done

/-- An end tag in the body. -/
def bodyEnd (name : String) : Build Outcome := do
  let b ← get
  if name == "template" then closeTemplate
  else if name == "body" then
    if b.inScopeNamed ordinaryScope "body" then goTo .afterBody else done
  else if name == "html" then
    if b.inScopeNamed ordinaryScope "body" then again .afterBody else done
  else if blockEnds.contains name then
    if b.inScopeNamed ordinaryScope name then
      closeImplied
      closeNamed name
    done
  else if name == "form" then closeForm
  else if name == "p" then
    unless b.inScopeNamed buttonScope "p" do insertImplied "p"
    closeParagraph
    done
  else if ["li", "dd", "dt"].contains name then
    if b.inScopeNamed (if name == "li" then listScope else ordinaryScope) name then
      closeImpliedBut name
      closeNamed name
    done
  else if headings.contains name then
    if b.inScope ordinaryScope (named headings) then
      closeImplied
      closeThrough (named headings)
    done
  else if name == "a" || name == "nobr" || formattingTags.contains name then
    closeFormatting name
    done
  else if ["applet", "marquee", "object"].contains name then
    if b.inScopeNamed ordinaryScope name then
      closeImplied
      closeNamed name
      clearFormatting
    done
  else if name == "br" then voidInText { name := "br" }
  else
    closeAny name
    done

def inBody (token : Token) : Build Outcome :=
  match token with
  | .null | .doctype _ => done
  | .space cs => do
    reopenFormatting
    addText cs
    done
  | .text cs => do
    reopenFormatting
    forbidFrameset
    addText cs
    done
  | .comment => do
    addComment
    done
  | .startTag name attributes selfClosing => bodyStart { name, attributes, selfClosing }
  | .endTag name => bodyEnd name
  | .eof => do
    if (← get).templateModes.isEmpty then done else templateEnd

end SiteSpiders.Html
