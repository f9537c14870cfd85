import SiteSpiders.Html.BodyRules

/-!
# Rules for tables, choice lists and templates

Content that a table cannot hold is put before the table.
-/
namespace SiteSpiders.Html

/-- Treats a token by the rules for the body, with misplaced content put before the table. -/
def fosterInBody (token : Token) : Build Outcome := do
  modify fun b => { b with fostering := true }
  let outcome ← inBody token
  modify fun b => { b with fostering := false }
  pure outcome

/-- A text right inside a table. -/
def tableChars (token : Token) : Build Outcome := do
  let b ← get
  if b.currentIs tableParts then
    set { b with returnMode := b.mode }
    again .inTableText
  else fosterInBody token

def inTable (token : Token) : Build Outcome :=
  match token with
  | .null | .space _ | .text _ => tableChars token
  | .comment => do
    addComment
    done
  | .eof => inBody token
  | .startTag name attributes selfClosing => do
    let tag : StartTag := { name, attributes, selfClosing }
    match name with
    | "caption" =>
      closeBackTo tableScope
      markFormatting
      insertTag tag
      goTo .inCaption
    | "colgroup" =>
      closeBackTo tableScope
      insertTag tag
      goTo .inColumnGroup
    | "col" =>
      closeBackTo tableScope
      insertImplied "colgroup"
      again .inColumnGroup
    | "tbody" | "tfoot" | "thead" =>
      closeBackTo tableScope
      insertTag tag
      goTo .inTableBody
    | "td" | "th" | "tr" =>
      closeBackTo tableScope
      insertImplied "tbody"
      again .inTableBody
    | "table" =>
      if (← get).inScopeNamed tableScope "table" then
        closeNamed "table"
        again (← get).fittingMode
      else done
    | "style" | "script" | "template" => headTag tag
    | "input" =>
      if isHiddenInput tag then
        insertVoid tag
        done
      else fosterInBody token
    | "form" =>
      let b ← get
      if !b.hasOpen "template" && b.form.isNone then
        let id ← insertElement false .html tag
        modify fun b => { b with form := some id }
      done
    | _ => fosterInBody token
  | .endTag name => do
    if name == "table" then
      if (← get).inScopeNamed tableScope "table" then
        closeNamed "table"
        goTo (← get).fittingMode
      else done
    else if name == "template" then closeTemplate
    else if name == "body" || name == "html" || (strayTags.contains name && name != "frame" &&
        name != "head") then done
    else fosterInBody token
  | .doctype _ => done

/-- Rules for a text inside a table. -/
def inTableText (token : Token) : Build Outcome :=
  match token with
  | .null => done
  | .space cs | .text cs => do
    modify fun b => { b with tableText := cs :: b.tableText }
    done
  | _ => do
    let b ← get
    set { b with tableText := [] }
    if b.tableText.any fun cs => cs.any fun c => !isSpace c then
      for cs in b.tableText.reverse do
        let _ ← fosterInBody (if cs.all isSpace then .space cs else .text cs)
    else
      for cs in b.tableText.reverse do addText cs
    again b.returnMode

/-- Tags that end a part of a table. -/
def partTags : List String := ["caption", "col", "colgroup", "tbody", "tfoot", "thead"]

/-- Rules for the caption of a table. -/
def inCaption (token : Token) : Build Outcome := do
  let leave (next : Build Outcome) : Build Outcome := do
    if (← get).inScopeNamed tableScope "caption" then
      closeImplied
      closeNamed "caption"
      clearFormatting
      next
    else done
  match token with
  | .startTag name .. =>
    if partTags.contains name || ["td", "th", "tr"].contains name then leave (again .inTable)
    else inBody token
  | .endTag name =>
    if name == "caption" then leave (goTo .inTable)
    else if name == "table" then leave (again .inTable)
    else if ["body", "col", "colgroup", "html", "tbody", "td", "tfoot", "th", "thead",
        "tr"].contains name then done
    else inBody token
  | _ => inBody token

/-- Rules for a group of columns. -/
def inColumnGroup (token : Token) : Build Outcome :=
  let leave : Build Outcome := do
    if (← get).currentNamed "colgroup" then
      closeCurrent
      again .inTable
    else done
  match token with
  | .space cs => do
    addText cs
    done
  | .comment => do
    addComment
    done
  | .eof => inBody token
  | .startTag name attributes selfClosing =>
    let tag : StartTag := { name, attributes, selfClosing }
    match name with
    | "html" => repeatHtml tag
    | "col" => do
      insertVoid tag
      done
    | "template" => openTemplate tag
    | _ => leave
  | .endTag name =>
    match name with
    | "colgroup" => do
      if (← get).currentNamed "colgroup" then
        closeCurrent
        goTo .inTable
      else done
    | "col" => done
    | "template" => closeTemplate
    | _ => leave
  | _ => leave

/-- Rules for the body of a table. -/
def inTableBody (token : Token) : Build Outcome := do
  let leave : Build Outcome := do
    if (← get).inScope tableScope (named ["table", "tbody", "tfoot"]) then
      closeBackTo bodyContext
      closeCurrent
      again .inTable
    else done
  match token with
  | .startTag name attributes selfClosing =>
    if name == "tr" then
      closeBackTo bodyContext
      insertTag { name, attributes, selfClosing }
      goTo .inRow
    else if name == "th" || name == "td" then
      closeBackTo bodyContext
      insertImplied "tr"
      again .inRow
    else if partTags.contains name then leave
    else inTable token
  | .endTag name =>
    if ["tbody", "tfoot", "thead"].contains name then
      if (← get).inScopeNamed tableScope name then
        closeBackTo bodyContext
        closeCurrent
        goTo .inTable
      else done
    else if name == "table" then leave
    else if ["body", "caption", "col", "colgroup", "html", "td", "th", "tr"].contains name then
      done
    else inTable token
  | _ => inTable token

def inRow (token : Token) : Build Outcome := do
  let leave (next : Build Outcome) : Build Outcome := do
    if (← get).inScopeNamed tableScope "tr" then
      closeBackTo rowContext
      closeCurrent
      next
    else done
  match token with
  | .startTag name attributes selfClosing =>
    if name == "th" || name == "td" then
      closeBackTo rowContext
      insertTag { name, attributes, selfClosing }
      markFormatting
      goTo .inCell
    else if partTags.contains name || name == "tr" then leave (again .inTableBody)
    else inTable token
  | .endTag name =>
    if name == "tr" then leave (goTo .inTableBody)
    else if name == "table" then leave (again .inTableBody)
    else if ["tbody", "tfoot", "thead"].contains name then
      if (← get).inScopeNamed tableScope name then leave (again .inTableBody) else done
    else if ["body", "caption", "col", "colgroup", "html", "td", "th"].contains name then done
    else inTable token
  | _ => inTable token

def closeCell : Build Unit := do
  closeImplied
  closeThrough tableCells
  clearFormatting

def inCell (token : Token) : Build Outcome := do
  match token with
  | .startTag name .. =>
    if partTags.contains name || ["td", "th", "tr"].contains name then
      if (← get).inScope tableScope tableCells then
        closeCell
        again .inRow
      else done
    else inBody token
  | .endTag name =>
    if name == "td" || name == "th" then
      if (← get).inScopeNamed tableScope name then
        closeImplied
        closeNamed name
        clearFormatting
        goTo .inRow
      else done
    else if ["table", "tbody", "tfoot", "thead", "tr"].contains name then
      if (← get).inScopeNamed tableScope name then
        closeCell
        again .inRow
      else done
    else if ["body", "caption", "col", "colgroup", "html"].contains name then done
    else inBody token
  | _ => inBody token

def inSelect (token : Token) : Build Outcome := do
  let leave (next : Mode → Build Outcome) : Build Outcome := do
    if (← get).inScopeNamed selectScope "select" then
      closeNamed "select"
      next (← get).fittingMode
    else done
  match token with
  | .null | .doctype _ => done
  | .space cs | .text cs =>
    addText cs
    done
  | .comment =>
    addComment
    done
  | .eof => inBody token
  | .startTag name attributes selfClosing =>
    let tag : StartTag := { name, attributes, selfClosing }
    match name with
    | "html" => repeatHtml tag
    | "option" =>
      if (← get).currentNamed "option" then closeCurrent
      insertTag tag
      done
    | "optgroup" =>
      if (← get).currentNamed "option" then closeCurrent
      if (← get).currentNamed "optgroup" then closeCurrent
      insertTag tag
      done
    | "hr" =>
      if (← get).currentNamed "option" then closeCurrent
      if (← get).currentNamed "optgroup" then closeCurrent
      insertVoid tag
      done
    | "select" => leave goTo
    | "input" | "keygen" | "textarea" => leave again
    | "script" | "template" => headTag tag
    | _ => done
  | .endTag name =>
    match name with
    | "optgroup" =>
      let b ← get
      let outer := (b.opened.drop 1).headD 0
      if b.currentNamed "option" && named ["optgroup"] (b.tagOf outer) then closeCurrent
      if (← get).currentNamed "optgroup" then closeCurrent
      done
    | "option" =>
      if (← get).currentNamed "option" then closeCurrent
      done
    | "select" => leave goTo
    | "template" => closeTemplate
    | _ => done

/-- Rules for a choice list inside a table. -/
def inSelectInTable (token : Token) : Build Outcome := do
  let tableTags := ["caption", "table", "tbody", "tfoot", "thead", "tr", "td", "th"]
  let leave : Build Outcome := do
    closeNamed "select"
    again (← get).fittingMode
  match token with
  | .startTag name .. => if tableTags.contains name then leave else inSelect token
  | .endTag name =>
    if tableTags.contains name then
      if (← get).inScopeNamed tableScope name then leave else done
    else inSelect token
  | _ => inSelect token

/-- Rules for the content of a template. -/
def inTemplate (token : Token) : Build Outcome :=
  let turnTo (mode : Mode) : Build Outcome := do
    modify fun b => { b with templateModes := mode :: b.templateModes.drop 1 }
    again mode
  match token with
  | .space _ | .text _ | .comment => inBody token
  | .startTag name attributes selfClosing =>
    let tag : StartTag := { name, attributes, selfClosing }
    if headTags.contains name then headTag tag
    else match name with
      | "caption" | "colgroup" | "tbody" | "tfoot" | "thead" => turnTo .inTable
      | "col" => turnTo .inColumnGroup
      | "tr" => turnTo .inTableBody
      | "td" | "th" => turnTo .inRow
      | _ => turnTo .inBody
  | .endTag name => if name == "template" then closeTemplate else done
  | .eof => templateEnd
  | .null | .doctype _ => done

end SiteSpiders.Html
