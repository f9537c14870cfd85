import SiteSpiders.Html.TableRules

/-!
# Reading pages

A page is read token by token. Every text is a page: what is missing is implied
and what is misplaced is moved or passed over.
-/
namespace SiteSpiders.Html

def beforeHtml (token : Token) : Build Outcome :=
  let open_ (attributes : List (String × String)) : Build Unit := do
    let id ← makeElement ⟨.html, "html"⟩ attributes
    modify fun b => { b with draft := b.draft.appendCell 0 id, opened := [id] }
  let imply : Build Outcome := do
    open_ []
    again .beforeHead
  match token with
  | .space _ => done
  | .comment => do
    addCommentTo 0
    done
  | .startTag name attributes _ =>
    if name == "html" then do
      open_ attributes
      goTo .beforeHead
    else imply
  | .endTag name => if ["head", "body", "html", "br"].contains name then imply else done
  | _ => imply

def beforeHead (token : Token) : Build Outcome :=
  let open_ (tag : StartTag) (next : Build Outcome) : Build Outcome := do
    let id ← insertElement true .html tag
    modify fun b => { b with head := some id }
    next
  let imply := open_ { name := "head" } (again .inHead)
  match token with
  | .space _ => done
  | .comment => do
    addComment
    done
  | .startTag name attributes selfClosing =>
    let tag : StartTag := { name, attributes, selfClosing }
    if name == "html" then repeatHtml tag
    else if name == "head" then open_ tag (goTo .inHead)
    else imply
  | .endTag name => if ["head", "body", "html", "br"].contains name then imply else done
  | _ => imply

/-- Rules between the head and the body. -/
def afterHead (token : Token) : Build Outcome :=
  let imply : Build Outcome := do
    insertImplied "body"
    again .inBody
  match token with
  | .space cs => do
    addText cs
    done
  | .comment => do
    addComment
    done
  | .startTag name attributes selfClosing =>
    let tag : StartTag := { name, attributes, selfClosing }
    if name == "html" then repeatHtml tag
    else if name == "body" then do
      insertTag tag
      forbidFrameset
      goTo .inBody
    else if name == "frameset" then do
      insertTag tag
      goTo .inFrameset
    else if headTags.contains name then do
      match (← get).head with
      | some head =>
        modify fun b => { b with opened := head :: b.opened }
        let outcome ← headTag tag
        dropOpened head
        pure outcome
      | none => headTag tag
    else if name == "head" then done
    else imply
  | .endTag name =>
    if name == "template" then closeTemplate
    else if ["body", "html", "br"].contains name then imply
    else done
  | _ => imply

/-- Rules inside an element that holds only text. -/
def inText (token : Token) : Build Outcome := do
  match token with
  | .space cs | .text cs =>
    addText cs
    done
  | .eof =>
    closeCurrent
    again (← get).returnMode
  | .endTag _ =>
    closeCurrent
    goTo (← get).returnMode
  | _ => done

def afterBody (token : Token) : Build Outcome := do
  match token with
  | .space _ => inBody token
  | .comment =>
    addCommentTo ((← get).opened.getLast?.getD 0)
    done
  | .startTag name .. => if name == "html" then inBody token else again .inBody
  | .endTag name => if name == "html" then goTo .afterAfterBody else again .inBody
  | .eof => done
  | _ => again .inBody

/-- Rules for a set of frames. -/
def inFrameset (token : Token) : Build Outcome := do
  match token with
  | .space cs =>
    addText cs
    done
  | .comment =>
    addComment
    done
  | .startTag name attributes selfClosing =>
    let tag : StartTag := { name, attributes, selfClosing }
    match name with
    | "html" => repeatHtml tag
    | "frameset" =>
      insertTag tag
      done
    | "frame" =>
      insertVoid tag
      done
    | "noframes" => headTag tag
    | _ => done
  | .endTag name =>
    if name == "frameset" && (← get).opened.length != 1 then
      closeCurrent
      if (← get).currentNamed "frameset" then done else goTo .afterFrameset
    else done
  | _ => done

/-- Rules after a set of frames. -/
def afterFrameset (token : Token) : Build Outcome := do
  match token with
  | .space cs =>
    addText cs
    done
  | .comment =>
    addComment
    done
  | .startTag name attributes selfClosing =>
    let tag : StartTag := { name, attributes, selfClosing }
    match name with
    | "html" => repeatHtml tag
    | "noframes" => headTag tag
    | _ => done
  | .endTag name => if name == "html" then goTo .afterAfterFrameset else done
  | _ => done

def afterAfterBody (token : Token) : Build Outcome := do
  match token with
  | .space _ => inBody token
  | .comment =>
    addCommentTo 0
    done
  | .startTag name .. => if name == "html" then inBody token else again .inBody
  | .eof => done
  | _ => again .inBody

/-- Rules after the page element of a page of frames. -/
def afterAfterFrameset (token : Token) : Build Outcome := do
  match token with
  | .space _ => inBody token
  | .comment =>
    addCommentTo 0
    done
  | .startTag name attributes selfClosing =>
    let tag : StartTag := { name, attributes, selfClosing }
    match name with
    | "html" => repeatHtml tag
    | "noframes" => headTag tag
    | _ => done
  | _ => done

def initial (token : Token) : Build Outcome := do
  match token with
  | .space _ => done
  | .comment =>
    addCommentTo 0
    done
  | .doctype d =>
    modify fun b => { b with oldRules := d.isOld }
    goTo .beforeHtml
  | _ =>
    modify fun b => { b with oldRules := true }
    again .beforeHtml

def rulesOf : Mode → Token → Build Outcome
  | .initial => initial
  | .beforeHtml => beforeHtml
  | .beforeHead => beforeHead
  | .inHead => inHead
  | .afterHead => afterHead
  | .inBody => inBody
  | .text => inText
  | .inTable => inTable
  | .inTableText => inTableText
  | .inCaption => inCaption
  | .inColumnGroup => inColumnGroup
  | .inTableBody => inTableBody
  | .inRow => inRow
  | .inCell => inCell
  | .inSelect => inSelect
  | .inSelectInTable => inSelectInTable
  | .inTemplate => inTemplate
  | .afterBody => afterBody
  | .inFrameset => inFrameset
  | .afterFrameset => afterFrameset
  | .afterAfterBody => afterAfterBody
  | .afterAfterFrameset => afterAfterFrameset

/-- Whether a token is content of the drawing or formula the builder is in. -/
def isForeign (b : Builder) (token : Token) : Bool :=
  let tag := b.tagOf b.current
  let isText := match token with
    | .space _ | .text _ | .null => true
    | _ => false
  let ordinaryStart := match token with
    | .startTag name .. => !(name == "mglyph" || name == "malignmark")
    | _ => false
  let isStart := match token with
    | .startTag .. => true
    | _ => false
  let isEnd := match token with
    | .eof => true
    | _ => false
  if isEnd || !b.inForeign then false
  else if formulaText tag && (isText || ordinaryStart) then false
  else if drawingMarkup tag && (isText || isStart) then false
  else match token with
    | .startTag "svg" .. => !(tag.space == .mathml && tag.name == "annotation-xml")
    | _ => true

/-- A start tag inside a drawing or a formula. -/
def foreignStart (tag : StartTag) : Build Outcome := do
  let b ← get
  let space := (b.tagOf b.current).space
  let name := if space == .svg then drawingName tag.name else tag.name
  let _ ← insertElement (!tag.selfClosing) space { tag with name }
  done

/-- Leaves drawings and formulas, and treats a token by the rules of the page. -/
def breakOut (token : Token) : Build Outcome := do
  closeBackTo fun t => t.space == .html || formulaText t || drawingMarkup t
  rulesOf (← get).mode token

/-- The open elements after an end tag inside a drawing or a formula, or `none` if the rules of
the page decide. -/
def foreignEnd (b : Builder) (name : String) : Bool → List Nat → Option (List Nat)
  | _, [] | _, [_] => some b.opened
  | first, id :: rest =>
    let tag := b.tagOf id
    if !first && tag.space == .html then none
    else if tag.name.toLower == name then some rest
    else foreignEnd b name false rest

/-- Rules for the content of drawings and formulas. -/
def inForeignContent (token : Token) : Build Outcome := do
  match token with
  | .null =>
    addText [Char.ofNat 0xfffd]
    done
  | .space cs =>
    addText cs
    done
  | .text cs =>
    forbidFrameset
    addText cs
    done
  | .comment =>
    addComment
    done
  | .startTag name attributes selfClosing =>
    let fontLook := name == "font" &&
      attributes.any fun a => ["color", "face", "size"].contains a.1
    if breakouts.contains name || fontLook then breakOut token
    else foreignStart { name, attributes, selfClosing }
  | .endTag name =>
    if name == "br" || name == "p" then breakOut token
    else
      let b ← get
      match foreignEnd b name true b.opened with
      | some opened =>
        set { b with opened }
        done
      | none => rulesOf b.mode token
  | .doctype _ | .eof => done

/-- Treats a token, again as long as its rules ask for it. Returns how the coming text is read. -/
def treat (token : Token) : Nat → Build TextMode
  | 0 => pure .data
  | fuel + 1 => do
    let b ← get
    let outcome ← if isForeign b token then inForeignContent token else rulesOf b.mode token
    match outcome with
    | .done => pure .data
    | .reading mode => pure mode
    | .again mode => do
      modify fun b => { b with mode }
      treat token fuel

/-- Takes in a token. A line feed that opens a preformatted text is passed over. -/
def takeToken (token : Token) : Build TextMode := do
  let b ← get
  set { b with skipLineFeed := false }
  let rounds := 8 * (b.opened.length + b.templateModes.length + 8)
  match token with
  | .doctype _ => if b.mode = .initial then treat token rounds else pure .data
  | .space ('\n' :: cs) =>
    if b.skipLineFeed then
      if cs.isEmpty then pure .data else treat (.space cs) rounds
    else treat token rounds
  | _ => treat token rounds

/-- Takes in tokens that were read in one go. -/
def takeAll : TextMode → List Token → Build TextMode
  | mode, [] => pure mode
  | _, token :: rest => do
    let mode ← takeToken token
    takeAll mode rest

/-- Whether a text mode lasts until the element's end tag. -/
def TextMode.isContent : TextMode → Bool
  | .escapable | .raw | .script => true
  | _ => false

/-- The name of the last start tag read. -/
def lastStart (name : String) (tokens : List Token) : String :=
  tokens.foldl (fun n t => match t with
    | .startTag m .. => m
    | _ => n) name

/-- Reads the rest of a page. -/
def readAll : Nat → TextMode → String → List Char → Build Unit
  | 0, _, _, _ => pure ()
  | _ + 1, _, _, [] => do
    let _ ← takeToken .eof
  | fuel + 1, mode, name, cs => do
    let (tokens, rest) := nextTokens mode name (← get).inForeign cs
    if mode.isContent then
      let _ ← takeAll .data tokens
      match nextTokens .data name false rest with
      | (ending, more) => do
        let next ← takeAll .data ending
        readAll fuel next (lastStart name ending) more
    else
      let next ← takeAll .data tokens
      readAll fuel next (lastStart name tokens) rest

def parse (source : String) : Document :=
  let cs := pageChars source
  let ((), b) := (readAll (cs.length + 2) .data "" cs).run {}
  b.draft.document

end SiteSpiders.Html
