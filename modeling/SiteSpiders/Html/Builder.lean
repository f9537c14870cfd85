import SiteSpiders.Html.Draft
import SiteSpiders.Html.TagSets

/-!
# The state of a page builder

The open elements, the formatting that is in force, and the operations on them
that the rules for tokens are made of.
-/
namespace SiteSpiders.Html

inductive Mode where
  | initial
  | beforeHtml
  | beforeHead
  | inHead
  | afterHead
  | inBody
  | text
  | inTable
  | inTableText
  | inCaption
  | inColumnGroup
  | inTableBody
  | inRow
  | inCell
  | inSelect
  | inSelectInTable
  | inTemplate
  | afterBody
  | inFrameset
  | afterFrameset
  | afterAfterBody
  | afterAfterFrameset
  deriving DecidableEq, Inhabited

structure StartTag where
  name : String
  attributes : List (String × String) := []
  selfClosing : Bool := false
  deriving Inhabited

/-- Formatting that is in force until its end tag. -/
inductive Formatting where
  | marker
  | element (id : Nat) (tag : StartTag)
  deriving Inhabited

/-- The builder's state. `opened` has the innermost element first, `formatting` the latest. -/
structure Builder where
  draft : Draft := {}
  mode : Mode := .initial
  returnMode : Mode := .inBody
  templateModes : List Mode := []
  tableText : List (List Char) := []
  oldRules : Bool := false
  opened : List Nat := []
  formatting : List Formatting := []
  head : Option Nat := none
  form : Option Nat := none
  framesetOk : Bool := true
  skipLineFeed : Bool := false
  fostering : Bool := false
  deriving Inhabited

abbrev Build := StateM Builder

/-- What is left to do after a token. -/
inductive Outcome where
  | done
  /-- The token is looked at again in another mode. -/
  | again (mode : Mode)
  /-- The coming text is read in another way. -/
  | reading (mode : TextMode)

namespace Builder

/-- The tag of an open element. -/
def tagOf (b : Builder) (id : Nat) : Tag := (b.draft.tag? id).getD ⟨.html, ""⟩

def current (b : Builder) : Nat := b.opened.headD 0

/-- Whether the innermost element is in a set. -/
def currentIs (b : Builder) (set : TagSet) : Bool :=
  match b.opened with
  | id :: _ => set (b.tagOf id)
  | [] => false

/-- Whether the innermost element has a name. -/
def currentNamed (b : Builder) (name : String) : Bool := b.currentIs (named [name])

/-- Whether an element satisfying a test is open within a bound, innermost first. -/
def withinScope (b : Builder) (scope : TagSet) (test : Nat → Bool) : List Nat → Bool
  | [] => false
  | id :: rest => test id || (!scope (b.tagOf id) && withinScope b scope test rest)

/-- Whether an element of a set is open within a bound. -/
def inScope (b : Builder) (scope set : TagSet) : Bool :=
  b.withinScope scope (fun id => set (b.tagOf id)) b.opened

/-- Whether an element of a name is open within a bound. -/
def inScopeNamed (b : Builder) (scope : TagSet) (name : String) : Bool :=
  b.inScope scope (named [name])

/-- Whether an element of a name is open at all. -/
def hasOpen (b : Builder) (name : String) : Bool :=
  b.opened.any fun id => named [name] (b.tagOf id)

/-- Whether the innermost element belongs to a drawing or a formula. -/
def inForeign (b : Builder) : Bool :=
  match b.opened with
  | id :: _ => (b.tagOf id).space != .html
  | [] => false

/-- Where a node goes: last under an element, or before a table. -/
inductive Site where
  | lastUnder (parent : Nat)
  | beforeTable (table outer : Nat)

/-- Where misplaced content of a table goes. -/
def fosterSite (b : Builder) : List Nat → Site
  | [] => .lastUnder (b.opened.getLast?.getD 0)
  | id :: rest =>
    let tag := b.tagOf id
    if named ["template"] tag then .lastUnder id
    else if named ["table"] tag then .beforeTable id (rest.headD 0)
    else fosterSite b rest

/-- Where a node belongs that is aimed at an element. -/
def siteFor (b : Builder) (target : Nat) : Site :=
  if b.fostering && tableParts (b.tagOf target) then b.fosterSite b.opened
  else .lastUnder target

/-- Puts a piece at a site. -/
def place (b : Builder) (site : Site) (piece : Piece) : Builder :=
  match site with
  | .lastUnder parent => { b with draft := b.draft.append parent piece }
  | .beforeTable table outer =>
    if (b.draft.cell table).parent.isSome then
      { b with draft := b.draft.insertBefore table piece }
    else { b with draft := b.draft.append outer piece }

/-- The mode that fits the open elements, innermost first. -/
def modeFor (b : Builder) : List Nat → Mode
  | [] => .inBody
  | id :: rest =>
    let tag := b.tagOf id
    let last := rest.isEmpty
    if tag.space != .html then modeFor b rest
    else match tag.name with
      | "select" =>
        match rest.find? fun a => named ["template", "table"] (b.tagOf a) with
        | some a => if named ["table"] (b.tagOf a) then .inSelectInTable else .inSelect
        | none => .inSelect
      | "td" | "th" => if last then modeFor b rest else .inCell
      | "tr" => .inRow
      | "tbody" | "thead" | "tfoot" => .inTableBody
      | "caption" => .inCaption
      | "colgroup" => .inColumnGroup
      | "table" => .inTable
      | "template" => b.templateModes.headD .inBody
      | "head" => if last then modeFor b rest else .inHead
      | "body" => .inBody
      | "frameset" => .inFrameset
      | "html" => if b.head.isSome then .afterHead else .beforeHead
      | _ => modeFor b rest

def fittingMode (b : Builder) : Mode := b.modeFor b.opened

/-- The body, when it is the second open element. -/
def body? (b : Builder) : Option Nat :=
  match b.opened.reverse with
  | _ :: id :: _ => if named ["body"] (b.tagOf id) then some id else none
  | _ => none

end Builder

def done : Build Outcome := pure .done

def goTo (mode : Mode) : Build Outcome := do
  modify fun b => { b with mode }
  done

/-- Looks at the token again in a mode. -/
def again (mode : Mode) : Build Outcome := pure (.again mode)

def closeCurrent : Build Unit := modify fun b => { b with opened := b.opened.drop 1 }

/-- Closes elements while they are in a set. -/
def closeWhile (set : TagSet) : Build Unit :=
  modify fun b => { b with opened := b.opened.dropWhile fun id => set (b.tagOf id) }

/-- Closes elements until one of a set is innermost. -/
def closeBackTo (set : TagSet) : Build Unit := closeWhile fun t => !set t

/-- Closes elements up to and with one of a set. -/
def closeThrough (set : TagSet) : Build Unit := do
  closeBackTo set
  closeCurrent

/-- Closes elements up to and with one of a name. -/
def closeNamed (name : String) : Build Unit := closeThrough (named [name])

/-- Closes elements whose end may be left out. -/
def closeImplied : Build Unit := closeWhile impliedEnd

/-- Closes elements whose end may be left out, but none of a name. -/
def closeImpliedBut (name : String) : Build Unit :=
  closeWhile fun t => impliedEnd t && !named [name] t

def closeParagraph : Build Unit := do
  closeImpliedBut "p"
  closeNamed "p"

/-- Closes the paragraph the builder is in, if it is in one. -/
def closeOpenParagraph : Build Unit := do
  if (← get).inScopeNamed buttonScope "p" then closeParagraph

/-- Adds a text where the builder stands. -/
def addText (cs : List Char) : Build Unit :=
  modify fun b => b.place (b.siteFor b.current) (.text (String.ofList cs))

/-- Adds a comment under an element. -/
def addCommentTo (parent : Nat) : Build Unit :=
  modify fun b =>
    let (id, draft) := b.draft.make .comment
    { b with draft := draft.appendCell parent id }

/-- Adds a comment where the builder stands. -/
def addComment : Build Unit :=
  modify fun b =>
    let (id, draft) := b.draft.make .comment
    let b := { b with draft }
    b.place (b.siteFor b.current) (.cell id)

/-- Makes an element without placing it. -/
def makeElement (tag : Tag) (attributes : List (String × String)) : Build Nat := do
  let b ← get
  let (id, draft) := b.draft.make (.element tag attributes)
  set { b with draft }
  pure id

/-- Makes an element and places it; `enter` opens it. -/
def insertElement (enter : Bool) (space : Namespace) (tag : StartTag) : Build Nat := do
  let id ← makeElement ⟨space, tag.name⟩ tag.attributes
  modify fun b =>
    let b := b.place (b.siteFor b.current) (.cell id)
    if enter then { b with opened := id :: b.opened } else b
  pure id

/-- Makes and opens an ordinary element. -/
def insertTag (tag : StartTag) : Build Unit := do
  let _ ← insertElement true .html tag

/-- Makes an ordinary element that holds nothing. -/
def insertVoid (tag : StartTag) : Build Unit := do
  let _ ← insertElement false .html tag

/-- Opens an element that was not written. -/
def insertImplied (name : String) : Build Unit := insertTag { name }

/-- A frameset may no longer replace the body. -/
def forbidFrameset : Build Unit := modify fun b => { b with framesetOk := false }

/-- Opens an element whose content is read specially. -/
def insertTextElement (tag : StartTag) (reading : TextMode) : Build Outcome := do
  insertTag tag
  modify fun b => { b with returnMode := b.mode, mode := .text }
  pure (.reading reading)

/-- Adds a marker to the formatting in force. -/
def markFormatting : Build Unit :=
  modify fun b => { b with formatting := .marker :: b.formatting }

/-- Drops the formatting since the last marker, and the marker. -/
def clearFormatting : Build Unit :=
  modify fun b => { b with
    formatting := (b.formatting.dropWhile fun | .marker => false | .element .. => true).drop 1 }

/-- The formatting since the last marker, latest first. -/
def recentFormatting (entries : List Formatting) : List (Nat × StartTag) :=
  match entries with
  | .element id tag :: rest => (id, tag) :: recentFormatting rest
  | _ => []

/-- Whether two tags have one name and the same attributes in any order. -/
def sameFormatting (a b : StartTag) : Bool :=
  a.name == b.name && a.attributes.length == b.attributes.length &&
    a.attributes.all fun x => b.attributes.contains x

/-- Whether an entry stands for an element. -/
def Formatting.isFor (id : Nat) : Formatting → Bool
  | .element other _ => other == id
  | .marker => false

/-- Takes an element off the formatting in force. -/
def dropFormatting (id : Nat) : Build Unit :=
  modify fun b => { b with formatting := b.formatting.filter fun f => !f.isFor id }

/-- Takes an element off the open elements. -/
def dropOpened (id : Nat) : Build Unit :=
  modify fun b => { b with opened := b.opened.erase id }

/-- Opens a formatting element; of three alike since the last marker the oldest is dropped. -/
def insertFormatting (tag : StartTag) : Build Unit := do
  let alike := (recentFormatting (← get).formatting).filter fun e => sameFormatting tag e.2
  if 3 ≤ alike.length then
    match alike.getLast? with
    | some (id, _) => dropFormatting id
    | none => pure ()
  let id ← insertElement true .html tag
  modify fun b => { b with formatting := .element id tag :: b.formatting }

/-- The formatting that has to be opened anew, oldest first. -/
def Builder.lapsed (b : Builder) : List (Nat × StartTag) :=
  ((recentFormatting b.formatting).takeWhile fun e => !b.opened.contains e.1).reverse

/-- Opens anew the formatting whose elements were closed before their end tags. -/
def reopenFormatting : Build Unit := do
  for (old, tag) in (← get).lapsed do
    let id ← insertElement true .html tag
    modify fun b => { b with
      formatting := b.formatting.map fun f => if f.isFor old then .element id tag else f }

/-- Handles an end tag that has no rule of its own. -/
def closeAny (name : String) : Build Unit := do
  let b ← get
  match b.opened.find? fun id => named [name] (b.tagOf id) || special (b.tagOf id) with
  | none => pure ()
  | some id =>
    if named [name] (b.tagOf id) then
      closeImpliedBut name
      modify fun b => { b with opened := (b.opened.dropWhile (· != id)).drop 1 }

/-- The elements between a formatting element and the block that interrupts it, outermost last,
each made anew or dropped as the block is moved out. Returns the outermost node moved, and the
element after which the formatting element's successor is entered in the formatting in force. -/
def moveOut (block : Nat) : Nat → Nat → Option Nat → List Nat → Build (Nat × Option Nat)
  | _, last, mark, [] => pure (last, mark)
  | count, last, mark, node :: outer => do
    let count := count + 1
    let entry := (← get).formatting.find? (·.isFor node)
    match entry with
    | some (.element _ tag) =>
      if 3 < count then
        dropFormatting node
        dropOpened node
        moveOut block count last mark outer
      else
        let fresh ← makeElement ⟨.html, tag.name⟩ tag.attributes
        modify fun b => { b with
          opened := b.opened.map fun id => if id = node then fresh else id
          formatting := b.formatting.map fun f =>
            if f.isFor node then .element fresh tag else f
          draft := (b.draft.detach last).appendCell fresh last }
        moveOut block count fresh (if last = block then some fresh else mark) outer
    | _ =>
      dropOpened node
      moveOut block count last mark outer

/-- Puts an entry right after another in the order of making, that is right before it here. -/
def enterAfter (mark : Nat) (entry : Formatting) (entries : List Formatting) : List Formatting :=
  entries.flatMap fun f => if f.isFor mark then [entry, f] else [f]

/-- One round of closing a formatting element that a block interrupts. Returns whether another
round is due. -/
def adoptOnce (name : String) : Build Bool := do
  let b ← get
  match (recentFormatting b.formatting).find? fun e => e.2.name == name with
  | none =>
    closeAny name
    pure false
  | some (id, tag) =>
    if !b.opened.contains id then
      dropFormatting id
      pure false
    else if !b.withinScope ordinaryScope (· == id) b.opened then pure false
    else
      let inner := b.opened.takeWhile (· != id)
      match inner.reverse.find? fun n => special (b.tagOf n) with
      | none =>
        modify fun b => { b with opened := (b.opened.dropWhile (· != id)).drop 1 }
        dropFormatting id
        pure false
      | some block =>
        let ancestor := ((b.opened.dropWhile (· != id)).drop 1).headD 0
        let between := (inner.dropWhile (· != block)).drop 1
        let (last, mark) ← moveOut block 0 block none between
        modify fun b =>
          let b := { b with draft := b.draft.detach last }
          b.place (b.siteFor ancestor) (.cell last)
        let fresh ← makeElement ⟨.html, tag.name⟩ tag.attributes
        modify fun b => { b with
          draft := (b.draft.moveChildren block fresh).appendCell block fresh }
        let entry := Formatting.element fresh tag
        match mark with
        | none => modify fun b => { b with
            formatting := b.formatting.map fun f => if f.isFor id then entry else f }
        | some previous =>
          modify fun b => { b with formatting := enterAfter previous entry b.formatting }
          dropFormatting id
        dropOpened id
        modify fun b => { b with
          opened := b.opened.flatMap fun n => if n = block then [fresh, n] else [n] }
        pure true

/-- Rounds of closing a formatting element. -/
def adoptRounds (name : String) : Nat → Build Unit
  | 0 => pure ()
  | rounds + 1 => do
    if ← adoptOnce name then adoptRounds name rounds

/-- Closes a formatting element, also when blocks opened inside it are still open. -/
def closeFormatting (name : String) : Build Unit := do
  let b ← get
  if b.currentNamed name && !b.formatting.any (·.isFor b.current) then closeCurrent
  else adoptRounds name 8

end SiteSpiders.Html
