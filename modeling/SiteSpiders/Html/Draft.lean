import SiteSpiders.Html.Node

/-!
# A page under construction

Building a page moves nodes around, so while it is built each node is a cell
with a number, and parents and children are linked by number. Cells are made in
order, and that order survives into the finished page.
-/
namespace SiteSpiders.Html

inductive CellContent where
  | root
  | element (tag : Tag) (attributes : List (String × String))
  | text (content : String)
  | comment
  deriving Inhabited

structure Cell where
  content : CellContent
  parent : Option Nat := none
  children : List Nat := []
  deriving Inhabited

/-- A page under construction. Cell `0` is the page itself. -/
structure Draft where
  cells : Array Cell := #[{ content := .root }]
  deriving Inhabited

/-- A node that exists, or a text that may join its neighbour. -/
inductive Piece where
  | cell (id : Nat)
  | text (content : String)

namespace Draft

def cell (d : Draft) (id : Nat) : Cell := d.cells.getD id { content := .comment }

def update (d : Draft) (id : Nat) (f : Cell → Cell) : Draft := ⟨d.cells.modify id f⟩

/-- Makes a cell without a parent. -/
def make (d : Draft) (content : CellContent) : Nat × Draft :=
  (d.cells.size, ⟨d.cells.push { content }⟩)

def tag? (d : Draft) (id : Nat) : Option Tag :=
  match (d.cell id).content with
  | .element tag _ => some tag
  | _ => none

/-- Whether a cell is a text. -/
def isText (d : Draft) (id : Nat) : Bool :=
  match (d.cell id).content with
  | .text _ => true
  | _ => false

/-- Takes a cell out of its parent. -/
def detach (d : Draft) (id : Nat) : Draft :=
  match (d.cell id).parent with
  | none => d
  | some p =>
    (d.update p fun c => { c with children := c.children.filter (· != id) }).update id
      fun c => { c with parent := none }

/-- Adds to the end of a text cell. -/
def extendText (d : Draft) (id : Nat) (s : String) : Draft :=
  d.update id fun c => match c.content with
    | .text t => { c with content := .text (t ++ s) }
    | _ => c

/-- Puts a cell last among the children of another. -/
def appendCell (d : Draft) (parent id : Nat) : Draft :=
  ((d.detach id).update parent fun c => { c with children := c.children ++ [id] }).update id
    fun c => { c with parent := some parent }

/-- Puts a piece last; a text joins a text that is last already. -/
def append (d : Draft) (parent : Nat) : Piece → Draft
  | .cell id => d.appendCell parent id
  | .text s =>
    match (d.cell parent).children.getLast? with
    | some last =>
      if d.isText last then d.extendText last s
      else
        let (id, d) := d.make (.text s)
        d.appendCell parent id
    | none =>
      let (id, d) := d.make (.text s)
      d.appendCell parent id

def before? : List Nat → Nat → Option Nat
  | a :: b :: rest, id => if b = id then some a else before? (b :: rest) id
  | _, _ => none

/-- Puts a cell right before a sibling. -/
def insertCell (d : Draft) (parent sibling id : Nat) : Draft :=
  ((d.detach id).update parent fun c =>
    { c with children := c.children.flatMap fun k => if k = sibling then [id, k] else [k] }).update
      id fun c => { c with parent := some parent }

/-- Puts a piece right before a sibling that has a parent; a text joins a text that is there. -/
def insertBefore (d : Draft) (sibling : Nat) (piece : Piece) : Draft :=
  match (d.cell sibling).parent with
  | none => match piece with
    | .cell id => d.detach id
    | .text _ => d
  | some parent =>
    match piece with
    | .cell id => d.insertCell parent sibling id
    | .text s =>
      let fresh := fun (_ : Unit) =>
        let (id, d) := d.make (.text s)
        d.insertCell parent sibling id
      match before? (d.cell parent).children sibling with
      | some previous => if d.isText previous then d.extendText previous s else fresh ()
      | none => fresh ()

/-- Moves all children of one cell to the end of another. -/
def moveChildren (d : Draft) (source target : Nat) : Draft :=
  (d.cell source).children.foldl (fun d id => d.appendCell target id) d

/-- Adds the attributes an element does not have yet. -/
def addMissing (d : Draft) (id : Nat) (attributes : List (String × String)) : Draft :=
  d.update id fun c => match c.content with
    | .element tag present =>
      let missing := attributes.filter fun a => !present.any fun b => b.1 == a.1
      { c with content := .element tag (present ++ missing) }
    | _ => c

/-- The finished nodes of some cells, down to a depth. -/
def nodes (d : Draft) : Nat → List Nat → List Node
  | 0, _ => []
  | depth + 1, ids => ids.map fun id =>
    let c := d.cell id
    match c.content with
    | .element tag attributes => .element tag attributes id (d.nodes depth c.children)
    | .text s => .text s
    | .comment | .root => .comment

/-- The elements that ended outside the page. -/
def orphans (d : Draft) : List Nat :=
  (List.range d.cells.size).filter fun id =>
    (d.tag? id).isSome && (d.cell id).parent.isNone

def document (d : Draft) : Document where
  top := d.nodes (d.cells.size + 1) (d.cell 0).children
  cutOff := d.nodes (d.cells.size + 1) d.orphans

end Draft

end SiteSpiders.Html
