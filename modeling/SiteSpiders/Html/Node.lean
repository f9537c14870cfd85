/-!
# Documents

A parsed page as a tree. Elements remember the order in which they were made,
which is the order a selection lists them in.
-/
namespace SiteSpiders.Html

inductive Namespace where
  | html
  | svg
  | mathml
  deriving DecidableEq, Repr, Inhabited

structure Tag where
  space : Namespace
  name : String
  deriving DecidableEq, Repr, Inhabited

inductive Node where
  | element (tag : Tag) (attributes : List (String × String)) (order : Nat) (children : List Node)
  | text (content : String)
  | comment
  deriving Inhabited

/-- A parsed page: its top-level nodes, and trees that were cut off while it was built. -/
structure Document where
  top : List Node
  cutOff : List Node := []
  deriving Inhabited

namespace Node

def children : Node → List Node
  | .element _ _ _ cs => cs
  | _ => []

def name? : Node → Option String
  | .element tag .. => some tag.name
  | _ => none

def tag? : Node → Option Tag
  | .element tag .. => some tag
  | _ => none

def attribute? (key : String) : Node → Option String
  | .element _ attributes _ _ => attributes.lookup key
  | _ => none

/-- The content of a text node. -/
def text? : Node → Option String
  | .text s => some s
  | _ => none

/-- The order in which an element was made. -/
def order : Node → Nat
  | .element _ _ n _ => n
  | _ => 0

/-- The texts directly under a node. -/
def directTexts (n : Node) : List String := n.children.filterMap text?

/-- The child elements with a tag name. -/
def childrenNamed (n : Node) (name : String) : List Node :=
  n.children.filter fun c => c.name? == some name

mutual
/-- All texts under a node, in page order. -/
def texts : Node → List String
  | .text s => [s]
  | .comment => []
  | .element _ _ _ cs => textsAll cs

/-- All texts under some nodes, in page order. -/
def textsAll : List Node → List String
  | [] => []
  | n :: rest => n.texts ++ textsAll rest
end

end Node

end SiteSpiders.Html
