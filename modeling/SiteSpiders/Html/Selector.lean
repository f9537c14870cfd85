import SiteSpiders.Html.Node
import SiteSpiders.Sorting

/-!
# Selecting elements

A selector names an element by the steps that lead to it, each step a child of
the one before. A selection lists the elements in the order in which they were
made.
-/
namespace SiteSpiders.Html

inductive Test where
  | name (text : String)
  | attribute (key value : String)
  | hasAttribute (key : String)
  /-- Its place among siblings of its tag, from one. -/
  | nth (n : Nat)
  /-- At least this place among siblings of its tag. -/
  | nthFrom (n : Nat)
  /-- The last among siblings of its tag. -/
  | last

abbrev SelectorStep := List Test

/-- The steps to an element, the outermost first. -/
abbrev Selector := List SelectorStep

/-- An element with its place among the siblings of its tag, counted from either end. -/
structure Spot where
  node : Node
  fromStart : Nat := 1
  fromEnd : Nat := 1

/-- Whether an element at a spot passes a test. -/
def Test.accepts (spot : Spot) : Test → Bool
  | .name text => spot.node.name? == some text
  | .attribute key value => spot.node.attribute? key == some value
  | .hasAttribute key => (spot.node.attribute? key).isSome
  | .nth n => spot.fromStart == n
  | .nthFrom n => n ≤ spot.fromStart
  | .last => spot.fromEnd == 1

/-- Whether the steps, innermost first, lead to an element given with its ancestors. -/
def stepsAccept : List SelectorStep → List Spot → Bool
  | [], _ => true
  | _ :: _, [] => false
  | step :: steps, spot :: above => step.all (·.accepts spot) && stepsAccept steps above

/-- How many nodes have a tag. -/
def countTag (tag : Option Tag) (nodes : List Node) : Nat :=
  nodes.countP fun n => n.tag? == tag

mutual
/-- The elements of a tree, each with its ancestors, in page order. -/
def Node.paths (above : List Spot) (fromStart fromEnd : Nat) : Node → List (List Spot)
  | .element tag attributes order children =>
    let here := (⟨.element tag attributes order children, fromStart, fromEnd⟩ : Spot) :: above
    here :: pathsAll here [] children
  | _ => []

/-- The elements of sibling trees, each with its ancestors, in page order. -/
def pathsAll (above : List Spot) (earlier : List Node) : List Node → List (List Spot)
  | [] => []
  | n :: rest =>
    n.paths above (countTag n.tag? earlier + 1) (countTag n.tag? rest + 1) ++
      pathsAll above (n :: earlier) rest
end

/-- The elements of a page that have a parent, each with its ancestors. -/
def Document.paths (d : Document) : List (List Spot) :=
  pathsAll [] [] d.top ++ d.cutOff.flatMap fun root => pathsAll [⟨root, 1, 1⟩] [] root.children

/-- The elements that a selector names, in the order in which they were made. -/
def Document.select (d : Document) (selector : Selector) : List Node :=
  let found := d.paths.filter (stepsAccept selector.reverse)
  Sorting.sortBy (fun a b => a.order ≤ b.order)
    (found.filterMap fun path => path.head?.map (·.node))

/-- A division with a class text. -/
def divOfClass (text : String) : SelectorStep := [.name "div", .attribute "class" text]

end SiteSpiders.Html
