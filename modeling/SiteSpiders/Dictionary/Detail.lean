import SiteSpiders.Html.Selector
import SiteSpiders.Html.Parser
import SiteSpiders.Text.Blank
import SiteSpiders.Text.Listing
import SiteSpiders.Text.Normal

/-!
# The page of a character

The fields of a character are read one by one from its page, and a field whose
markup is missing is empty. The detailed meanings are cut out of the listing of
a block's texts by two markers.
-/
namespace SiteSpiders.Dictionary

open Html Text

/-- The title of the basic definition. -/
def basicHeading : String := "基本解释"

/-- The text before the detailed meaning. -/
def meaningMarker : String := "详细字义"

/-- The text before the change of word class. -/
def wordClassMarker : String := "词性变化"

/-- A marker's length with the quote and the comma after it in a listing. -/
def markerWidth : Int := 6

/-- The class of a hidden block. -/
def hiddenClass : String := "zi_text_content hide"

/-- The number of the hidden block with the general text when nothing is shifted. -/
def generalAnchor : Nat := 2

/-- The containers of a character's texts. -/
def containers : Selector := [divOfClass "cont_hzcx"]

/-- An element right under the visible text block. -/
def visibleBlock (step : SelectorStep) : Selector :=
  [divOfClass "cont_hzcx", divOfClass "zi_text_content", step]

/-- An item of the list of basic facts. -/
def factItem (n : Nat) : Selector :=
  [divOfClass "list_tico", [.name "ul"], [.name "li", .nth n]]

/-- The headings of the visible block. -/
def headingItems : Selector := visibleBlock [.name "h2", .nth 1]

/-- The first paragraph of the visible block. -/
def firstParagraph : Selector := visibleBlock [.name "p", .nth 1]

/-- The later paragraphs of the visible block. -/
def laterParagraphs : Selector := visibleBlock [.name "p", .nthFrom 2]

def navigationItems : Selector := [divOfClass "nav_b", [.name "ul"], [.name "li"]]

/-- The links to characters that sound alike. -/
def homophoneLinks : Selector :=
  [divOfClass "list_b", [.name "ul"], [.name "li"], [.name "a"]]

def joined (texts : List String) : String := String.join texts

/-- The first text that is not blank, trimmed. -/
def firstMeaningful (texts : List String) : Option String :=
  (texts.find? fun t => !isBlankText t).map trim

/-- The direct texts of the elements a selector names. -/
def directTextsOf (page : Document) (selector : Selector) : List String :=
  (page.select selector).flatMap Node.directTexts

/-- The first direct text of the elements a selector names, or the empty text. -/
def firstDirectText (page : Document) (selector : Selector) : String :=
  ((directTextsOf page selector).head?).getD ""

/-- The layouts of the basic definition, in the order in which they are tried. -/
inductive Layout where
  /-- A heading in the visible block, and the definition in its first paragraph. -/
  | heading
  /-- A label in the navigation, and the definition in the later paragraphs. -/
  | navigation
  deriving DecidableEq, Repr

/-- The layouts in the order in which they are tried. -/
def Layout.all : List Layout := [.heading, .navigation]

/-- The basic definition as a layout has it, or `none` if the page does not use the layout. -/
def Layout.extract (page : Document) : Layout → Option String
  | .heading =>
    if firstMeaningful (directTextsOf page headingItems) = some basicHeading then
      some (joined ((page.select firstParagraph).flatMap Node.texts))
    else none
  | .navigation =>
    if firstMeaningful ((page.select navigationItems).flatMap Node.texts) = some basicHeading then
      some (joined (directTextsOf page laterParagraphs))
    else none

/-- The basic definition by the first layout that the page uses. -/
def basicDefinition (page : Document) : String :=
  match Layout.all.findSome? (Layout.extract page) with
  | some text => normalize text
  | none => ""

/-- The hidden blocks of a container. -/
def hiddenBlocksIn (container : Node) : List Node :=
  (container.childrenNamed "div").filter fun d => d.attribute? "class" == some hiddenClass

/-- The hidden block with a number, counted from one, in each container that has it. -/
def hiddenBlocks (page : Document) : Nat → List Node
  | 0 => []
  | n + 1 => (page.select containers).filterMap fun c => (hiddenBlocksIn c)[n]?

/-- The paragraphs of the first hidden blocks. -/
def detailParagraphs (page : Document) : List Node :=
  (hiddenBlocks page 1).flatMap fun block => block.childrenNamed "p"

/-- Whether some paragraph has a text right in its `b` child of a number, counted from zero. -/
def hasLabel (paragraphs : List Node) (k : Nat) : Bool :=
  paragraphs.any fun p => ((p.childrenNamed "b")[k]?).any fun b => !b.directTexts.isEmpty

/-- The detailed meanings, and how many blocks earlier the general text stands. -/
structure Detailed where
  meaning : String := ""
  wordClass : String := ""
  shift : Nat := 0
  deriving DecidableEq, Repr, Inhabited

/-- The meaning between the two markers of a listing. -/
def meaningOf (listing : List Char) : String :=
  normalize (String.ofList (charWindow listing
    (charFind listing meaningMarker.toList + markerWidth)
    (charFind listing wordClassMarker.toList)))

/-- The text from the second marker of a listing to its end. -/
def wordClassOf (listing : List Char) : String :=
  normalize (String.ofList (charWindow listing
    (charFind listing wordClassMarker.toList + markerWidth) (-1)))

/-- The detailed meanings of some paragraphs. -/
def detailedOf (paragraphs : List Node) : Detailed :=
  let listing := listingChars (paragraphs.flatMap Node.texts)
  { meaning := if hasLabel paragraphs 0 then meaningOf listing else ""
    wordClass := if hasLabel paragraphs 2 then wordClassOf listing else ""
    shift := if hasLabel paragraphs 0 then 0 else 1 }

/-- The detailed meanings of a page. -/
def detailed (page : Document) : Detailed := detailedOf (detailParagraphs page)

/-- The number of the hidden block with the general text; `none` if the shift passes the anchor. -/
def generalBlock? (shift : Nat) : Option Nat :=
  if shift ≤ generalAnchor then some (generalAnchor - shift) else none

/-- The general text in the hidden blocks of a number. -/
def generalText (page : Document) (block : Nat) : String :=
  normalize (joined (((hiddenBlocks page block).filterMap fun b =>
    (b.childrenNamed "p").head?).flatMap Node.directTexts))

structure CharacterDetail where
  pinyin : String := ""
  strokes : String := ""
  radical : String := ""
  basicDefinition : String := ""
  detailed : Detailed := {}
  homophones : String := ""
  general : String := ""
  deriving DecidableEq, Repr, Inhabited

/-- Reads the fields of a character from its page. -/
def CharacterDetail.ofPage (page : Document) : CharacterDetail :=
  let meanings := Dictionary.detailed page
  { pinyin := normalize (firstDirectText page (factItem 1))
    strokes := normalize (firstDirectText page (factItem 4))
    radical := normalize (firstDirectText page (factItem 7))
    basicDefinition := Dictionary.basicDefinition page
    detailed := meanings
    homophones := normalize (joined (directTextsOf page homophoneLinks))
    general := generalText page (generalAnchor - meanings.shift) }

/-- Reads the fields of a character from the text of its page. -/
def CharacterDetail.ofText (body : String) : CharacterDetail := .ofPage (parse body)

end SiteSpiders.Dictionary
