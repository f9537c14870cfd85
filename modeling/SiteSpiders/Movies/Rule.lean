import SiteSpiders.Crawl.Request
import SiteSpiders.Pattern.Parser

/-!
# Link rules

A rule claims the links it matches. Its links are followed unless it has a stage of
its own; either can be set by hand.
-/
namespace SiteSpiders.Movies

structure LinkRule where
  allow : Pattern
  deny : Option Pattern := none
  stage : Option Stage := none
  follow : Bool := true

namespace LinkRule

/-- A rule for links that match a pattern. -/
def ofPattern (allow : Pattern) : LinkRule := { allow }

/-- Leaves out links that match a pattern. -/
def denying (r : LinkRule) (deny : Pattern) : LinkRule := { r with deny := some deny }

/-- Gives the pages a stage of their own; their links are no longer followed. -/
def atStage (r : LinkRule) (stage : Stage) : LinkRule :=
  { r with stage := some stage, follow := false }

/-- Sets whether the links of the pages are followed. -/
def following (r : LinkRule) (follow : Bool) : LinkRule := { r with follow }

/-- Whether a rule claims an address. -/
def claims (r : LinkRule) (url : Url) : Bool :=
  r.allow.isMatch url.text && !(r.deny.any fun d => d.isMatch url.text)

end LinkRule

def digits : Pattern := .oneOrMore (.one Unicode.isDecimalDigit)

/-- Any character but a line feed. -/
def anyOnLine : Pattern := .one fun c => c != '\n'

/-- A page name's ending, with any character for the point. -/
def pageEnding : Pattern := .sequence [anyOnLine, .literal "html"]

/-- Index pages but those of games, list pages, and the pages of movies, which are both read and
followed. -/
def defaultRules : List LinkRule :=
  [(LinkRule.ofPattern (.sequence [.literal "index", pageEnding])).denying (.literal "game"),
   (LinkRule.ofPattern (.sequence
     [.literal "list_", digits, .char '_', digits, pageEnding])).following true,
   ((LinkRule.ofPattern (.sequence
     [.char '/', digits, .char '/', digits, pageEnding])).atStage .item).following true]

/-- The note with the number of a rule. -/
def ruleNote (rule : Nat) : Json := .object [("rule", .ofNat rule)]

/-- Reads the number of a rule from a note. -/
def readRule (note : Json) : Except JsonFault Nat := note.asRecord "RuleContext" "rule" Json.asNat

theorem readRule_ruleNote (rule : Nat) : readRule (ruleNote rule) = .ok rule := by
  simp only [readRule, ruleNote, Json.asRecord, List.lookup_cons_self, Json.asNat, Json.ofNat]

end SiteSpiders.Movies
