import SiteSpiders.Crawl.Spider

/-!
# Scripted spiders

A spider that does with each page what a script says, and remembers the pages it was
given.
-/
namespace SiteSpiders.Scripted

structure ScriptLink where
  href : String
  depth : Option Nat := none
  stage : Stage := .item
  note : Option Json := none

inductive Action where
  | links (targets : List ScriptLink)
  | stop
  | crash
  | fail (fault : Fault)
  | skip

structure Script where
  start : List Url := []
  domains : Option (List String) := none
  openFault : Option Fault := none
  closeFault : Option Fault := none
  actions : List (String × Action) := []

abbrev Log := List Response

/-- The request for a link of a page, if it resolves. -/
def ScriptLink.request? (r : Response) (link : ScriptLink) : Option Request :=
  (r.follow link.href).map fun url =>
    { url, stage := link.stage, depth := link.depth.getD (r.request.depth + 1), note := link.note }

/-- What an action makes of a page. -/
def Action.outcome (r : Response) : Action → Outcome
  | .links targets => .proceed (targets.filterMap (ScriptLink.request? r))
  | .stop => .stop
  | .crash => .crashed .deliberate
  | .fail fault => .failed fault
  | .skip => .skip

/-- Reads a page by the script. -/
def read (script : Script) (r : Response) : Reading Log :=
  let action := (script.actions.lookup r.url.text).getD .skip
  .ask (fun log => ((), r :: log)) fun () => .done (action.outcome r)

/-- A failure that may have been scripted. -/
def report : Option Fault → Except Fault Unit
  | none => .ok ()
  | some fault => .error fault

/-- The spider of a script. Each crawl begins with an empty log. -/
def spider (script : Script) (config : Config) : Spider Log where
  name := "scripted"
  start := script.start
  config := config
  domains := script.domains
  onOpen desk := (report script.openFault, { desk with store := [] })
  onClose desk := (report script.closeFault, desk)
  read := read script

end SiteSpiders.Scripted
