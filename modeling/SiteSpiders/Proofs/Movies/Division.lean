import SiteSpiders.Proofs.Movies.Provenance

/-!
# How rules divide the links of a page

The addresses that a page links to are divided among the rules: each address that some rule
claims is requested once, for the first rule that claims it, and no other address is
requested. Requests come in the order of the rules and, for one rule, in the order in which
their addresses first appear on the page.

Addresses are told apart by their texts, which is all that rules look at.
-/
namespace SiteSpiders.Movies

open Html

/-- Where an anchor leads if that is on the web, without a fragment. -/
def webTarget? (base : Url) (anchor : Node) : Option Url :=
  (((anchor.attribute? "href").bind base.follow).filter isWeb).map Url.withoutFragment

/-- Where the anchors of a page lead, in page order and with repeats. -/
def webTargets (p : Response) : List Url :=
  ((Html.parse p.body).select anchors).filterMap (webTarget? p.url)

/-- Where an address first appears among others. -/
def firstAt (urls : List Url) (u : Url) : Nat := urls.findIdx fun v => v.text = u.text

/-- The number of the first rule that claims an address, and the number of rules if none does. -/
def ruleNumber (rules : List LinkRule) (u : Url) : Nat := rules.findIdx fun rule => rule.claims u

/-- Whether an address comes before another: an earlier rule claims it, or the same rule and it
appears earlier. -/
def Earlier (rules : List LinkRule) (urls : List Url) (u v : Url) : Prop :=
  ruleNumber rules u < ruleNumber rules v ∨
    ruleNumber rules u = ruleNumber rules v ∧ firstAt urls u < firstAt urls v

variable {rules : List LinkRule} {rule : LinkRule} {urls links : List Url} {u v : Url}
  {seen : List String} {r : Request} {p : Response} {depth i : Nat}

/-! ## Links, each once -/

/-- Whether some requests divide the links of a page among rules. -/
structure Divides (rules : List LinkRule) (p : Response) (requests : List Request) : Prop where
  claimed : ∀ r ∈ requests, ∃ rule, ClaimedBy rules (ruleNumber rules r.url) rule r
  linked : ∀ r ∈ requests, r.url ∈ webTargets p
  deeper : ∀ r ∈ requests, r.depth = p.request.depth + 1 ∧ r.headers = []
  single : (requests.map fun r => r.url.text).Nodup
  covers : ∀ u ∈ webTargets p,
    (∃ r ∈ requests, r.url.text = u.text) ↔ ∃ rule ∈ rules, rule.claims u = true
  ordered : requests.Pairwise fun r s => Earlier rules (webTargets p) r.url s.url

end SiteSpiders.Movies
