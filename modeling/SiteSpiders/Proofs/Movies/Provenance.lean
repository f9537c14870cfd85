import SiteSpiders.Movies.Spider
import SiteSpiders.Proofs.Crawl.Clock
import SiteSpiders.Proofs.Crawl.Links
import SiteSpiders.Proofs.Crawl.Provenance
import SiteSpiders.Proofs.Storage.Records

/-!
# Where the pages of a movie crawl come from

Every request of a movie crawl but the first was claimed by the first rule that matches
its address, and was linked from a page whose own rule follows links. The number of the
rule travels with the request, so the page that answers it finds its rule again: whether
its links are followed and whether its download links are kept is what the rule says.
-/
namespace SiteSpiders.Movies

open Crawl Storage

/-- Whether a request is a claim of the rule with a number: the first one that claims its address.
The request carries the number and has the stage of the rule. -/
structure ClaimedBy (rules : List LinkRule) (i : Nat) (rule : LinkRule) (r : Request) : Prop where
  note : r.note = some (ruleNote i)
  listed : rules[i]? = some rule
  claims : rule.claims r.url = true
  first : ∀ m < i, ∀ earlier, rules[m]? = some earlier → earlier.claims r.url = false
  stage : r.stage = rule.stage.getD followStage

/-- Whether an address of the web is where an anchor of a page leads, but for the fragment. -/
structure LinkedFrom (p : Response) (url : Url) : Prop where
  anchored : ∃ anchor ∈ (Html.parse p.body).select anchors, ∃ href target,
    anchor.attribute? "href" = some href ∧ p.follow href = some target ∧
      url = target.withoutFragment
  web : url.scheme = "http" ∨ url.scheme = "https"
  bare : url.fragment = none

/-- Whether a request is the first one or a claim of a rule that follows links. -/
def Followed (rules : List LinkRule) (start : Url) (r : Request) : Prop :=
  r = .start start ∨ ∃ i rule, ClaimedBy rules i rule r ∧ rule.follow = true

/-- Where a request comes from: it is the first one, or a rule claims it on a page that leads to it
and whose links are followed. -/
inductive Sourced (rules : List LinkRule) (start : Url) (led : Response → Request → Prop)
    (r : Request) : Prop
  | start (first : r = .start start)
  | claimed {i : Nat} {rule : LinkRule} {p : Response} (claim : ClaimedBy rules i rule r)
      (leads : led p r) (linked : LinkedFrom p r.url) (followed : Followed rules start p.request)

/-- What the spider finds when it reads a page: a start page carries no number and is followed, any
other carries the number of the rule that claimed it and is followed if the rule says so. -/
inductive FindsRule (rules : List LinkRule) (start : Url) (p : Response) : Prop
  | start (first : p.request = .start start) (follows : follows rules p = .ok true)
  | claimed {i : Nat} {rule : LinkRule} (claim : ClaimedBy rules i rule p.request)
      (number : p.request.readNote readRule = .ok (some i))
      (follows : follows rules p = .ok rule.follow)

/-- Whether a request is a claim of a rule for items. -/
def OfItems (rules : List LinkRule) (r : Request) : Prop :=
  ∃ i rule, ClaimedBy rules i rule r ∧ rule.stage = some .item

/-- The records of the download links of a page. -/
def downloads (p : Response) : List Item :=
  (downloadLinks p.body).map fun link =>
    { url := p.url
      data := .object [("movie_url", .string link)] }

/-! ## Links and the rules that claim them -/

variable {rules : List LinkRule} {start : Url} {config : Config}
  {led led' : Response → Request → Prop} {r : Request} {p : Response}

/-- A link goes to the first rule that claims it. -/
theorem mem_claimLinks {depth i : Nat} {links : List Url} (h : r ∈ claimLinks depth i rules links) :
    ∃ k rule, rules[k]? = some rule ∧ r.url ∈ links ∧ rule.claims r.url = true ∧
      (∀ m < k, ∀ earlier, rules[m]? = some earlier → earlier.claims r.url = false) ∧
      r.stage = rule.stage.getD followStage ∧ r.note = some (ruleNote (i + k)) := by
  induction rules generalizing i links with
  | nil => cases h
  | cons rule rules ih =>
    rw [claimLinks, List.mem_append] at h
    rcases h with h | h
    · obtain ⟨url, hurl, rfl⟩ := List.mem_map.mp h
      obtain ⟨hmem, hclaims⟩ := List.mem_filter.mp hurl
      exact ⟨0, rule, rfl, hmem, hclaims, by simp, rfl, rfl⟩
    · obtain ⟨k, rule', hrule, hmem, hclaims, hfirst, hstage, hnote⟩ := ih h
      obtain ⟨hmem, hnot⟩ := List.mem_filter.mp hmem
      refine ⟨k + 1, rule', hrule, hmem, hclaims, fun m hm earlier hearlier => ?_, hstage, ?_⟩
      · cases m with
        | zero =>
          obtain rfl := Option.some.inj hearlier
          simpa using hnot
        | succ m => exact hfirst m (by omega) earlier hearlier
      · rw [hnote, Nat.add_assoc, Nat.add_comm 1 k]

theorem mem_of_mem_distinct {seen : List String} {urls : List Url} {u : Url}
    (h : u ∈ distinct seen urls) : u ∈ urls := by
  induction urls generalizing seen with
  | nil => cases h
  | cons v urls ih =>
    rw [distinct] at h
    split_ifs at h
    · exact List.mem_cons_of_mem _ (ih h)
    · rcases List.mem_cons.mp h with rfl | h
      · exact List.mem_cons_self
      · exact List.mem_cons_of_mem _ (ih h)

theorem linkedFrom_of_mem {u : Url} (h : u ∈ pageLinks (Html.parse p.body) p.url) :
    LinkedFrom p u := by
  obtain ⟨target, htarget, rfl⟩ := List.mem_map.mp (mem_of_mem_distinct h)
  obtain ⟨htarget, hweb⟩ := List.mem_filter.mp htarget
  obtain ⟨href, hhref, hfollow⟩ := List.mem_filterMap.mp htarget
  obtain ⟨anchor, hanchor, hattribute⟩ := List.mem_filterMap.mp hhref
  refine ⟨⟨anchor, hanchor, href, target, hattribute, hfollow, rfl⟩, ?_, rfl⟩
  simpa [isWeb, Url.withoutFragment] using hweb

/-- The requests for the links of a page are claims of rules on what the page links to. -/
theorem mem_ruleRequests {depth : Nat} (h : r ∈ ruleRequests rules p depth) :
    ∃ i rule, ClaimedBy rules i rule r ∧ LinkedFrom p r.url := by
  obtain ⟨i, rule, listed, hmem, claims, first, stage, note⟩ := mem_claimLinks h
  rw [Nat.zero_add] at note
  exact ⟨i, rule, ⟨note, listed, claims, first, stage⟩, linkedFrom_of_mem hmem⟩

/-! ## Pages and the rules that claimed them -/

theorem Sourced.mono (grows : ∀ p r, led p r → led' p r) (h : Sourced rules start led r) :
    Sourced rules start led' r := by
  cases h with
  | start first => exact .start first
  | claimed claim leads linked followed => exact .claimed claim (grows _ _ leads) linked followed

theorem Sourced.findsRule (h : Sourced rules start led p.request) : FindsRule rules start p := by
  cases h with
  | start first =>
    refine .start first ?_
    simp only [follows, Request.readNote, first, Request.start]
  | @claimed i rule _ claim _ _ _ =>
    have number : p.request.readNote readRule = .ok (some i) := by
      simp only [Request.readNote, claim.note, readRule_ruleNote]
    refine .claimed claim number ?_
    simp only [follows, number, claim.listed, Option.any_some]

/-- A page whose links are followed is a start page or its rule says so. -/
theorem FindsRule.followed (h : FindsRule rules start p) (goes : follows rules p = .ok true) :
    Followed rules start p.request := by
  cases h with
  | start first _ => exact .inl first
  | @claimed i rule claim _ follows =>
    rw [follows] at goes
    exact .inr ⟨i, rule, claim, Except.ok.inj goes⟩

/-- The stage of items is that of the claims of rules for items. -/
theorem FindsRule.stage_item_iff (h : FindsRule rules start p) :
    p.request.stage = .item ↔ OfItems rules p.request := by
  constructor
  · intro hitem
    cases h with
    | start first _ =>
      rw [first] at hitem
      cases hitem
    | @claimed i rule claim _ _ =>
      refine ⟨i, rule, claim, ?_⟩
      have hstage := claim.stage
      rw [hitem] at hstage
      -- the stage of a rule without one is not that of items
      cases hrule : rule.stage with
      | none => rw [hrule] at hstage; cases hstage
      | some stage => rw [hrule] at hstage; rw [hstage]; rfl
  · rintro ⟨i, rule, claim, hrule⟩
    rw [claim.stage, hrule, Option.getD_some]

open scoped Classical in
/-- The records of pages at the stage of items are those of pages that rules for items claimed. -/
theorem flatMap_downloads {pages : List Response} (h : ∀ p ∈ pages, FindsRule rules start p) :
    (pages.flatMap fun p => if p.request.stage = .item then downloads p else []) =
      pages.flatMap fun p => if OfItems rules p.request then downloads p else [] :=
  List.flatMap_congr fun p hp => if_congr (h p hp).stage_item_iff rfl rfl

/-- A page leads to requests only if its links are followed, and these are those of its links. -/
theorem continuation_eq_proceed {requests : List Request}
    (h : continuation rules p = .proceed requests) :
    follows rules p = .ok true ∧ ∃ depth, requests = ruleRequests rules p depth := by
  unfold continuation at h
  split at h
  · cases h
  · cases h
  · split at h
    · cases h
    · exact ⟨‹_›, _, (Outcome.proceed.inj h).symm⟩

/-! ## Runs -/

theorem spider_keeper (rules : List LinkRule) (start : Url) (config : Config) :
    Keeper (spider rules start config) collection (continuation rules)
      (fun p => if p.request.stage = .item then downloads p else []) := fun _ => rfl

section Run

variable {visited : List String} {world : World Output} {c : Crawl Output}
  {hand : List Request} {j : Journal}

theorem moves_sourced (h : Moves (spider rules start config) visited world c hand j) :
    ∀ r ∈ j.offers.map (·.request) ++ hand,
      Sourced rules start (j.LedTo (spider rules start config) world.site) r := by
  refine h.forall_offered Sourced.mono (fun led r hr => ?_) fun hpage hrest hr leads => ?_
  · exact .start (List.mem_singleton.mp hr)
  · -- what the page carries along says that its links are followed
    obtain ⟨goes, depth, rfl⟩ :=
      continuation_eq_proceed ((spider_keeper rules start config).proceeds hrest)
    obtain ⟨i, rule, claim, linked⟩ := mem_ruleRequests hr
    exact .claimed claim leads linked (hpage.findsRule.followed goes)

theorem dispatched_sourced (h : Moves (spider rules start config) visited world c hand j)
    (hr : r ∈ c.dispatched) :
    Sourced rules start (j.LedTo (spider rules start config) world.site) r :=
  moves_sourced h r (List.mem_append_left _ (h.dispatched_offered hr))

theorem pages_findRule (h : Moves (spider rules start config) visited world c hand j)
    (hp : p ∈ j.pages) : FindsRule rules start p :=
  (dispatched_sourced h (h.sourced.2.2.2 p hp).2).findsRule

theorem dispatched_allowed (h : Moves (spider rules start config) visited world c hand j)
    (hr : r ∈ c.dispatched) {domains : List String} (hdomains : domainsOf start = some domains) :
    domainAllowed r.url domains = true :=
  (h.admitted_within (h.admitted_of_dispatched hr)).2 domains hdomains

open scoped Classical in
/-- The download links of the pages that rules for items claimed end up in the file of the
collection if the store does not fail, but for those that tasks in flight have still to store. -/
theorem run_stores (run : Run (spider rules start config) visited world c j)
    (reliable : world.desk.store.Reliable collection) :
    ∃ file kept held, world.desk.store.Keeps collection file ∧
      c.world.desk.store.text file = world.desk.store.text file ++ recordLines kept ∧
      (kept ++ held.flatten).Perm
        (j.pages.flatMap fun p => if OfItems rules p.request then downloads p else []) ∧
      List.Forall₂ (fun left (t : Task Output) => Holds collection t.phase left) held c.tasks := by
  obtain ⟨file, keeps⟩ := reliable.keeps
  obtain ⟨kept, held, hheld, _, htext, hperm⟩ :=
    (spider_keeper rules start config).files keeps run
  rw [flatMap_downloads fun p hp => pages_findRule run.moves hp] at hperm
  exact ⟨file, kept, held, keeps, htext, hperm, hheld⟩

end Run

open scoped Classical in
/-- In every run of the movies spider, each dispatched request other than the first carries the
number of the first rule that claims its address and has the stage of that rule; its address is one
of the web without fragment, within the domain of the start, and linked from a page that was fetched
with an accepted status and that is the start page or a claim of a rule that follows links. So every
page finds its rule when it is read. If the store does not fail, the download links of a page are
stored exactly if a rule for items claimed it, once no task holds any of them back. -/
theorem movie_crawl_provenance {k : Crawler Output} {c : Crawl Output} {j : Journal}
    (running : k.Running (spider rules start config) c j) :
    (∀ r ∈ c.dispatched,
      Sourced rules start (j.LedTo (spider rules start config) k.world.site) r ∧
        ∀ domains, domainsOf start = some domains → domainAllowed r.url domains = true) ∧
    (∀ p ∈ j.pages, FindsRule rules start p) ∧
    (k.world.desk.store.Reliable collection → ∃ file kept held,
      k.world.desk.store.Keeps collection file ∧
      c.world.desk.store.text file = k.world.desk.store.text file ++ recordLines kept ∧
      (kept ++ held.flatten).Perm
        (j.pages.flatMap fun p => if OfItems rules p.request then downloads p else []) ∧
      List.Forall₂ (fun left (t : Task Output) => Holds collection t.phase left) held c.tasks ∧
      (c.tasks = [] → held = [])) := by
  obtain ⟨desk, counters, opened, run⟩ := running
  obtain rfl : k.world.desk = desk := (Prod.ext_iff.mp opened).2
  have moves := run.moves
  refine ⟨fun r hr => ?_, fun p hp => pages_findRule moves hp, fun reliable => ?_⟩
  · have sourced := dispatched_sourced moves hr
    exact ⟨sourced, fun domains => dispatched_allowed moves hr⟩
  · obtain ⟨file, kept, held, keeps, htext, hperm, hheld⟩ := run_stores run reliable
    refine ⟨file, kept, held, keeps, htext, hperm, hheld, fun quiet => ?_⟩
    rw [quiet] at hheld
    exact List.forall₂_nil_right_iff.mp hheld

/-- The first page of a small movie site. -/
def sampleFront : Url where
  scheme := "https"
  authority := some { host := some (.domain "films.example") }
  path := .rooted [""]

/-- The answers of a movie site: its first page links to a list and to a movie, the list to another
movie. A movie page names its download links. -/
def sampleShelf : String → Answer
  | "https://films.example/" => { body := "<a href=list_1_2.html><a href=/1/2.html#ftp>" }
  | "https://films.example/list_1_2.html" =>
    { body := "<a href=/1/3.html><a href=\"ftp://f.example/a\">ftp" }
  | "https://films.example/1/2.html" => { body := "<a href=\"ftp://f.example/b\">ftp" }
  | _ => {}

/-- A crawler on the sample site with an empty disk. -/
def sampleCollector : Crawler Output where
  world := {
    site := { reply := fun _ url => .ok { sampleShelf url.text with url } }
    desk := { store := {} } }

/-- What a crawl of the sample site comes to by the clock. -/
def sampleCollected : Crawl Output :=
  (TimedCrawl.run (spider defaultRules sampleFront {}) 30
    (sampleCollector.timed (spider defaultRules sampleFront {}) sampleCollector.world.desk)).crawl

def sampleCollectedJournal : Journal :=
  sampleCollector.journal (spider defaultRules sampleFront {}) sampleCollector.world.desk 30

/-- Three pages are claimed after the first one, and the only record is that of a movie page, though
the list has a download link too. -/
theorem movie_crawl_provenance_sample :
    sampleCollected.tasks = [] ∧
      (sampleCollected.dispatched.filter (·.note.isSome)).length = 3 ∧
      (∀ r ∈ sampleCollected.dispatched.filter (·.note.isSome),
        ∃ i rule, ClaimedBy defaultRules i rule r) ∧
      sampleCollectedJournal.pages.length = 4 ∧
      (∀ p ∈ sampleCollectedJournal.pages, FindsRule defaultRules sampleFront p) ∧
      ∃ file kept, sampleCollector.world.desk.store.Keeps collection file ∧
        sampleCollected.world.desk.store.text file =
          sampleCollector.world.desk.store.text file ++ recordLines kept ∧
        kept.length = 1 := by
  have computed : sampleCollected.tasks.isEmpty = true ∧
      (sampleCollected.dispatched.filter (·.note.isSome)).length = 3 ∧
      sampleCollectedJournal.pages.length = 4 ∧
      (sampleCollectedJournal.pages.flatMap fun p =>
        if p.request.stage = .item then downloads p else []).length = 1 := by
    decide +kernel
  obtain ⟨quiet, dispatched, pages, records⟩ := computed
  have quiet := List.isEmpty_iff.mp quiet
  have opened : (spider defaultRules sampleFront {}).onOpen sampleCollector.world.desk =
      (.ok (), sampleCollector.world.desk) := rfl
  have running : sampleCollector.Running (spider defaultRules sampleFront {}) sampleCollected
      sampleCollectedJournal := Crawler.running_timed _ _ 30 opened
  have reliable : sampleCollector.world.desk.store.Reliable collection := ⟨fun _ => rfl, _, rfl⟩
  obtain ⟨sourced, finds, stores⟩ := movie_crawl_provenance running
  obtain ⟨file, kept, held, keeps, htext, hperm, _, hheld⟩ := stores reliable
  refine ⟨quiet, dispatched, fun r hr => ?_, pages, finds, file, kept, keeps, htext, ?_⟩
  · obtain ⟨hr, hnote⟩ := List.mem_filter.mp hr
    cases (sourced r hr).1 with
    | start first => rw [first] at hnote; cases hnote
    | @claimed i rule _ claim _ _ _ => exact ⟨i, rule, claim⟩
  · rw [hheld quiet, ← flatMap_downloads finds] at hperm
    simpa using hperm.length_eq.trans records

end SiteSpiders.Movies
