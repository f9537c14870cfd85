import Mathlib.Order.Bounds.Basic
import SiteSpiders.Proofs.Sounds.Pager

/-!
# The trail of a sound crawl

Every page of an album leads to one page at most, so there is one request at a time,
however many slots there are: in hand, waiting or in flight. The requests dispatched follow
the pager from the start until something keeps the crawl from going on, and the tracks of
the pages are kept in that order.
-/
namespace SiteSpiders.Sounds

open Crawl Storage

/-- The requests that entered the queue, and then those in hand. -/
def route (c : Crawl Output) (hand : List Request) : List Request :=
  c.dispatched.reverse ++ c.frontier.pending ++ hand

/-- Whether the byte count cannot hold the pages of some requests. -/
def Full (a : Album) (world : World Output) (requests : List Request) : Prop :=
  wordBound ≤ world.desk.stats.bytesDownloaded + (requests.map fun r => a.size r.url).sum

/-- Where a crawl of an album can stand, with the records kept so far. -/
structure Trail (a : Album) (world : World Output) (file : Location) (c : Crawl Output)
    (hand : List Request) (kept : List Item) : Prop where
  first : (route c hand).head? = some (Request.start a.start)
  chain : (route c hand).IsChain fun r r' => a.lead? r = some r'
  single : c.tasks.length + c.frontier.pending.length + hand.length ≤ 1
  keeps : c.world.desk.store.Keeps collection file
  text : c.world.desk.store.text file = world.desk.store.text file ++ recordLines kept
  bytes : c.world.desk.stats.bytesDownloaded +
      (c.tasks.map fun t => loading a t.request t.phase).sum ≤
    world.desk.stats.bytesDownloaded + (c.dispatched.map fun r => a.size r.url).sum
  /-- The task in flight is the last one, and the pages before it have all their records. -/
  going : ∀ t ∈ c.tasks, ∃ before own, c.dispatched.reverse = before ++ [t.request] ∧
    Standing a (Full a world c.dispatched) t.request own t.phase ∧
    (Full a world c.dispatched ∨ kept = before.flatMap (fun r => a.records r.url) ++ own)
  quiet : c.tasks = [] → Full a world c.dispatched ∨
    kept = c.dispatched.reverse.flatMap fun r => a.records r.url
  /-- If nothing is left to do, the last page leads nowhere that can be gone to. -/
  stuck : c.tasks = [] → c.frontier.pending = [] → hand = [] → Full a world c.dispatched ∨
    ∀ r, c.dispatched.head? = some r → ∀ r', a.lead? r = some r' →
      ¬ a.spider.Allows r'.url ∨ r'.url.text ∈ c.dispatched.map (·.url.text)

variable {a : Album} {world : World Output} {file : Location} {c : Crawl Output}
  {hand : List Request} {j : Journal} {kept : List Item}

/-- Requests that follow one another from the start are those of the pager, all at depth zero. -/
theorem address?_of_chain {path : List Request}
    (first : path.head? = some (Request.start a.start))
    (chain : path.IsChain fun r r' => a.lead? r = some r') {i : Nat} {r : Request}
    (at_ : path[i]? = some r) :
    a.address? i = some r.url ∧ r.depth = 0 ∧ (r.stage = .bootstrap ∨ r.stage = .item) := by
  induction i generalizing r with
  | zero =>
    rw [← List.head?_eq_getElem?, first] at at_
    cases at_
    exact ⟨rfl, rfl, .inl rfl⟩
  | succ i ih =>
    obtain ⟨hlt, rfl⟩ := List.getElem?_eq_some_iff.mp at_
    have hlead := chain.getElem i hlt
    obtain ⟨haddress, hdepth, -⟩ := ih (List.getElem?_eq_getElem (Nat.lt_of_succ_lt hlt))
    obtain ⟨-, hnext, hstage, hsame⟩ := Album.lead?_eq_some hlead
    refine ⟨?_, hsame.trans hdepth, .inr hstage⟩
    rw [Album.address?, haddress, Option.bind_some, hnext]

namespace Trail

theorem plain (h : Trail a world file c hand kept) {r : Request} (hr : r ∈ route c hand) :
    r.depth = 0 ∧ (r.stage = .bootstrap ∨ r.stage = .item) := by
  obtain ⟨i, hi⟩ := List.mem_iff_getElem?.mp hr
  exact (address?_of_chain h.first h.chain hi).2

theorem begin_ (keeps : world.desk.store.Keeps collection file) (visited : List String) :
    Trail a world file { world, frontier := { visited } } a.spider.startRequests [] := by
  have hand : a.spider.startRequests = [Request.start a.start] := rfl
  refine ⟨rfl, ?_, ?_, keeps, ?_, Nat.le_refl _, ?_, fun _ => .inr rfl, ?_⟩
  · simp [route, hand]
  · simp [hand]
  · simp [recordLines]
  · simp
  · simp [hand]

theorem allows_start (a : Album) : a.spider.Allows a.start := by
  intro domains hdomains
  exact domainAllowed_domainsOf hdomains

/-- A request in hand that is not let in is for an address that is known or cannot be gone to. -/
theorem known_of_not_admits {r : Request} {rest : List Request}
    (h : Trail a world file c (r :: rest) kept) (deep : 1 ≤ a.config.maxDepth)
    (hadmits : c.frontier.admits a.spider.config a.spider.domains r = false) :
    r.url.text ∈ c.frontier.visited ∨ ¬ a.spider.Allows r.url := by
  by_contra hnot
  rw [not_or, not_not] at hnot
  have eligible : (c.frontier.offerOf a.spider.config a.spider.domains r).Eligible a.spider := by
    refine ⟨?_, hnot.2, fun _ => hnot.1⟩
    have hdepth := (h.plain (r := r) (by simp [route])).1
    show r.depth < a.config.maxDepth
    omega
  have := (Frontier.offerOf_admitted_iff c.frontier r a.spider).mpr eligible
  rw [Frontier.offerOf_admitted, hadmits] at this
  cases this

/-- A request in hand enters the queue, or the crawl is stuck. -/
theorem offer {r : Request} {rest : List Request} (h : Trail a world file c (r :: rest) kept)
    (moves : Moves a.spider [] world c (r :: rest) j) (deep : 1 ≤ a.config.maxDepth) :
    Trail a world file
      { c with frontier := c.frontier.offer a.spider.config a.spider.domains r } rest kept := by
  have single := h.single
  simp only [List.length_cons] at single
  have quiet : c.tasks = [] := List.eq_nil_of_length_eq_zero (by omega)
  have idle : c.frontier.pending = [] := List.eq_nil_of_length_eq_zero (by omega)
  obtain rfl : rest = [] := List.eq_nil_of_length_eq_zero (by omega)
  have route_eq : route c [r] = c.dispatched.reverse ++ [r] := by simp [route, idle]
  cases hadmits : c.frontier.admits a.spider.config a.spider.domains r with
  | true =>
    rw [Frontier.offer_of_admits _ _ _ _ hadmits]
    have route_eq' : route { c with frontier := c.frontier.push r } [] = route c [r] := by
      simp [route, idle]
    refine { h with first := ?_, chain := ?_, single := ?_, stuck := ?_ }
    · rw [route_eq']
      exact h.first
    · rw [route_eq']
      exact h.chain
    · simp [quiet, idle]
    · intro _ hpending
      simp at hpending
  | false =>
    rw [Frontier.offer_of_not_admits _ _ _ _ hadmits]
    have first := h.first
    have chain := h.chain
    rw [route_eq] at first chain
    have known := h.known_of_not_admits deep hadmits
    have nonempty : c.dispatched ≠ [] := by
      rintro hnone
      simp only [hnone, List.reverse_nil, List.nil_append, List.head?_cons, Option.some.injEq]
        at first
      subst first
      refine known.elim (fun hvisited => ?_) fun hfar => hfar (allows_start a)
      rw [moves.mem_visited_iff, ← moves.queue_eq, hnone, idle] at hvisited
      simp at hvisited
    have route_eq' : route c [] = c.dispatched.reverse := by simp [route, idle]
    refine { h with first := ?_, chain := ?_, single := ?_, stuck := ?_ }
    · rw [route_eq']
      rwa [List.head?_append_of_ne_nil _ (by simpa using nonempty)] at first
    · rw [route_eq']
      exact chain.left_of_append
    · simp [quiet, idle]
    · refine fun _ _ _ => .inr fun last hlast r' hlead => ?_
      -- the last page leads to the request that was not let in
      have hnext := (List.isChain_append.mp chain).2.2 last (by simpa using hlast) r (by simp)
      obtain rfl : r = r' := Option.some.inj (hnext.symm.trans hlead)
      refine known.symm.imp_right fun hvisited => ?_
      rw [moves.mem_visited_iff, ← moves.queue_eq, idle, List.append_nil] at hvisited
      simpa using hvisited

/-- The request that waits is dispatched. -/
theorem start {r : Request} {rest : List Request} (h : Trail a world file c [] kept)
    (next : c.frontier.pending = r :: rest) : Trail a world file (c.start r rest) [] kept := by
  have single := h.single
  simp only [next, List.length_cons] at single
  have quiet : c.tasks = [] := List.eq_nil_of_length_eq_zero (by omega)
  obtain rfl : rest = [] := List.eq_nil_of_length_eq_zero (by omega)
  have route_eq : route (c.start r []) [] = route c [] := by simp [route, next]
  have grows : Full a world c.dispatched → Full a world (r :: c.dispatched) := by
    intro hfull
    simp only [Full, List.map_cons, List.sum_cons] at hfull ⊢
    omega
  refine ⟨?_, ?_, by simp [quiet], h.keeps, h.text, ?_, ?_, by simp, by simp⟩
  · rw [route_eq]
    exact h.first
  · rw [route_eq]
    exact h.chain
  · have hbytes := h.bytes
    simp only [quiet, start_tasks, start_dispatched, start_world, List.map_cons, List.map_nil,
      List.nil_append, List.sum_cons, List.sum_nil, loading] at hbytes ⊢
    omega
  · intro t ht
    rw [start_tasks, quiet, List.nil_append, List.mem_singleton] at ht
    subst ht
    refine ⟨c.dispatched.reverse, [], by simp, .asking, ?_⟩
    rw [List.append_nil]
    exact (h.quiet quiet).imp_left grows

/-- The task in flight goes on. -/
theorem advance (h : Trail a world file c [] kept) (fixed : c.world.site.Fixed a.page)
    (patient : a.config.retry.Patient) {before after : List (Task Output)} {t : Task Output}
    (at_ : c.tasks = before ++ t :: after) (busy : t.phase.isEnded = false) :
    ∃ kept', Trail a world file
      { c with
        world := (taskStep a.spider t.request c.world t.phase).2.2
        tasks := before ++
          { t with phase := (taskStep a.spider t.request c.world t.phase).1 } :: after } []
      kept' := by
  have single := h.single
  simp only [at_, List.length_append, List.length_cons] at single
  obtain rfl : before = [] := List.eq_nil_of_length_eq_zero (by omega)
  obtain rfl : after = [] := List.eq_nil_of_length_eq_zero (by omega)
  have hmem : t ∈ c.tasks := by simp [at_]
  obtain ⟨front, own, hlast, hstanding, hkept⟩ := h.going t hmem
  have stage := (h.plain (r := t.request) (by simp [route, hlast])).2
  have bytes := h.bytes
  simp only [at_, List.nil_append, List.map_cons, List.map_nil, List.sum_cons, List.sum_nil,
    Nat.add_zero] at bytes
  obtain ⟨new, hstep, adds⟩ := taskStep_standing fixed patient stage hstanding busy h.keeps
    fun hfull => Nat.le_trans hfull bytes
  refine ⟨kept ++ new, h.first, h.chain, ?_, adds.keeps, ?_, ?_, ?_, by simp, by simp⟩
  · simpa [at_] using h.single
  · rw [adds.text, h.text, recordLines_append, String.append_assoc]
  · have := adds.bytes
    simp only [List.nil_append, List.map_cons, List.map_nil, List.sum_cons, List.sum_nil]
    omega
  · intro u hu
    rw [List.nil_append, List.mem_singleton] at hu
    subst hu
    refine ⟨front, own ++ new, hlast, hstep, hkept.imp_right fun heq => ?_⟩
    rw [heq, List.append_assoc]

/-- The task in flight leaves, with the next page of the pager in hand if its own could be read. -/
theorem settle (h : Trail a world file c [] kept) {before after : List (Task Output)}
    {t : Task Output} {outcome : Outcome} {requests : List Request}
    (at_ : c.tasks = before ++ t :: after) (ended : t.phase = .ended outcome)
    (goes : followUps? outcome = some requests) :
    Trail a world file
      { c with world := c.world.note (countOutcome outcome), tasks := before ++ after } requests
      kept := by
  have single := h.single
  simp only [at_, List.length_append, List.length_cons, List.length_nil] at single
  obtain rfl : before = [] := List.eq_nil_of_length_eq_zero (by omega)
  obtain rfl : after = [] := List.eq_nil_of_length_eq_zero (by omega)
  have idle : c.frontier.pending = [] := List.eq_nil_of_length_eq_zero (by omega)
  obtain ⟨front, own, hlast, hstanding, hkept⟩ := h.going t (by simp [at_])
  rw [ended] at hstanding
  have route_eq : route c [] = c.dispatched.reverse := by simp [route, idle]
  have first := h.first
  have chain := h.chain
  rw [route_eq] at first chain
  have led := hstanding.led goes
  have short : requests.length ≤ 1 ∧ (requests.IsChain fun r r' => a.lead? r = some r') ∧
      ∀ r ∈ requests.head?, a.lead? t.request = some r := by
    rcases led with ⟨-, rfl⟩ | ⟨rfl, -⟩
    · simp
    · cases a.lead? t.request <;> simp
  refine ⟨?_, ?_, ?_, h.keeps, h.text, ?_, by simp, ?_, ?_⟩
  · show (c.dispatched.reverse ++ c.frontier.pending ++ requests).head? = _
    rw [idle, List.append_nil, List.head?_append, first]
    rfl
  · show (c.dispatched.reverse ++ c.frontier.pending ++ requests).IsChain _
    rw [idle, List.append_nil, List.isChain_append]
    refine ⟨chain, short.2.1, fun last hlast' r hr => ?_⟩
    rw [hlast, List.getLast?_concat, Option.mem_some] at hlast'
    exact hlast' ▸ short.2.2 r hr
  · simpa [idle] using short.1
  · have hbytes : (c.world.note (countOutcome outcome)).desk.stats.bytesDownloaded =
        c.world.desk.stats.bytesDownloaded := by
      simp only [World.note, Desk.note, countOutcome]
      split <;> rfl
    have hold := h.bytes
    rw [at_] at hold
    rw [hbytes]
    simp only [List.append_nil, List.map_nil, List.sum_nil, Nat.add_zero]
    exact Nat.le_trans (Nat.le_add_right _ _) hold
  · intro _
    rcases led with ⟨hfull, -⟩ | ⟨-, rfl⟩
    · exact .inl hfull
    · refine hkept.imp_right fun heq => ?_
      rw [heq, hlast, List.flatMap_append]
      simp
  · intro _ _ hnone
    rcases led with ⟨hfull, -⟩ | ⟨hrequests, -⟩
    · exact .inl hfull
    · refine .inr fun r hr r' hlead => ?_
      have hhead : c.dispatched.head? = some t.request := by
        rw [← List.getLast?_reverse, hlast, List.getLast?_concat]
      obtain rfl : t.request = r := Option.some.inj (hhead.symm.trans hr)
      rw [hnone, hlead] at hrequests
      cases hrequests

end Trail

/-- Every run of a sounds spider from a fresh start keeps to the trail of its album. -/
theorem moves_trail (h : Moves a.spider [] world c hand j) (fixed : world.site.Fixed a.page)
    (patient : a.config.retry.Patient) (deep : 1 ≤ a.config.maxDepth)
    (keeps : world.desk.store.Keeps collection file) :
    ∃ kept, Trail a world file c hand kept := by
  induction h with
  | begin_ => exact ⟨[], .begin_ keeps []⟩
  | offer moves ih =>
    obtain ⟨kept, trail⟩ := ih
    exact ⟨kept, trail.offer moves deep⟩
  | start _ next _ ih =>
    obtain ⟨kept, trail⟩ := ih
    exact ⟨kept, trail.start next⟩
  | advance moves at_ busy ih =>
    obtain ⟨kept, trail⟩ := ih
    exact trail.advance (moves.sourced.1 ▸ fixed) patient at_ busy
  | settle _ at_ ended goes ih =>
    obtain ⟨kept, trail⟩ := ih
    exact ⟨kept, trail.settle at_ ended goes⟩

/-! ## What the trail says of the pager -/

/-- The path of a run follows the pager, each address once and within the domain of the start. -/
structure Follows (a : Album) (path : List Request) : Prop where
  first : path.head? = some (Request.start a.start)
  chain : path.IsChain fun r r' => a.lead? r = some r'
  nodup : (path.map (·.url.text)).Nodup
  allowed : ∀ r ∈ path, a.spider.Allows r.url

namespace Follows

variable {path : List Request}

theorem ne_nil (h : Follows a path) : path ≠ [] := by
  rintro rfl
  cases h.first

theorem address?_eq (h : Follows a path) {i : Nat} (hi : i < path.length) :
    a.address? i = some path[i].url :=
  (address?_of_chain h.first h.chain (List.getElem?_eq_getElem hi)).1

theorem map_url_eq (h : Follows a path) :
    (path.map fun r => some r.url) = (List.range path.length).map a.address? := by
  refine List.ext_getElem (by simp) fun i hi _ => ?_
  rw [List.length_map] at hi
  simp [h.address?_eq hi]

/-- Nothing kept the crawl from going beyond a page that another one follows. -/
theorem not_obstacle (h : Follows a path) {i : Nat} (hi : i + 1 < path.length) :
    ¬ a.Obstacle i := by
  have haddress := h.address?_eq (Nat.lt_of_succ_lt hi)
  obtain ⟨⟨status, body, hpage, haccepts⟩, hnext, -⟩ := Album.lead?_eq_some (h.chain.getElem i hi)
  intro obstacle
  cases obstacle with
  | unreachable at_ none =>
    obtain rfl := Option.some.inj (haddress.symm.trans at_)
    rw [hpage] at none
    cases none
  | refused at_ answers no =>
    obtain rfl := Option.some.inj (haddress.symm.trans at_)
    rw [hpage] at answers
    cases answers
    rw [haccepts] at no
    cases no
  | last at_ none =>
    obtain rfl := Option.some.inj (haddress.symm.trans at_)
    rw [hnext] at none
    cases none
  | outside at_ next far =>
    obtain rfl := Option.some.inj (haddress.symm.trans at_)
    obtain rfl := Option.some.inj (hnext.symm.trans next)
    exact far (h.allowed _ (List.getElem_mem hi))
  | @seen u v w m at_ next early there same =>
    obtain rfl := Option.some.inj (haddress.symm.trans at_)
    obtain rfl := Option.some.inj (hnext.symm.trans next)
    have hm : m < path.length := by omega
    obtain rfl := Option.some.inj ((h.address?_eq hm).symm.trans there)
    -- two places of the path would have one address
    have hm' : m < (path.map (·.url.text)).length := by simpa using hm
    have hi' : i + 1 < (path.map (·.url.text)).length := by simpa using hi
    have hsame : (path.map (·.url.text))[m] = (path.map (·.url.text))[i + 1] := by simpa using same
    have := h.nodup.getElem_inj_iff.mp hsame
    omega

/-- A last page that leads nowhere that can be gone to is an obstacle. -/
theorem obstacle_of_stuck (h : Follows a path) {r : Request} (hlast : path.getLast? = some r)
    (stuck : ∀ r', a.lead? r = some r' →
      ¬ a.spider.Allows r'.url ∨ r'.url.text ∈ path.map (·.url.text)) :
    a.Obstacle (path.length - 1) := by
  rw [List.getLast?_eq_getElem?] at hlast
  obtain ⟨hlt, rfl⟩ := List.getElem?_eq_some_iff.mp hlast
  have haddress := h.address?_eq hlt
  cases hpage : a.page path[path.length - 1].url.text with
  | none => exact .unreachable haddress hpage
  | some answer =>
    obtain ⟨status, body⟩ := answer
    cases haccepts : a.config.accepts status with
    | false => exact .refused haddress hpage haccepts
    | true =>
      cases hnext : a.next? path[path.length - 1].url with
      | none => exact .last haddress hnext
      | some v =>
        have hlead : a.lead? path[path.length - 1] =
            some { url := v, stage := .item, depth := path[path.length - 1].depth } := by
          rw [Album.next?, hpage, Option.bind_some] at hnext
          simp [Album.lead?, Album.body?, hpage, haccepts, hnext]
        rcases stuck _ hlead with far | known
        · exact .outside haddress hnext far
        · obtain ⟨q, hq, hsame⟩ := List.mem_map.mp known
          obtain ⟨m, hm, rfl⟩ := List.mem_iff_getElem.mp hq
          exact .seen haddress hnext (Nat.le_sub_one_of_lt hm) (h.address?_eq hm) hsame

theorem length_le (h : Follows a path) {i : Nat} (obstacle : a.Obstacle i) :
    path.length ≤ i + 1 := by
  by_contra hlt
  exact h.not_obstacle (Nat.not_le.mp hlt) obstacle

end Follows

/-- Between the moves of a run no request waits, as there is a slot for the only one. -/
theorem Trail.route_eq {visited : List String} (h : Trail a world file c [] kept)
    (run : Run a.spider visited world c j) : route c [] = c.dispatched.reverse := by
  have idle : c.frontier.pending = [] := by
    by_contra waits
    have full := run.slots_le_tasks waits
    have single := h.single
    have one : 1 ≤ c.frontier.pending.length := List.length_pos_iff.mpr waits
    simp only [Config.slots, List.length_nil] at full single
    omega
  simp [route, idle]

theorem Trail.follows {visited : List String} (h : Trail a world file c [] kept)
    (run : Run a.spider visited world c j) (once : a.config.revisit = false) :
    Follows a c.dispatched.reverse := by
  have route_eq := h.route_eq run
  refine ⟨route_eq ▸ h.first, route_eq ▸ h.chain, ?_, fun r hr => ?_⟩
  · rw [List.map_reverse, List.nodup_reverse]
    exact run.moves.dispatched_nodup once
  · exact (run.moves.admitted_within
      (run.moves.admitted_of_dispatched (List.mem_reverse.mp hr))).2

/-- A crawl of an album is over only when no task is in flight, as no page asks to stop. -/
theorem Trail.quiet_of_over (h : Trail a world file c hand kept) (finished : c.Over) :
    c.tasks = [] := by
  rcases finished with ⟨quiet, -⟩ | ⟨t, ht, stops⟩
  · exact quiet
  · obtain ⟨_, _, _, standing, -⟩ := h.going t ht
    rw [stops] at standing
    cases standing with
    | ended leads => cases leads

/-- A run of an album whose pager meets an obstacle ends. -/
theorem run_ends_of_obstacle (run : Run a.spider [] world c j) (fixed : world.site.Fixed a.page)
    (patient : a.config.retry.Patient) (once : a.config.revisit = false)
    (deep : 1 ≤ a.config.maxDepth) (keeps : world.desk.store.Keeps collection file) {i : Nat}
    (obstacle : a.Obstacle i) : c.Ends a.spider := by
  have bounded : ∀ c j, Run a.spider [] world c j → c.dispatched.length ≤ i + 1 := by
    intro c j run
    obtain ⟨kept, trail⟩ := moves_trail run.moves fixed patient deep keeps
    rw [← c.dispatched.length_reverse]
    exact (trail.follows run once).length_le obstacle
  exact run.ends (run.halts bounded)

/-- The items counted are as many as the lines kept. -/
theorem itemsStored_of_text {visited : List String} (run : Run a.spider visited world c j)
    (quiet : c.tasks = []) (keeps : world.desk.store.Keeps collection file)
    (text : c.world.desk.store.text file = world.desk.store.text file ++ recordLines kept) :
    c.world.desk.store.textOf collection =
        world.desk.store.textOf collection ++ recordLines kept ∧
      c.world.desk.stats.itemsStored = world.desk.stats.itemsStored + kept.length := by
  obtain ⟨next, keeper, able⟩ := (RecordSpider.sounds a.start a.config).keeper
  obtain ⟨b, records⟩ := keeper.register run.moves
  have agrees := records.agrees able
  have place : ∀ o : Output, o.file? collection = some file →
      o.textOf collection = o.text file := by
    intro o ho
    simp [Output.textOf, ho]
  have before : world.desk.store.file? collection = some file := keeps.takes.place?_eq
  have after : c.world.desk.store.file? collection = some file := by
    rw [agrees.wrote.unmoved.file?]
    exact before
  have length : b.kept.length = kept.length := by
    have hlines := agrees.lines
    rw [place _ before, place _ after, text, String.toList_append, List.count_append,
      count_newline_recordLines] at hlines
    exact (Nat.add_left_cancel hlines).symm
  refine ⟨by rw [place _ before, place _ after, text], ?_⟩
  have counted := agrees.counted
  rw [quiet, length] at counted
  exact counted

/-- Every run of a sounds spider from a fresh start dispatches the addresses of the pager in order,
in any number of slots, and goes on until the first page that cannot be reached or read, has no next
page, or has one outside the domain or seen before. By then the tracks of the pages that can be read
are in the file of the collection, in order, and counted, if the byte count could hold the pages.
Where there is such a page the run ends; and there is one if finitely many pages can be read. -/
theorem sound_crawl_follows_pager {a : Album} {k : Crawler Output}
    (fixed : k.world.site.Fixed a.page) (reliable : k.world.desk.store.Reliable collection)
    (patient : a.config.retry.Patient) (fresh : k.visited = [])
    (once : a.config.revisit = false) (deep : 1 ≤ a.config.maxDepth)
    {c : Crawl Output} {j : Journal} (running : k.Running a.spider c j) :
    (c.dispatched.reverse.map fun r => some r.url) =
        (List.range c.dispatched.length).map a.address? ∧
      (∀ i, i + 1 < c.dispatched.length → ¬ a.Obstacle i) ∧
      (c.Over → ¬ Full a k.world c.dispatched →
        0 < c.dispatched.length ∧ IsLeast {i | a.Obstacle i} (c.dispatched.length - 1) ∧
        c.world.desk.store.textOf collection = k.world.desk.store.textOf collection ++
          recordLines (c.dispatched.reverse.flatMap fun r => a.records r.url) ∧
        c.world.desk.stats.itemsStored = k.world.desk.stats.itemsStored +
          (c.dispatched.reverse.flatMap fun r => a.records r.url).length) ∧
      ((∃ i, a.Obstacle i) → c.Ends a.spider) ∧
      (a.readable.Finite → c.Ends a.spider) := by
  obtain ⟨desk, counters, opened, run⟩ := running
  obtain rfl : k.world.desk = desk := (Prod.ext_iff.mp opened).2
  rw [fresh] at run
  obtain ⟨file, keeps⟩ := reliable.keeps
  obtain ⟨kept, trail⟩ := moves_trail run.moves fixed patient deep keeps
  have follows := trail.follows run once
  have length := c.dispatched.length_reverse
  have none : ∀ i, i + 1 < c.dispatched.length → ¬ a.Obstacle i := by
    intro i hi
    exact follows.not_obstacle (length ▸ hi)
  have ends : (∃ i, a.Obstacle i) → c.Ends a.spider := by
    rintro ⟨i, obstacle⟩
    exact run_ends_of_obstacle run fixed patient once deep keeps obstacle
  refine ⟨?_, none, fun finished room => ?_, ends, fun finite => ?_⟩
  · rw [← length]
    exact follows.map_url_eq
  · have quiet := trail.quiet_of_over finished
    have nonempty : c.dispatched ≠ [] := by
      intro hnil
      exact follows.ne_nil (by rw [hnil, List.reverse_nil])
    have hlast := List.head?_eq_some_head nonempty
    have stuck := (trail.stuck quiet (run.idle quiet) rfl).resolve_left room _ hlast
    have obstacle := follows.obstacle_of_stuck (List.getLast?_reverse.trans hlast)
      (by simpa using stuck)
    rw [length] at obstacle
    obtain rfl := (trail.quiet quiet).resolve_left room
    have stored := itemsStored_of_text run quiet keeps trail.text
    refine ⟨List.length_pos_iff.mpr nonempty, ⟨obstacle, fun i hi => ?_⟩, stored⟩
    by_contra hlt
    exact none i (by omega) hi
  · exact ends (Album.exists_obstacle finite)

/-- A list page with one track, whose pager leads to the second page. -/
def sampleList : String :=
  "<div id=anchor_sound_list><div></div><div><ul><li><div></div><div><a href=/t></a></ul>" ++
    "<div><nav><ul><li><a href=/p2>"

/-- An album of two such pages. -/
def sampleAlbum : Album where
  page
    | "https://site.example/p1" | "https://site.example/p2" => some (200, sampleList)
    | _ => none
  start := samplePage "p1"
  config := defaultConfig

/-- A crawler on the site of that album with an empty disk. -/
def sampleListener : Crawler Output where
  world := {
    site := { reply := fun _ url =>
      match sampleAlbum.page url.text with
      | some (status, body) => .ok { status, body, url }
      | none => .error (.exchange "refused") }
    desk := { store := {} } }

/-- What a crawl of that album comes to by the clock. -/
def sampleHeard : TimedCrawl Output :=
  TimedCrawl.run sampleAlbum.spider 20
    (sampleListener.timed sampleAlbum.spider sampleListener.world.desk)

/-- The crawl ends with the second page, which points at itself. -/
theorem sound_crawl_follows_pager_sample :
    sampleHeard.crawl.tasks = [] ∧
      sampleHeard.crawl.dispatched.reverse.map (fun r => some r.url) =
        (List.range 2).map sampleAlbum.address? ∧
      IsLeast {i | sampleAlbum.Obstacle i} 1 ∧
      (sampleHeard.crawl.dispatched.reverse.flatMap fun r =>
        sampleAlbum.records r.url).length = 2 ∧
      sampleHeard.crawl.Ends sampleAlbum.spider := by
  have computed : sampleHeard.crawl.tasks.isEmpty = true ∧
      sampleHeard.crawl.frontier.pending.isEmpty = true ∧
      sampleHeard.crawl.dispatched.length = 2 ∧
      sampleHeard.crawl.world.desk.stats.itemsStored = 2 ∧
      sampleListener.world.desk.stats.bytesDownloaded +
        (sampleHeard.crawl.dispatched.map fun r => sampleAlbum.size r.url).sum < wordBound := by
    decide +kernel
  obtain ⟨quiet, idle, length, stored, room⟩ := computed
  have quiet := List.isEmpty_iff.mp quiet
  have idle := List.isEmpty_iff.mp idle
  have running : sampleListener.Running sampleAlbum.spider sampleHeard.crawl _ :=
    Crawler.running_timed _ _ 20 rfl
  have fixed : sampleListener.world.site.Fixed sampleAlbum.page := by
    intro earlier url
    simp only [sampleListener]
    cases sampleAlbum.page url.text with
    | none => exact ⟨_, rfl⟩
    | some answer => exact ⟨_, rfl⟩
  have finite : sampleAlbum.readable.Finite := by
    refine Set.Finite.subset
      (Set.toFinite {"https://site.example/p1", "https://site.example/p2"}) ?_
    rintro text ⟨status, body, hpage, -⟩
    simp only [sampleAlbum] at hpage
    split at hpage <;> simp_all
  obtain ⟨path, -, finished, -, ends⟩ := sound_crawl_follows_pager fixed ⟨fun _ => rfl, _, rfl⟩
    (fun _ hc => absurd hc List.not_mem_nil) rfl rfl (Nat.le_refl 1) running
  obtain ⟨-, least, -, counted⟩ := finished (.inl ⟨quiet, idle⟩) (Nat.not_le.mpr room)
  rw [length] at path least
  have none : sampleListener.world.desk.stats.itemsStored = 0 := rfl
  rw [stored, none, Nat.zero_add] at counted
  exact ⟨quiet, path, least, counted.symm, ends finite⟩

end SiteSpiders.Sounds
