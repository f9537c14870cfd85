import SiteSpiders.Jobs.Spider
import SiteSpiders.Proofs.Movies.Provenance
import SiteSpiders.Proofs.Storage.Framing
import SiteSpiders.Proofs.Storage.Register
import SiteSpiders.Sounds.Spider

/-!
# Counts and files agree

The spiders of jobs, movies and sounds keep the records of their pages. Whatever order
their tasks run in and whichever writes fail, the items that a run counts are the lines that
it adds to the file of its collection. Those of a page are all of its records, or the ones
before the first that fails; such a page counts as one storage error and leads nowhere.
-/
namespace SiteSpiders

open Storage

/-! ## The records of a page -/

namespace Jobs

/-- The records of a page of job postings. -/
def records (p : Response) : List Item :=
  match p.request.stage with
  | .bootstrap | .item =>
    (postings (Html.parse p.body)).map fun posting =>
      { url := p.url
        data := .object [("info", .string posting.info), ("name", .string posting.name),
          ("title", .string posting.title)]
        metadata := some (.object [("spider", .string "jobs"), ("status", .ofNat p.status)]) }
  | _ => []

theorem spider_keeper (start : Url) (config : Config) :
    Keeper (spider start config) collection (fun _ => .skip) records := by
  intro p
  show read p = _
  unfold read records
  cases p.request.stage <;> rfl

end Jobs

namespace Sounds

/-- The records of a list page. -/
def records (p : Response) : List Item :=
  match p.request.stage with
  | .bootstrap | .item =>
    (trackLinks (Html.parse p.body) p.url).map fun track =>
      { url := p.url
        data := .object [("address", .string track.text)]
        metadata := some (.object [("spider", .string "sounds")]) }
  | _ => []

/-- What a list page leads to. -/
def onward (p : Response) : Outcome :=
  match p.request.stage with
  | .bootstrap | .item => continuation p (Html.parse p.body)
  | _ => .skip

theorem spider_keeper (start : Url) (config : Config) :
    Keeper (spider start config) collection onward records := by
  intro p
  show read p = _
  unfold read onward records
  cases p.request.stage <;> rfl

end Sounds

namespace Movies

/-- The records of a page, if it is set apart. -/
def records (p : Response) : List Item := if p.request.stage = .item then downloads p else []

theorem follows_eq_error {rules : List LinkRule} {p : Response} {fault : Fault}
    (h : follows rules p = .error fault) : ∃ f, fault = .json f := by
  unfold follows Request.readNote at h
  split at h
  · rename_i fault' heq
    split at heq
    · cases heq
    · split at heq
      · cases heq
      · cases heq
        cases h
        exact ⟨_, rfl⟩
  · cases h
  · cases h

end Movies

namespace Storage

/-- The spiders that keep records, with their collections and the records of a page. -/
inductive RecordSpider : Spider Output → String → (Response → List Item) → Prop
  | jobs (start : Url) (config : Config) :
      RecordSpider (Jobs.spider start config) Jobs.collection Jobs.records
  | movies (rules : List Movies.LinkRule) (start : Url) (config : Config) :
      RecordSpider (Movies.spider rules start config) Movies.collection Movies.records
  | sounds (start : Url) (config : Config) :
      RecordSpider (Sounds.spider start config) Sounds.collection Sounds.records

variable {spider : Spider Output} {collection : String} {items : Response → List Item}

/-- What follows the records of a page is no failure of the store. -/
theorem RecordSpider.keeper (h : RecordSpider spider collection items) :
    ∃ next, Keeper spider collection next items ∧
      ∀ p, Register.failsToStore (next p) = false := by
  cases h with
  | jobs start config => exact ⟨_, Jobs.spider_keeper start config, fun _ => rfl⟩
  | movies rules start config =>
    refine ⟨_, Movies.spider_keeper rules start config, fun p => ?_⟩
    unfold Movies.continuation
    split
    · rename_i fault heq
      obtain ⟨f, rfl⟩ := Movies.follows_eq_error heq
      rfl
    · rfl
    · split <;> rfl
  | sounds start config =>
    refine ⟨_, Sounds.spider_keeper start config, fun p => ?_⟩
    unfold Sounds.onward Sounds.continuation
    split
    · split <;> rfl
    · split <;> rfl
    · rfl

theorem RecordSpider.onOpen_eq (h : RecordSpider spider collection items) (desk : Desk Output) :
    spider.onOpen desk = (.ok (), desk) := by
  cases h <;> rfl

/-! ## Files and writes -/

namespace Output

variable {o o' : Output} {log : List Write}

theorem Wrote.file?_ne_none (h : o.Wrote log o') {w : Write} (hw : w ∈ log) (kept : w.kept = true) :
    o.file? w.collection ≠ none := by
  induction h with
  | nil => cases hw
  | @store log o' h task item collection ih =>
    rcases List.mem_append.mp hw with hw | hw
    · exact ih hw
    rw [List.mem_singleton.mp hw] at kept ⊢
    rcases o'.store_cases item collection with ⟨file, -, takes, -⟩ | ⟨fault, heq⟩
    · rw [← h.unmoved.file?, file?, takes.place?_eq]
      exact Option.some_ne_none file
    · rw [heq] at kept
      cases kept

/-- A history of writes to one collection adds the lines of what was kept to its file. -/
theorem Wrote.textOf_eq (h : o.Wrote log o') {collection : String}
    (own : ∀ w ∈ log, w.collection = collection) :
    o'.textOf collection =
      o.textOf collection ++ recordLines ((log.filter Write.kept).map Write.item) := by
  unfold textOf
  rw [h.unmoved.file?]
  cases hfile : o.file? collection with
  | none =>
    have none : log.filter Write.kept = [] := by
      refine List.filter_eq_nil_iff.mpr fun w hw kept => h.file?_ne_none hw kept ?_
      rw [own w hw, hfile]
    simp [none, recordLines]
  | some file =>
    have same : o.written log file = (log.filter Write.kept).map Write.item := by
      refine congrArg (List.map Write.item) (List.filter_congr fun w hw => ?_)
      rw [own w hw, hfile, BEq.rfl, Bool.and_true]
    simp only [Option.elim_some, h.text_eq, same]

end Output

theorem count_newline_recordLines (items : List Item) :
    (recordLines items).toList.count '\n' = items.length := by
  induction items with
  | nil => rfl
  | cons item rest ih =>
    have none : item.text.toList.count '\n' = 0 := List.count_eq_zero.mpr item.newline_not_mem
    simp [recordLines, Item.line, none, ih]

theorem exists_lines (items : List Item) : ∃ lines, List.Forall₂ Item.Line items lines ∧
    (recordLines items).toList = lines.flatMap (· ++ ['\n']) := by
  refine ⟨items.map fun i => i.text.toList, ?_, toList_recordLines items⟩
  rw [List.forall₂_map_right_iff]
  exact List.forall₂_same.mpr fun i _ => i.line_text

/-! ## Registers of record spiders -/

namespace Register

/-- The records that were kept, in order of time. -/
def kept (b : Register) : List Item := (b.log.filter Write.kept).map Write.item

/-- The records that a task kept, in its order. -/
def keptBy (b : Register) (ticket : Nat) : List Item :=
  ((b.writesOf ticket).filter Write.kept).map Write.item

/-- How a register ties the file of a collection, the counts and the pages of a run together. -/
structure Agrees (b : Register) (collection : String) (records : Response → List Item)
    (world : World Output) (c : Crawl Output) (j : Journal) : Prop where
  /-- Every page that was handed over is in the register once, and so is every task that left. -/
  pages : b.read.map Prod.snd = j.pages
  readOnce : (b.read.map Prod.fst).Nodup
  settled : b.left.map Prod.snd = j.settled
  leftOnce : (b.left.map Prod.fst).Nodup
  about : ∀ ticket ∈ b.read.map Prod.fst,
    ticket ∈ c.tasks.map (·.ticket) ∨ ticket ∈ b.left.map Prod.fst
  /-- The writes are all that happened to the store, and they are made for pages. -/
  wrote : world.desk.store.Wrote b.log c.world.desk.store
  writers : ∀ w ∈ b.log, w.task ∈ b.read.map Prod.fst ∧ w.collection = collection
  /-- The file has gained a line for each record that was kept. -/
  text : ∃ lines, List.Forall₂ Item.Line b.kept lines ∧
    (c.world.desk.store.textOf collection).toList =
      (world.desk.store.textOf collection).toList ++ lines.flatMap (· ++ ['\n'])
  lines : (c.world.desk.store.textOf collection).toList.count '\n' =
    (world.desk.store.textOf collection).toList.count '\n' + b.kept.length
  /-- They are counted, but for those that tasks in flight have still to count. -/
  counted : c.world.desk.stats.itemsStored + (c.tasks.map fun t => uncounted t.phase).sum =
    world.desk.stats.itemsStored + b.kept.length
  /-- A page under way has some first records of its own in the file. -/
  part : ∀ x ∈ b.read, b.keptBy x.1 <+: records x.2
  /-- A page that met no failing write has all of them, and counts no storage error. -/
  whole : ∀ x ∈ b.read, ∀ request outcome, (x.1, request, outcome) ∈ b.left →
    (∀ w ∈ b.writesOf x.1, w.kept = true) →
    b.keptBy x.1 = records x.2 ∧ failsToStore outcome = false
  /-- A page that met one has the records before it, writes no more and leads nowhere. -/
  broken : ∀ x ∈ b.read, ∀ request outcome, (x.1, request, outcome) ∈ b.left →
    ∀ w ∈ b.writesOf x.1, w.kept = false →
    (∃ rest, records x.2 = b.keptBy x.1 ++ w.item :: rest) ∧
      b.writesOf x.1 = (b.keptBy x.1).map (.stored x.1 collection) ++ [w] ∧
      failsToStore outcome = true ∧ Crawl.followUps? outcome = some []
  /-- Every task that left for want of a store is counted once. -/
  errors : c.world.desk.stats.storageErrors =
    world.desk.stats.storageErrors + b.left.countP fun x => failsToStore x.2.2
  /-- A task without a page is such a one only if the exchange itself failed so. -/
  unread : ∀ x ∈ b.left, x.1 ∉ b.read.map Prod.fst → failsToStore x.2.2 = true →
    ∃ earlier fault, world.site.reply earlier x.2.1.url = .error (.storage fault)

end Register

theorem kept_map_stored (ticket : Nat) (collection : String) (done : List Item) :
    ((done.map (Write.stored ticket collection)).filter Write.kept).map Write.item = done := by
  have all : (done.map (Write.stored ticket collection)).filter Write.kept =
      done.map (Write.stored ticket collection) := by
    refine List.filter_eq_self.mpr fun w hw => ?_
    obtain ⟨item, -, rfl⟩ := List.mem_map.mp hw
    rfl
  rw [all, List.map_map]
  exact List.map_id _

theorem kept_concat_refused (ticket : Nat) (collection : String) (done : List Item) (item : Item)
    (fault : StorageFault) :
    ((done.map (Write.stored ticket collection) ++
      [Write.refused ticket collection item fault]).filter Write.kept).map Write.item = done := by
  rw [List.filter_append, List.map_append, kept_map_stored]
  exact List.append_nil _

namespace Stands

variable {ticket : Nat} {next outcome : Outcome} {records : List Item} {mine : List Write}

theorem kept_initial {phase : TaskPhase Output}
    (h : Stands collection ticket next records mine phase) :
    (mine.filter Write.kept).map Write.item <+: records := by
  cases h with
  | keep all => rw [kept_map_stored, all]; exact List.prefix_append _ _
  | count all => rw [kept_map_stored, all]; exact List.prefix_append _ _
  | broken fault all => rw [kept_concat_refused, all]; exact List.prefix_append _ _
  | whole => rw [kept_map_stored]
  | stopped fault all => rw [kept_concat_refused, all]; exact List.prefix_append _ _

theorem whole_of_kept (h : Stands collection ticket next records mine (.ended outcome))
    (all : ∀ w ∈ mine, w.kept = true) :
    (mine.filter Write.kept).map Write.item = records ∧ outcome = next := by
  cases h with
  | whole => exact ⟨kept_map_stored ticket collection records, rfl⟩
  | @stopped done rest item fault _ =>
    have hlast := all (.refused ticket collection item fault) (by simp)
    cases hlast

/-- A task that met a failing write ended with it. -/
theorem stopped_of_refused (h : Stands collection ticket next records mine (.ended outcome))
    {w : Write} (hw : w ∈ mine) (refused : w.kept = false) :
    (∃ rest, records = (mine.filter Write.kept).map Write.item ++ w.item :: rest) ∧
      mine = ((mine.filter Write.kept).map Write.item).map (.stored ticket collection) ++ [w] ∧
      ∃ fault, outcome = .failed (.storage fault) := by
  have stored : ∀ done : List Item, w ∉ done.map (Write.stored ticket collection) := by
    intro done hdone
    obtain ⟨item, -, rfl⟩ := List.mem_map.mp hdone
    cases refused
  cases h with
  | whole => exact absurd hw (stored records)
  | @stopped done rest item fault all =>
    rcases List.mem_append.mp hw with hw | hw
    · exact absurd hw (stored done)
    rw [List.mem_singleton.mp hw, kept_concat_refused]
    exact ⟨⟨rest, all⟩, rfl, fault, rfl⟩

end Stands

namespace Register

variable {b : Register} {next : Response → Outcome} {world : World Output} {c : Crawl Output}
  {j : Journal}

theorem exists_of_failsToStore {outcome : Outcome} (h : failsToStore outcome = true) :
    ∃ fault, outcome = .failed (.storage fault) := by
  unfold failsToStore at h
  split at h
  · exact ⟨_, rfl⟩
  · cases h

/-- A page that was read belongs to the task with its ticket, wherever that stands. -/
theorem Covers.stands {site : Site} {request : Request} {phase : TaskPhase Output}
    {x : Nat × Response} (h : b.Covers collection next items site x.1 request phase)
    (once : (b.read.map Prod.fst).Nodup) (hx : x ∈ b.read) :
    Stands collection x.1 (next x.2) (items x.2) (b.writesOf x.1) phase := by
  rcases h with ⟨p, hp, -, hstands⟩ | ⟨hnone, -⟩
  · have hsame : x = (x.1, p) := List.inj_on_of_nodup_map once hx hp rfl
    rw [hsame]
    exact hstands
  · exact absurd (List.mem_map_of_mem hx) hnone

/-- A register of a run shows that file, counts and pages agree, if no page leads to a failure of
the store by itself. -/
theorem Records.agrees (h : b.Records collection next items world c j)
    (able : ∀ p, failsToStore (next p) = false) : b.Agrees collection items world c j := by
  have counts : b.log.countP Write.kept = b.kept.length := by
    rw [kept, List.length_map, List.countP_eq_length_filter]
  have left : ∀ x ∈ b.read, ∀ request outcome, (x.1, request, outcome) ∈ b.left →
      Stands collection x.1 (next x.2) (items x.2) (b.writesOf x.1) (.ended outcome) :=
    fun x hx request outcome hleft => (h.leavers _ hleft).stands h.readOnce hx
  have text : c.world.desk.store.textOf collection =
      world.desk.store.textOf collection ++ recordLines b.kept :=
    h.wrote.textOf_eq fun w hw => (h.writers w hw).2
  refine ⟨h.pages, h.readOnce, h.settled, h.leftOnce, h.about, h.wrote, h.writers, ?_, ?_,
    counts ▸ h.items, ?_, ?_, ?_, h.errors, ?_⟩
  · obtain ⟨lines, hlines, heq⟩ := exists_lines b.kept
    exact ⟨lines, hlines, by rw [text, String.toList_append, heq]⟩
  · rw [text, String.toList_append, List.count_append, count_newline_recordLines]
  · intro x hx
    rcases h.about x.1 (List.mem_map_of_mem hx) with hthere | hthere
    · obtain ⟨t, ht, hticket⟩ := List.mem_map.mp hthere
      have covers := h.tasks t ht
      rw [hticket] at covers
      exact (covers.stands h.readOnce hx).kept_initial
    · obtain ⟨y, hy, hticket⟩ := List.mem_map.mp hthere
      have covers := h.leavers y hy
      rw [hticket] at covers
      exact (covers.stands h.readOnce hx).kept_initial
  · intro x hx request outcome hleft all
    obtain ⟨hkept, houtcome⟩ := (left x hx request outcome hleft).whole_of_kept all
    exact ⟨hkept, houtcome ▸ able x.2⟩
  · intro x hx request outcome hleft w hw refused
    obtain ⟨hrest, hmine, fault, rfl⟩ :=
      (left x hx request outcome hleft).stopped_of_refused hw refused
    exact ⟨hrest, hmine, rfl, rfl⟩
  · intro x hx hunread hfails
    rcases h.leavers x hx with ⟨p, hp, -⟩ | ⟨-, -, hcause⟩
    · exact absurd (List.mem_map_of_mem (f := Prod.fst) hp) hunread
    · obtain ⟨fault, hfault⟩ := exists_of_failsToStore hfails
      obtain ⟨earlier, hreply⟩ := hcause fault hfault
      exact ⟨earlier, fault, hreply⟩

end Register

/-- In every run of a spider of jobs, movies or sounds, whatever its pages are, whichever writes
fail and in whatever order its tasks go on, the items counted are the lines added to the file of the
collection. The lines of a page are its records, up to the first that could not be written; a page
with such a record counts as one storage error and leads nowhere. -/
theorem RecordSpider.accounts (records : RecordSpider spider collection items) {k : Crawler Output}
    {c : Crawl Output} {j : Journal} (running : k.Running spider c j) :
    ∃ b : Register, b.Agrees collection items k.world c j := by
  obtain ⟨next, keeper, able⟩ := records.keeper
  obtain ⟨desk, counters, opened, run⟩ := running
  rw [records.onOpen_eq] at opened
  obtain rfl : k.world.desk = desk := (Prod.ext_iff.mp opened).2
  obtain ⟨b, hb⟩ := keeper.register run.moves
  have agrees := hb.agrees able
  exact ⟨b, { agrees with }⟩

/-- A crawler on a page of three job postings, whose second write fails. -/
def failingCollector : Crawler Output where
  world := {
    site := { reply := fun _ url => .ok { url, body :=
      "<div class=li_txt><h3>a</h3></div><div class=li_txt></div><div class=li_txt></div>" } }
    desk := { store := { fails := fun call => call == 1 } } }

/-- The jobs spider on that page. -/
def jobsSpider : Spider Output := Jobs.spider (samplePage "jobs") Jobs.defaultConfig

/-- What a crawl of that page comes to by the clock. -/
def halfCollected : Crawl Output :=
  (TimedCrawl.run jobsSpider 20
    (failingCollector.timed jobsSpider failingCollector.world.desk)).crawl

/-- The page keeps its first record only. -/
theorem RecordSpider.accounts_failing :
    halfCollected.tasks = [] ∧ halfCollected.world.desk.stats.itemsStored = 1 ∧
      halfCollected.world.desk.stats.storageErrors = 1 ∧
      ∃ j, ∃ b : Register,
        b.Agrees Jobs.collection Jobs.records failingCollector.world halfCollected j ∧
        b.kept.length = 1 := by
  have computed : halfCollected.tasks.isEmpty = true ∧
      halfCollected.world.desk.stats.itemsStored = 1 ∧
      halfCollected.world.desk.stats.storageErrors = 1 := by
    decide +kernel
  obtain ⟨quiet, counted, errors⟩ := computed
  have quiet := List.isEmpty_iff.mp quiet
  have running : failingCollector.Running jobsSpider halfCollected _ :=
    Crawler.running_timed _ _ 20 rfl
  obtain ⟨b, agrees⟩ := RecordSpider.accounts (.jobs _ _) running
  have none : failingCollector.world.desk.stats.itemsStored = 0 := rfl
  have hcounted := agrees.counted
  rw [quiet, counted, none, Nat.zero_add] at hcounted
  exact ⟨quiet, counted, errors, _, b, agrees, hcounted.symm⟩

end Storage

end SiteSpiders
