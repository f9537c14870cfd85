import Mathlib.Data.Set.Finite.Basic
import SiteSpiders.Proofs.Crawl.Domains
import SiteSpiders.Proofs.Dictionary.Steady
import SiteSpiders.Proofs.Storage.Agreement

/-!
# The pager of an album

On a site where every address has one page or none, the pager of an album leads from page
to page. A task of the sounds spider stands somewhere between asking for its page and having
kept the tracks on it, and once it has ended it leads to the next page of the pager, if its
own page could be read.
-/
namespace SiteSpiders

/-- Whether a site always answers an address itself and in the same way, if not after the same time,
or never. -/
def Site.Fixed (site : Site) (page : String → Option (Nat × String)) : Prop :=
  ∀ earlier url, match page url.text with
    | some (status, body) => ∃ delay, site.reply earlier url = .ok { status, body, delay, url }
    | none => ∃ fault, site.reply earlier url = .error fault

/-- If delays can be waited for, an answer is asked for anew or kept as it came, or the byte count
cannot hold it. -/
theorem World.judge_patient {σ : Type} {policy : Retry.Policy} (patient : policy.Patient)
    (w : World σ) (request : Request) (answer : Arrival) :
    (∃ time, (w.judge policy.categories request answer).1 = .pause .asking time ∧
        (w.judge policy.categories request answer).2.desk.stats.bytesDownloaded =
          w.desk.stats.bytesDownloaded) ∨
      (w.judge policy.categories request answer).2.desk.stats.bytesDownloaded ≤
          w.desk.stats.bytesDownloaded + Text.utf8Length answer.body ∧
        ((∃ r : Response, (w.judge policy.categories request answer).1 = .over (.response r) ∧
            r.url = answer.url ∧ r.status = answer.status ∧ r.body = answer.body ∧
            r.request = request) ∨
          ∃ crash, (w.judge policy.categories request answer).1 = .over (.crashed crash) ∧
            wordBound ≤ w.desk.stats.bytesDownloaded + Text.utf8Length answer.body) := by
  have room : ∀ crash, (w.judge policy.categories request answer).1 = .over (.crashed crash) →
      wordBound ≤ w.desk.stats.bytesDownloaded + Text.utf8Length answer.body := by
    intro crash hcrash
    by_contra hroom
    exact w.judge_ne_crashed patient request answer (Nat.not_le.mp hroom) crash hcrash
  obtain ⟨stats, hworld, hstep⟩ := w.judge_spec policy.categories request answer
  have added := (recordRequest_bytes Stats.doubles w.desk.stats answer.status
    (Text.utf8Length answer.body) 0).1
  rw [hworld]
  rcases hstep with ⟨_, crash, -, hcrash, rfl⟩ | ⟨_, time, -, hpause, rfl⟩ | ⟨-, rfl, hend⟩
  · exact .inr ⟨Nat.le_add_right _ _, .inr ⟨crash, hcrash, room crash hcrash⟩⟩
  · exact .inl ⟨time, hpause, rfl⟩
  · rcases hend with ⟨crash, -, hcrash⟩ | hresponse
    · exact .inr ⟨added, .inr ⟨crash, hcrash, room crash hcrash⟩⟩
    · exact .inr ⟨added, .inl ⟨_, hresponse, rfl, rfl, rfl, rfl⟩⟩

namespace Sounds

open Crawl Storage

/-! ## Albums -/

/-- An album: the pages of its site by the texts of their addresses, and how it is crawled. -/
structure Album where
  page : String → Option (Nat × String)
  start : Url
  config : Config

namespace Album

variable (a : Album)

def spider : Spider Output := Sounds.spider a.start a.config

/-- Where the pager of a page leads. -/
def next? (u : Url) : Option Url :=
  (a.page u.text).bind fun p => nextPage? (Html.parse p.2) u

/-- The address that the pager leads to in so many steps from the start. -/
def address? : Nat → Option Url
  | 0 => some a.start
  | i + 1 => (address? i).bind a.next?

/-- Whether something keeps a crawl from going beyond the page of a number. -/
inductive Obstacle (i : Nat) : Prop
  | unreachable {u : Url} (at_ : a.address? i = some u) (none : a.page u.text = none)
  | refused {u : Url} {status : Nat} {body : String} (at_ : a.address? i = some u)
      (answers : a.page u.text = some (status, body)) (no : a.config.accepts status = false)
  | last {u : Url} (at_ : a.address? i = some u) (none : a.next? u = none)
  | outside {u v : Url} (at_ : a.address? i = some u) (next : a.next? u = some v)
      (far : ¬ a.spider.Allows v)
  | seen {u v w : Url} {m : Nat} (at_ : a.address? i = some u) (next : a.next? u = some v)
      (early : m ≤ i) (there : a.address? m = some w) (same : w.text = v.text)

/-- The text of a page that can be read. -/
def body? (u : Url) : Option String :=
  match a.page u.text with
  | some (status, body) => if a.config.accepts status then some body else none
  | none => none

/-- The records of a page that can be read: its tracks in page order. -/
def records (u : Url) : List Item :=
  ((a.body? u).toList.flatMap fun body => trackLinks (Html.parse body) u).map fun track =>
    { url := u
      data := .object [("address", .string track.text)]
      metadata := some (.object [("spider", .string "sounds")]) }

/-- The request that a page leads to, if it can be read. -/
def lead? (r : Request) : Option Request :=
  (a.body? r.url).bind fun body =>
    (nextPage? (Html.parse body) r.url).map fun url => { url, stage := .item, depth := r.depth }

def size (u : Url) : Nat := (a.page u.text).elim 0 fun p => Text.utf8Length p.2

/-- The texts of the addresses whose pages can be read. -/
def readable : Set String :=
  { text | ∃ status body, a.page text = some (status, body) ∧ a.config.accepts status = true }

variable {a}

theorem body?_eq_some {u : Url} {body : String} (h : a.body? u = some body) :
    ∃ status, a.page u.text = some (status, body) ∧ a.config.accepts status = true := by
  unfold body? at h
  split at h
  · rename_i status body' hpage
    split_ifs at h with haccepts
    cases h
    exact ⟨status, hpage, haccepts⟩
  · cases h

theorem lead?_eq_some {r r' : Request} (h : a.lead? r = some r') :
    r.url.text ∈ a.readable ∧ a.next? r.url = some r'.url ∧ r'.stage = .item ∧
      r'.depth = r.depth := by
  obtain ⟨body, hbody, hmap⟩ := Option.bind_eq_some_iff.mp h
  obtain ⟨url, hurl, rfl⟩ := Option.map_eq_some_iff.mp hmap
  obtain ⟨status, hpage, haccepts⟩ := body?_eq_some hbody
  refine ⟨⟨status, body, hpage, haccepts⟩, ?_, rfl, rfl⟩
  simp only [next?, hpage, Option.bind_some, hurl]

/-- What is read of a request leads on and has records as its address says. -/
theorem onward_records {p : Response} {r : Request} (hurl : p.url = r.url)
    (hrequest : p.request = r)
    (stage : r.stage = .bootstrap ∨ r.stage = .item) (hbody : a.body? r.url = some p.body) :
    followUps? (onward p) = some (a.lead? r).toList ∧ Sounds.records p = a.records r.url := by
  have hstage : p.request.stage = .bootstrap ∨ p.request.stage = .item := by rwa [hrequest]
  have honward : onward p = continuation p (Html.parse p.body) := by
    unfold onward
    rcases hstage with h | h <;> rw [h]
  have hrecords : Sounds.records p = (trackLinks (Html.parse p.body) p.url).map fun track =>
      { url := p.url
        data := .object [("address", .string track.text)]
        metadata := some (.object [("spider", .string "sounds")]) } := by
    unfold Sounds.records
    rcases hstage with h | h <;> rw [h]
  constructor
  · rw [honward, continuation, hurl]
    cases hnext : nextPage? (Html.parse p.body) r.url with
    | none => simp [lead?, hbody, hnext, followUps?]
    | some url => simp [lead?, hbody, hnext, followUps?, hrequest]
  · rw [hrecords, hurl]
    simp only [records, hbody, Option.toList_some, List.flatMap_cons, List.flatMap_nil,
      List.append_nil]

theorem mem_readable {i : Nat} {u : Url} (at_ : a.address? i = some u) (clear : ¬ a.Obstacle i) :
    u.text ∈ a.readable := by
  cases hpage : a.page u.text with
  | none => exact absurd (.unreachable at_ hpage) clear
  | some answer =>
    obtain ⟨status, body⟩ := answer
    cases haccepts : a.config.accepts status with
    | false => exact absurd (.refused at_ hpage haccepts) clear
    | true => exact ⟨status, body, hpage, haccepts⟩

theorem exists_address (clear : ∀ i, ¬ a.Obstacle i) (i : Nat) : ∃ u, a.address? i = some u := by
  induction i with
  | zero => exact ⟨a.start, rfl⟩
  | succ i ih =>
    obtain ⟨u, hu⟩ := ih
    cases hnext : a.next? u with
    | none => exact absurd (.last hu hnext) (clear i)
    | some v => exact ⟨v, by rw [address?, hu, Option.bind_some, hnext]⟩

/-- If finitely many pages can be read, the pager meets an obstacle. -/
theorem exists_obstacle (finite : a.readable.Finite) : ∃ i, a.Obstacle i := by
  by_contra hnone
  have clear := not_exists.mp hnone
  choose u hu using exists_address clear
  have distinct : ∀ m i, m < i → (u m).text ≠ (u i).text := by
    intro m i hlt hsame
    obtain ⟨i, rfl⟩ : ∃ n, i = n + 1 := ⟨i - 1, by omega⟩
    have hnext : a.next? (u i) = some (u (i + 1)) := by
      have h := hu (i + 1)
      rwa [address?, hu i, Option.bind_some] at h
    exact clear i (.seen (hu i) hnext (Nat.le_of_lt_succ hlt) (hu m) hsame)
  refine Set.infinite_of_injective_forall_mem (f := fun i => (u i).text) ?_
    (fun i => mem_readable (hu i) (clear i)) finite
  intro m i hsame
  by_contra hne
  rcases Nat.lt_or_gt_of_ne hne with hlt | hlt
  · exact distinct m i hlt hsame
  · exact distinct i m hlt hsame.symm

theorem unread {r : Request} (h : a.body? r.url = none) :
    a.records r.url = [] ∧ a.lead? r = none := by
  simp [records, lead?, h]

end Album

/-! ## A task of an album -/

/-- Where a task for a page of an album can stand, with the records that it has kept. It breaks off
only if the byte count is full. -/
inductive Standing (a : Album) (full : Prop) (r : Request) : List Item → TaskPhase Output → Prop
  | asking : Standing a full r [] (.fetching .asking)
  | arriving {answer : Arrival} (place : answer.url = r.url)
      (answers : a.page r.url.text = some (answer.status, answer.body)) :
      Standing a full r [] (.fetching (.arriving answer))
  | keep {kept left : List Item} {next : Outcome} (all : a.records r.url = kept ++ left)
      (leads : followUps? next = some (a.lead? r).toList) :
      Standing a full r kept (.reading (keepThen collection next left))
  | count {kept left : List Item} {next : Outcome} (all : a.records r.url = kept ++ left)
      (leads : followUps? next = some (a.lead? r).toList) :
      Standing a full r kept (.reading (.count .item (keepThen collection next left)))
  | ended {outcome : Outcome} (leads : followUps? outcome = some (a.lead? r).toList) :
      Standing a full r (a.records r.url) (.ended outcome)
  | crashed {crash : Crash} (broke : full) : Standing a full r [] (.ended (.crashed crash))

/-- The bytes that a task may still add to the byte count. -/
def loading (a : Album) (r : Request) : TaskPhase Output → Nat
  | .fetching _ => a.size r.url
  | _ => 0

variable {a : Album} {full : Prop} {r : Request} {kept : List Item} {w : World Output}
  {file : Location}

/-- A task whose page cannot be read has ended with all its records, as there are none. -/
theorem standing_unread (h : a.body? r.url = none) {outcome : Outcome}
    (leads : followUps? outcome = some []) : Standing a full r [] (.ended outcome) := by
  obtain ⟨hrecords, hlead⟩ := Album.unread h
  have ended : Standing a full r (a.records r.url) (.ended outcome) :=
    .ended (by rw [leads, hlead]; rfl)
  rwa [hrecords] at ended

/-- A task that has ended leads on as its page does and has all its records, unless it broke off. -/
theorem Standing.led {outcome : Outcome} {requests : List Request}
    (h : Standing a full r kept (.ended outcome)) (goes : followUps? outcome = some requests) :
    full ∧ requests = [] ∨ requests = (a.lead? r).toList ∧ kept = a.records r.url := by
  cases h with
  | ended leads => exact .inr ⟨Option.some.inj (goes.symm.trans leads), rfl⟩
  | crashed broke => exact .inl ⟨broke, (Option.some.inj goes).symm⟩

/-- What a step of a task adds to the file of its collection, and to the byte count at most. -/
structure Adds (a : Album) (r : Request) (file : Location) (new : List Item)
    (phase phase' : TaskPhase Output) (desk desk' : Desk Output) : Prop where
  keeps : desk'.store.Keeps collection file
  text : desk'.store.text file = desk.store.text file ++ recordLines new
  bytes : desk'.stats.bytesDownloaded + loading a r phase' ≤
    desk.stats.bytesDownloaded + loading a r phase

/-- A step of keeping the records of a page keeps the next one, or none. -/
theorem readStep_standing {rest : Reading Output} (h : Standing a full r kept (.reading rest))
    (keeps : w.desk.store.Keeps collection file) :
    ∃ new, Standing a full r (kept ++ new) (readStep rest w).1 ∧
      Adds a r file new (.reading rest) (readStep rest w).1 w.desk (readStep rest w).2.desk := by
  have same : ∀ s : Output, s.text file = s.text file ++ recordLines [] := by
    simp [recordLines]
  cases h with
  | @count _ left next all leads =>
    refine ⟨[], ?_, keeps, same _, Nat.le_refl _⟩
    rw [List.append_nil]
    exact .keep all leads
  | @keep _ left next all leads =>
    cases left with
    | nil =>
      rw [List.append_nil] at all
      subst all
      refine ⟨[], ?_, keeps, same _, Nat.le_refl _⟩
      rw [List.append_nil]
      exact .ended leads
    | cons item left =>
      obtain ⟨hanswer, hkeeps, htext⟩ := keeps.store item
      simp only [keepThen, Reading.ask, readStep, hanswer]
      refine ⟨[item], .count (by simp [all]) leads, hkeeps, ?_, Nat.le_refl _⟩
      simpa [recordLines] using htext

/-- A step of a fetch leaves the store. -/
theorem adds_fetching {phase : FetchPhase} {phase' : TaskPhase Output}
    (keeps : w.desk.store.Keeps collection file)
    (bytes : (taskStep a.spider r w (.fetching phase)).2.2.desk.stats.bytesDownloaded +
      loading a r phase' ≤ w.desk.stats.bytesDownloaded + a.size r.url) :
    Adds a r file [] (.fetching phase) phase' w.desk
      (taskStep a.spider r w (.fetching phase)).2.2.desk := by
  have hstore : (taskStep a.spider r w (.fetching phase)).2.2.desk.store = w.desk.store := by
    rw [taskStep_fetching_world]
    exact (w.fetchStep_spares _ _ phase).store
  refine ⟨?_, ?_, bytes⟩
  · rw [hstore]
    exact keeps
  · rw [hstore]
    simp [recordLines]

/-- A task that asks has the answer of its address on the way, or ends for want of one. -/
theorem asking_standing (fixed : w.site.Fixed a.page) (keeps : w.desk.store.Keeps collection file) :
    Standing a full r [] (taskStep a.spider r w (.fetching .asking)).1 ∧
      Adds a r file [] (.fetching .asking) (taskStep a.spider r w (.fetching .asking)).1 w.desk
        (taskStep a.spider r w (.fetching .asking)).2.2.desk := by
  have phase_eq := @taskStep_fetching_phase _ a.spider r w .asking
  have world_eq := @taskStep_fetching_world _ a.spider r w .asking
  have answered := fixed w.asked r.url
  rw [World.fetchStep_asking] at phase_eq world_eq
  cases hpage : a.page r.url.text with
  | none =>
    rw [hpage] at answered
    obtain ⟨fault, hreply⟩ := answered
    rw [hreply] at phase_eq world_eq
    refine ⟨?_, adds_fetching keeps ?_⟩
    · rw [phase_eq]
      exact standing_unread (by simp [Album.body?, hpage]) rfl
    · rw [phase_eq, world_eq]
      exact Nat.le_add_right _ _
  | some answer =>
    rw [hpage] at answered
    obtain ⟨delay, hreply⟩ := answered
    rw [hreply] at phase_eq world_eq
    refine ⟨?_, adds_fetching keeps ?_⟩
    · rw [phase_eq]
      exact .arriving rfl hpage
    · rw [phase_eq, world_eq]
      exact Nat.le_refl _

/-- A page that has arrived is read, or the task ends as its status is not accepted. -/
theorem afterFetch_standing (stage : r.stage = .bootstrap ∨ r.stage = .item) {p : Response}
    (answers : a.page r.url.text = some (p.status, p.body)) (hurl : p.url = r.url)
    (hrequest : p.request = r) :
    Standing a full r [] (afterFetch a.spider (.response p)) ∧
      loading a r (afterFetch a.spider (.response p)) = 0 := by
  have hconfig : a.spider.config = a.config := rfl
  have hread : a.spider.read p = keepThen collection (onward p) (Sounds.records p) :=
    spider_keeper a.start a.config p
  rw [afterFetch, hconfig, hread]
  cases haccepts : a.config.accepts p.status with
  | true =>
    have hbody : a.body? r.url = some p.body := by simp [Album.body?, answers, haccepts]
    obtain ⟨hleads, hrecords⟩ := Album.onward_records hurl hrequest stage hbody
    rw [if_pos rfl]
    exact ⟨.keep (by rw [hrecords, List.nil_append]) hleads, rfl⟩
  | false =>
    have hbody : a.body? r.url = none := by simp [Album.body?, answers, haccepts]
    rw [if_neg Bool.false_ne_true]
    exact ⟨standing_unread hbody rfl, rfl⟩

/-- A task whose answer arrives asks again, or reads its page, or ends. -/
theorem arriving_standing (patient : a.config.retry.Patient)
    (stage : r.stage = .bootstrap ∨ r.stage = .item) {answer : Arrival} (place : answer.url = r.url)
    (answers : a.page r.url.text = some (answer.status, answer.body))
    (keeps : w.desk.store.Keeps collection file)
    (breaks : wordBound ≤ w.desk.stats.bytesDownloaded + a.size r.url → full) :
    Standing a full r [] (taskStep a.spider r w (.fetching (.arriving answer))).1 ∧
      Adds a r file [] (.fetching (.arriving answer))
        (taskStep a.spider r w (.fetching (.arriving answer))).1 w.desk
        (taskStep a.spider r w (.fetching (.arriving answer))).2.2.desk := by
  have phase_eq := @taskStep_fetching_phase _ a.spider r w (.arriving answer)
  have world_eq := @taskStep_fetching_world _ a.spider r w (.arriving answer)
  have hconfig : a.spider.config = a.config := rfl
  simp only [World.fetchStep, hconfig] at phase_eq world_eq
  have size : Text.utf8Length answer.body = a.size r.url := by simp [Album.size, answers]
  have judged := World.judge_patient patient w r answer
  rw [size] at judged
  rcases judged with ⟨time, hpause, hbytes⟩ | ⟨hbytes, hend⟩
  · rw [hpause] at phase_eq
    refine ⟨?_, adds_fetching keeps ?_⟩
    · rw [phase_eq]
      exact .asking
    · rw [phase_eq, world_eq]
      exact Nat.add_le_add_right (Nat.le_of_eq hbytes) _
  · have bytes : ∀ phase', loading a r phase' = 0 →
        (taskStep a.spider r w (.fetching (.arriving answer))).2.2.desk.stats.bytesDownloaded +
          loading a r phase' ≤ w.desk.stats.bytesDownloaded + a.size r.url := by
      intro phase' hnone
      rw [hnone, world_eq]
      exact hbytes
    rcases hend with ⟨p, hover, hurl, hstatus, hbody, hrequest⟩ | ⟨crash, hover, hfull⟩
    · rw [hover] at phase_eq
      rw [← hstatus, ← hbody] at answers
      obtain ⟨hstanding, hnone⟩ :=
        afterFetch_standing stage answers (hurl.trans place) hrequest
      rw [phase_eq]
      exact ⟨hstanding, adds_fetching keeps (bytes _ hnone)⟩
    · rw [hover] at phase_eq
      rw [phase_eq]
      exact ⟨.crashed (breaks hfull), adds_fetching keeps (bytes _ rfl)⟩

/-- A step of a task for a page of an album brings it on, and keeps some of the records. -/
theorem taskStep_standing (fixed : w.site.Fixed a.page) (patient : a.config.retry.Patient)
    (stage : r.stage = .bootstrap ∨ r.stage = .item) {phase : TaskPhase Output}
    (h : Standing a full r kept phase) (busy : phase.isEnded = false)
    (keeps : w.desk.store.Keeps collection file)
    (breaks : wordBound ≤ w.desk.stats.bytesDownloaded + loading a r phase → full) :
    ∃ new, Standing a full r (kept ++ new) (taskStep a.spider r w phase).1 ∧
      Adds a r file new phase (taskStep a.spider r w phase).1 w.desk
        (taskStep a.spider r w phase).2.2.desk := by
  cases phase with
  | ended outcome => cases busy
  | reading rest => exact readStep_standing h keeps
  | fetching phase =>
    cases h with
    | asking => exact ⟨[], asking_standing fixed keeps⟩
    | arriving place answers =>
      exact ⟨[], arriving_standing patient stage place answers keeps breaks⟩

end Sounds

end SiteSpiders
