import SiteSpiders.Proofs.Storage.Writes

/-!
# The register of a run

A spider that keeps the records of its pages stores and counts them one by one, while
other tasks do the same. The register of a run says which page each task read, what was
written for it and how the task left. What a task has written is the records of its page up
to some point, and after a failing write there is no other. A record is counted right after
it is written, so the count lags behind the file by the tasks that have still to count.
-/
namespace SiteSpiders.Storage

open Crawl

/-- A record that a task kept. -/
def Write.stored (ticket : Nat) (collection : String) (item : Item) : Write :=
  ⟨ticket, item, collection, .ok ()⟩

/-- A record that a task could not keep. -/
def Write.refused (ticket : Nat) (collection : String) (item : Item) (fault : StorageFault) :
    Write :=
  ⟨ticket, item, collection, .error fault⟩

theorem Output.Wrote.trans {o o' o'' : Output} {log more : List Write} (h : o.Wrote log o')
    (h' : o'.Wrote more o'') : o.Wrote (log ++ more) o'' := by
  induction h' with
  | nil => rwa [List.append_nil]
  | store _ task item collection ih =>
    rw [← List.append_assoc]
    exact ih.store task item collection

/-! ## A task and its writes -/

/-- Where a task that read a page can stand, with the writes it has made. -/
inductive Stands (collection : String) (ticket : Nat) (next : Outcome) (items : List Item) :
    List Write → TaskPhase Output → Prop
  | keep {done left : List Item} (all : items = done ++ left) :
      Stands collection ticket next items (done.map (.stored ticket collection))
        (.reading (keepThen collection next left))
  | count {done left : List Item} (all : items = done ++ left) :
      Stands collection ticket next items (done.map (.stored ticket collection))
        (.reading (.count .item (keepThen collection next left)))
  | broken {done rest : List Item} {item : Item} (fault : StorageFault)
      (all : items = done ++ item :: rest) :
      Stands collection ticket next items
        (done.map (.stored ticket collection) ++ [.refused ticket collection item fault])
        (.reading (.done (.failed (.storage fault))))
  | whole : Stands collection ticket next items (items.map (.stored ticket collection))
      (.ended next)
  | stopped {done rest : List Item} {item : Item} (fault : StorageFault)
      (all : items = done ++ item :: rest) :
      Stands collection ticket next items
        (done.map (.stored ticket collection) ++ [.refused ticket collection item fault])
        (.ended (.failed (.storage fault)))

/-- How many records a task has stored and not yet counted. -/
def uncounted : TaskPhase Output → Nat
  | .reading (.count _ _) => 1
  | _ => 0

/-- What a step of a task does to a desk by the writes that it makes. -/
structure Makes (collection : String) (ticket : Nat) (new : List Write)
    (phase phase' : TaskPhase Output) (desk desk' : Desk Output) : Prop where
  own : ∀ w ∈ new, w.task = ticket ∧ w.collection = collection
  wrote : desk.store.Wrote new desk'.store
  items : desk'.stats.itemsStored + uncounted phase' =
    desk.stats.itemsStored + uncounted phase + new.countP Write.kept
  errors : desk'.stats.storageErrors = desk.stats.storageErrors

variable {spider : Spider Output} {collection : String} {next : Response → Outcome}
  {items : Response → List Item}

/-- A step of keeping the records of a page writes the next one, or counts the last, or ends. -/
theorem readStep_stands {ticket : Nat} {onward : Outcome} {records : List Item} {mine : List Write}
    {rest : Reading Output} (w : World Output)
    (h : Stands collection ticket onward records mine (.reading rest)) :
    ∃ new, Stands collection ticket onward records (mine ++ new) (readStep rest w).1 ∧
      Makes collection ticket new (.reading rest) (readStep rest w).1 w.desk
        (readStep rest w).2.desk := by
  have quiet : ∀ w ∈ ([] : List Write), w.task = ticket ∧ w.collection = collection := by simp
  cases h with
  | @keep done left all =>
    cases left with
    | nil =>
      rw [List.append_nil] at all
      subst all
      exact ⟨[], by simpa using .whole, quiet, .nil, rfl, rfl⟩
    | cons item left =>
      have wrote := (Output.Wrote.nil (o := w.desk.store)).store ticket item collection
      simp only [keepThen, Reading.ask, readStep]
      cases hanswer : (w.desk.store.store item collection).1 with
      | ok u =>
        rw [hanswer] at wrote
        refine ⟨[.stored ticket collection item], ?_, ?_, wrote, rfl, rfl⟩
        · have all' : records = (done ++ [item]) ++ left := by simp [all]
          simpa using Stands.count all'
        · simp [Write.stored]
      | error fault =>
        rw [hanswer] at wrote
        refine ⟨[.refused ticket collection item fault], .broken fault all, ?_, wrote, rfl, rfl⟩
        simp [Write.refused]
  | @count done left all =>
    have none : uncounted (.reading (keepThen collection onward left)) = 0 := by
      cases left <;> rfl
    refine ⟨[], ?_, quiet, .nil, ?_, rfl⟩
    · rw [List.append_nil]
      exact .keep all
    · show (w.desk.note Count.item.add).stats.itemsStored +
        uncounted (.reading (keepThen collection onward left)) = _
      rw [none]
      rfl
  | broken fault all => exact ⟨[], by simpa using .stopped fault all, quiet, .nil, rfl, rfl⟩

theorem not_stands_fetching {ticket : Nat} {onward : Outcome} {records : List Item}
    {mine : List Write} {phase : FetchPhase} :
    ¬ Stands collection ticket onward records mine (.fetching phase) := by
  intro h
  cases h

/-- A fetch fails as the exchange did. -/
theorem taskStep_fetching_failed {request : Request} {w : World Output} {phase : FetchPhase}
    {fault : Fault}
    (h : (taskStep spider request w (.fetching phase)).1 = .ended (.failed fault)) :
    ∃ earlier, w.site.reply earlier request.url = .error fault := by
  rw [taskStep_fetching_phase] at h
  cases phase with
  | asking =>
    rw [World.fetchStep_asking] at h
    cases hreply : w.site.reply w.asked request.url with
    | ok answer => simp [hreply] at h
    | error fault' =>
      simp only [hreply, afterFetch, TaskPhase.ended.injEq, Outcome.failed.injEq] at h
      exact ⟨w.asked, h ▸ hreply⟩
  | arriving answer =>
    simp only [World.fetchStep] at h
    rcases w.judge_cases spider.config.retry.categories request answer with
      ⟨crash, heq⟩ | ⟨time, heq⟩ | ⟨r, heq, -⟩
    · simp [heq, afterFetch] at h
    · simp [heq] at h
    · simp only [heq, afterFetch] at h
      split_ifs at h
      cases h

/-! ## The register -/

/-- What is recorded of a run: the pages by the tickets of their tasks, the writes of all tasks and
the tasks that left, each in order of time. -/
structure Register where
  read : List (Nat × Response) := []
  log : List Write := []
  left : List (Nat × Request × Outcome) := []

namespace Register

def writesOf (b : Register) (ticket : Nat) : List Write := b.log.filter fun w => w.task == ticket

/-- Records a page that a task may have read, and its writes. -/
def note (b : Register) (ticket : Nat) (page : Option Response) (new : List Write) : Register :=
  { b with read := b.read ++ page.toList.map (ticket, ·), log := b.log ++ new }

def leave (b : Register) (ticket : Nat) (request : Request) (outcome : Outcome) : Register :=
  { b with left := b.left ++ [(ticket, request, outcome)] }

/-- Where a task without a page can stand. It leads nowhere, and it fails for want of a store only
if the exchange did. -/
def Unread (site : Site) (request : Request) : TaskPhase Output → Prop
  | .fetching _ => True
  | .reading _ => False
  | .ended outcome => followUps? outcome = some [] ∧
      ∀ fault, outcome = .failed (.storage fault) →
        ∃ earlier, site.reply earlier request.url = .error (.storage fault)

/-- Whether a task stands where its page and its writes say. -/
def Covers (b : Register) (collection : String) (next : Response → Outcome)
    (items : Response → List Item) (site : Site) (ticket : Nat) (request : Request)
    (phase : TaskPhase Output) : Prop :=
  (∃ p, (ticket, p) ∈ b.read ∧ p.request = request ∧
      Stands collection ticket (next p) (items p) (b.writesOf ticket) phase) ∨
    (ticket ∉ b.read.map Prod.fst ∧ Unread site request phase)

variable {b : Register} {site : Site}

theorem writesOf_note_self {ticket : Nat} {page : Option Response} {new : List Write}
    (own : ∀ w ∈ new, w.task = ticket ∧ w.collection = collection) :
    (b.note ticket page new).writesOf ticket = b.writesOf ticket ++ new := by
  simp only [writesOf, note, List.filter_append]
  congr 1
  exact List.filter_eq_self.mpr fun w hw => by simpa using (own w hw).1

theorem writesOf_note_of_ne {ticket other : Nat} {page : Option Response} {new : List Write}
    (own : ∀ w ∈ new, w.task = ticket ∧ w.collection = collection) (hne : other ≠ ticket) :
    (b.note ticket page new).writesOf other = b.writesOf other := by
  simp only [writesOf, note, List.filter_append]
  have none : new.filter (fun w => w.task == other) = [] := by
    refine List.filter_eq_nil_iff.mpr fun w hw => ?_
    simpa [(own w hw).1] using Ne.symm hne
  rw [none, List.append_nil]

theorem read_note (b : Register) (ticket : Nat) (page : Option Response) (new : List Write) :
    (b.note ticket page new).read.map Prod.fst =
      b.read.map Prod.fst ++ page.toList.map fun _ => ticket := by
  simp [note]

theorem mem_read_of_note {ticket other : Nat} {page : Option Response} {new : List Write}
    (h : other ∈ (b.note ticket page new).read.map Prod.fst) :
    other ∈ b.read.map Prod.fst ∨ other = ticket := by
  rw [read_note] at h
  refine (List.mem_append.mp h).imp_right fun hpage => ?_
  obtain ⟨p, -, heq⟩ := List.mem_map.mp hpage
  exact heq.symm

theorem readOnce_note {ticket : Nat} {page : Option Response} {new : List Write}
    (once : (b.read.map Prod.fst).Nodup) (hread : ticket ∈ b.read.map Prod.fst → page = none) :
    ((b.note ticket page new).read.map Prod.fst).Nodup := by
  rw [read_note]
  cases hpage : page with
  | none => simpa using once
  | some p =>
    have unread : ticket ∉ b.read.map Prod.fst := by
      intro hthere
      rw [hread hthere] at hpage
      cases hpage
    simpa using List.Nodup.concat unread once

/-- The writes of a task that has read its page are made for it. -/
theorem writers_note {ticket : Nat} {page : Option Response} {new : List Write}
    (writers : ∀ w ∈ b.log, w.task ∈ b.read.map Prod.fst ∧ w.collection = collection)
    (own : ∀ w ∈ new, w.task = ticket ∧ w.collection = collection)
    (hnew : ticket ∉ b.read.map Prod.fst → new = []) :
    ∀ w ∈ (b.note ticket page new).log,
      w.task ∈ (b.note ticket page new).read.map Prod.fst ∧ w.collection = collection := by
  intro w hw
  rw [read_note, List.mem_append]
  rcases List.mem_append.mp hw with hw | hw
  · exact ⟨.inl (writers w hw).1, (writers w hw).2⟩
  · obtain ⟨htask, hcollection⟩ := own w hw
    refine ⟨.inl ?_, hcollection⟩
    by_contra hunread
    rw [htask] at hunread
    rw [hnew hunread] at hw
    cases hw

/-- What is recorded of a task does not concern the others. -/
theorem Covers.note {ticket other : Nat} {request : Request} {phase : TaskPhase Output}
    (h : b.Covers collection next items site other request phase) {page : Option Response}
    {new : List Write} (own : ∀ w ∈ new, w.task = ticket ∧ w.collection = collection)
    (hne : other ≠ ticket) :
    (b.note ticket page new).Covers collection next items site other request phase := by
  rcases h with ⟨p, hp, hrequest, hstands⟩ | ⟨hnone, hunread⟩
  · refine .inl ⟨p, List.mem_append_left _ hp, hrequest, ?_⟩
    rwa [writesOf_note_of_ne own hne]
  · refine .inr ⟨?_, hunread⟩
    simp only [Register.note, List.map_append, List.mem_append, not_or]
    exact ⟨hnone, by simp [hne]⟩

/-- A step of a task is recorded by the page it may hand over and the writes it makes. -/
theorem Covers.step (keeper : Keeper spider collection next items) {t : Task Output}
    {w : World Output} (hsite : w.site = site)
    (h : b.Covers collection next items site t.ticket t.request t.phase)
    (silent : t.ticket ∉ b.read.map Prod.fst → b.writesOf t.ticket = [])
    (sourced : ∀ p ∈ delivery? spider w t, p.request = t.request)
    (busy : t.phase.isEnded = false) :
    ∃ new, (b.note t.ticket (delivery? spider w t) new).Covers collection next items site
        t.ticket t.request (taskStep spider t.request w t.phase).1 ∧
      Makes collection t.ticket new t.phase (taskStep spider t.request w t.phase).1 w.desk
        (taskStep spider t.request w t.phase).2.2.desk ∧
      (t.ticket ∈ b.read.map Prod.fst → delivery? spider w t = none) ∧
      (t.ticket ∉ b.read.map Prod.fst → new = []) := by
  have quiet : ∀ w ∈ ([] : List Write), w.task = t.ticket ∧ w.collection = collection := by simp
  cases hphase : t.phase with
  | ended outcome => rw [hphase] at busy; cases busy
  | reading rest =>
    have hnone : delivery? spider w t = none := by simp only [delivery?, hphase]
    rw [hphase] at h
    rcases h with ⟨p, hp, hrequest, hstands⟩ | ⟨-, hunread⟩
    · obtain ⟨new, hstep, makes⟩ := readStep_stands w hstands
      refine ⟨new, .inl ⟨p, ?_, hrequest, ?_⟩, makes, fun _ => hnone, fun hread => ?_⟩
      · exact List.mem_append_left _ hp
      · rwa [writesOf_note_self makes.own]
      · exact absurd (List.mem_map_of_mem (f := Prod.fst) hp) hread
    · exact hunread.elim
  | fetching phase =>
    rw [hphase] at h
    have unread : t.ticket ∉ b.read.map Prod.fst := by
      rcases h with ⟨p, -, -, hstands⟩ | ⟨hread, -⟩
      · exact absurd hstands not_stands_fetching
      · exact hread
    have makes : ∀ phase', uncounted phase' = 0 → Makes collection t.ticket [] (.fetching phase)
        phase' w.desk (taskStep spider t.request w (.fetching phase)).2.2.desk := by
      intro phase' hcount
      have spares := w.fetchStep_spares spider.config.retry.categories t.request phase
      have kept := w.fetchStep_kept spider.config.retry.categories t.request phase
      rw [taskStep_fetching_world]
      refine ⟨quiet, by rw [spares.store]; exact .nil, ?_,
        (Prod.ext_iff.mp (Prod.ext_iff.mp kept).2).1⟩
      rw [hcount, spares.items]
      rfl
    have unread' : t.ticket ∉ (b.note t.ticket none []).read.map Prod.fst := by
      simpa [Register.note] using unread
    rcases taskStep_delivers spider w hphase with
      ⟨p, hpage, hstep⟩ | ⟨hnone, ⟨phase', hstep⟩ | ⟨outcome, hstep, hfollow⟩⟩
    · rw [hphase] at hstep
      have hread := keeper p
      have none : uncounted (.reading (keepThen collection (next p) (items p))) = 0 := by
        cases items p <;> rfl
      rw [hstep, hpage, hread]
      refine ⟨[], .inl ⟨p, by simp [Register.note], sourced p hpage, ?_⟩, makes _ none,
        fun hread => absurd hread unread, fun _ => rfl⟩
      rw [writesOf_note_self quiet, silent unread]
      exact Stands.keep (List.nil_append _).symm
    · rw [hphase] at hstep
      rw [hstep, hnone]
      exact ⟨[], .inr ⟨unread', trivial⟩, makes _ rfl, fun _ => rfl, fun _ => rfl⟩
    · rw [hphase] at hstep
      refine ⟨[], ?_, by rw [hstep]; exact makes _ rfl, fun _ => hnone, fun _ => rfl⟩
      rw [hnone, hstep]
      refine .inr ⟨unread', hfollow, fun fault hfault => ?_⟩
      rw [hfault] at hstep
      exact hsite ▸ taskStep_fetching_failed hstep

/-- Whether a task left for want of a store. -/
def failsToStore : Outcome → Bool
  | .failed (.storage _) => true
  | _ => false

/-- Whether a register is that of a run. -/
structure Records (b : Register) (collection : String) (next : Response → Outcome)
    (items : Response → List Item) (world : World Output) (c : Crawl Output) (j : Journal) :
    Prop where
  pages : b.read.map Prod.snd = j.pages
  settled : b.left.map Prod.snd = j.settled
  readOnce : (b.read.map Prod.fst).Nodup
  leftOnce : (b.left.map Prod.fst).Nodup
  issued : ∀ ticket ∈ b.read.map Prod.fst ++ b.left.map Prod.fst, ticket < c.dispatched.length
  /-- A task that left is not in flight. -/
  gone : ∀ ticket ∈ c.tasks.map (·.ticket), ticket ∉ b.left.map Prod.fst
  /-- A task that read a page is in flight or left. -/
  about : ∀ ticket ∈ b.read.map Prod.fst,
    ticket ∈ c.tasks.map (·.ticket) ∨ ticket ∈ b.left.map Prod.fst
  wrote : world.desk.store.Wrote b.log c.world.desk.store
  writers : ∀ w ∈ b.log, w.task ∈ b.read.map Prod.fst ∧ w.collection = collection
  tasks : ∀ t ∈ c.tasks, b.Covers collection next items world.site t.ticket t.request t.phase
  leavers : ∀ x ∈ b.left, b.Covers collection next items world.site x.1 x.2.1 (.ended x.2.2)
  items : c.world.desk.stats.itemsStored + (c.tasks.map fun t => uncounted t.phase).sum =
    world.desk.stats.itemsStored + b.log.countP Write.kept
  errors : c.world.desk.stats.storageErrors =
    world.desk.stats.storageErrors + b.left.countP fun x => failsToStore x.2.2

theorem countOutcome_storage (outcome : Outcome) (s : Stats) :
    (countOutcome outcome s).itemsStored = s.itemsStored ∧
      (countOutcome outcome s).storageErrors =
        s.storageErrors + (if failsToStore outcome then 1 else 0) := by
  unfold countOutcome failsToStore
  split <;> simp [Stats.Tally.countStorageError, Stats.Tally.countParseError]

namespace Records

variable {visited : List String} {world : World Output} {c : Crawl Output} {j : Journal}

theorem silent (h : b.Records collection next items world c j) {ticket : Nat}
    (unread : ticket ∉ b.read.map Prod.fst) : b.writesOf ticket = [] := by
  refine List.filter_eq_nil_iff.mpr fun w hw heq => unread ?_
  rw [← beq_iff_eq.mp heq]
  exact (h.writers w hw).1

/-- A task that is started has not been recorded. -/
theorem start (h : b.Records collection next items world c j) (r : Request) (rest : List Request) :
    b.Records collection next items world (c.start r rest) j := by
  have fresh : c.dispatched.length ∉ b.read.map Prod.fst ++ b.left.map Prod.fst :=
    fun hmem => Nat.lt_irrefl _ (h.issued _ hmem)
  rw [List.mem_append, not_or] at fresh
  refine { h with issued := ?_, gone := ?_, about := ?_, tasks := ?_, items := ?_ }
  · intro ticket hticket
    exact Nat.lt_succ_of_lt (h.issued ticket hticket)
  · intro ticket hticket
    rw [start_tasks, List.map_append, List.mem_append] at hticket
    rcases hticket with hticket | hticket
    · exact h.gone ticket hticket
    · rw [List.mem_singleton.mp hticket]
      exact fresh.2
  · intro ticket hticket
    refine (h.about ticket hticket).imp_left fun hmem => ?_
    rw [start_tasks, List.map_append]
    exact List.mem_append_left _ hmem
  · intro t ht
    rw [start_tasks, List.mem_append, List.mem_singleton] at ht
    rcases ht with ht | rfl
    · exact h.tasks t ht
    · exact .inr ⟨fresh.1, trivial⟩
  · simpa [uncounted] using h.items

/-- What is recorded of one task in flight leaves the others where they stand. -/
theorem covers_note (h : b.Records collection next items world c j)
    {before after : List (Task Output)} {t : Task Output} (at_ : c.tasks = before ++ t :: after)
    (ticketed : c.Ticketed) {page : Option Response} {new : List Write}
    (own : ∀ w ∈ new, w.task = t.ticket ∧ w.collection = collection) {u : Task Output}
    (hu : u ∈ before ++ after) :
    (b.note t.ticket page new).Covers collection next items world.site u.ticket u.request
      u.phase :=
  (h.tasks u ((others_sublist at_).subset hu)).note own (ticketed.ne_of_others at_ hu)

/-- A step of a task is recorded. -/
theorem advance (h : b.Records collection next items world c j)
    (keeper : Keeper spider collection next items) (moves : Moves spider visited world c [] j)
    {before after : List (Task Output)} {t : Task Output} (at_ : c.tasks = before ++ t :: after)
    (busy : t.phase.isEnded = false) :
    ∃ b' : Register, b'.Records collection next items world
      { c with
        world := (taskStep spider t.request c.world t.phase).2.2
        tasks := before ++
          { t with phase := (taskStep spider t.request c.world t.phase).1 } :: after }
      (j.advanced (delivery? spider c.world t)) := by
  have hmem : t ∈ c.tasks := by simp [at_]
  have hsourced := taskStep_sourced moves.sourced.1 (moves.sourced.2.1 t hmem)
  obtain ⟨new, hcovers, makes, hread, hnew⟩ := (h.tasks t hmem).step keeper moves.sourced.1
    h.silent (fun p hp => (hsourced.2 p hp).2) busy
  have inFlight : t.ticket ∈ c.tasks.map (·.ticket) := List.mem_map_of_mem hmem
  have tickets : (before ++ { t with phase := (taskStep spider t.request c.world t.phase).1 } ::
      after).map (·.ticket) = c.tasks.map (·.ticket) := by simp [at_]
  refine ⟨b.note t.ticket (delivery? spider c.world t) new, ?_, h.settled,
    readOnce_note h.readOnce hread, h.leftOnce, ?_, ?_, ?_, h.wrote.trans makes.wrote,
    writers_note h.writers makes.own hnew, ?_, ?_, ?_, makes.errors.trans h.errors⟩
  · simp [Register.note, Journal.advanced, ← h.pages]
  · intro ticket hticket
    rcases List.mem_append.mp hticket with hticket | hticket
    · rcases mem_read_of_note hticket with hold | rfl
      · exact h.issued ticket (List.mem_append_left _ hold)
      · exact moves.ticketed.2 t hmem
    · exact h.issued ticket (List.mem_append_right _ hticket)
  · rw [tickets]
    exact h.gone
  · rw [tickets]
    intro ticket hticket
    rcases mem_read_of_note hticket with hold | rfl
    · exact h.about ticket hold
    · exact .inl inFlight
  · intro u hu
    rcases eq_or_mem_others hu with rfl | hu
    · exact hcovers
    · exact h.covers_note at_ moves.ticketed makes.own hu
  · intro x hx
    refine (h.leavers x hx).note makes.own fun heq => ?_
    exact h.gone _ inFlight (heq ▸ List.mem_map_of_mem hx)
  · have hitems := h.items
    have hstep := makes.items
    simp only [at_, List.map_append, List.map_cons, List.sum_append, List.sum_cons,
      Register.note, List.countP_append] at hitems ⊢
    omega

/-- A task that leaves is recorded. -/
theorem settle (h : b.Records collection next items world c j)
    (moves : Moves spider visited world c [] j) {before after : List (Task Output)}
    {t : Task Output} {outcome : Outcome} (at_ : c.tasks = before ++ t :: after)
    (ended : t.phase = .ended outcome) :
    (b.leave t.ticket t.request outcome).Records collection next items world
      { c with world := c.world.note (countOutcome outcome), tasks := before ++ after }
      (j.left t.request outcome) := by
  have hmem : t ∈ c.tasks := by simp [at_]
  have inFlight : t.ticket ∈ c.tasks.map (·.ticket) := List.mem_map_of_mem hmem
  have stays : ∀ u ∈ before ++ after, u ∈ c.tasks := fun u hu => (others_sublist at_).subset hu
  have left' : (b.leave t.ticket t.request outcome).left.map Prod.fst =
      b.left.map Prod.fst ++ [t.ticket] := by
    simp [Register.leave]
  obtain ⟨hitems, herrors⟩ := countOutcome_storage outcome c.world.desk.stats
  refine ⟨h.pages, ?_, h.readOnce, ?_, ?_, ?_, ?_, h.wrote, h.writers, ?_, ?_, ?_, ?_⟩
  · simp [Register.leave, Journal.left, ← h.settled]
  · rw [left']
    simpa using List.Nodup.concat (h.gone _ inFlight) h.leftOnce
  · intro ticket hticket
    rw [left', ← List.append_assoc, List.mem_append, List.mem_singleton] at hticket
    rcases hticket with hticket | rfl
    · exact h.issued ticket hticket
    · exact moves.ticketed.2 t hmem
  · intro ticket hticket
    obtain ⟨u, hu, rfl⟩ := List.mem_map.mp hticket
    rw [left', List.mem_append, List.mem_singleton, not_or]
    exact ⟨h.gone _ (List.mem_map_of_mem (stays u hu)), moves.ticketed.ne_of_others at_ hu⟩
  · intro ticket hticket
    rw [left']
    rcases h.about ticket hticket with hthere | hthere
    · rw [at_, List.map_append, List.map_cons, List.mem_append, List.mem_cons] at hthere
      rw [List.map_append, List.mem_append, List.mem_append, List.mem_singleton]
      tauto
    · exact .inr (List.mem_append_left _ hthere)
  · exact fun u hu => h.tasks u (stays u hu)
  · intro x hx
    rcases List.mem_append.mp hx with hx | hx
    · exact h.leavers x hx
    · rw [List.mem_singleton.mp hx]
      exact ended ▸ h.tasks t hmem
  · have hold := h.items
    simp only [at_, List.map_append, List.map_cons, List.sum_append, List.sum_cons, ended,
      uncounted] at hold ⊢
    show (countOutcome outcome c.world.desk.stats).itemsStored + _ = _
    rw [hitems]
    simpa [Register.leave] using hold
  · show (countOutcome outcome c.world.desk.stats).storageErrors = _
    rw [herrors, h.errors, Register.leave, List.countP_append, List.countP_singleton, Nat.add_assoc]

end Records

end Register

/-- Every run of a spider that keeps records has its register. -/
theorem Keeper.register (keeper : Keeper spider collection next items) {visited : List String}
    {world : World Output} {c : Crawl Output} {hand : List Request} {j : Journal}
    (h : Moves spider visited world c hand j) :
    ∃ b : Register, b.Records collection next items world c j := by
  induction h with
  | begin_ =>
    exact ⟨{}, rfl, rfl, List.nodup_nil, List.nodup_nil, by simp, by simp, by simp, .nil, by simp,
      by simp, by simp, rfl, rfl⟩
  | offer _ ih =>
    obtain ⟨b, hb⟩ := ih
    exact ⟨b, { hb with }⟩
  | @start _ r rest _ _ _ _ ih =>
    obtain ⟨b, hb⟩ := ih
    exact ⟨b, hb.start r rest⟩
  | advance moves at_ busy ih =>
    obtain ⟨b, hb⟩ := ih
    exact hb.advance keeper moves at_ busy
  | settle moves at_ ended _ ih =>
    obtain ⟨b, hb⟩ := ih
    exact ⟨_, hb.settle moves at_ ended⟩

end SiteSpiders.Storage
