import Mathlib.Data.List.Forall2
import Mathlib.Data.Multiset.AddSub
import SiteSpiders.Proofs.Crawl.Accounts
import SiteSpiders.Storage.Keep

/-!
# Records kept by a run

Where the file of a written path stands depends on the directories alone, so a file that
takes one text takes any number of them, each added at its end. A spider that keeps the
records of its pages and then goes on leaves what its pages give in the file of its
collection, in some order, as long as its store does not fail.
-/
namespace SiteSpiders.Storage

namespace Disk

/-- Whether a written path names a place at which a file is or can be made. -/
@[mk_iff]
structure Takes (d : Disk) (path : String) (file : Location) : Prop where
  clear : path.toList.contains (Char.ofNat 0) = false
  named : ∃ parent name, d.walk (origin path) (steps path).dropLast = .ok parent ∧
    (steps path).getLast? = some name ∧ name ≠ ".." ∧ Text.utf8Length name ≤ longestName ∧
    file = parent ++ [name]
  apart : d.isDirectory file = false

variable {d d' : Disk} {path text : String} {l file : Location}

theorem append_of_takes (h : d.Takes path file) (text : String) :
    d.append path text = .ok (d.extend file text) := by
  obtain ⟨parent, name, hwalk, hlast, hname, hlength, rfl⟩ := h.named
  simp only [append, bind, Except.bind, h.clear, hwalk, hlast, hname, h.apart,
    Nat.not_lt.mpr hlength, decide_false, Bool.or_self, Bool.false_eq_true, if_false]

theorem takes_of_append (h : d.append path text = .ok d') : ∃ file, d.Takes path file := by
  simp only [append, bind, Except.bind] at h
  split_ifs at h with hclear
  split at h
  · cases h
  · rename_i parent hwalk
    split at h
    · cases h
    · rename_i name hlast
      split_ifs at h with hplace hlength
      rw [Bool.not_eq_true, Bool.or_eq_false_iff] at hplace
      exact ⟨_, Bool.not_eq_true _ ▸ hclear,
        ⟨parent, name, hwalk, hlast, of_decide_eq_false hplace.1, Nat.not_lt.mp hlength, rfl⟩,
        hplace.2⟩

@[simp] theorem isDirectory_extend (d : Disk) (file l : Location) (text : String) :
    (d.extend file text).isDirectory l = d.isDirectory l := by
  unfold extend
  split <;> rfl

/-- Whether all directories of a disk are on another as well. -/
def Within (d d' : Disk) : Prop := ∀ l, d.isDirectory l = true → d'.isDirectory l = true

theorem enter_within (h : d.Within d') {at_ : Location} {name : String}
    (henter : d.enter at_ name = .ok l) : d'.enter at_ name = .ok l := by
  unfold enter at henter ⊢
  dsimp only at henter ⊢
  split_ifs at henter with hup hlong hthere
  · rw [if_pos hup]
    exact henter
  · rw [if_neg hup, if_neg hlong, if_pos (h _ hthere)]
    exact henter

theorem walk_within (h : d.Within d') {at_ : Location} {way : List String}
    (hwalk : d.walk at_ way = .ok l) : d'.walk at_ way = .ok l := by
  induction way generalizing at_ with
  | nil => exact hwalk
  | cons name way ih =>
    cases henter : d.enter at_ name with
    | error fault => simp [walk, henter, bind, Except.bind] at hwalk
    | ok next =>
      simp only [walk, henter, bind, Except.bind] at hwalk
      simp only [walk, enter_within h henter, bind, Except.bind, ih hwalk]

/-- A way leads to a directory just when it did before a file has grown. -/
theorem walk_extend_iff {way : List String} {at_ : Location} :
    (d.extend file text).walk at_ way = .ok l ↔ d.walk at_ way = .ok l :=
  ⟨walk_within fun l hl => by simpa using hl, walk_within fun l hl => by simpa using hl⟩

theorem takes_extend_iff : (d.extend l text).Takes path file ↔ d.Takes path file := by
  simp only [takes_iff, walk_extend_iff, isDirectory_extend]

/-- A text is added at the end of its file. -/
theorem content?_extend (d : Disk) (file : Location) (text : String) :
    (d.extend file text).content? file = some ((d.content? file).getD "" ++ text) := by
  have grown : ∀ files : List (Location × String),
      (files.map fun f => if f.1 = file then (file, f.2 ++ text) else f).lookup file =
        (files.lookup file).map (· ++ text) := by
    intro files
    induction files with
    | nil => rfl
    | cons f files ih =>
      obtain ⟨l, old⟩ := f
      by_cases hl : l = file
      · simp [hl]
      · have hne : (file == l) = false := by simpa using Ne.symm hl
        simp only [List.map_cons, hl, if_false, List.lookup_cons, hne, ih]
  unfold extend
  cases hthere : d.content? file with
  | some old =>
    simp only [content?] at hthere ⊢
    simp [grown, hthere]
  | none =>
    simp only [content?] at hthere ⊢
    simp [List.lookup_append, hthere]

end Disk

def recordLines : List Item → String
  | [] => ""
  | item :: rest => item.line ++ recordLines rest

theorem recordLines_append (items more : List Item) :
    recordLines (items ++ more) = recordLines items ++ recordLines more := by
  induction items with
  | nil => simp [recordLines]
  | cons item items ih => simp [recordLines, ih, String.append_assoc]

namespace Output

/-- Whether a store does not fail: no call is refused, and a text can be added to the file of a
collection. -/
def Reliable (o : Output) (collection : String) : Prop :=
  (∀ call, o.fails call = false) ∧
    ∃ disk, o.disk.append (collectionPath o.base collection) "" = .ok disk

/-- Whether a store keeps the records of a collection in a file without fail. -/
structure Keeps (o : Output) (collection : String) (file : Location) : Prop where
  steady : ∀ call, o.fails call = false
  takes : o.disk.Takes (collectionPath o.base collection) file

def text (o : Output) (file : Location) : String := (o.disk.content? file).getD ""

variable {o : Output} {collection : String} {file : Location}

theorem Reliable.keeps (h : o.Reliable collection) : ∃ file, o.Keeps collection file := by
  obtain ⟨steady, disk, happend⟩ := h
  obtain ⟨file, takes⟩ := Disk.takes_of_append happend
  exact ⟨file, steady, takes⟩

/-- A record is kept at the end of the file. -/
theorem Keeps.store (h : o.Keeps collection file) (item : Item) :
    (o.store item collection).1 = .ok () ∧
      (o.store item collection).2.Keeps collection file ∧
      (o.store item collection).2.text file = o.text file ++ item.line := by
  simp only [Output.store, h.steady, Bool.false_eq_true, if_false,
    Disk.append_of_takes h.takes item.line]
  refine ⟨trivial, ⟨h.steady, Disk.takes_extend_iff.mpr h.takes⟩, ?_⟩
  simp only [text, Disk.content?_extend, Option.getD_some]

end Output

/-! ## Spiders that keep records -/

/-- Whether a spider keeps the records of every page in a collection, and then goes on. -/
def Keeper (spider : Spider Output) (collection : String) (next : Response → Outcome)
    (items : Response → List Item) : Prop :=
  ∀ p, spider.read p = keepThen collection (next p) (items p)

inductive Keeping (collection : String) (next : Outcome) : Reading Output → Prop
  | keep (left : List Item) : Keeping collection next (keepThen collection next left)
  | count (left : List Item) :
      Keeping collection next (.count .item (keepThen collection next left))
  | failed (fault : StorageFault) : Keeping collection next (.done (.failed (.storage fault)))

/-- What is left of keeping records is keeping records. -/
theorem keeping_of_rest {collection : String} {next : Outcome} {items : List Item}
    {rest : Reading Output} (h : (keepThen collection next items).Rest rest) :
    Keeping collection next rest := by
  induction h with
  | refl => exact .keep items
  | @act effect onward d _ ih =>
    generalize hact : Reading.act effect onward = whole at ih
    cases ih with
    | count => cases hact
    | failed => cases hact
    | keep left =>
      cases left with
      | nil => cases hact
      | cons item left =>
        cases hact
        dsimp only
        split
        · exact .failed _
        · exact .count left
  | @count what rest _ ih =>
    generalize hcount : Reading.count what rest = whole at ih
    cases ih with
    | failed => cases hcount
    | count left => cases hcount; exact .keep left
    | keep left => cases left <;> cases hcount

variable {spider : Spider Output} {collection : String} {next : Response → Outcome}
  {items : Response → List Item}

theorem Keeper.proceeds (keeper : Keeper spider collection next items) {p : Response}
    {requests : List Request} (h : (spider.read p).Rest (.done (.proceed requests))) :
    next p = .proceed requests := by
  rw [keeper p] at h
  generalize hdone : Reading.done (.proceed requests) = rest at h
  cases keeping_of_rest h with
  | count => cases hdone
  | failed => cases hdone
  | keep left =>
    cases left with
    | cons => cases hdone
    | nil => exact (Reading.done.inj hdone).symm

/-- The records that a task has still to keep. -/
inductive Holds (collection : String) : TaskPhase Output → List Item → Prop
  | fetching (phase : FetchPhase) : Holds collection (.fetching phase) []
  | keep (next : Outcome) (left : List Item) :
      Holds collection (.reading (keepThen collection next left)) left
  | count (next : Outcome) (left : List Item) :
      Holds collection (.reading (.count .item (keepThen collection next left))) left
  | ended (outcome : Outcome) : Holds collection (.ended outcome) []

open Crawl

variable {file : Location}

/-- A step of keeping records adds the next one to the file, or none. -/
theorem readStep_holds {rest : Reading Output} {left : List Item} {w : World Output}
    (h : Holds collection (.reading rest) left) (keeps : w.desk.store.Keeps collection file) :
    ∃ new left', left = new ++ left' ∧ Holds collection (readStep rest w).1 left' ∧
      (readStep rest w).2.desk.store.Keeps collection file ∧
      (readStep rest w).2.desk.store.text file =
        w.desk.store.text file ++ recordLines new := by
  cases h with
  | count next left =>
    refine ⟨[], left, rfl, .keep next left, keeps, ?_⟩
    show w.desk.store.text file = _
    simp [recordLines]
  | keep next left =>
    cases left with
    | nil => exact ⟨[], [], rfl, .ended next, keeps, by simp [recordLines, keepThen, readStep]⟩
    | cons item left =>
      obtain ⟨hanswer, hkeeps, htext⟩ := keeps.store item
      refine ⟨[item], left, rfl, ?_, hkeeps, ?_⟩
      · simp only [keepThen, Reading.ask, readStep, hanswer]
        exact .count next left
      · show (w.desk.store.store item collection).2.text file = _
        simpa [recordLines] using htext

/-- A step of a task adds to the file some of the records that it held or that its page gives, and
holds the others. -/
theorem taskStep_holds (keeper : Keeper spider collection next items) {t : Task Output}
    {left : List Item} {w : World Output} (h : Holds collection t.phase left)
    (busy : t.phase.isEnded = false) (keeps : w.desk.store.Keeps collection file) :
    ∃ new left', left ++ (delivery? spider w t).toList.flatMap items = new ++ left' ∧
      Holds collection (taskStep spider t.request w t.phase).1 left' ∧
      (taskStep spider t.request w t.phase).2.2.desk.store.Keeps collection file ∧
      (taskStep spider t.request w t.phase).2.2.desk.store.text file =
        w.desk.store.text file ++ recordLines new := by
  cases hphase : t.phase with
  | ended outcome => rw [hphase] at busy; cases busy
  | reading rest =>
    have hnone : delivery? spider w t = none := by simp only [delivery?, hphase]
    rw [hphase] at h
    obtain ⟨new, left', hleft, hstep⟩ := readStep_holds h keeps
    exact ⟨new, left', by simpa [hnone] using hleft, hstep⟩
  | fetching phase =>
    rw [hphase] at h
    cases h
    have hstore := (w.fetchStep_spares spider.config.retry.categories t.request phase).store
    rw [taskStep_fetching_world, hstore, ← hphase]
    refine ⟨[], (delivery? spider w t).toList.flatMap items, rfl, ?_, keeps,
      by simp [recordLines]⟩
    rcases taskStep_delivers spider w hphase with
      ⟨p, hpage, hstep⟩ | ⟨hnone, ⟨phase', hstep⟩ | ⟨outcome, hstep, _⟩⟩
    · rw [hstep, hpage, keeper p]
      simpa using Holds.keep (next p) (items p)
    · rw [hstep, hnone]
      exact .fetching phase'
    · rw [hstep, hnone]
      exact .ended outcome

variable {visited : List String} {world : World Output} {c : Crawl Output} {j : Journal}

/-- A run on a store that does not fail keeps the records of its pages at the end of the file, but
for those that tasks in flight have still to keep. -/
theorem Keeper.files (keeper : Keeper spider collection next items)
    (keeps : world.desk.store.Keeps collection file) (run : Run spider visited world c j) :
    ∃ kept held, List.Forall₂ (fun left (t : Task Output) => Holds collection t.phase left)
        held c.tasks ∧
      c.world.desk.store.Keeps collection file ∧
      c.world.desk.store.text file = world.desk.store.text file ++ recordLines kept ∧
      (kept ++ held.flatten).Perm (j.pages.flatMap items) := by
  have new : Holds collection (.fetching .asking) [] := .fetching _
  have flatten_fresh : ∀ started : List (Task Output),
      (started.map fun _ => ([] : List Item)).flatten = [] := by simp
  induction run with
  | start =>
    obtain ⟨hworld, hasking⟩ := begin_started spider visited world
    rw [hworld]
    refine ⟨[], _, forall₂_started new hasking, keeps, by simp [recordLines], ?_⟩
    rw [flatten_fresh]
    exact .refl _
  | @advance c j t run at_ busy ih =>
    obtain ⟨kept, held, hheld, hkeeps, htext, hperm⟩ := ih
    obtain ⟨before, after, heq, hadvance⟩ := run.advance_split at_
    rw [heq] at hheld
    obtain ⟨hb, ha', rfl, hbefore, hafter'⟩ := forall₂_append_right hheld
    obtain ⟨left, ha, ht, hafter, rfl⟩ := List.forall₂_cons_right_iff.mp hafter'
    -- the step keeps `new` of what the task holds and of what its page gives
    obtain ⟨new, left', hleft, hstep, hkeeps', htext'⟩ := taskStep_holds keeper ht busy hkeeps
    rw [hadvance]
    refine ⟨kept ++ new, hb ++ left' :: ha, List.rel_append hbefore (.cons hstep hafter), hkeeps',
      ?_, ?_⟩
    · rw [htext', htext, recordLines_append, String.append_assoc]
    · have hpages : (j.advanced (delivery? spider c.world t)).pages.flatMap items =
          j.pages.flatMap items ++ (delivery? spider c.world t).toList.flatMap items := by
        simp [Journal.advanced]
      rw [hpages]
      refine List.Perm.trans ?_ (hperm.append_right _)
      rw [← Multiset.coe_eq_coe]
      simp only [List.flatten_append, List.flatten_cons, ← Multiset.coe_add]
      have hsame : (↑left + ↑((delivery? spider c.world t).toList.flatMap items) :
          Multiset Item) = ↑new + ↑left' := by
        rw [Multiset.coe_add, Multiset.coe_add, hleft]
      calc _ = (↑kept + ↑hb.flatten + ↑ha.flatten + (↑new + ↑left') : Multiset Item) := by ac_rfl
        _ = _ := by
          rw [← hsame]
          ac_rfl
  | @settle c c' j t outcome run at_ ended goes ih =>
    obtain ⟨kept, held, hheld, hkeeps, htext, hperm⟩ := ih
    obtain ⟨s⟩ := run.settlement at_ ended goes
    rw [s.at_] at hheld
    obtain ⟨hb, ha', rfl, hbefore, hafter'⟩ := forall₂_append_right hheld
    obtain ⟨left, ha, ht, hafter, rfl⟩ := List.forall₂_cons_right_iff.mp hafter'
    rw [ended] at ht
    cases ht
    rw [s.tasks, s.world]
    refine ⟨kept, hb ++ ha ++ s.started.map fun _ => [],
      List.rel_append (List.rel_append hbefore hafter) (forall₂_started new s.asking), hkeeps,
      htext, ?_⟩
    simpa [Journal.left, Journal.offered] using hperm

end SiteSpiders.Storage
