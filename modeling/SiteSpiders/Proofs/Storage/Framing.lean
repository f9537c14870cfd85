import SiteSpiders.Proofs.Crawl.Dispatch
import SiteSpiders.Proofs.Json.Compact
import SiteSpiders.Proofs.Json.Plain
import SiteSpiders.Proofs.Storage.Writes
import SiteSpiders.Proofs.Url.HostText

/-!
# One line for each record

Collections are kept in one directory, each in a file of its own name. Tasks that share the
directory write one record at a time, in any order among each other. The text of a record is
the compact object of its address, time, data and metadata, and no line feed stands inside.
So dividing a file at line feeds gives the objects of the records kept in it, those of each
task in the order in which it kept them.
-/
namespace SiteSpiders

namespace Storage

/-- Whether a text is the compact object of a record. -/
def Item.Line (i : Item) (text : List Char) : Prop :=
  Json.Compact (.object [("url", .string i.url.text), ("timestamp", .string i.timestamp),
    ("data", i.data), ("metadata", i.metadata.getD .null)]) text

theorem Item.line_text (i : Item) : i.Line i.text.toList := by
  rw [Item.text, Json.compact, String.toList_ofList]
  exact Json.chars_compact _

theorem Item.newline_not_mem (i : Item) : '\n' ∉ i.text.toList := by
  intro h
  rw [Item.text, Json.compact, String.toList_ofList] at h
  exact absurd (Json.chars_plain _ _ h) (by decide)

theorem toList_recordLines (items : List Item) :
    (recordLines items).toList = (items.map fun i => i.text.toList).flatMap (· ++ ['\n']) := by
  induction items with
  | nil => rfl
  | cons item rest ih => simp [recordLines, Item.line, ih]

/-! ## Dividing at line feeds -/

theorem splitOn_lines {lines : List (List Char)} (plain : ∀ line ∈ lines, '\n' ∉ line) :
    (lines.flatMap (· ++ ['\n'])).splitOn '\n' = lines ++ [[]] := by
  induction lines with
  | nil => rfl
  | cons line lines ih =>
    rw [List.forall_mem_cons] at plain
    rw [List.flatMap_cons, List.append_assoc, List.singleton_append,
      List.splitOn_append_cons_self_of_not_mem plain.1, ih plain.2, List.cons_append]

/-- What follows whole lines is divided by itself. -/
theorem splitOn_append_of_lines {lines : List (List Char)} {cs : List Char}
    (h : cs.splitOn '\n' = lines ++ [[]]) (more : List Char) :
    (cs ++ more).splitOn '\n' = lines ++ more.splitOn '\n' := by
  induction lines generalizing cs with
  | nil =>
    have hjoin : ['\n'].intercalate (cs.splitOn '\n') = cs := List.intercalate_splitOn '\n'
    rw [h] at hjoin
    subst hjoin
    rfl
  | cons line lines ih =>
    have hmem : '\n' ∈ cs := by
      by_contra hnone
      rw [List.splitOn_eq_singleton hnone] at h
      simp at h
    obtain ⟨before, after, rfl, hbefore⟩ := List.eq_append_cons_of_mem hmem
    rw [List.splitOn_append_cons_self_of_not_mem hbefore, List.cons_append] at h
    obtain ⟨rfl, hafter⟩ := List.cons.inj h
    rw [List.append_assoc, List.cons_append, List.splitOn_append_cons_self_of_not_mem hbefore,
      ih hafter, List.cons_append]

/-! ## The files of a directory -/

/-- The name of a collection's file. -/
def fileName (collection : String) : String := collection ++ ".jsonl"

theorem toList_fileName (collection : String) :
    (fileName collection).toList = collection.toList ++ ['.', 'j', 's', 'o', 'n', 'l'] := by
  rw [fileName, String.toList_append]
  rfl

theorem slash_not_mem_fileName {collection : String} (h : '/' ∉ collection.toList) :
    '/' ∉ (fileName collection).toList := by
  rw [toList_fileName, List.mem_append, not_or]
  exact ⟨h, by decide⟩

theorem fileName_length (collection : String) : 6 ≤ (fileName collection).toList.length := by
  rw [toList_fileName, List.length_append]
  exact Nat.le_add_left _ _

theorem fileName_ne {collection other : String} (h : other.toList.length < 6) :
    fileName collection ≠ other := by
  intro heq
  have := fileName_length collection
  rw [heq] at this
  omega

theorem fileName_inj {a b : String} (h : fileName a = fileName b) : a = b := by
  have := congrArg String.toList h
  rw [toList_fileName, toList_fileName] at this
  exact String.ext (List.append_cancel_right this)

namespace Disk

theorem steps_slash (path more : String) :
    steps (path ++ "/" ++ more) = steps path ++ steps more := by
  have hlist : (path ++ "/" ++ more).toList = path.toList ++ '/' :: more.toList := by
    simp
  rw [steps, Text.divideText, hlist, Text.divide_append_cons, List.map_append, List.filter_append]
  rfl

theorem steps_fileName {collection : String} (h : '/' ∉ collection.toList) :
    steps (fileName collection) = [fileName collection] := by
  have hempty : fileName collection ≠ "" := fileName_ne (by decide)
  have hdot : fileName collection ≠ "." := fileName_ne (by decide)
  rw [steps, Text.divideText, Text.divide_of_not_mem (slash_not_mem_fileName h)]
  simp [hempty, hdot]

theorem origin_append {path : String} (h : path ≠ "") (more : String) :
    origin (path ++ more) = origin path := by
  cases hpath : path.toList with
  | nil => exact absurd (String.ext hpath) h
  | cons c rest => simp [origin, hpath, List.isPrefixOf]

theorem fileName_relative {collection : String} (h : '/' ∉ collection.toList) :
    ['/'].isPrefixOf (fileName collection).toList = false := by
  have hslash := slash_not_mem_fileName h
  cases hfile : (fileName collection).toList with
  | nil => rfl
  | cons c rest =>
    rw [hfile] at hslash
    have hne : ('/' == c) = false := beq_false_of_ne fun heq => hslash (heq ▸ List.mem_cons_self)
    simp [List.isPrefixOf, hne]

/-- A collection is kept in the file of its name, in the directory of the base. -/
theorem way_collectionPath (base : String) {collection : String} (h : '/' ∉ collection.toList) :
    steps (collectionPath base collection) = steps base ++ [fileName collection] ∧
      origin (collectionPath base collection) = origin base := by
  have relative := fileName_relative h
  rw [← steps_fileName h]
  unfold collectionPath
  rw [← fileName.eq_1]
  simp only [relative, Bool.false_eq_true, if_false]
  by_cases hempty : base = ""
  · subst hempty
    simp only [decide_true, Bool.true_or, if_true, String.empty_append, origin, relative]
    exact ⟨rfl, rfl⟩
  · simp only [hempty, decide_false, Bool.false_or]
    split_ifs with hends
    · -- the base ends with a divider, and no step comes after it
      obtain ⟨front, hfront⟩ : ∃ front : String, base = front ++ "/" := by
        have hlast : base.toList.getLast? = some '/' := by simpa using hends
        refine ⟨String.ofList base.toList.dropLast, String.ext ?_⟩
        simpa using (List.dropLast_append_getLast? '/' hlast).symm
      have hbase : steps base = steps front := by
        have := steps_slash front ""
        rw [String.append_empty, ← hfront] at this
        rw [this]
        exact List.append_nil _
      refine ⟨?_, origin_append hempty _⟩
      rw [hbase, ← steps_slash, hfront]
    · refine ⟨steps_slash _ _, ?_⟩
      rw [String.append_assoc]
      exact origin_append hempty _

/-! ## Making the directory -/

variable {d d' : Disk} {at_ l : Location} {way : List String}

theorem walk_concat {parent : Location} {name : String} (hwalk : d.walk at_ way = .ok parent) :
    d.walk at_ (way ++ [name]) = d.enter parent name := by
  induction way generalizing at_ with
  | nil =>
    cases hwalk
    simp only [List.nil_append, walk, bind, Except.bind]
    cases d.enter parent name <;> rfl
  | cons first way ih =>
    cases henter : d.enter at_ first with
    | error fault => simp [walk, henter, bind, Except.bind] at hwalk
    | ok next =>
      simp only [walk, henter, bind, Except.bind] at hwalk
      simp only [List.cons_append, walk, henter, bind, Except.bind, ih hwalk]

/-- The way to a directory that was made leads there. -/
theorem walk_makeDirectory (h : d.makeDirectory at_ way = .ok d') :
    ∃ l, d'.walk at_ way = .ok l := by
  unfold makeDirectory at h
  cases hwalk : d.walk at_ way.dropLast with
  | error fault => simp [hwalk, bind, Except.bind] at h
  | ok parent =>
    simp only [hwalk, bind, Except.bind] at h
    split at h
    · cases h
    · rename_i name hlast
      split_ifs at h with hup hlong hthere
      cases h
      have within : d.Within { d with directories := d.directories ++ [parent ++ [name]] } := by
        intro l hl
        simp only [isDirectory, Bool.or_eq_true, List.contains_eq_mem, decide_eq_true_eq,
          List.mem_append] at hl ⊢
        exact hl.imp_right Or.inl
      have hway : way.dropLast ++ [name] = way := List.dropLast_append_getLast? name hlast
      refine ⟨parent ++ [name], ?_⟩
      rw [← hway, walk_concat (walk_within within hwalk)]
      simp [enter, hup, hlong, isDirectory]

theorem walk_ensureDirectory (h : d.ensureDirectory at_ way = .ok d') :
    ∃ l, d'.walk at_ way = .ok l := by
  unfold ensureDirectory at h
  split at h
  · rename_i made hmade
    cases h
    exact walk_makeDirectory hmade
  · split_ifs at h
    split at h
    · rename_i l hwalk
      cases h
      exact ⟨l, hwalk⟩
    · cases h

theorem walk_ensureWay (h : d.ensureWay at_ way = .ok d') :
    ∃ l, d'.walk at_ way.reverse = .ok l := by
  cases way with
  | nil => exact ⟨at_, rfl⟩
  | cons last before =>
    rw [ensureWay] at h
    split at h
    · rename_i made hmade
      cases h
      exact walk_ensureDirectory hmade
    · split_ifs at h
      cases hmade : d.ensureWay at_ before with
      | error fault => simp [hmade, bind, Except.bind] at h
      | ok made =>
        simp only [hmade, bind, Except.bind] at h
        exact walk_ensureDirectory h

end Disk

namespace Output

/-- Whether no call of a store is refused by plan, and its base leads to a directory. -/
structure Rooted (o : Output) (directory : Location) : Prop where
  clear : Char.ofNat 0 ∉ o.base.toList
  steady : ∀ call, o.fails call = false
  walk : o.disk.walk (Disk.origin o.base) (Disk.steps o.base) = .ok directory

theorem rooted_of_create {disk : Disk} {base : String} {o : Output}
    (h : Output.create disk base = .ok o) : ∃ directory, o.Rooted directory := by
  unfold create at h
  split at h
  · rename_i made hmade
    cases h
    unfold Disk.ensurePath at hmade
    split_ifs at hmade with hclear
    obtain ⟨directory, hwalk⟩ := Disk.walk_ensureWay hmade
    rw [List.reverse_reverse] at hwalk
    exact ⟨directory, by simpa using hclear, fun _ => rfl, hwalk⟩
  · cases h

/-- Whether the name of a collection can be that of a file in a directory. -/
structure Fits (o : Output) (directory : Location) (collection : String) : Prop where
  clear : Char.ofNat 0 ∉ collection.toList
  short : Text.utf8Length (fileName collection) ≤ longestName
  apart : o.disk.isDirectory (directory ++ [fileName collection]) = false

variable {o o' : Output} {directory : Location} {collection : String}

theorem Rooted.file?_eq (h : o.Rooted directory) (plain : '/' ∉ collection.toList) :
    o.file? collection = some (directory ++ [fileName collection]) := by
  obtain ⟨hsteps, horigin⟩ := Disk.way_collectionPath o.base plain
  simp [file?, Disk.place?, hsteps, horigin, h.walk]

theorem clear_collectionPath {base : String} (h : Char.ofNat 0 ∉ base.toList) :
    (collectionPath base collection).toList.contains (Char.ofNat 0) = false ↔
      Char.ofNat 0 ∉ collection.toList := by
  unfold collectionPath
  dsimp only
  split_ifs
  · simp [String.toList_append]
  · simp [String.toList_append, h]
  · simp [String.toList_append, h]

/-- A record is kept just when its collection can have a file. -/
theorem Rooted.takes_iff (h : o.Rooted directory) (plain : '/' ∉ collection.toList) :
    (∃ file, o.disk.Takes (collectionPath o.base collection) file) ↔
      o.Fits directory collection := by
  obtain ⟨hsteps, horigin⟩ := Disk.way_collectionPath o.base plain
  constructor
  · rintro ⟨file, takes⟩
    obtain ⟨parent, name, hwalk, hlast, -, hshort, rfl⟩ := takes.named
    rw [hsteps, horigin, List.dropLast_concat, h.walk] at hwalk
    rw [hsteps, List.getLast?_concat] at hlast
    cases hwalk
    cases hlast
    exact ⟨(clear_collectionPath h.clear).mp takes.clear, hshort, takes.apart⟩
  · intro fits
    refine ⟨_, (clear_collectionPath h.clear).mpr fits.clear,
      ⟨directory, fileName collection, ?_, ?_, fileName_ne (by decide), fits.short, rfl⟩,
      fits.apart⟩
    · rw [hsteps, horigin, List.dropLast_concat, h.walk]
    · rw [hsteps, List.getLast?_concat]

end Output

/-! ## Tasks that share a store -/

/-- A record to be kept in a collection. -/
structure Deposit where
  item : Item
  collection : String

def Write.deposit (w : Write) : Deposit := ⟨w.item, w.collection⟩

/-- Tasks keep their records through one store. Whichever task has records left may keep its next
one. -/
inductive Sharing (o : Output) (jobs : List (List Deposit)) :
    List (List Deposit) → List Write → Output → Prop
  | start : Sharing o jobs jobs [] o
  | write {left : List (List Deposit)} {log : List Write} {o' : Output} {deposit : Deposit}
      {rest : List Deposit} (h : Sharing o jobs left log o') (task : Nat)
      (turn : left[task]? = some (deposit :: rest)) :
      Sharing o jobs (left.set task rest)
        (log ++ [⟨task, deposit.item, deposit.collection,
          (o'.store deposit.item deposit.collection).1⟩])
        (o'.store deposit.item deposit.collection).2

namespace Sharing

variable {o o' : Output} {jobs left : List (List Deposit)} {log : List Write}

theorem wrote (h : Sharing o jobs left log o') : o.Wrote log o' := by
  induction h with
  | start => exact .nil
  | @write left log o' deposit rest _ task _ ih =>
    exact ih.store task deposit.item deposit.collection

/-- What a task has kept and what it has left is what it had, in this order. -/
theorem order (h : Sharing o jobs left log o') (task : Nat) :
    (log.filter fun w => w.task == task).map Write.deposit ++ left.getD task [] =
      jobs.getD task [] := by
  induction h with
  | start => rfl
  | @write left log o' deposit rest _ turnOf turn ih =>
    rw [List.filter_append, List.map_append]
    by_cases htask : turnOf = task
    · subst htask
      have hbefore : left.getD turnOf [] = deposit :: rest := by simp [turn]
      have hafter : (left.set turnOf rest).getD turnOf [] = rest := by
        obtain ⟨hlt, -⟩ := List.getElem?_eq_some_iff.mp turn
        simp [List.getD, hlt]
      rw [hbefore] at ih
      rw [hafter, ← ih]
      simp [Write.deposit]
    · have hother : (left.set turnOf rest).getD task [] = left.getD task [] := by
        simp [List.getD, htask]
      rw [hother, ← ih]
      simp [htask]

theorem mem_jobs (h : Sharing o jobs left log o') {w : Write} (hw : w ∈ log) :
    w.deposit ∈ jobs.getD w.task [] := by
  rw [← h.order w.task]
  refine List.mem_append_left _ (List.mem_map_of_mem ?_)
  simpa using hw

end Sharing

/-- The writes of a history that were kept in a collection, in its order. -/
def keptIn (log : List Write) (collection : String) : List Write :=
  log.filter fun w => w.kept && w.collection == collection

namespace Output

variable {o o' : Output} {directory : Location} {log : List Write}

/-- On a store that refuses no call, a record is kept just when its path takes a file. -/
theorem Wrote.kept_iff (h : o.Wrote log o') (steady : ∀ call, o.fails call = false) {w : Write}
    (hw : w ∈ log) :
    w.kept = true ↔ ∃ file, o.disk.Takes (collectionPath o.base w.collection) file := by
  induction h with
  | nil => cases hw
  | @store log o' h task item collection ih =>
    rcases List.mem_append.mp hw with hw | hw
    · exact ih hw
    rw [List.mem_singleton.mp hw]
    dsimp only
    constructor
    · intro hkept
      rcases o'.store_cases item collection with ⟨file, -, takes, -⟩ | ⟨fault, heq⟩
      · rw [h.unmoved.base] at takes
        exact ⟨file, (h.unmoved.takes _ _).mp takes⟩
      · rw [heq] at hkept
        cases hkept
    · rintro ⟨file, takes⟩
      have hfails : ∀ call, o'.fails call = false := by
        rw [h.unmoved.fails]
        exact steady
      have htakes : o'.disk.Takes (collectionPath o'.base collection) file := by
        rw [h.unmoved.base]
        exact (h.unmoved.takes _ _).mpr takes
      have keeps : o'.Keeps collection file := ⟨hfails, htakes⟩
      rw [(keeps.store item).1]
      rfl

/-- What was kept in the file of a collection is what was kept in the collection. -/
theorem Rooted.written_eq (h : o.Rooted directory)
    (plain : ∀ w ∈ log, '/' ∉ w.collection.toList) (collection : String) :
    o.written log (directory ++ [fileName collection]) =
      (keptIn log collection).map Write.item := by
  refine congrArg (List.map Write.item) (List.filter_congr fun w hw => ?_)
  have hsame : (o.file? w.collection == some (directory ++ [fileName collection])) =
      (w.collection == collection) := by
    rw [h.file?_eq (plain w hw), Bool.eq_iff_iff]
    simp only [beq_iff_eq, Option.some.injEq, List.append_cancel_left_eq, List.cons.injEq, and_true]
    exact ⟨fileName_inj, fun heq => heq ▸ rfl⟩
  rw [hsame]

end Output

/-- How the files of a directory come out of the writes of tasks that share it. -/
structure Framed (o o' : Output) (directory : Location) (jobs left : List (List Deposit))
    (log : List Write) : Prop where
  /-- Each task writes its records in turn. -/
  order : ∀ task, (log.filter fun w => w.task == task).map Write.deposit ++ left.getD task [] =
    jobs.getD task []
  /-- Only a collection that cannot have a file is refused its records. -/
  kept : ∀ w ∈ log, w.kept = true ↔ o.Fits directory w.collection
  /-- A file of whole lines, or an empty one, has gained a line for each record that was kept. -/
  lines : ∀ collection old,
    (o.text (directory ++ [fileName collection])).toList.splitOn '\n' = old ++ [[]] →
    ∃ new, List.Forall₂ (fun w line => w.item.Line line) (keptIn log collection) new ∧
      (o'.text (directory ++ [fileName collection])).toList.splitOn '\n' = old ++ new ++ [[]]
  /-- Those of a task are the ones it had for the collection, in its order. -/
  tasks : ∀ task collection, o.Fits directory collection →
    ((keptIn log collection).filter fun w => w.task == task).map Write.deposit ++
        (left.getD task []).filter (fun d => d.collection == collection) =
      (jobs.getD task []).filter fun d => d.collection == collection
  /-- No other file is written. -/
  others : ∀ file, (∀ w ∈ log, w.kept = true → file ≠ directory ++ [fileName w.collection]) →
    o'.disk.content? file = o.disk.content? file
  directories : o'.disk.directories = o.disk.directories

/-- However tasks take turns in keeping records through one store, every file of a collection holds
the records kept in it, one line each and whole, those of each task in its order. -/
theorem sharing_framed {disk : Disk} {base : String} {o o' : Output}
    (created : Output.create disk base = .ok o) {jobs left : List (List Deposit)} {log : List Write}
    (plain : ∀ job ∈ jobs, ∀ deposit ∈ job, '/' ∉ deposit.collection.toList)
    (sharing : Sharing o jobs left log o') :
    ∃ directory, o.disk.walk (Disk.origin o.base) (Disk.steps o.base) = .ok directory ∧
      Framed o o' directory jobs left log := by
  obtain ⟨directory, rooted⟩ := Output.rooted_of_create created
  have wrote := sharing.wrote
  have plainLog : ∀ w ∈ log, '/' ∉ w.collection.toList := by
    intro w hw
    have hmem := sharing.mem_jobs hw
    cases hjob : jobs[w.task]? with
    | none => simp [List.getD, hjob] at hmem
    | some job =>
      simp only [List.getD, hjob, Option.getD_some] at hmem
      exact plain job (List.mem_of_getElem? hjob) _ hmem
  have kept : ∀ w ∈ log, w.kept = true ↔ o.Fits directory w.collection := by
    intro w hw
    rw [wrote.kept_iff rooted.steady hw, rooted.takes_iff (plainLog w hw)]
  refine ⟨directory, rooted.walk, sharing.order, kept, ?_, ?_, ?_, wrote.unmoved.directories⟩
  · intro collection old hold
    refine ⟨(keptIn log collection).map fun w => w.item.text.toList, ?_, ?_⟩
    · rw [List.forall₂_map_right_iff]
      exact List.forall₂_same.mpr fun w _ => w.item.line_text
    · rw [wrote.text_eq, String.toList_append, splitOn_append_of_lines hold,
        rooted.written_eq plainLog, toList_recordLines, List.map_map, splitOn_lines,
        List.append_assoc]
      · rfl
      · intro line hline
        obtain ⟨w, -, rfl⟩ := List.mem_map.mp hline
        exact w.item.newline_not_mem
  · intro task collection fits
    rw [← sharing.order task, List.filter_append, List.filter_map]
    congr 2
    rw [keptIn, List.filter_filter, List.filter_filter]
    refine List.filter_congr fun w hw => ?_
    by_cases hsame : w.collection = collection
    · subst hsame
      simp [(kept w hw).mpr fits, Write.deposit]
    · have hne : (w.collection == collection) = false := beq_false_of_ne hsame
      simp [hne, Write.deposit]
  · intro file hfile
    rw [wrote.content?_eq, if_pos]
    rw [Output.written, List.map_eq_nil_iff, List.filter_eq_nil_iff]
    intro w hw hboth
    rw [Bool.and_eq_true, rooted.file?_eq (plainLog w hw), beq_iff_eq, Option.some.injEq] at hboth
    exact hfile w hw hboth.1 hboth.2.symm

/-- A record whose string holds quotes and line breaks. -/
def brokenItem (name : String) : Item where
  url := samplePage name
  data := .object [("text", .array [.string "one\ntwo\r\n\"three\"", .string name])]

/-- Two tasks, the first with records for two collections. -/
def sampleJobs : List (List Deposit) :=
  [[⟨brokenItem "a", "notes"⟩, ⟨brokenItem "b", "café"⟩, ⟨brokenItem "c", "notes"⟩],
    [⟨brokenItem "d", "notes"⟩, ⟨brokenItem "e", "notes"⟩]]

/-- The tasks take turns until no record is left. -/
theorem sharing_framed_sample :
    ∃ o o' log, Output.create {} "out" = .ok o ∧
      (∀ job ∈ sampleJobs, ∀ deposit ∈ job, '/' ∉ deposit.collection.toList) ∧
      Sharing o sampleJobs [[], []] log o' ∧ o.Fits [".", "out"] "notes" ∧
      ∃ directory, o.disk.walk (Disk.origin o.base) (Disk.steps o.base) = .ok directory ∧
        Framed o o' directory sampleJobs [[], []] log := by
  have created : Output.create {} "out" =
      .ok { disk := { directories := [["."], [".", "out"]] }, base := "out" } := rfl
  have plain : ∀ job ∈ sampleJobs, ∀ deposit ∈ job, '/' ∉ deposit.collection.toList := by
    simp [sampleJobs]
  -- the turns of the tasks are 1, 0, 0, 1, 0
  have idle : Sharing { disk := { directories := [["."], [".", "out"]] }, base := "out" } sampleJobs
      sampleJobs [] _ := .start
  have sharing := ((((idle.write 1 rfl).write 0 rfl).write 0 rfl).write 1 rfl).write 0 rfl
  exact ⟨_, _, _, created, plain, sharing, ⟨by decide, by decide, by decide⟩,
    sharing_framed created plain sharing⟩

end Storage

end SiteSpiders
