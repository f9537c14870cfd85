import SiteSpiders.Proofs.Storage.Records

/-!
# Histories of writes

A record given to a store is one write, with the answer of the store. The place of a
collection's file depends on directories alone, and writing leaves these as they are. So
after any history of writes each file is its former text followed by the lines of the
records that were kept in it, in the order of the history.
-/
namespace SiteSpiders.Storage

namespace Disk

variable {d d' : Disk} {path text : String} {l file : Location}

/-- The place of the file that a written path names, whether or not it can be written. -/
def place? (d : Disk) (path : String) : Option Location :=
  match d.walk (origin path) (steps path).dropLast, (steps path).getLast? with
  | .ok parent, some name => some (parent ++ [name])
  | _, _ => none

theorem Takes.place?_eq (h : d.Takes path file) : d.place? path = some file := by
  obtain ⟨parent, name, hwalk, hlast, -, -, rfl⟩ := h.named
  simp only [place?, hwalk, hlast]

/-- Adding a text to a path succeeds only by extending the file that the path takes. -/
theorem append_eq_ok (h : d.append path text = .ok d') :
    ∃ file, d.Takes path file ∧ d' = d.extend file text := by
  obtain ⟨file, takes⟩ := takes_of_append h
  rw [append_of_takes takes] at h
  exact ⟨file, takes, (Except.ok.inj h).symm⟩

@[simp] theorem directories_extend (d : Disk) (file : Location) (text : String) :
    (d.extend file text).directories = d.directories := by
  unfold extend
  split <;> rfl

@[simp] theorem place?_extend (d : Disk) (file : Location) (text path : String) :
    (d.extend file text).place? path = d.place? path := by
  unfold place?
  cases hwalk : d.walk (origin path) (steps path).dropLast with
  | ok parent => rw [walk_extend_iff.mpr hwalk]
  | error fault =>
    cases hwalk' : (d.extend file text).walk (origin path) (steps path).dropLast with
    | error fault' => rfl
    | ok parent =>
      rw [walk_extend_iff.mp hwalk'] at hwalk
      cases hwalk

/-- Other files stay as they are. -/
theorem content?_extend_of_ne (text : String) (h : l ≠ file) :
    (d.extend file text).content? l = d.content? l := by
  have spared : ∀ files : List (Location × String),
      (files.map fun f => if f.1 = file then (file, f.2 ++ text) else f).lookup l =
        files.lookup l := by
    intro files
    induction files with
    | nil => rfl
    | cons f files ih =>
      obtain ⟨k, old⟩ := f
      by_cases hk : k = file
      · have hne : (l == file) = false := by simpa using h
        simp only [List.map_cons, hk, if_true, List.lookup_cons, hne, ih]
      · simp only [List.map_cons, hk, if_false, List.lookup_cons, ih]
  unfold extend content?
  split
  · exact spared d.files
  · have hne : (l == file) = false := by simpa using h
    simp [List.lookup_append, List.lookup_cons, hne]

end Disk

/-- A record given to a store by a task, and the answer. -/
structure Write where
  task : Nat
  item : Item
  collection : String
  answer : Except StorageFault Unit

def Write.kept (w : Write) : Bool := w.answer.isOk

namespace Output

/-- The place of a collection's file. -/
def file? (o : Output) (collection : String) : Option Location :=
  o.disk.place? (collectionPath o.base collection)

/-- The text of a collection's file. -/
def textOf (o : Output) (collection : String) : String := (o.file? collection).elim "" o.text

/-- A record is added to the file of its collection, or nothing but the number of calls changes. -/
theorem store_cases (o : Output) (item : Item) (collection : String) :
    (∃ file, o.fails o.calls = false ∧ o.disk.Takes (collectionPath o.base collection) file ∧
      o.store item collection =
        (.ok (), { o with disk := o.disk.extend file item.line, calls := o.calls + 1 })) ∨
      ∃ fault, o.store item collection = (.error fault, { o with calls := o.calls + 1 }) := by
  unfold store
  dsimp only
  split_ifs with hfails
  · exact .inr ⟨_, rfl⟩
  · cases happend : o.disk.append (collectionPath o.base collection) item.line with
    | error fault => exact .inr ⟨_, rfl⟩
    | ok disk =>
      obtain ⟨file, takes, rfl⟩ := Disk.append_eq_ok happend
      exact .inl ⟨file, Bool.not_eq_true _ ▸ hfails, takes, rfl⟩

inductive Wrote (o : Output) : List Write → Output → Prop
  | nil : Wrote o [] o
  | store {log : List Write} {o' : Output} (h : Wrote o log o') (task : Nat) (item : Item)
      (collection : String) :
      Wrote o (log ++ [⟨task, item, collection, (o'.store item collection).1⟩])
        (o'.store item collection).2

/-- The records of a history that were kept in a file, in its order. -/
def written (o : Output) (log : List Write) (file : Location) : List Item :=
  (log.filter fun w => w.kept && o.file? w.collection == some file).map Write.item

variable {o o' : Output} {log : List Write}

theorem written_concat (o : Output) (log : List Write) (w : Write) (file : Location) :
    o.written (log ++ [w]) file =
      o.written log file ++
        if w.kept && o.file? w.collection == some file then [w.item] else [] := by
  simp only [written, List.filter_append, List.map_append]
  split_ifs with h <;> simp [h]

structure Unmoved (o o' : Output) : Prop where
  base : o'.base = o.base
  fails : o'.fails = o.fails
  directories : o'.disk.directories = o.disk.directories
  file? : ∀ collection, o'.file? collection = o.file? collection
  takes : ∀ path file, o'.disk.Takes path file ↔ o.disk.Takes path file

theorem Wrote.unmoved (h : o.Wrote log o') : Unmoved o o' := by
  induction h with
  | nil => exact ⟨rfl, rfl, rfl, fun _ => rfl, fun _ _ => Iff.rfl⟩
  | @store log o' _ task item collection ih =>
    rcases o'.store_cases item collection with ⟨file, -, -, heq⟩ | ⟨fault, heq⟩
    · rw [heq]
      refine ⟨ih.base, ih.fails, by simp [ih.directories], fun c => ?_, fun path f => ?_⟩
      · rw [← ih.file? c]
        exact Disk.place?_extend _ _ _ _
      · rw [← ih.takes path f]
        exact Disk.takes_extend_iff
    · rw [heq]
      exact ⟨ih.base, ih.fails, ih.directories, ih.file?, ih.takes⟩

/-- A file to which nothing was written is as it was, and any other ends with the lines of the
records that were kept in it. -/
theorem Wrote.content?_eq (h : o.Wrote log o') (file : Location) :
    o'.disk.content? file = if o.written log file = [] then o.disk.content? file
      else some (o.text file ++ recordLines (o.written log file)) := by
  induction h with
  | nil => rfl
  | @store log o' h task item collection ih =>
    rw [written_concat]
    rcases o'.store_cases item collection with ⟨place, -, takes, heq⟩ | ⟨fault, heq⟩
    · have hplace : o.file? collection = some place := by
        rw [← h.unmoved.file?]
        exact takes.place?_eq
      rw [heq]
      by_cases hfile : place = file
      · subst hfile
        -- what the file held before the write is its text, there or not
        have before : (o'.disk.content? place).getD "" =
            o.text place ++ recordLines (o.written log place) := by
          rw [ih]
          split_ifs with hnone
          · simp [hnone, recordLines, Output.text]
          · rfl
        have hkept : Write.kept ⟨task, item, collection, .ok ()⟩ = true := rfl
        simp only [hkept, hplace, BEq.rfl, Bool.and_self, if_true, List.append_eq_nil_iff,
          List.cons_ne_self, and_false, if_false, Disk.content?_extend, before, recordLines_append,
          recordLines, String.append_assoc, String.append_empty]
      · have hne : (o.file? collection == some file) = false := by
          rw [hplace]
          simpa using hfile
        simp only [hne, Bool.and_false, Bool.false_eq_true, if_false, List.append_nil]
        rw [← ih]
        exact Disk.content?_extend_of_ne _ (Ne.symm hfile)
    · have hkept : Write.kept ⟨task, item, collection, .error fault⟩ = false := rfl
      rw [heq]
      simp only [hkept, Bool.false_and, Bool.false_eq_true, if_false, List.append_nil]
      exact ih

theorem Wrote.text_eq (h : o.Wrote log o') (file : Location) :
    o'.text file = o.text file ++ recordLines (o.written log file) := by
  rw [Output.text, h.content?_eq file]
  split_ifs with hnone
  · simp [hnone, recordLines, Output.text]
  · rfl

end Output

end SiteSpiders.Storage
