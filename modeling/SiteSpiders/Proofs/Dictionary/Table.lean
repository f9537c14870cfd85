import Mathlib.Data.List.Induction
import SiteSpiders.Proofs.Dictionary.Keeping

/-!
# Entries in a table

The statements that keep entries in a database bind the fields of an entry to the columns
of a row. A memory and a table with the same entries answer every history of calls alike,
and the rows of the database are those entries, column by column.
-/
namespace SiteSpiders.Dictionary

open Storage

inductive EntryCall where
  | schema
  | knows (name : String)
  | insert (entry : Entry)
  deriving DecidableEq, Repr

/-- What a caller is told: whether a name is stored, or only that the call is done. -/
abbrev Reply := Except StorageFault (Option Bool)

namespace EntryStore

/-- The reply of a store to a call, and the store after it. -/
def serve (s : EntryStore) : EntryCall → Reply × EntryStore
  | .schema => (s.ensureSchema.1.map fun _ => none, s.ensureSchema.2)
  | .knows name => ((s.knows name).map some, s)
  | .insert e => ((s.insert e).1.map fun _ => none, (s.insert e).2)

/-- The store after a history of calls. -/
def after (s : EntryStore) (calls : List EntryCall) : EntryStore :=
  calls.foldl (fun s call => (s.serve call).2) s

theorem after_concat (s : EntryStore) (calls : List EntryCall) (call : EntryCall) :
    s.after (calls ++ [call]) = ((s.after calls).serve call).2 := by
  simp [after]

end EntryStore

/-! ## Statements and rows -/

inductive Column where
  | name
  | strokes
  | pinyin
  | radical
  | basicDefinition
  | detailedMeaning
  | wordClassChange
  | homophones
  | general
  deriving DecidableEq, Repr

/-- The values of a row by their columns. -/
abbrev Row := List (Column × String)

/-- A statement with the values bound to its places. -/
inductive Statement where
  | create
  | count (column : Column) (value : String)
  | insert (columns : List Column) (values : List String)
  deriving Repr

/-- A database, `none` until its table is made. -/
abbrev Database := Option (List Row)

/-- Runs a statement. The answer is the number of rows that it counts or adds. No two rows of the
table have the same name. -/
def Statement.run : Statement → Database → Except StorageFault Nat × Database
  | .create, rows => (.ok 0, some (rows.getD []))
  | .count _ _, none => (.error .noTable, none)
  | .count c value, some rows =>
    (.ok (rows.countP fun row => row.lookup c == some value), some rows)
  | .insert _ _, none => (.error .noTable, none)
  | .insert cs values, some rows =>
    if rows.any fun row => row.lookup .name == (cs.zip values).lookup .name then
      (.error .uniqueName, some rows)
    else (.ok 1, some (rows ++ [cs.zip values]))

/-- The columns in the order in which an insertion names them. -/
def insertedColumns : List Column :=
  [.name, .strokes, .pinyin, .radical, .basicDefinition, .detailedMeaning, .wordClassChange,
    .homophones, .general]

namespace Entry

/-- The fields of an entry in the order in which they are bound to an insertion. -/
def boundValues (e : Entry) : List String :=
  [e.name, e.strokes, e.pinyin, e.radical, e.basicDefinition, e.detailedMeaning,
    e.wordClassChange, e.homophones, e.general]

/-- The row that the insertion of an entry adds. -/
def row (e : Entry) : Row := insertedColumns.zip e.boundValues

/-- Reads an entry from the columns of a row. -/
def ofRow? (row : Row) : Option Entry := do
  let name ← row.lookup .name
  let pinyin ← row.lookup .pinyin
  let strokes ← row.lookup .strokes
  let radical ← row.lookup .radical
  let basicDefinition ← row.lookup .basicDefinition
  let detailedMeaning ← row.lookup .detailedMeaning
  let wordClassChange ← row.lookup .wordClassChange
  let homophones ← row.lookup .homophones
  let general ← row.lookup .general
  return { name, pinyin, strokes, radical, basicDefinition, detailedMeaning, wordClassChange,
           homophones, general }

@[simp] theorem row_name (e : Entry) : e.row.lookup .name = some e.name := rfl

/-- Every field is read back from its own column, whatever the order of the columns. -/
theorem ofRow?_row (e : Entry) : ofRow? e.row = some e := rfl

end Entry

/-- The statement that a call runs. -/
def EntryCall.statement : EntryCall → Statement
  | .schema => .create
  | .knows name => .count .name name
  | .insert e => .insert insertedColumns e.boundValues

/-- What a caller is told of the answer to its statement. -/
def EntryCall.told : EntryCall → Nat → Option Bool
  | .knows _, rows => some (decide (0 < rows))
  | _, _ => none

namespace Database

/-- The reply of a database to a call, and the database after it. -/
def serve (d : Database) (call : EntryCall) : Reply × Database :=
  ((call.statement.run d).1.map call.told, (call.statement.run d).2)

/-- The database after a history of calls. -/
def after (d : Database) (calls : List EntryCall) : Database :=
  calls.foldl (fun d call => (d.serve call).2) d

theorem after_concat (d : Database) (calls : List EntryCall) (call : EntryCall) :
    d.after (calls ++ [call]) = ((d.after calls).serve call).2 := by
  simp [after]

/-- The database whose rows are those of some entries. -/
def ofEntries (rows : List Entry) : Database := some (rows.map Entry.row)

theorem run_count (rows : List Entry) (name : String) :
    (Statement.count .name name).run (ofEntries rows) =
      (.ok (rows.countP fun e => e.name == name), ofEntries rows) := by
  simp only [ofEntries, Statement.run, List.countP_map, Function.comp_def, Entry.row_name,
    Option.some_beq_some]

/-- An insertion finds its key in a row just when an entry has the name. -/
theorem run_insert (rows : List Entry) (e : Entry) :
    (Statement.insert insertedColumns e.boundValues).run (ofEntries rows) =
      if EntryStore.hasName rows e.name then (.error .uniqueName, ofEntries rows)
      else (.ok 1, ofEntries (rows ++ [e])) := by
  have key : ((rows.map Entry.row).any fun row => row.lookup .name == e.row.lookup .name) =
      EntryStore.hasName rows e.name := by
    simp only [List.any_map, EntryStore.hasName, Function.comp_def, Entry.row_name,
      Option.some_beq_some]
  simp only [ofEntries, Statement.run, ← Entry.row.eq_1, key, List.map_append, List.map_cons,
    List.map_nil]

theorem count_pos_eq (rows : List Entry) (name : String) :
    decide (0 < rows.countP fun e => e.name == name) = EntryStore.hasName rows name := by
  rw [Bool.eq_iff_iff, decide_eq_true_iff, List.countP_pos_iff]
  simp only [EntryStore.hasName, List.any_eq_true]

/-- The statements serve a call as the table of entries does, and leave the rows of its entries. -/
theorem serve_ofEntries (rows : List Entry) (call : EntryCall) :
    ∃ rows', ((EntryStore.table (some rows)).serve call).2 = .table (some rows') ∧
      (ofEntries rows).serve call =
        (((EntryStore.table (some rows)).serve call).1, ofEntries rows') := by
  cases call with
  | schema => exact ⟨rows, rfl, rfl⟩
  | knows name =>
    refine ⟨rows, rfl, ?_⟩
    simp only [serve, EntryCall.statement, run_count, EntryStore.serve, EntryStore.knows,
      Except.map, EntryCall.told, count_pos_eq]
  | insert e =>
    simp only [serve, EntryCall.statement, run_insert, EntryStore.serve, EntryStore.insert]
    by_cases known : EntryStore.hasName rows e.name
    · simp only [if_pos known]
      exact ⟨rows, rfl, rfl⟩
    · simp only [if_neg known]
      exact ⟨rows ++ [e], rfl, rfl⟩

end Database

/-! ## A memory and a table side by side -/

/-- A memory and a table with the same entries, each under its own name. -/
structure Paired (es : List (String × Entry)) (rows : List Entry) : Prop where
  keyed : Keyed es
  same : rows.Perm (es.map Prod.snd)

namespace Paired

variable {es : List (String × Entry)} {rows : List Entry}

theorem names_eq (h : Keyed es) : (es.map Prod.snd).map Entry.name = es.map Prod.fst := by
  rw [List.map_map]
  exact List.map_congr_left fun kv hkv => (h.key kv hkv).symm

theorem nodup (h : Paired es rows) : (rows.map Entry.name).Nodup := by
  have keys := names_eq h.keyed ▸ h.keyed.nodup
  exact (h.same.map Entry.name).nodup_iff.mpr keys

theorem hasName_eq (h : Paired es rows) (name : String) :
    EntryStore.hasName rows name = EntryStore.hasKey es name := by
  have keys := (h.same.map Entry.name).mem_iff (a := name)
  rw [names_eq h.keyed] at keys
  rw [Bool.eq_iff_iff, EntryStore.hasKey_iff, ← keys]
  simp [EntryStore.hasName]

/-- The entry under a key is the one row with the name. -/
theorem get?_eq (h : Paired es rows) (name : String) :
    (EntryStore.memory es).get? name = (EntryStore.table (some rows)).get? name := by
  have table : (EntryStore.table (some rows)).get? name = rows.find? fun e => e.name == name := rfl
  rw [table]
  cases found : rows.find? fun e => e.name == name with
  | none =>
    have absent : EntryStore.hasName rows name = false := by
      rw [EntryStore.hasName, List.any_eq_false]
      exact List.find?_eq_none.mp found
    rw [h.hasName_eq] at absent
    rw [EntryStore.get?, List.lookup_eq_none_iff]
    intro kv hkv
    have other := List.any_eq_false.mp absent kv hkv
    rw [beq_iff_eq] at other
    exact bne_iff_ne.mpr fun h => other h.symm
  | some e =>
    obtain ⟨kv, hkv, rfl⟩ := List.mem_map.mp (h.same.mem_iff.mp (List.mem_of_find?_eq_some found))
    have hname : kv.2.name = name := by simpa using List.find?_some found
    rw [← hname, ← h.keyed.key kv hkv]
    exact h.keyed.get?_eq hkv

theorem append (h : Paired es rows) {e : Entry} (new : EntryStore.hasKey es e.name = false) :
    Paired (es ++ [(e.name, e)]) (rows ++ [e]) := by
  have absent : e.name ∉ es.map Prod.fst := by
    rw [← EntryStore.hasKey_iff, new]
    exact Bool.false_ne_true
  refine ⟨h.keyed.append absent, ?_⟩
  rw [List.map_append]
  exact h.same.append_right _

end Paired

theorem EntryStore.put_eq_append {e : Entry} {es : List (String × Entry)}
    (new : e.name ∉ es.map Prod.fst) : put e es = es ++ [(e.name, e)] := by
  induction es with
  | nil => rfl
  | cons kv rest ih =>
    rw [List.map_cons, List.mem_cons, not_or] at new
    rw [put, if_neg (Ne.symm new.1), ih new.2, List.cons_append]

/-- A memory of distinct names holds an entry for each, in their order. -/
theorem EntryStore.ofNames_eq {names : List String} (distinct : names.Nodup) :
    ofNames names = .memory (names.map fun name => (name, .named name)) := by
  have grow : ∀ es : List (String × Entry), (∀ name ∈ names, name ∉ es.map Prod.fst) →
      names.foldl (fun es name => put (.named name) es) es =
        es ++ names.map fun name => (name, .named name) := by
    induction names with
    | nil => simp
    | cons name rest ih =>
      obtain ⟨hnot, hrest⟩ := List.nodup_cons.mp distinct
      intro es new
      have hput : put (.named name) es = es ++ [(name, .named name)] :=
        put_eq_append (new name List.mem_cons_self)
      rw [List.foldl_cons, hput, ih hrest, List.map_cons, List.append_assoc, List.singleton_append]
      intro other hother
      simp only [List.map_append, List.map_cons, List.map_nil, List.mem_append,
        List.mem_singleton, not_or]
      exact ⟨new other (List.mem_cons_of_mem _ hother), fun h => hnot (h ▸ hother)⟩
  rw [ofNames, grow [] (by simp), List.nil_append]

/-- A memory of distinct names is paired with a table of their entries in any order. -/
theorem paired_ofNames {names : List String} (distinct : names.Nodup) {rows : List Entry}
    (same : rows.Perm (names.map .named)) :
    ∃ es, EntryStore.ofNames names = .memory es ∧ Paired es rows := by
  obtain ⟨es, heq, keyed⟩ := EntryStore.ofNames_keyed names
  refine ⟨es, heq, keyed, ?_⟩
  have hes : es = names.map fun name => (name, .named name) :=
    EntryStore.memory.inj (heq.symm.trans (EntryStore.ofNames_eq distinct))
  rwa [hes, List.map_map]

/-- What a memory, a table and a database show of a call. -/
structure Concur (memory table : EntryStore) (d : Database) (call : EntryCall) : Prop where
  /-- Memory and table hold the same entries, each name once. -/
  entries : ∃ es rows, memory.entries? = some es ∧ table.entries? = some rows ∧
    es.Perm rows ∧ (es.map Entry.name).Nodup
  get? : ∀ name, memory.get? name = table.get? name
  /-- The rows of the database are those of the table, read back column by column. -/
  rows : ∃ rows, d = some rows ∧ rows.mapM Entry.ofRow? = table.entries?
  /-- The replies are the same up to the text of a failure. -/
  replies : (memory.serve call).1.mapError StorageFault.kind =
    (table.serve call).1.mapError StorageFault.kind
  database : (d.serve call).1 = (table.serve call).1
  /-- A name is known just when it is held. -/
  known : ∀ name, call = .knows name →
    (memory.serve call).1 = .ok (some (memory.get? name).isSome)
  /-- An entry that is taken is a row of its own, with all its fields. -/
  stored : ∀ e told, call = .insert e → (memory.serve call).1 = .ok told →
    (table.serve call).2.entries? = table.entries?.map (· ++ [e])
  /-- Only an entry under a name that is held is refused, as a failed operation. -/
  refused : ∀ kind, (memory.serve call).1.mapError StorageFault.kind = .error kind ↔
    kind = .operation ∧ ∃ e, call = .insert e ∧ (memory.get? e.name).isSome
  /-- What is refused changes nothing. -/
  kept : ∀ fault, (table.serve call).1 = .error fault →
    (memory.serve call).2 = memory ∧ (table.serve call).2 = table ∧ (d.serve call).2 = d
  /-- Making the table again changes nothing. -/
  schema : (memory.serve .schema).2 = memory ∧ (table.serve .schema).2 = table ∧
    (d.serve .schema).2 = d

namespace Paired

variable {es : List (String × Entry)} {rows : List Entry}

/-- A call keeps the pair, and does nothing where it is refused. The replies differ in the text of a
refusal only. -/
theorem serve (h : Paired es rows) (call : EntryCall) :
    (∃ es' rows', ((EntryStore.memory es).serve call).2 = .memory es' ∧
        ((EntryStore.table (some rows)).serve call).2 = .table (some rows') ∧ Paired es' rows' ∧
        ∃ told, ((EntryStore.memory es).serve call).1 = .ok told ∧
          ((EntryStore.table (some rows)).serve call).1 = .ok told ∧
          ∀ e, call = .insert e → EntryStore.hasKey es e.name = false) ∨
      ∃ e, call = .insert e ∧ EntryStore.hasKey es e.name = true ∧
        (EntryStore.memory es).serve call = (.error (.duplicate e.name), .memory es) ∧
        (EntryStore.table (some rows)).serve call = (.error .uniqueName, .table (some rows)) := by
  cases call with
  | schema => exact .inl ⟨es, rows, rfl, rfl, h, none, rfl, rfl, by simp⟩
  | knows name =>
    refine .inl ⟨es, rows, rfl, rfl, h, some (EntryStore.hasKey es name), rfl, ?_, by simp⟩
    simp only [EntryStore.serve, EntryStore.knows, h.hasName_eq, Except.map]
  | insert e =>
    simp only [EntryStore.serve, EntryStore.insert, h.hasName_eq]
    cases known : EntryStore.hasKey es e.name with
    | true => exact .inr ⟨e, rfl, known, rfl, rfl⟩
    | false =>
      refine .inl ⟨_, _, rfl, rfl, h.append known, none, rfl, rfl, ?_⟩
      intro e' he'
      rw [← EntryCall.insert.inj he', known]

/-- After any history the memory and the table are paired, and the rows of the database are those of
the table. -/
theorem after (h : Paired es rows) (calls : List EntryCall) :
    ∃ es' rows', (EntryStore.memory es).after calls = .memory es' ∧
      (EntryStore.table (some rows)).after calls = .table (some rows') ∧
      (Database.ofEntries rows).after calls = Database.ofEntries rows' ∧ Paired es' rows' := by
  induction calls using List.reverseRecOn with
  | nil => exact ⟨es, rows, rfl, rfl, rfl, h⟩
  | append_singleton calls call ih =>
    obtain ⟨es', rows', hmemory, htable, hdatabase, paired⟩ := ih
    rw [EntryStore.after_concat, EntryStore.after_concat, Database.after_concat, hmemory, htable,
      hdatabase]
    obtain ⟨rows'', hrows, hserve⟩ := Database.serve_ofEntries rows' call
    rw [hserve, hrows]
    rcases paired.serve call with ⟨es'', ds, hes, hds, paired', -⟩ | ⟨e, -, -, hes, hds⟩
    · rw [hds] at hrows
      obtain rfl := Option.some.inj (EntryStore.table.inj hrows)
      exact ⟨es'', ds, hes, rfl, rfl, paired'⟩
    · rw [hds] at hrows
      obtain rfl := Option.some.inj (EntryStore.table.inj hrows)
      exact ⟨es', rows', by rw [hes], rfl, rfl, paired⟩

theorem mapM_ofRow? (rows : List Entry) : (rows.map Entry.row).mapM Entry.ofRow? = some rows := by
  induction rows with
  | nil => rfl
  | cons e rest ih => simp [Entry.ofRow?_row, ih]

theorem concur (h : Paired es rows) (call : EntryCall) :
    Concur (.memory es) (.table (some rows)) (Database.ofEntries rows) call := by
  have held : ∀ name, ((EntryStore.memory es).get? name).isSome = EntryStore.hasKey es name := by
    intro name
    rw [h.get?_eq, ← h.hasName_eq, Bool.eq_iff_iff, EntryStore.hasName, List.any_eq_true]
    exact List.find?_isSome
  obtain ⟨rows', hrows, hserve⟩ := Database.serve_ofEntries rows call
  have nodup : ((es.map Prod.snd).map Entry.name).Nodup :=
    (h.same.map Entry.name).nodup_iff.mp h.nodup
  refine ⟨⟨_, _, rfl, rfl, h.same.symm, nodup⟩, h.get?_eq, ⟨_, rfl, mapM_ofRow? rows⟩, ?_,
    by rw [hserve], ?_, ?_, ?_, ?_, ⟨rfl, rfl, rfl⟩⟩
  · rcases h.serve call with ⟨_, _, -, -, -, told, hm, ht, -⟩ | ⟨e, -, -, hm, ht⟩
    · rw [hm, ht]
    · rw [hm, ht]
      rfl
  · rintro name rfl
    rw [held]
    rfl
  · rintro e told rfl htold
    rcases h.serve (.insert e) with ⟨_, _, -, -, -, -, -, -, new⟩ | ⟨e', -, -, hm, -⟩
    · have absent := h.hasName_eq e.name ▸ new e rfl
      simp only [EntryStore.serve, EntryStore.insert, absent, Bool.false_eq_true, if_false]
      rfl
    · rw [hm] at htold
      cases htold
  · intro kind
    rcases h.serve call with ⟨_, _, -, -, -, told, hm, -, new⟩ | ⟨e, rfl, known, hm, -⟩
    · rw [hm]
      constructor
      · intro heq
        cases heq
      · rintro ⟨-, e, hcall, hsome⟩
        rw [held, new e hcall] at hsome
        exact absurd hsome Bool.false_ne_true
    · rw [hm]
      constructor
      · intro heq
        exact ⟨(Except.error.inj heq).symm, e, rfl, by rw [held, known]⟩
      · rintro ⟨rfl, -⟩
        rfl
  · intro fault hfault
    rcases h.serve call with ⟨_, _, -, -, -, told, -, ht, -⟩ | ⟨e, -, -, hm, ht⟩
    · rw [ht] at hfault
      cases hfault
    · rw [ht] at hrows
      obtain rfl := Option.some.inj (EntryStore.table.inj hrows)
      rw [hm, ht, hserve]
      exact ⟨rfl, rfl, rfl⟩

end Paired

/-- Along every history of calls, a table of the entries of some distinct names and a memory of
those names hold the same entries and answer alike, and the statements that run on the database show
the table. -/
theorem EntryStore.table_concurs {names : List String} (distinct : names.Nodup) {rows : List Entry}
    (same : rows.Perm (names.map .named)) (calls : List EntryCall) (call : EntryCall) :
    Concur ((EntryStore.ofNames names).after calls) ((EntryStore.table (some rows)).after calls)
      ((Database.ofEntries rows).after calls) call := by
  obtain ⟨es, heq, paired⟩ := paired_ofNames distinct same
  obtain ⟨es', rows', hmemory, htable, hdatabase, paired'⟩ := paired.after calls
  rw [heq, hmemory, htable, hdatabase]
  exact paired'.concur call

/-- An entry whose texts hold quotes and marks of statements. -/
def quotedEntry : Entry where
  name := "it's"
  pinyin := "ā"
  strokes := "10"
  radical := "口"
  basicDefinition := "'); DROP TABLE words; --"

/-- With the rows in another order than the names, an entry is stored once and refused when it comes
again. -/
theorem EntryStore.table_concurs_quoted :
    ["阿", "啊"].Nodup ∧ [Entry.named "啊", .named "阿"].Perm (["阿", "啊"].map .named) ∧
      ((EntryStore.ofNames ["阿", "啊"]).after [.schema, .insert quotedEntry]).get? "it's" =
        some quotedEntry ∧
      Concur ((EntryStore.ofNames ["阿", "啊"]).after [.schema, .insert quotedEntry])
        ((EntryStore.table (some [.named "啊", .named "阿"])).after [.schema, .insert quotedEntry])
        ((Database.ofEntries [.named "啊", .named "阿"]).after [.schema, .insert quotedEntry])
        (.insert { quotedEntry with pinyin := "" }) := by
  have distinct : ["阿", "啊"].Nodup := by decide
  have same : [Entry.named "啊", .named "阿"].Perm (["阿", "啊"].map .named) := by decide
  exact ⟨distinct, same, by decide, EntryStore.table_concurs distinct same _ _⟩

end SiteSpiders.Dictionary
