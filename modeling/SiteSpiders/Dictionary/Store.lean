import SiteSpiders.Dictionary.Entry
import SiteSpiders.Storage.Fault
import SiteSpiders.Url.Parser

/-!
# Stores of entries

Entries are kept in memory or in a table of a database, each name once. Calls of a
store may fail by a plan.
-/
namespace SiteSpiders.Dictionary

open Storage

inductive EntryStore where
  /-- Entries by their keys. -/
  | memory (entries : List (String × Entry))
  /-- A table, `none` until it is made. -/
  | table (rows : Option (List Entry))
  deriving Repr, Inhabited

namespace EntryStore

/-- Puts an entry under its name, in the place of one there or at the end. -/
def put (e : Entry) : List (String × Entry) → List (String × Entry)
  | [] => [(e.name, e)]
  | (key, d) :: rest => if key = e.name then (key, e) :: rest else (key, d) :: put e rest

/-- A memory with entries of some names. -/
def ofNames (names : List String) : EntryStore :=
  .memory (names.foldl (fun es name => put (.named name) es) [])

/-- The entries of a store, `none` without a table. -/
def entries? : EntryStore → Option (List Entry)
  | .memory es => some (es.map Prod.snd)
  | .table rows => rows

/-- Whether something is kept under a key. -/
def hasKey (es : List (String × Entry)) (key : String) : Bool := es.any fun e => e.1 == key

/-- Whether some row has a name. -/
def hasName (rows : List Entry) (name : String) : Bool := rows.any fun e => e.name == name

def get? (s : EntryStore) (name : String) : Option Entry :=
  match s with
  | .memory es => es.lookup name
  | .table rows => (rows.getD []).find? fun e => e.name == name

/-- Makes the table if there is none. -/
def ensureSchema : EntryStore → Except StorageFault Unit × EntryStore
  | .memory es => (.ok (), .memory es)
  | .table rows => (.ok (), .table (some (rows.getD [])))

def knows (s : EntryStore) (name : String) : Except StorageFault Bool :=
  match s with
  | .memory es => .ok (hasKey es name)
  | .table none => .error .noTable
  | .table (some rows) => .ok (hasName rows name)

/-- Stores an entry under a new name. -/
def insert (s : EntryStore) (e : Entry) : Except StorageFault Unit × EntryStore :=
  match s with
  | .memory es =>
    if hasKey es e.name then (.error (.duplicate e.name), s)
    else (.ok (), .memory (es ++ [(e.name, e)]))
  | .table none => (.error .noTable, s)
  | .table (some rows) =>
    if hasName rows e.name then (.error .uniqueName, s)
    else (.ok (), .table (some (rows ++ [e])))

end EntryStore

inductive StoreCall where
  | schema
  | knows (name : String)
  | insert (name : String)
  deriving DecidableEq, Repr

/-- A store some of whose calls fail without reaching it. `fails` is asked with the number of the
call. -/
structure GuardedStore where
  store : EntryStore := .memory []
  fails : Nat → StoreCall → Bool := fun _ _ => false
  calls : Nat := 0
  deriving Inhabited

namespace GuardedStore

/-- A store whose calls do not fail by plan. -/
def reliable (store : EntryStore) : GuardedStore := { store }

def counted (g : GuardedStore) : GuardedStore := { g with calls := g.calls + 1 }

/-- Whether the coming call fails by plan. -/
def refuses (g : GuardedStore) (call : StoreCall) : Bool := g.fails g.calls call

/-- Makes the table if there is none. -/
def ensureSchema (g : GuardedStore) : Except StorageFault Unit × GuardedStore :=
  if g.refuses .schema then (.error .refused, g.counted)
  else
    let (result, store) := g.store.ensureSchema
    (result, { g.counted with store })

def knows (g : GuardedStore) (name : String) : Except StorageFault Bool × GuardedStore :=
  if g.refuses (.knows name) then (.error .refused, g.counted)
  else (g.store.knows name, g.counted)

/-- Stores an entry under a new name. -/
def insert (g : GuardedStore) (e : Entry) : Except StorageFault Unit × GuardedStore :=
  if g.refuses (.insert e.name) then (.error .refused, g.counted)
  else
    let (result, store) := g.store.insert e
    (result, { g.counted with store })

end GuardedStore

/-- The databases that can be reached by an address. -/
def knownSchemes : List String := ["mysql", "mariadb", "sqlite"]

/-- Why no store is reached by an address; `none` if the address is one of a known database. -/
def connectFault? (address : String) : Option StorageFault :=
  match Url.parse address with
  | .error e => some (.badAddress e)
  | .ok u => if knownSchemes.contains u.scheme then none else some (.noDriver u.scheme)

end SiteSpiders.Dictionary
