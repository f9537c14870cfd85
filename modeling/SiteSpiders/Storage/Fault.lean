import SiteSpiders.Url.Basic
import SiteSpiders.Text.Literal

/-!
# Failures of stores

What can go wrong when records are kept, and how it is reported.
-/
namespace SiteSpiders.Storage

inductive FileFault where
  | exists_
  | notDirectory
  | missing
  | isDirectory
  | nameTooLong
  | nulByte
  deriving DecidableEq, Repr, Inhabited

/-- The text of a file error. -/
def FileFault.message : FileFault → String
  | .exists_ => "File exists (os error 17)"
  | .notDirectory => "Not a directory (os error 20)"
  | .missing => "No such file or directory (os error 2)"
  | .isDirectory => "Is a directory (os error 21)"
  | .nameTooLong => "File name too long (os error 36)"
  | .nulByte => "file name contained an unexpected NUL byte"

/-- Why a store did not do its work. -/
inductive StorageFault where
  /-- The store cannot be reached. -/
  | refused
  /-- The address of the database is no address. -/
  | badAddress (error : UrlError)
  /-- No database is known for the scheme of an address. -/
  | noDriver (scheme : String)
  /-- A name is stored already. -/
  | duplicate (name : String)
  /-- A row of the table has the name already. -/
  | uniqueName
  /-- The table was never made. -/
  | noTable
  | file (fault : FileFault)
  deriving DecidableEq, Repr

inductive StorageFault.Kind where
  | connection
  | operation
  | serialization
  deriving DecidableEq, Repr

namespace StorageFault

def kind : StorageFault → Kind
  | .refused | .badAddress _ | .noDriver _ => .connection
  | _ => .operation

def detail : StorageFault → String
  | .refused => "connection refused"
  | .badAddress e => "error with configuration: " ++ e.message
  | .noDriver scheme =>
    "error with configuration: no driver found for URL scheme " ++ Text.literal scheme
  | .duplicate name => "duplicate entry '" ++ name ++ "' for key 'PRIMARY'"
  | .uniqueName =>
    "error returned from database: (code: 1555) UNIQUE constraint failed: words.name"
  | .noTable => "error returned from database: (code: 1) no such table: words"
  | .file f => f.message

def message (f : StorageFault) : String :=
  (match f.kind with
    | .connection => "Connection error: "
    | .operation => "Operation error: "
    | .serialization => "Serialization error: ") ++ f.detail

end StorageFault

end SiteSpiders.Storage
