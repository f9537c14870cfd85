import SiteSpiders.Dictionary.Detail
import SiteSpiders.Json.Decode

/-!
# Dictionary entries

The record of a character, kept under its name, and the note that carries the name
to the character's page.
-/
namespace SiteSpiders.Dictionary

structure Entry where
  name : String
  pinyin : String := ""
  strokes : String := ""
  radical : String := ""
  basicDefinition : String := ""
  detailedMeaning : String := ""
  wordClassChange : String := ""
  homophones : String := ""
  general : String := ""
  deriving DecidableEq, Repr, Inhabited

/-- A record with only a name. -/
def Entry.named (name : String) : Entry := { name }

/-- The record of a character from the fields of its page. -/
def Entry.ofDetail (name : String) (d : CharacterDetail) : Entry where
  name := name
  pinyin := d.pinyin
  strokes := d.strokes
  radical := d.radical
  basicDefinition := d.basicDefinition
  detailedMeaning := d.detailed.meaning
  wordClassChange := d.detailed.wordClass
  homophones := d.homophones
  general := d.general

/-- The note with a character's name. -/
def nameNote (name : String) : Json := .object [("name", .string name)]

/-- Reads a character's name from a note. -/
def readName (note : Json) : Except JsonFault String :=
  note.asRecord "CharacterContext" "name" Json.asString

theorem readName_nameNote (name : String) : readName (nameNote name) = .ok name := by
  simp only [readName, nameNote, Json.asRecord, List.lookup_cons_self, Json.asString]

end SiteSpiders.Dictionary
