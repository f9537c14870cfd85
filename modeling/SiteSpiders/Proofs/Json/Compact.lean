import SiteSpiders.Proofs.Json.Numeral

/-!
# Compact text

The grammar of compact text: which texts denote a value when nothing stands between tokens, no
character is escaped that need not be, and the fields of an object keep their order. The text
written for a value is one of these.
-/
namespace SiteSpiders.Json

/-! ## Strings -/

/-- How a character is written between quotes. -/
inductive Escaped : Char → List Char → Prop
  | quote : Escaped '"' ['\\', '"']
  | backslash : Escaped '\\' ['\\', '\\']
  | lineFeed : Escaped '\n' ['\\', 'n']
  | carriageReturn : Escaped '\r' ['\\', 'r']
  | tab : Escaped '\t' ['\\', 't']
  | backspace : Escaped '\x08' ['\\', 'b']
  | formFeed : Escaped '\x0c' ['\\', 'f']
  | control {c : Char} (low : c.toNat < 0x20) (long : c ∉ ['\n', '\r', '\t', '\x08', '\x0c']) :
      Escaped c ('\\' :: 'u' :: (Nat.toDigits 16 c.toNat).leftpad 4 '0')
  | plain {c : Char} (high : 0x20 ≤ c.toNat) (others : c ≠ '"' ∧ c ≠ '\\') : Escaped c [c]

/-- The text of a string: its characters one by one, between quotes. -/
inductive QuotedText (s : String) : List Char → Prop
  | mk {parts : List (List Char)} (each : List.Forall₂ Escaped s.toList parts) :
      QuotedText s ('"' :: (parts.flatten ++ ['"']))

theorem hexText_four : ∀ n < 0x20,
    (Number.hexText 4 n).toList = (Nat.toDigits 16 n).leftpad 4 '0' := by
  decide

theorem char_of_toNat {c d : Char} (h : c.toNat = d.toNat) : c = d :=
  Char.ext (UInt32.toNat_inj.mp h)

theorem controlEscape_escaped {c : Char} (low : c.toNat < 0x20) : Escaped c (controlEscape c) := by
  unfold controlEscape
  split_ifs with lineFeed carriageReturn tab backspace formFeed
  · exact lineFeed ▸ .lineFeed
  · exact carriageReturn ▸ .carriageReturn
  · exact tab ▸ .tab
  · exact char_of_toNat (d := '\x08') backspace ▸ .backspace
  · exact char_of_toNat (d := '\x0c') formFeed ▸ .formFeed
  · rw [hexText_four _ low]
    refine .control low ?_
    simp only [List.mem_cons, List.not_mem_nil, or_false, not_or]
    refine ⟨lineFeed, carriageReturn, tab, ?_, ?_⟩
    · rintro rfl
      exact backspace rfl
    · rintro rfl
      exact formFeed rfl

theorem stringChar_escaped (c : Char) : Escaped c (stringChar c) := by
  unfold stringChar
  split_ifs with quote backslash low
  · exact quote ▸ .quote
  · exact backslash ▸ .backslash
  · exact controlEscape_escaped low
  · exact .plain (not_lt.mp low) ⟨quote, backslash⟩

theorem quoted_text (s : String) : QuotedText s (quoted s) := by
  rw [quoted, List.flatMap_def]
  refine .mk ?_
  rw [List.forall₂_map_right_iff]
  exact List.forall₂_same.mpr fun c _ => stringChar_escaped c

/-! ## Values -/

mutual
/-- Whether a text denotes a value. -/
inductive Compact : Json → List Char → Prop
  | null : Compact .null ['n', 'u', 'l', 'l']
  | true : Compact (.bool true) ['t', 'r', 'u', 'e']
  | false : Compact (.bool false) ['f', 'a', 'l', 's', 'e']
  | number {n : JsonNumber} {text : List Char} (h : NumberText n text) : Compact (.number n) text
  | string {s : String} {text : List Char} (h : QuotedText s text) : Compact (.string s) text
  | array {items : List Json} {text : List Char} (h : CompactItems items text) :
      Compact (.array items) ('[' :: (text ++ [']']))
  | object {fields : List (String × Json)} {text : List Char} (h : CompactFields fields text) :
      Compact (.object fields) ('\x7b' :: (text ++ ['\x7d']))

/-- Whether a text denotes the items of an array. -/
inductive CompactItems : List Json → List Char → Prop
  | none : CompactItems [] []
  | last {item : Json} {text : List Char} (h : Compact item text) : CompactItems [item] text
  | more {item next : Json} {rest : List Json} {text texts : List Char} (h : Compact item text)
      (others : CompactItems (next :: rest) texts) :
      CompactItems (item :: next :: rest) (text ++ ',' :: texts)

/-- Whether a text denotes the fields of an object. -/
inductive CompactFields : List (String × Json) → List Char → Prop
  | none : CompactFields [] []
  | last {key : String} {value : Json} {name text : List Char} (hkey : QuotedText key name)
      (hvalue : Compact value text) : CompactFields [(key, value)] (name ++ ':' :: text)
  | more {key : String} {value : Json} {next : String × Json} {rest : List (String × Json)}
      {name text texts : List Char} (hkey : QuotedText key name) (hvalue : Compact value text)
      (others : CompactFields (next :: rest) texts) :
      CompactFields ((key, value) :: next :: rest) (name ++ ':' :: text ++ ',' :: texts)
end

mutual
theorem chars_compact : ∀ j : Json, Compact j j.chars
  | .null => .null
  | .bool true => .true
  | .bool false => .false
  | .number n => .number (numberChars_text n)
  | .string s => .string (quoted_text s)
  | .array items => .array (itemChars_compact items)
  | .object fields => .object (fieldChars_compact fields)

theorem itemChars_compact : ∀ items : List Json, CompactItems items (commaJoin (itemChars items))
  | [] => .none
  | [item] => .last (chars_compact item)
  | item :: next :: rest => .more (chars_compact item) (itemChars_compact (next :: rest))

theorem fieldChars_compact :
    ∀ fields : List (String × Json), CompactFields fields (commaJoin (fieldChars fields))
  | [] => .none
  | [(key, value)] => .last (quoted_text key) (chars_compact value)
  | (key, value) :: next :: rest =>
    .more (quoted_text key) (chars_compact value) (fieldChars_compact (next :: rest))
end

end SiteSpiders.Json
