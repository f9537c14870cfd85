import Mathlib.Algebra.GroupWithZero.Nat
import Mathlib.Data.Nat.Basic
import SiteSpiders.Text.Listing

/-!
# Reading a listing back

A listing is read item by item, and an item character by character up to the quote it began
with. A character stands for itself or for what follows a backslash: a short form, a code
point of two, four or eight digits, or the backslash or quote itself. The reader does not
ask which characters were escaped as invisible, so it reads the listings of every such
class, and no two lists of texts share a listing.
-/
namespace SiteSpiders.Text

/-- Reads a code point of so many digits, and gives what follows. -/
def readCode (width : Nat) (cs : List Char) : Char × List Char :=
  (Char.ofNat (hexOfList (cs.take width)), cs.drop width)

/-- Reads what stands behind a backslash. -/
def readEscape : List Char → Option (Char × List Char)
  | [] => none
  | 'n' :: rest => some ('\n', rest)
  | 'r' :: rest => some ('\r', rest)
  | 't' :: rest => some ('\t', rest)
  | 'x' :: rest => some (readCode 2 rest)
  | 'u' :: rest => some (readCode 4 rest)
  | 'U' :: rest => some (readCode 8 rest)
  | c :: rest => some (c, rest)

/-- Reads one character of an item. -/
def readChar : List Char → Option (Char × List Char)
  | [] => none
  | c :: rest => if c = '\\' then readEscape rest else some (c, rest)

theorem length_readEscape {cs rest : List Char} {c : Char} (h : readEscape cs = some (c, rest)) :
    rest.length < cs.length := by
  unfold readEscape at h
  split at h
  · cases h
  all_goals
    simp only [readCode, Option.some.injEq, Prod.mk.injEq] at h
    obtain ⟨_, rfl⟩ := h
    simp only [List.length_drop, List.length_cons]
    omega

theorem length_readChar {cs rest : List Char} {c : Char} (h : readChar cs = some (c, rest)) :
    rest.length < cs.length := by
  cases cs with
  | nil => cases h
  | cons d cs =>
    simp only [readChar] at h
    split_ifs at h
    · have hrest := length_readEscape h
      simp only [List.length_cons]
      omega
    · obtain ⟨_, rfl⟩ := Prod.mk.inj (Option.some.inj h)
      simp

/-- Reads an item up to its closing quote, and gives what follows the quote. -/
def readItem (quote : Char) (cs : List Char) : Option (List Char × List Char) :=
  if cs.head? = some quote then some ([], cs.tail)
  else match _h : readChar cs with
    | none => none
    | some (c, rest) => (readItem quote rest).map fun found => (c :: found.1, found.2)
termination_by cs.length
decreasing_by exact length_readChar ‹_›

theorem length_readItem {quote : Char} {cs rest item : List Char}
    (h : readItem quote cs = some (item, rest)) : rest.length < cs.length := by
  fun_induction readItem quote cs generalizing item with
  | case1 cs hhead =>
    obtain ⟨_, rfl⟩ := Prod.mk.inj (Option.some.inj h)
    cases cs with
    | nil => cases hhead
    | cons d cs => simp
  | case2 cs hhead hread => cases h
  | case3 cs hhead c next hread ih =>
    obtain ⟨found, hfound, hpair⟩ := Option.map_eq_some_iff.mp h
    obtain ⟨_, rfl⟩ := Prod.mk.inj hpair
    have hrest := ih hfound
    have hnext := length_readChar hread
    omega

/-- Reads items up to the bracket that ends a listing. -/
def readItems : List Char → Option (List (List Char))
  | [] => none
  | quote :: cs =>
    match _h : readItem quote cs with
    | none => none
    | some (item, [']']) => some [item]
    | some (item, ',' :: ' ' :: rest) => (readItems rest).map (item :: ·)
    | some _ => none
termination_by cs => cs.length
decreasing_by
  have hrest := length_readItem ‹_›
  simp only [List.length_cons] at hrest ⊢
  omega

def readListing (s : String) : Option (List String) :=
  match s.toList with
  | '[' :: cs => if cs = [']'] then some [] else (readItems cs).map (List.map String.ofList)
  | _ => none

lemma hexDigit?_hexChar : ∀ d < 16, hexDigit? (hexChar d) = some d := by decide

@[simp] theorem length_hexPadded (width n : Nat) : (hexPadded width n).length = width := by
  induction width generalizing n with
  | zero => rfl
  | succ width ih => simp [hexPadded, ih]

theorem hexOfList_concat (cs : List Char) {d : Nat} (hd : d < 16) :
    hexOfList (cs ++ [hexChar d]) = hexOfList cs * 16 + d := by
  simp [hexOfList, List.foldl_append, hexDigit?_hexChar d hd]

/-- The last digits of a number are read as what is left of it by the power of their base. -/
theorem hexOfList_hexPadded (width n : Nat) : hexOfList (hexPadded width n) = n % 16 ^ width := by
  induction width generalizing n with
  | zero => simp [hexPadded, hexOfList, Nat.mod_one]
  | succ width ih =>
    rw [hexPadded, hexOfList_concat _ (Nat.mod_lt _ (by decide)), ih, Nat.pow_succ,
      Nat.mul_comm (16 ^ width) 16, Nat.mod_mul]
    omega

theorem readCode_hexPadded {width : Nat} {c : Char} (fits : c.toNat < 16 ^ width)
    (rest : List Char) : readCode width (hexPadded width c.toNat ++ rest) = (c, rest) := by
  have htake : (hexPadded width c.toNat ++ rest).take width = hexPadded width c.toNat := by simp
  have hdrop : (hexPadded width c.toNat ++ rest).drop width = rest := by simp
  rw [readCode, htake, hdrop, hexOfList_hexPadded, Nat.mod_eq_of_lt fits, Char.ofNat_toNat]

lemma readChar_backslash (cs : List Char) : readChar ('\\' :: cs) = readEscape cs := by
  simp [readChar]

theorem readChar_escapeCode (c : Char) (rest : List Char) :
    readChar (escapeCode c.toNat ++ rest) = some (c, rest) := by
  have hbound : c.toNat < 0x110000 := by
    have hvalid := c.valid
    simp only [UInt32.isValidChar, Nat.isValidChar] at hvalid
    simp only [Char.toNat]
    omega
  unfold escapeCode
  split_ifs with two four
  all_goals
    simp only [List.cons_append, readChar_backslash, readEscape]
    rw [readCode_hexPadded]
  · omega
  · omega
  · omega

/-- The characters that can delimit an item. -/
def IsQuote (c : Char) : Prop := c = '"' ∨ c = '\''

theorem isQuote_delimiterOf (cs : List Char) : IsQuote (delimiterOf cs) := by
  unfold delimiterOf
  split_ifs
  · exact Or.inl rfl
  · exact Or.inr rfl

theorem readChar_quoteChar (invisible : Char → Bool) {quote : Char} (hquote : IsQuote quote)
    (c : Char) (rest : List Char) :
    readChar (quoteChar invisible quote c ++ rest) = some (c, rest) := by
  unfold quoteChar
  split_ifs with backslash feed back tab same hidden
  · simp [readChar, readEscape, backslash]
  · simp [readChar, readEscape, feed]
  · simp [readChar, readEscape, back]
  · simp [readChar, readEscape, tab]
  · rcases hquote with rfl | rfl
    · simp [readChar, readEscape, same]
    · simp [readChar, readEscape, same]
  · exact readChar_escapeCode c rest
  · simp [readChar, backslash]

/-- What a character is written as does not begin with the quote of its item. -/
theorem head?_quoteChar_ne (invisible : Char → Bool) {quote : Char} (hquote : IsQuote quote)
    (c : Char) (rest : List Char) :
    (quoteChar invisible quote c ++ rest).head? ≠ some quote := by
  have hslash : '\\' ≠ quote := by
    rcases hquote with rfl | rfl
    · decide
    · decide
  unfold quoteChar escapeCode
  split_ifs with backslash feed back tab same
  all_goals
    simp only [List.cons_append, List.head?_cons, ne_eq, Option.some.injEq]
    assumption

/-- An item is read up to its closing quote. -/
theorem readItem_quoted (invisible : Char → Bool) {quote : Char} (hquote : IsQuote quote)
    (cs rest : List Char) :
    readItem quote (cs.flatMap (quoteChar invisible quote) ++ quote :: rest) = some (cs, rest) := by
  induction cs with
  | nil =>
    rw [readItem]
    simp
  | cons c cs ih =>
    rw [List.flatMap_cons, List.append_assoc, readItem,
      if_neg (head?_quoteChar_ne invisible hquote c _)]
    split
    · rename_i hread
      rw [readChar_quoteChar invisible hquote] at hread
      cases hread
    · rename_i hread
      rw [readChar_quoteChar invisible hquote] at hread
      cases hread
      rw [ih]
      rfl

theorem readItems_last {quote : Char} {cs item : List Char}
    (h : readItem quote cs = some (item, [']'])) : readItems (quote :: cs) = some [item] := by
  rw [readItems]
  split <;> simp_all

theorem readItems_next {quote : Char} {cs item rest : List Char}
    (h : readItem quote cs = some (item, ',' :: ' ' :: rest)) :
    readItems (quote :: cs) = (readItems rest).map (item :: ·) := by
  rw [readItems]
  split <;> simp_all

theorem readItems_joined (invisible : Char → Bool) (node : List Char) (nodes : List (List Char)) :
    readItems (joinItems ((node :: nodes).map (quoteWith invisible)) ++ [']']) =
      some (node :: nodes) := by
  induction nodes generalizing node with
  | nil =>
    have hitem := readItem_quoted invisible (isQuote_delimiterOf node) node [']']
    simpa [joinItems, quoteWith] using readItems_last hitem
  | cons next nodes ih =>
    have hitem := readItem_quoted invisible (isQuote_delimiterOf node) node
      (',' :: ' ' :: (joinItems ((next :: nodes).map (quoteWith invisible)) ++ [']']))
    have hnext := readItems_next hitem
    rw [ih next] at hnext
    simpa [joinItems, quoteWith] using hnext

theorem joinItems_ne_nil (invisible : Char → Bool) (node : List Char) (nodes : List (List Char)) :
    joinItems ((node :: nodes).map (quoteWith invisible)) ≠ [] := by
  cases nodes with
  | nil => simp [joinItems, quoteWith]
  | cons next nodes => simp [joinItems, quoteWith]

theorem readListing_listingWith (invisible : Char → Bool) (nodes : List String) :
    readListing (String.ofList (listingWith invisible (nodes.map String.toList))) = some nodes := by
  cases nodes with
  | nil => simp [readListing, listingWith, joinItems]
  | cons node nodes =>
    have hitems : readItems (joinItems (((node :: nodes).map String.toList).map
        (quoteWith invisible)) ++ [']']) = some ((node :: nodes).map String.toList) :=
      readItems_joined invisible node.toList (nodes.map String.toList)
    have hne : joinItems (((node :: nodes).map String.toList).map (quoteWith invisible)) ++
        [']'] ≠ [']'] := by
      simpa using joinItems_ne_nil invisible node.toList (nodes.map String.toList)
    simp only [readListing, listingWith, String.toList_ofList, if_neg hne, hitems]
    simp

/-- Every listing can be read back, in one way for all classes of invisible characters. So two lists
of texts have the same listing only if they are the same, and with the characters that are escaped
in fact no two lists share a listing. -/
theorem listings_decodable (invisible : Char → Bool) (nodes others : List String) :
    readListing (String.ofList (listingWith invisible (nodes.map String.toList))) = some nodes ∧
      (listingWith invisible (nodes.map String.toList) =
        listingWith invisible (others.map String.toList) ↔ nodes = others) ∧
      readListing (renderListing nodes) = some nodes ∧
      (renderListing nodes = renderListing others ↔ nodes = others) := by
  have inj : ∀ invisible : Char → Bool, listingWith invisible (nodes.map String.toList) =
      listingWith invisible (others.map String.toList) ↔ nodes = others := by
    intro invisible
    constructor
    · intro same
      have hnodes := readListing_listingWith invisible nodes
      rw [same, readListing_listingWith] at hnodes
      exact (Option.some.inj hnodes).symm
    · rintro rfl
      rfl
  refine ⟨readListing_listingWith invisible nodes, inj invisible,
    readListing_listingWith isInvisible nodes, ?_⟩
  rw [renderListing, renderListing, String.ofList_inj]
  exact inj isInvisible

end SiteSpiders.Text
