import Mathlib.Data.List.Infix
import SiteSpiders.Proofs.Text.Decoding

/-!
# Cutting a listing

What is searched for in a listing and has no ASCII characters is found only inside an item,
where the text of the item has it: everything that a listing adds to the texts is ASCII, so
no occurrence reaches over a quote, a divider or an escape. The window between two offsets
of a text is the part that stands there.
-/
namespace SiteSpiders.Text

section Occurrences

variable {α : Type} {needle a b : List α} {c : α}

/-- A text that starts in front of a character it lacks ends in front of it. -/
theorem prefix_of_prefix_append_cons (absent : c ∉ needle) (h : needle <+: a ++ c :: b) :
    needle <+: a := by
  have hleft : a <+: a ++ c :: b := List.prefix_append _ _
  by_cases hlen : needle.length ≤ a.length
  · exact List.prefix_of_prefix_length_le h hleft hlen
  · have hover : a ++ [c] <+: a ++ c :: b := ⟨b, by simp⟩
    have hinside : a ++ [c] <+: needle :=
      List.prefix_of_prefix_length_le hover h (by simp; omega)
    exact absurd (hinside.subset (by simp)) absent

theorem infix_append_cons (absent : c ∉ needle) (h : needle <:+: a ++ c :: b) :
    needle <:+: a ∨ needle <:+: b := by
  induction a with
  | nil =>
    rcases List.infix_cons_iff.mp h with hstart | hinfix
    · have hnil : needle <+: [] := prefix_of_prefix_append_cons absent hstart
      exact Or.inl hnil.isInfix
    · exact Or.inr hinfix
  | cons x a ih =>
    rcases List.infix_cons_iff.mp h with hstart | hinfix
    · have hleft : needle <+: x :: a := prefix_of_prefix_append_cons absent hstart
      exact Or.inl hleft.isInfix
    · exact (ih hinfix).imp_left List.infix_cons

theorem infix_of_infix_append (some_ : needle ≠ []) (absent : ∀ x ∈ a, x ∉ needle)
    (h : needle <:+: a ++ b) : needle <:+: b := by
  induction a with
  | nil => exact h
  | cons x a ih =>
    have hsides : needle <:+: [] ∨ needle <:+: a ++ b :=
      infix_append_cons (absent x (by simp)) h
    rcases hsides with hnil | hrest
    · exact absurd (List.infix_nil.mp hnil) some_
    · exact ih (fun y hy => absent y (by simp [hy])) hrest

end Occurrences

/-- Whether a text has no ASCII characters. -/
def Wide (cs : List Char) : Prop := ∀ c ∈ cs, 128 ≤ c.toNat

theorem Wide.not_mem {cs : List Char} (wide : Wide cs) {c : Char} (ascii : c.toNat < 128) :
    c ∉ cs := by
  intro hmem
  have := wide c hmem
  omega

theorem IsQuote.ascii {c : Char} (h : IsQuote c) : c.toNat < 128 := by
  rcases h with rfl | rfl
  · decide
  · decide

theorem ascii_of_mem_hexPadded {width n : Nat} {c : Char} (h : c ∈ hexPadded width n) :
    c.toNat < 128 := by
  induction width generalizing n with
  | zero => cases h
  | succ width ih =>
    rw [hexPadded, List.mem_append, List.mem_singleton] at h
    rcases h with h | rfl
    · exact ih h
    · have hdigits : ∀ d < 16, (hexChar d).toNat < 128 := by decide
      exact hdigits _ (Nat.mod_lt _ (by decide))

theorem ascii_of_mem_escapeCode {n : Nat} {c : Char} (h : c ∈ escapeCode n) : c.toNat < 128 := by
  unfold escapeCode at h
  split_ifs at h
  all_goals
    rw [List.mem_cons, List.mem_cons] at h
    rcases h with rfl | rfl | h
    · decide
    · decide
    · exact ascii_of_mem_hexPadded h

theorem ascii_of_mem_pair {a b : Char} (ha : a.toNat < 128) (hb : b.toNat < 128) :
    ∀ x ∈ [a, b], x.toNat < 128 := by
  intro x hx
  rcases List.mem_pair.mp hx with rfl | rfl
  · exact ha
  · exact hb

/-- A character stands in an item as itself, or as some ASCII characters. -/
theorem quoteChar_cases (invisible : Char → Bool) {quote : Char} (hquote : IsQuote quote)
    (c : Char) : quoteChar invisible quote c = [c] ∨
      quoteChar invisible quote c ≠ [] ∧ ∀ x ∈ quoteChar invisible quote c, x.toNat < 128 := by
  have hascii := hquote.ascii
  unfold quoteChar
  split_ifs with backslash feed back tab same hidden
  · exact Or.inr ⟨by simp, ascii_of_mem_pair (by decide) (by decide)⟩
  · exact Or.inr ⟨by simp, ascii_of_mem_pair (by decide) (by decide)⟩
  · exact Or.inr ⟨by simp, ascii_of_mem_pair (by decide) (by decide)⟩
  · exact Or.inr ⟨by simp, ascii_of_mem_pair (by decide) (by decide)⟩
  · rw [same]
    exact Or.inr ⟨by simp, ascii_of_mem_pair (by decide) hascii⟩
  · refine Or.inr ⟨?_, fun x hx => ascii_of_mem_escapeCode hx⟩
    unfold escapeCode
    split_ifs <;> simp
  · exact Or.inl rfl

section Items

variable (invisible : Char → Bool) {needle : List Char}

/-- A wide text in front of the inside of an item is in front of the item's own text. -/
theorem prefix_of_prefix_quoted {quote : Char} (hquote : IsQuote quote) (wide : Wide needle)
    {cs : List Char} (h : needle <+: cs.flatMap (quoteChar invisible quote)) : needle <+: cs := by
  induction needle generalizing cs with
  | nil => exact List.nil_prefix
  | cons x needle ih =>
    cases cs with
    | nil => exact absurd (List.prefix_nil.mp h) (by simp)
    | cons c cs =>
      rw [List.flatMap_cons] at h
      rcases quoteChar_cases invisible hquote c with hself | ⟨hne, hascii⟩
      · rw [hself, List.singleton_append, List.cons_prefix_cons] at h
        obtain ⟨rfl, hrest⟩ := h
        exact List.cons_prefix_cons.mpr ⟨rfl, ih (fun y hy => wide y (by simp [hy])) hrest⟩
      · -- the first character would be one of an escape
        obtain ⟨y, ys, hquoted⟩ := List.exists_cons_of_ne_nil hne
        rw [hquoted, List.cons_append, List.cons_prefix_cons] at h
        have hx := hascii x (by simp [hquoted, h.1])
        have hwide := wide x (by simp)
        omega

/-- A wide text inside an item is inside the item's own text. -/
theorem infix_of_infix_quoted {quote : Char} (hquote : IsQuote quote) (some_ : needle ≠ [])
    (wide : Wide needle) {cs : List Char}
    (h : needle <:+: cs.flatMap (quoteChar invisible quote)) : needle <:+: cs := by
  induction cs with
  | nil => exact h
  | cons c cs ih =>
    have hstart : needle <+: (c :: cs).flatMap (quoteChar invisible quote) → needle <+: c :: cs :=
      prefix_of_prefix_quoted invisible hquote wide
    rw [List.flatMap_cons] at h hstart
    rcases quoteChar_cases invisible hquote c with hself | ⟨_, hascii⟩
    · rw [hself, List.singleton_append] at h hstart
      rcases List.infix_cons_iff.mp h with hfront | hrest
      · exact (hstart hfront).isInfix
      · exact List.infix_cons (ih hrest)
    · exact List.infix_cons (ih (infix_of_infix_append some_
        (fun x hx => wide.not_mem (hascii x hx)) h))

/-- Quoted items, each with its divider. -/
def dividedItems (nodes : List (List Char)) : List Char :=
  nodes.flatMap fun node => quoteWith invisible node ++ [',', ' ']

theorem dividedItems_cons (node : List Char) (nodes : List (List Char)) :
    dividedItems invisible (node :: nodes) =
      quoteWith invisible node ++ [',', ' '] ++ dividedItems invisible nodes := rfl

theorem dividedItems_append (front back : List (List Char)) :
    dividedItems invisible (front ++ back) =
      dividedItems invisible front ++ dividedItems invisible back := by
  simp [dividedItems]

/-- A wide text among quoted items is in the text of one of them. -/
theorem exists_of_infix_dividedItems (some_ : needle ≠ []) (wide : Wide needle)
    {nodes : List (List Char)} (h : needle <:+: dividedItems invisible nodes) :
    ∃ node ∈ nodes, needle <:+: node := by
  induction nodes with
  | nil => exact absurd (List.infix_nil.mp h) some_
  | cons node nodes ih =>
    have hquote := isQuote_delimiterOf node
    have hsplit : dividedItems invisible (node :: nodes) =
        [delimiterOf node] ++ (node.flatMap (quoteChar invisible (delimiterOf node)) ++
          delimiterOf node :: ([',', ' '] ++ dividedItems invisible nodes)) := by
      simp [dividedItems, quoteWith]
    have hdelimiter : delimiterOf node ∉ needle := wide.not_mem hquote.ascii
    rw [hsplit] at h
    have hinner := infix_of_infix_append some_ (by simpa using hdelimiter) h
    rcases infix_append_cons hdelimiter hinner with hitem | hrest
    · exact ⟨node, by simp, infix_of_infix_quoted invisible hquote some_ wide hitem⟩
    · have hdivider : ∀ x ∈ [',', ' '], x ∉ needle := by
        intro x hx
        rcases List.mem_pair.mp hx with rfl | rfl
        · exact wide.not_mem (by decide)
        · exact wide.not_mem (by decide)
      obtain ⟨found, hfound, hin⟩ := ih (infix_of_infix_append some_ hdivider hrest)
      exact ⟨found, by simp [hfound], hin⟩

theorem joinItems_cons (item : List Char) (items : List (List Char)) (some_ : items ≠ []) :
    joinItems (item :: items) = item ++ ([',', ' '] ++ joinItems items) := by
  obtain ⟨next, rest, rfl⟩ := List.exists_cons_of_ne_nil some_
  rfl

theorem joinItems_append (front back : List (List Char)) (some_ : back ≠ []) :
    joinItems ((front ++ back).map (quoteWith invisible)) =
      dividedItems invisible front ++ joinItems (back.map (quoteWith invisible)) := by
  induction front with
  | nil => rfl
  | cons node front ih =>
    rw [List.cons_append, List.map_cons, joinItems_cons _ _ (by simp [some_]), ih]
    simp [dividedItems]

/-- What follows an item in a listing, given the items behind it. -/
def afterItem : List (List Char) → List Char
  | [] => [']']
  | node :: nodes => ',' :: ' ' :: (joinItems ((node :: nodes).map (quoteWith invisible)) ++ [']'])

/-- A listing is cut at any of its items. -/
theorem listingWith_item (front back : List (List Char)) (node : List Char) :
    listingWith invisible (front ++ node :: back) =
      '[' :: (dividedItems invisible front ++
        (quoteWith invisible node ++ afterItem invisible back)) := by
  rw [listingWith, joinItems_append invisible front _ (by simp)]
  cases back with
  | nil => simp [joinItems, afterItem]
  | cons next back =>
    rw [List.map_cons, joinItems_cons _ _ (by simp)]
    simp [afterItem]

theorem afterItem_append (front back : List (List Char)) (node : List Char) :
    afterItem invisible (front ++ node :: back) =
      ',' :: ' ' :: (dividedItems invisible front ++
        (quoteWith invisible node ++ afterItem invisible back)) := by
  have hlisting := listingWith_item invisible front back node
  rw [listingWith, List.cons.injEq] at hlisting
  obtain ⟨first, rest, hcons⟩ := List.exists_cons_of_ne_nil
    (show front ++ node :: back ≠ [] by simp)
  rw [hcons] at hlisting ⊢
  rw [afterItem, hlisting.2]

theorem joinItems_eq_intercalate (items : List (List Char)) :
    joinItems items = [',', ' '].intercalate items := by
  induction items with
  | nil => rfl
  | cons item items ih =>
    cases items with
    | nil => simp [joinItems, List.intercalate]
    | cons next rest =>
      rw [joinItems_cons _ _ (by simp), ih]
      simp [List.intercalate, List.intersperse]

end Items

theorem findFrom_front (needle back : List Char) (i : Nat) :
    findFrom needle i (needle ++ back) = some i := by
  cases hall : needle ++ back with
  | nil => simp [findFrom, (List.append_eq_nil_iff.mp hall).1]
  | cons c rest =>
    have hstart : needle <+: c :: rest := ⟨back, hall⟩
    rw [findFrom, if_pos (by simpa using hstart)]

/-- The first occurrence of a text behind a character it lacks, if it does not occur in front of the
character. -/
theorem findFrom_behind {needle front : List Char} {c : Char} (absent : c ∉ needle)
    (clear : ¬needle <:+: front) (back : List Char) (i : Nat) :
    findFrom needle i (front ++ c :: (needle ++ back)) = some (i + front.length + 1) := by
  induction front generalizing i with
  | nil =>
    have hnot : ¬needle <+: c :: (needle ++ back) := fun h =>
      clear (prefix_of_prefix_append_cons absent h).isInfix
    rw [List.nil_append, findFrom, if_neg (by simpa using hnot), findFrom_front]
    rfl
  | cons x front ih =>
    have hnot : ¬needle <+: x :: (front ++ c :: (needle ++ back)) := fun h =>
      clear (prefix_of_prefix_append_cons absent h).isInfix
    rw [List.cons_append, findFrom, if_neg (by simpa using hnot),
      ih (fun h => clear (List.infix_cons h))]
    simp only [List.length_cons, Option.some.injEq]
    omega

@[simp] theorem clampBound_natCast (length n : Nat) : clampBound length n = min n length := by
  have hpositive : ¬(n : Int) < 0 := by omega
  rw [clampBound, if_neg hpositive, Int.toNat_natCast]

@[simp] theorem clampBound_neg_one (length : Nat) : clampBound length (-1) = length - 1 := by
  rw [clampBound, if_pos (by decide)]
  omega

theorem charWindow_part (front part back : List Char) :
    charWindow (front ++ (part ++ back)) front.length (front.length + part.length : Nat) =
      part := by
  simp only [charWindow, clampBound_natCast]
  cases part with
  | nil => simp
  | cons c part => simp

theorem charWindow_to_last (front part : List Char) (c : Char) :
    charWindow (front ++ (part ++ [c])) front.length (-1) = part := by
  cases part with
  | nil => simp [charWindow]
  | cons d part => simp [charWindow]

theorem charWindow_at_end (cs : List Char) (last : Int) : charWindow cs cs.length last = [] := by
  have hlast : clampBound cs.length last ≤ cs.length := Nat.min_le_right _ _
  simp only [charWindow, clampBound_natCast, Nat.min_self, if_neg (Nat.not_lt.mpr hlast)]

/-- Whether a text stands in every listing as it is, between apostrophes, and can be searched
for. -/
structure Marker (invisible : Char → Bool) (marker : List Char) : Prop where
  some_ : marker ≠ []
  wide : Wide marker
  visible : ∀ c ∈ marker, invisible c = false

namespace Marker

theorem of_all {invisible : Char → Bool} {marker : List Char} (some_ : marker ≠ [])
    (all : (marker.all fun c => decide (128 ≤ c.toNat) && !invisible c) = true) :
    Marker invisible marker := by
  simp only [List.all_eq_true, Bool.and_eq_true, decide_eq_true_eq, Bool.not_eq_true'] at all
  exact ⟨some_, fun c hc => (all c hc).1, fun c hc => (all c hc).2⟩

variable {invisible : Char → Bool} {marker : List Char}

lemma apostrophe_not_mem (h : Marker invisible marker) : '\'' ∉ marker :=
  h.wide.not_mem (by decide)

theorem quoteChar_eq (h : Marker invisible marker) {c : Char} (hc : c ∈ marker) :
    quoteChar invisible '\'' c = [c] := by
  have hne : ∀ d : Char, d.toNat < 128 → c ≠ d := by
    rintro d hd rfl
    exact h.wide.not_mem hd hc
  rw [quoteChar, if_neg (hne _ (by decide)), if_neg (hne _ (by decide)),
    if_neg (hne _ (by decide)), if_neg (hne _ (by decide)), if_neg (hne _ (by decide)),
    if_neg (by simp [h.visible c hc])]

theorem quoteWith_eq (h : Marker invisible marker) :
    quoteWith invisible marker = '\'' :: (marker ++ ['\'']) := by
  have hdelimiter : delimiterOf marker = '\'' := by
    simp [delimiterOf, h.apostrophe_not_mem]
  have hinside : marker.flatMap (quoteChar invisible '\'') = marker := by
    rw [List.flatMap_congr fun c hc => h.quoteChar_eq hc, List.flatMap_singleton']
  simp only [quoteWith, hdelimiter, hinside]

/-- A marker is found at its own item, if no item in front has it. -/
theorem charFind_eq (h : Marker invisible marker) {front : List (List Char)}
    (clear : ∀ node ∈ front, ¬marker <:+: node) (back : List (List Char)) :
    charFind (listingWith invisible (front ++ marker :: back)) marker =
      ((dividedItems invisible front).length + 2 : Nat) := by
  have hfront : ¬marker <:+: '[' :: dividedItems invisible front := by
    intro hin
    have hbracket : ∀ c ∈ ['['], c ∉ marker := by simpa using h.wide.not_mem (by decide)
    obtain ⟨node, hnode, hfound⟩ := exists_of_infix_dividedItems invisible h.some_ h.wide
      (infix_of_infix_append h.some_ hbracket hin)
    exact clear node hnode hfound
  have hfound := findFrom_behind h.apostrophe_not_mem hfront
    ('\'' :: afterItem invisible back) 0
  rw [listingWith_item, h.quoteWith_eq, charFind]
  simp only [List.cons_append, List.append_assoc] at hfound ⊢
  simp only [List.nil_append, hfound, List.length_cons]
  omega

/-- From the comma behind one marker to the quote in front of a later one stand the items between
them, with their dividers. -/
theorem charWindow_between (h : Marker invisible marker) {later : List Char}
    (hlater : Marker invisible later) {front between : List (List Char)}
    (clear : ∀ node ∈ front, ¬marker <:+: node)
    (clear' : ∀ node ∈ front ++ marker :: between, ¬later <:+: node) (back : List (List Char)) :
    let listing := listingWith invisible (front ++ marker :: (between ++ later :: back))
    charWindow listing (charFind listing marker + (marker.length + 2)) (charFind listing later) =
      ' ' :: dividedItems invisible between ++ ['\''] := by
  intro listing
  have hfirst : charFind listing marker = ((dividedItems invisible front).length + 2 : Nat) :=
    h.charFind_eq clear _
  have hlast : charFind listing later =
      ((dividedItems invisible (front ++ marker :: between)).length + 2 : Nat) := by
    rw [← hlater.charFind_eq clear' back]
    simp [listing]
  let start := '[' :: (dividedItems invisible front ++ '\'' :: (marker ++ ['\'', ',']))
  let part := ' ' :: dividedItems invisible between ++ ['\'']
  have hsplit : listing = start ++ (part ++ (later ++ '\'' :: afterItem invisible back)) := by
    simp only [listing, listingWith_item, afterItem_append, h.quoteWith_eq, hlater.quoteWith_eq]
    simp [start, part]
  have hstart : charFind listing marker + (marker.length + 2) = (start.length : Int) := by
    rw [hfirst]
    simp [start]
    omega
  have hend : charFind listing later = (start.length + part.length : Nat) := by
    rw [hlast]
    simp [start, part, dividedItems_append, dividedItems_cons, h.quoteWith_eq]
    omega
  rw [hstart, hend, hsplit, charWindow_part]

/-- From the comma behind a marker to the bracket at the end stand the items behind it, joined. If
there are none, the window begins behind the bracket. -/
theorem charWindow_behind (h : Marker invisible marker) {front : List (List Char)}
    (clear : ∀ node ∈ front, ¬marker <:+: node) (back : List (List Char)) :
    let listing := listingWith invisible (front ++ marker :: back)
    charWindow listing (charFind listing marker + (marker.length + 2)) (-1) =
      if back = [] then [] else ' ' :: joinItems (back.map (quoteWith invisible)) := by
  intro listing
  have hfirst : charFind listing marker = ((dividedItems invisible front).length + 2 : Nat) :=
    h.charFind_eq clear _
  have hlisting : listing = '[' :: (dividedItems invisible front ++
      ('\'' :: (marker ++ ['\'']) ++ afterItem invisible back)) := by
    simp only [listing, listingWith_item, h.quoteWith_eq]
  cases back with
  | nil =>
    have hstart : charFind listing marker + (marker.length + 2) = (listing.length : Int) := by
      rw [hfirst, hlisting]
      simp [afterItem]
      omega
    rw [hstart, charWindow_at_end, if_pos rfl]
  | cons node back =>
    let start := '[' :: (dividedItems invisible front ++ '\'' :: (marker ++ ['\'', ',']))
    have hsplit : listing =
        start ++ ((' ' :: joinItems ((node :: back).map (quoteWith invisible))) ++ [']']) := by
      rw [hlisting]
      simp [start, afterItem]
    have hstart : charFind listing marker + (marker.length + 2) = (start.length : Int) := by
      rw [hfirst]
      simp [start]
      omega
    rw [hstart, hsplit, charWindow_to_last, if_neg (by simp)]

end Marker

end SiteSpiders.Text
