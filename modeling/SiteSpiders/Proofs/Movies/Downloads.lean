import Mathlib.Data.List.Infix
import Mathlib.Data.List.TakeWhile
import SiteSpiders.Movies.Spider
import SiteSpiders.Proofs.Pattern.Preferred

/-!
# Download links

The download links of a page are found in its raw text, from left to right. A link starts
at the first anchor from which an ending for downloads can be reached on the same line, and
takes the nearest such ending, behind which the search goes on. Nothing keeps a link inside
the quotes of its anchor, so an anchor that is no download swallows what stands between it
and the next download on its line. The links are the targets of the download anchors just
if no link has a quote in it and no two download anchors overlap.
-/
namespace SiteSpiders.Movies

open Pattern

/-- How an anchor starts, up to its target. -/
def anchorStart : List Char := "<a href=\"".toList

/-- How the anchor of a download goes on behind its target. -/
def anchorEnd : List Char := "\">ftp".toList

/-- Whether at an offset of a text an anchor starts and behind `x`, on the same line, one ends as a
download does, with `rest` behind it. -/
structure Link (cs : List Char) (i : Nat) (x rest : List Char) : Prop where
  stands : cs.drop i = anchorStart ++ x ++ anchorEnd ++ rest
  line : '\n' ∉ x

/-- Whether a link is the leftmost one of a text, and the shortest one there. -/
structure FirstLink (cs : List Char) (i : Nat) (x rest : List Char) : Prop
    extends Link cs i x rest where
  leftmost : ∀ j y behind, Link cs j y behind → i ≤ j
  shortest : ∀ y behind, Link cs i y behind → x.length ≤ y.length

/-- The links of a text, each the first one behind the link before it. -/
inductive Harvest : List Char → List (List Char) → Prop
  | done {cs : List Char} (none_ : ∀ i x rest, ¬ Link cs i x rest) : Harvest cs []
  | link {cs x rest : List Char} {i : Nat} {found : List (List Char)}
      (first : FirstLink cs i x rest) (further : Harvest rest found) : Harvest cs (x :: found)

/-- The target of the download anchor at the start of a text: it has no quotes and no line feeds. -/
def target? (cs : List Char) : Option (List Char) :=
  if anchorStart <+: cs then
    let x := (cs.drop anchorStart.length).takeWhile fun c => c != '"' && c != '\n'
    if anchorStart ++ x ++ anchorEnd <+: cs then some x else none
  else none

/-- The targets of all download anchors of a text, in order. -/
def targets : List Char → List (List Char)
  | [] => []
  | c :: rest => (target? (c :: rest)).toList ++ targets rest

/-- Whether every download anchor of a text ends before the next one starts. A target that ends as
an anchor starts, but for the quote, can make two of them overlap. -/
def Apart (cs : List Char) : Prop :=
  ∀ i j x y, target? (cs.drop i) = some x → target? (cs.drop j) = some y → i < j →
    i + (anchorStart ++ x ++ anchorEnd).length ≤ j

lemma length_anchorStart : anchorStart.length = 9 := by decide

section Links

variable {cs x rest : List Char} {i : Nat}

theorem link_drop {n : Nat} : Link (cs.drop n) i x rest ↔ Link cs (n + i) x rest := by
  constructor
  · rintro ⟨hstands, hline⟩
    exact ⟨by rwa [List.drop_drop] at hstands, hline⟩
  · rintro ⟨hstands, hline⟩
    exact ⟨by rwa [List.drop_drop], hline⟩

theorem Link.drop_behind (h : Link cs i x rest) :
    cs.drop (i + (anchorStart ++ x ++ anchorEnd).length) = rest := by
  rw [← List.drop_drop, h.stands, List.drop_left]

theorem Link.lt_behind (_ : Link cs i x rest) :
    i < i + (anchorStart ++ x ++ anchorEnd).length := by
  simp only [List.length_append, length_anchorStart]
  omega

theorem Link.slice_eq (h : Link cs i x rest) :
    slice cs (i + anchorStart.length) (i + anchorStart.length + x.length) = x := by
  have hdrop : cs.drop (i + anchorStart.length) = x ++ (anchorEnd ++ rest) := by
    rw [← List.drop_drop, h.stands, List.append_assoc, List.append_assoc, List.drop_left]
  rw [slice, Nat.add_sub_cancel_left, hdrop, List.take_left]

theorem Link.eq_of_length_eq {y behind : List Char} (hx : Link cs i x rest)
    (hy : Link cs i y behind) (hlength : x.length = y.length) : x = y ∧ rest = behind := by
  have heq := hx.stands.symm.trans hy.stands
  rw [List.append_assoc, List.append_assoc, List.append_assoc, List.append_assoc] at heq
  obtain ⟨hxy, hbehind⟩ := List.append_inj (List.append_cancel_left heq) hlength
  exact ⟨hxy, List.append_cancel_left hbehind⟩

theorem not_link_nil (i : Nat) (x rest : List Char) : ¬ Link [] i x rest := by
  intro h
  have hlength := congrArg List.length h.stands
  simp only [List.drop_nil, List.length_nil, List.length_append, length_anchorStart] at hlength
  omega

lemma link_cons {c : Char} : Link (c :: cs) (i + 1) x rest ↔ Link cs i x rest :=
  ⟨fun ⟨hstands, hline⟩ => ⟨hstands, hline⟩, fun ⟨hstands, hline⟩ => ⟨hstands, hline⟩⟩

/-- The first link behind a character is the first one, if none starts with the character. -/
theorem FirstLink.cons {c : Char} (h : FirstLink cs i x rest)
    (hstart : ∀ y behind, ¬ Link (c :: cs) 0 y behind) : FirstLink (c :: cs) (i + 1) x rest where
  toLink := link_cons.mpr h.toLink
  leftmost := by
    intro j y behind hlink
    cases j with
    | zero => exact absurd hlink (hstart y behind)
    | succ j => exact Nat.succ_le_succ (h.leftmost j y behind (link_cons.mp hlink))
  shortest y behind hlink := h.shortest y behind (link_cons.mp hlink)

theorem exists_link_zero : (∃ rest, Link cs 0 x rest) ↔
    anchorStart <+: cs ∧ x ++ anchorEnd <+: cs.drop anchorStart.length ∧ '\n' ∉ x := by
  constructor
  · rintro ⟨rest, hstands, hline⟩
    rw [List.drop_zero, List.append_assoc, List.append_assoc] at hstands
    rw [hstands, List.drop_left]
    exact ⟨List.prefix_append _ _, ⟨rest, by simp⟩, hline⟩
  · rintro ⟨⟨behind, rfl⟩, hx, hline⟩
    rw [List.drop_left] at hx
    obtain ⟨rest, rfl⟩ := hx
    exact ⟨rest, by simp, hline⟩

theorem accepts_line (h : '\n' ∉ x) : ∀ c ∈ x, (c != '\n') = true := by
  intro c hc
  rw [bne_iff_ne]
  rintro rfl
  exact h hc

end Links

/-- A text has one harvest. -/
theorem Harvest.unique {cs : List Char} {found others : List (List Char)} (h : Harvest cs found)
    (hothers : Harvest cs others) : found = others := by
  induction h generalizing others with
  | done hnone =>
    cases hothers with
    | done => rfl
    | link first => exact absurd first.toLink (hnone _ _ _)
  | link first _ ih =>
    cases hothers with
    | done hnone => exact absurd first.toLink (hnone _ _ _)
    | link other further =>
      obtain rfl := Nat.le_antisymm (first.leftmost _ _ _ other.toLink)
        (other.leftmost _ _ _ first.toLink)
      have hlength := Nat.le_antisymm (first.shortest _ _ other.toLink)
        (other.shortest _ _ first.toLink)
      obtain ⟨rfl, rfl⟩ := first.toLink.eq_of_length_eq other.toLink hlength
      rw [ih further]

section Search

variable (before : Option Char) (offset : Nat)

/-- The shortest link at the start of a text. -/
def link? (cs : List Char) : Option (List Char) :=
  if anchorStart <+: cs then upTo? (fun c => c != '\n') anchorEnd (cs.drop anchorStart.length)
  else none

/-- The match of a link that starts at an offset. -/
def linkMatch (first : Nat) (x : List Char) : Found where
  first := first
  last := first + (anchorStart ++ x ++ anchorEnd).length
  groups := [(1, first + anchorStart.length, first + anchorStart.length + x.length)]

/-- The pattern matches at a place just if a link starts there, and then the shortest one. -/
theorem matchAt?_downloadPattern (cs : List Char) :
    downloadPattern.matchAt? before offset cs = (link? cs).map (linkMatch offset) := by
  have hpattern : downloadPattern = .cat (.literal "<a href=\"")
      (.cat (.group 1 (.fewest anyOnLine)) (.literal "\">ftp")) := rfl
  rw [matchAt?, hpattern, head?_run_cat, run_literal, link?]
  by_cases hstart : anchorStart <+: cs
  · have hhere : "<a href=\"".toList <+: cs := hstart
    rw [if_pos hstart, if_pos hhere, List.flatMap_singleton, head?_run_cat, run, anyOnLine,
      run_fewest, head?_spans, Option.map_map, Place.pass_rest, Place.pass_offset,
      Place.pass_groups]
    congr 1
    funext x
    have hlast : offset + anchorStart.length + x.length + anchorEnd.length =
        offset + (anchorStart ++ x ++ anchorEnd).length := by
      simp only [List.length_append]
      omega
    exact congrArg (fun last => (⟨offset, last, _⟩ : Found)) hlast
  · have hhere : ¬ "<a href=\"".toList <+: cs := hstart
    rw [if_neg hstart, if_neg hhere]
    rfl

/-- What the search at the start of a text passes is the shortest link there. -/
theorem link?_eq_some {cs x : List Char} (h : link? cs = some x) :
    (∃ rest, Link cs 0 x rest) ∧ ∀ y rest, Link cs 0 y rest → x.length ≤ y.length := by
  unfold link? at h
  split_ifs at h with hstart
  obtain ⟨hpassed, hline⟩ := prefix_of_upTo?_eq_some h
  refine ⟨exists_link_zero.mpr ⟨hstart, hpassed, fun hmem => ?_⟩, fun y rest hlink => ?_⟩
  · simpa using hline _ hmem
  · obtain ⟨_, hy, hline⟩ := exists_link_zero.mp ⟨rest, hlink⟩
    obtain ⟨z, hz, hlength⟩ := exists_upTo?_of_prefix hy (accepts_line hline)
    rw [h] at hz
    rwa [Option.some.inj hz]

theorem link?_eq_none {cs : List Char} (h : link? cs = none) (y rest : List Char) :
    ¬ Link cs 0 y rest := by
  intro hlink
  obtain ⟨hstart, hy, hline⟩ := exists_link_zero.mp ⟨rest, hlink⟩
  obtain ⟨z, hz, -⟩ := exists_upTo?_of_prefix hy (accepts_line hline)
  rw [link?, if_pos hstart, hz] at h
  exact absurd h (by simp)

/-- The search finds the first link of a text, if there is one. -/
theorem findFrom_downloadPattern (cs : List Char) :
    (downloadPattern.findFrom before offset cs = none ∧ ∀ i x rest, ¬ Link cs i x rest) ∨
      ∃ i x rest, FirstLink cs i x rest ∧
        downloadPattern.findFrom before offset cs = some (linkMatch (offset + i) x) := by
  induction cs generalizing before offset with
  | nil =>
    refine Or.inl ⟨?_, not_link_nil⟩
    rw [findFrom_nil, matchAt?_downloadPattern]
    rfl
  | cons c cs ih =>
    rw [findFrom_cons, matchAt?_downloadPattern]
    cases hhere : link? (c :: cs) with
    | some x =>
      obtain ⟨⟨rest, hlink⟩, hshortest⟩ := link?_eq_some hhere
      refine Or.inr ⟨0, x, rest, ⟨hlink, fun j _ _ _ => Nat.zero_le j, hshortest⟩, rfl⟩
    | none =>
      have hstart := link?_eq_none hhere
      rcases ih (some c) (offset + 1) with ⟨hfind, hnone⟩ | ⟨i, x, rest, hfirst, hfind⟩
      · refine Or.inl ⟨hfind, fun i x rest hlink => ?_⟩
        cases i with
        | zero => exact hstart x rest hlink
        | succ i => exact hnone i x rest (link_cons.mp hlink)
      · refine Or.inr ⟨i + 1, x, rest, hfirst.cons hstart, ?_⟩
        rw [Option.map_none, Option.none_or, hfind, Nat.add_assoc, Nat.add_comm 1]

end Search

/-- The search behind an offset harvests what stands there. -/
theorem harvest_go (cs : List Char) (fuel offset : Nat) (lastEnd : Option Nat)
    (hfuel : cs.length < offset + fuel) :
    Harvest (cs.drop offset)
      ((findAll.go downloadPattern cs fuel offset lastEnd).map fun m =>
        (m.groupText cs 1).getD []) := by
  induction fuel generalizing offset lastEnd with
  | zero =>
    have hdrop : cs.drop offset = [] := List.drop_eq_nil_of_le (by omega)
    rw [hdrop]
    exact .done not_link_nil
  | succ fuel ih =>
    rw [findAll.go]
    rcases findFrom_downloadPattern (charBefore cs offset) offset (cs.drop offset) with
      ⟨hfind, hnone⟩ | ⟨i, x, rest, hfirst, hfind⟩
    · rw [hfind]
      exact .done hnone
    · have hlink : Link cs (offset + i) x rest := link_drop.mp hfirst.toLink
      have hlater : offset + i < (linkMatch (offset + i) x).last := hlink.lt_behind
      have hfurther := ih (linkMatch (offset + i) x).last (some (linkMatch (offset + i) x).last)
        (by omega)
      have hrest : cs.drop (linkMatch (offset + i) x).last = rest := hlink.drop_behind
      have htext : ((linkMatch (offset + i) x).groupText cs 1).getD [] = x := hlink.slice_eq
      have hproper : ¬ ((linkMatch (offset + i) x).first = (linkMatch (offset + i) x).last ∧
          lastEnd = some (linkMatch (offset + i) x).last) := fun h => hlater.ne h.1
      rw [hrest] at hfurther
      rw [hfind]
      simp only [if_neg hproper, List.map_cons, htext]
      exact .link hfirst hfurther

theorem harvest_downloadLinks (body : String) :
    Harvest body.toList ((downloadLinks body).map String.toList) := by
  have hgo := harvest_go body.toList (2 * body.toList.length + 2) 0 none (by omega)
  rw [List.drop_zero] at hgo
  simpa [downloadLinks, findAll, Function.comp_def] using hgo

section Targets

variable {cs x rest : List Char} {i : Nat}

/-- A download anchor at the start of a text is a link there without quotes. -/
theorem target?_eq_some_iff :
    target? cs = some x ↔ (∃ rest, Link cs 0 x rest) ∧ '"' ∉ x := by
  constructor
  · intro h
    simp only [target?, Option.ite_none_right_eq_some, Option.some.injEq] at h
    obtain ⟨-, ⟨rest, hstands⟩, rfl⟩ := h
    refine ⟨⟨rest, hstands.symm, fun hmem => ?_⟩, fun hmem => ?_⟩
    · simpa using List.mem_takeWhile_imp hmem
    · simpa using List.mem_takeWhile_imp hmem
  · rintro ⟨⟨rest, hstands, hline⟩, hquote⟩
    have hall : ∀ c ∈ x, (c != '"' && c != '\n') = true := by
      intro c hc
      rw [Bool.and_eq_true, bne_iff_ne, bne_iff_ne]
      exact ⟨fun he => hquote (he ▸ hc), fun he => hline (he ▸ hc)⟩
    have hend : anchorEnd = '"' :: ">ftp".toList := by decide
    have htake : (x ++ (anchorEnd ++ rest)).takeWhile (fun c => c != '"' && c != '\n') = x := by
      rw [List.takeWhile_append_of_pos hall, hend, List.cons_append,
        List.takeWhile_cons_of_neg (by decide), List.append_nil]
    rw [List.drop_zero] at hstands
    subst hstands
    have hdrop : (anchorStart ++ x ++ anchorEnd ++ rest).drop anchorStart.length =
        x ++ (anchorEnd ++ rest) := by
      rw [List.append_assoc, List.append_assoc, List.drop_left]
    rw [target?, if_pos ⟨x ++ anchorEnd ++ rest, by simp⟩]
    simp only [hdrop, htake]
    rw [if_pos (List.prefix_append _ _)]

theorem target?_drop_eq_some_iff :
    target? (cs.drop i) = some x ↔ (∃ rest, Link cs i x rest) ∧ '"' ∉ x := by
  simp only [target?_eq_some_iff, link_drop, Nat.add_zero]

lemma Link.target?_eq (h : Link cs i x rest) (plain : '"' ∉ x) : target? (cs.drop i) = some x :=
  target?_drop_eq_some_iff.mpr ⟨⟨rest, h⟩, plain⟩

theorem target?_drop_eq_none (h : ∀ x rest, ¬ Link cs i x rest) : target? (cs.drop i) = none := by
  rw [Option.eq_none_iff_forall_ne_some]
  intro x hx
  obtain ⟨⟨rest, hlink⟩, -⟩ := target?_drop_eq_some_iff.mp hx
  exact h x rest hlink

lemma target?_nil : target? [] = none := target?_drop_eq_none (i := 0) (not_link_nil 0)

theorem targets_of_target? (h : target? cs = some x) : targets cs = x :: targets (cs.drop 1) := by
  cases cs with
  | nil => simp [target?_nil] at h
  | cons c cs => simp [targets, h]

theorem targets_drop_suffix (cs : List Char) (n : Nat) : targets (cs.drop n) <:+ targets cs := by
  induction n generalizing cs with
  | zero => exact List.suffix_refl _
  | succ n ih =>
    cases cs with
    | nil => exact List.suffix_refl _
    | cons c cs => exact (ih cs).trans (List.suffix_append _ _)

/-- All targets stand behind an offset just if no download anchor starts in front of it. -/
theorem targets_drop_eq_iff (cs : List Char) (n : Nat) :
    targets (cs.drop n) = targets cs ↔ ∀ j < n, target? (cs.drop j) = none := by
  induction n generalizing cs with
  | zero => simp
  | succ n ih =>
    cases cs with
    | nil => simp [target?_nil]
    | cons c cs =>
      have hlength := (targets_drop_suffix cs n).length_le
      rw [Nat.forall_lt_succ_left, List.drop_succ_cons, targets]
      simp only [List.drop_zero, List.drop_succ_cons, ← ih cs]
      cases hhere : target? (c :: cs) with
      | none => simp
      | some x =>
        have hne : targets (cs.drop n) ≠ x :: targets cs := fun he => by
          rw [he, List.length_cons] at hlength
          omega
        simp [hne]

section Between

variable {m n : Nat} (hmn : m ≤ n)
include hmn

theorem targets_suffix_of_le (cs : List Char) :
    targets (cs.drop n) <:+ targets (cs.drop m) := by
  have hsuffix := targets_drop_suffix (cs.drop m) (n - m)
  rwa [List.drop_drop, Nat.add_sub_cancel' hmn] at hsuffix

theorem targets_eq_iff_of_le (cs : List Char) :
    targets (cs.drop n) = targets (cs.drop m) ↔
      ∀ j, m ≤ j → j < n → target? (cs.drop j) = none := by
  have hiff := targets_drop_eq_iff (cs.drop m) (n - m)
  rw [List.drop_drop, Nat.add_sub_cancel' hmn] at hiff
  rw [hiff]
  constructor
  · intro h j hm hn
    have hj := h (j - m) (by omega)
    rwa [List.drop_drop, Nat.add_sub_cancel' hm] at hj
  · intro h j hj
    rw [List.drop_drop]
    exact h (m + j) (by omega) (by omega)

end Between

theorem Link.targets_suffix (h : Link cs i x rest) :
    targets rest <:+ targets (cs.drop (i + 1)) := by
  have hsuffix := targets_suffix_of_le h.lt_behind cs
  rwa [h.drop_behind] at hsuffix

theorem FirstLink.targets_eq (first : FirstLink cs i x rest) (plain : '"' ∉ x) :
    targets cs = x :: targets (cs.drop (i + 1)) := by
  have hbefore : targets (cs.drop i) = targets cs := by
    rw [targets_drop_eq_iff]
    intro j hj
    refine target?_drop_eq_none fun y behind hlink => ?_
    have hleft := first.leftmost j y behind hlink
    omega
  rw [← hbefore, targets_of_target? (first.toLink.target?_eq plain), List.drop_drop]

theorem Harvest.sublist_targets {found : List (List Char)} (h : Harvest cs found)
    (plain : ∀ x ∈ found, '"' ∉ x) : found.Sublist (targets cs) := by
  induction h with
  | done => exact List.nil_sublist _
  | @link cs x rest i found first further ih =>
    have hlater : found.Sublist (targets rest) := ih fun y hy => plain y (by simp [hy])
    rw [first.targets_eq (plain x (by simp))]
    exact List.Sublist.cons_cons x (hlater.trans first.toLink.targets_suffix.sublist)

/-- The anchors of a text lie apart if its first link, which has no quotes, is free of others and
those behind it lie apart. -/
theorem FirstLink.apart_iff (first : FirstLink cs i x rest) (plain : '"' ∉ x) :
    Apart cs ↔
      (∀ j, i + 1 ≤ j → j < i + (anchorStart ++ x ++ anchorEnd).length →
        target? (cs.drop j) = none) ∧ Apart rest := by
  have hhere := first.toLink.target?_eq plain
  have hrest := first.toLink.drop_behind
  constructor
  · intro hapart
    constructor
    · intro j hi hj
      rw [Option.eq_none_iff_forall_ne_some]
      intro y hy
      have hbehind := hapart i j x y hhere hy (by omega)
      omega
    · intro j k y z hy hz hjk
      rw [← hrest, List.drop_drop] at hy hz
      have hbehind := hapart _ _ y z hy hz (by omega)
      omega
  · rintro ⟨hinside, hapart⟩ j k y z hy hz hjk
    obtain ⟨⟨behind, hlink⟩, -⟩ := target?_drop_eq_some_iff.mp hy
    have hleft := first.leftmost j y behind hlink
    -- Whatever starts behind the start of the first link starts behind its end.
    have hoff : ∀ m w, target? (cs.drop m) = some w → i < m →
        i + (anchorStart ++ x ++ anchorEnd).length ≤ m := by
      intro m w hw him
      by_contra hlt
      have hnone := hinside m (by omega) (by omega)
      rw [hnone] at hw
      cases hw
    by_cases hj : j = i
    · subst hj
      obtain rfl : x = y := Option.some.inj (hhere.symm.trans hy)
      exact hoff k z hz hjk
    · have hjoff := hoff j y hy (by omega)
      have hkoff := hoff k z hz (by omega)
      have hbehind := hapart (j - (i + (anchorStart ++ x ++ anchorEnd).length))
        (k - (i + (anchorStart ++ x ++ anchorEnd).length)) y z
        (by rwa [← hrest, List.drop_drop, Nat.add_sub_cancel' hjoff])
        (by rwa [← hrest, List.drop_drop, Nat.add_sub_cancel' hkoff]) (by omega)
      omega

/-- A harvest without quotes is all the targets just if the anchors lie apart. -/
theorem Harvest.eq_targets_iff_apart {found : List (List Char)} (h : Harvest cs found)
    (plain : ∀ x ∈ found, '"' ∉ x) : found = targets cs ↔ Apart cs := by
  induction h with
  | @done cs hnone =>
    have htarget : ∀ j, target? (cs.drop j) = none := fun j => target?_drop_eq_none (hnone j)
    have htargets := (targets_drop_eq_iff cs cs.length).mpr fun j _ => htarget j
    rw [List.drop_length] at htargets
    refine ⟨fun _ j k y z hy => ?_, fun _ => htargets⟩
    rw [htarget j] at hy
    cases hy
  | @link cs x rest i found first further ih =>
    have hx : '"' ∉ x := plain x (by simp)
    have hfound : ∀ y ∈ found, '"' ∉ y := fun y hy => plain y (by simp [hy])
    rw [first.apart_iff hx, ← targets_eq_iff_of_le first.toLink.lt_behind,
      first.toLink.drop_behind, ← ih hfound, first.targets_eq hx, List.cons.injEq, eq_self,
      true_and]
    constructor
    · intro heq
      -- The harvest behind the link has no more than the targets there.
      have hfew := (further.sublist_targets hfound).length_le
      rw [heq] at hfew
      have hsame := first.toLink.targets_suffix.eq_of_length_le hfew
      exact ⟨hsame, heq.trans hsame.symm⟩
    · rintro ⟨hbehind, hfurther⟩
      rw [hfurther, hbehind]

end Targets

theorem not_mem_of_mem_targets {cs x : List Char} (h : x ∈ targets cs) : '"' ∉ x := by
  induction cs with
  | nil => cases h
  | cons c cs ih =>
    rw [targets, List.mem_append, Option.mem_toList] at h
    rcases h with hhere | hlater
    · exact (target?_eq_some_iff.mp hhere).2
    · exact ih hlater

/-- The download links of a page are what is found from left to right, always the first link and
the shortest one there. They are the targets of its download anchors just if no link has a quote in
it and the anchors lie apart. -/
theorem downloadLinks_exact_iff (body : String) :
    (∀ found, Harvest body.toList found ↔ found = (downloadLinks body).map String.toList) ∧
      ((downloadLinks body).map String.toList = targets body.toList ↔
        (∀ link ∈ downloadLinks body, '"' ∉ link.toList) ∧ Apart body.toList) := by
  have hharvest := harvest_downloadLinks body
  have hplain : (∀ x ∈ (downloadLinks body).map String.toList, '"' ∉ x) ↔
      ∀ link ∈ downloadLinks body, '"' ∉ link.toList := List.forall_mem_map
  constructor
  · intro found
    constructor
    · intro hfound
      exact hfound.unique hharvest
    · rintro rfl
      exact hharvest
  · rw [← hplain]
    constructor
    · intro heq
      have hquotes : ∀ x ∈ (downloadLinks body).map String.toList, '"' ∉ x := by
        intro x hx
        rw [heq] at hx
        exact not_mem_of_mem_targets hx
      exact ⟨hquotes, (hharvest.eq_targets_iff_apart hquotes).mp heq⟩
    · rintro ⟨hquotes, hapart⟩
      exact (hharvest.eq_targets_iff_apart hquotes).mpr hapart

/-- An anchor that is no download takes the download behind it into its link. -/
theorem downloadLinks_across_anchors :
    downloadLinks "<a href=\"x\">no</a><a href=\"y\">ftp" = ["x\">no</a><a href=\"y"] ∧
      targets "<a href=\"x\">no</a><a href=\"y\">ftp".toList = [['y']] := by
  decide +kernel

end SiteSpiders.Movies
