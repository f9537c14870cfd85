import Mathlib.Data.List.Infix
import Mathlib.Logic.Function.Iterate
import Mathlib.Logic.Relation
import SiteSpiders.Text.Normal

/-!
# Clean texts

Cleaning ends, and what it gives is clean. An occurrence of the marker can be cut out of a text in
any order: a stack onto which the text is put character by character, and from which a marker is
taken off as soon as its last character is put there, holds the same whether the occurrence stands
in the text or not. So all ways to cut until no marker is left lead to what the stack holds at the
end, and cutting in passes is one of them.
-/
namespace SiteSpiders.Text

/-- The characters that cleaning removes or makes plain. -/
def unclean : List Char := ['\'', '“', '”', '（', '）']

/-- What is left of a character in the plain form of a text. -/
def plainForm : Char → List Char
  | '\'' => []
  | '“' | '”' => ['"']
  | '（' => ['(']
  | '）' => [')']
  | c => [c]

/-- Whether a text has no unclean characters and no escaped line breaks. -/
structure Clean (cs : List Char) : Prop where
  plain : ∀ c ∈ cs, c ∉ unclean
  unmarked : ¬lineBreakMarker <:+: cs

theorem plainChar_clean {c : Char} (h : c ≠ '\'') : plainChar c ∉ unclean := by
  unfold plainChar
  split_ifs with hquote hopening hclosing
  · decide
  · decide
  · decide
  · simp only [unclean, List.mem_cons, List.not_mem_nil, or_false]
    tauto

theorem plainChar_of_clean {c : Char} (h : c ∉ unclean) : plainChar c = c := by
  simp only [unclean, List.mem_cons, List.not_mem_nil, or_false, not_or] at h
  obtain ⟨-, hleft, hright, hopening, hclosing⟩ := h
  simp [plainChar, hleft, hright, hopening, hclosing]

theorem plain_clean (cs : List Char) : ∀ c ∈ plain cs, c ∉ unclean := by
  intro c hc
  obtain ⟨d, hd, rfl⟩ := List.mem_map.mp hc
  exact plainChar_clean (by simpa using (List.mem_filter.mp hd).2)

theorem plain_of_clean {cs : List Char} (h : ∀ c ∈ cs, c ∉ unclean) : plain cs = cs := by
  have hkeep : cs.filter (fun c => c != '\'') = cs := by
    refine List.filter_eq_self.mpr fun c hc => ?_
    have hne : c ≠ '\'' := fun he => h c hc (by simp [he, unclean])
    simpa using hne
  rw [plain, hkeep, List.map_congr_left fun c hc => plainChar_of_clean (h c hc), List.map_id']

theorem plain_eq_flatMap (cs : List Char) : plain cs = cs.flatMap plainForm := by
  induction cs with
  | nil => rfl
  | cons c cs ih =>
    have hchar : plainForm c = if c = '\'' then [] else [plainChar c] := by
      unfold plainForm
      split
      case h_6 happ hleft hright hopening hclosing =>
        rw [if_neg happ, plainChar, if_neg (not_or.mpr ⟨hleft, hright⟩), if_neg hopening,
          if_neg hclosing]
      all_goals rfl
    rw [List.flatMap_cons, ← ih, hchar]
    by_cases happ : c = '\'' <;> simp [plain, happ]

@[simp] theorem plain_append (as bs : List Char) : plain (as ++ bs) = plain as ++ plain bs := by
  simp [plain]

theorem hasMarker_iff (cs : List Char) : hasMarker cs = true ↔ lineBreakMarker <:+: cs := by
  induction cs with
  | nil => simp [hasMarker, lineBreakMarker]
  | cons c cs ih =>
    rw [hasMarker, Bool.or_eq_true, List.isPrefixOf_iff_prefix, ih, List.infix_cons_iff]

/-- A text with one occurrence of the marker, and the text without it. -/
inductive Cut : List Char → List Char → Prop
  | marker (front back : List Char) : Cut (front ++ lineBreakMarker ++ back) (front ++ back)

/-- Any number of occurrences, cut out one after the other. -/
abbrev Cuts : List Char → List Char → Prop := Relation.ReflTransGen Cut

/-- The stack after one more character. Its top is the head, so a marker stands there in reverse. -/
def push (stack : List Char) (c : Char) : List Char :=
  if lineBreakMarker.reverse <+: c :: stack then (c :: stack).drop lineBreakMarker.length
  else c :: stack

/-- What is left of a text that is put onto a stack from left to right. -/
def stackPass (cs : List Char) : List Char := (cs.foldl push []).reverse

section Cutting

variable {cs ds : List Char}

theorem Cut.within (front back : List Char) (h : Cut cs ds) :
    Cut (front ++ cs ++ back) (front ++ ds ++ back) := by
  cases h with
  | marker left right => simpa using Cut.marker (front ++ left) (right ++ back)

theorem Cuts.within (front back : List Char) (h : Cuts cs ds) :
    Cuts (front ++ cs ++ back) (front ++ ds ++ back) :=
  h.lift (front ++ · ++ back) fun _ _ hcut => hcut.within front back

theorem exists_cut_iff : (∃ ds, Cut cs ds) ↔ lineBreakMarker <:+: cs := by
  constructor
  · rintro ⟨_, ⟨front, back⟩⟩
    exact ⟨front, back, rfl⟩
  · rintro ⟨front, back, rfl⟩
    exact ⟨_, .marker front back⟩

theorem Cut.length_lt (h : Cut cs ds) : ds.length < cs.length := by
  cases h with
  | marker front back =>
    simp only [List.length_append, lineBreakMarker, List.length_cons, List.length_nil]
    omega

lemma cut_wellFounded : WellFounded fun ds cs => Cut cs ds :=
  Subrelation.wf (fun h => h.length_lt) (measure List.length).wf

lemma foldl_push_marker (stack : List Char) : lineBreakMarker.foldl push stack = stack := by
  simp [lineBreakMarker, push]

theorem Cut.stackPass_eq (h : Cut cs ds) : stackPass cs = stackPass ds := by
  cases h with
  | marker front back =>
    simp only [stackPass, List.foldl_append, foldl_push_marker]

theorem Cuts.stackPass_eq (h : Cuts cs ds) : stackPass cs = stackPass ds := by
  induction h with
  | refl => rfl
  | tail _ hcut ih => exact ih.trans hcut.stackPass_eq

/-- Where no marker stands, every character stays on the stack. -/
theorem foldl_push_of_unmarked {stack : List Char} (h : ¬lineBreakMarker <:+: stack.reverse ++ cs) :
    cs.foldl push stack = cs.reverse ++ stack := by
  induction cs generalizing stack with
  | nil => rfl
  | cons c cs ih =>
    have hstep : push stack c = c :: stack := by
      refine if_neg fun hmarker => h ?_
      have hsuffix : lineBreakMarker <:+ (c :: stack).reverse := by
        rw [← List.reverse_prefix, List.reverse_reverse]
        exact hmarker
      rw [List.reverse_cons] at hsuffix
      rw [List.append_cons]
      exact hsuffix.isInfix.trans (List.prefix_append _ _).isInfix
    have hrest : ¬lineBreakMarker <:+: (c :: stack).reverse ++ cs := by
      rwa [List.reverse_cons, List.append_assoc, List.singleton_append]
    rw [List.foldl_cons, hstep, ih hrest, List.reverse_cons, List.append_assoc,
      List.singleton_append]

lemma stackPass_of_unmarked (h : ¬lineBreakMarker <:+: cs) : stackPass cs = cs := by
  rw [stackPass, foldl_push_of_unmarked (by simpa using h), List.append_nil, List.reverse_reverse]

end Cutting

theorem cuts_cutMarkers (cs : List Char) : Cuts cs (cutMarkers cs) := by
  induction cs using cutMarkers.induct with
  | case1 rest ih => exact .head (.marker [] rest) ih
  | case2 c rest hmarker ih =>
    rw [cutMarkers]
    · simpa using ih.within [c] []
    · exact hmarker
  | case3 => exact .refl

/-- Passes are made as long as there is a marker, and there is an end to them. -/
theorem cutAllMarkers_eq_iterate (cs : List Char) :
    ∃ rounds, (∀ k < rounds, hasMarker (cutMarkers^[k] cs) = true) ∧
      hasMarker (cutMarkers^[rounds] cs) = false ∧ cutAllMarkers cs = cutMarkers^[rounds] cs := by
  induction cs using cutAllMarkers.induct with
  | case1 cs hmarker ih =>
    obtain ⟨rounds, hbefore, hafter, heq⟩ := ih
    refine ⟨rounds + 1, fun k hk => ?_, hafter, ?_⟩
    · cases k with
      | zero => exact hmarker
      | succ k => exact hbefore k (by omega)
    · rw [cutAllMarkers, if_pos hmarker, heq, Function.iterate_succ_apply]
  | case2 cs hmarker =>
    refine ⟨0, fun k hk => absurd hk (Nat.not_lt_zero k), by simpa using hmarker, ?_⟩
    rw [cutAllMarkers, if_neg hmarker, Function.iterate_zero_apply]

theorem unmarked_cutAllMarkers (cs : List Char) : ¬lineBreakMarker <:+: cutAllMarkers cs := by
  obtain ⟨rounds, -, hafter, heq⟩ := cutAllMarkers_eq_iterate cs
  rw [heq, ← hasMarker_iff, hafter]
  simp

theorem cuts_cutAllMarkers (cs : List Char) : Cuts cs (cutAllMarkers cs) := by
  induction cs using cutAllMarkers.induct with
  | case1 cs hmarker ih =>
    rw [cutAllMarkers, if_pos hmarker]
    exact (cuts_cutMarkers cs).trans ih
  | case2 cs hmarker =>
    rw [cutAllMarkers, if_neg hmarker]

lemma cutAllMarkers_eq_stackPass (cs : List Char) : cutAllMarkers cs = stackPass cs := by
  rw [(cuts_cutAllMarkers cs).stackPass_eq, stackPass_of_unmarked (unmarked_cutAllMarkers cs)]

theorem Cuts.subset {cs ds : List Char} (h : Cuts cs ds) : ds ⊆ cs := by
  induction h with
  | refl => exact List.Subset.refl cs
  | tail _ hcut ih =>
    cases hcut with
    | marker front back =>
      exact List.Subset.trans (fun c hc => by simp only [List.mem_append] at hc ⊢; tauto) ih

@[simp] theorem toList_normalize (s : String) :
    (normalize s).toList = cutAllMarkers (plain s.toList) := String.toList_ofList

theorem clean_normalize (s : String) : Clean (normalize s).toList where
  plain c hc := by
    rw [toList_normalize] at hc
    exact plain_clean s.toList c (Cuts.subset (cuts_cutAllMarkers _) hc)
  unmarked := by
    rw [toList_normalize]
    exact unmarked_cutAllMarkers _

theorem normalize_of_clean {s : String} (h : Clean s.toList) : normalize s = s := by
  rw [← String.toList_inj, toList_normalize, plain_of_clean h.plain, cutAllMarkers_eq_stackPass,
    stackPass_of_unmarked h.unmarked]

@[simp] theorem normalize_normalize (s : String) : normalize (normalize s) = normalize s :=
  normalize_of_clean (clean_normalize s)

/-- Cleaning cuts in passes as long as there is a marker, and comes to an end. What it gives is
clean, every clean text is given, namely by itself, and only clean texts stay as they are. -/
theorem normalize_clean_exactly (s : String) :
    (∃ rounds, (∀ k < rounds, hasMarker (cutMarkers^[k] (plain s.toList)) = true) ∧
        hasMarker (cutMarkers^[rounds] (plain s.toList)) = false ∧
        (normalize s).toList = cutMarkers^[rounds] (plain s.toList)) ∧
      Clean (normalize s).toList ∧
      ((∃ t, normalize t = s) ↔ Clean s.toList) ∧
      (normalize s = s ↔ Clean s.toList) ∧
      normalize (normalize s) = normalize s := by
  have hfixed : normalize s = s ↔ Clean s.toList :=
    ⟨fun heq => heq ▸ clean_normalize s, normalize_of_clean⟩
  refine ⟨?_, clean_normalize s, ⟨?_, ?_⟩, hfixed, normalize_normalize s⟩
  · simpa using cutAllMarkers_eq_iterate (plain s.toList)
  · rintro ⟨t, rfl⟩
    exact clean_normalize t
  · intro hclean
    exact ⟨s, hfixed.mpr hclean⟩

/-- Cleaning each part first changes nothing. -/
theorem normalize_append (a b : String) :
    normalize (a ++ b) = normalize (normalize a ++ normalize b) := by
  have hpart : ∀ s : String, plain (normalize s).toList = cutAllMarkers (plain s.toList) :=
    fun s => by rw [plain_of_clean (clean_normalize s).plain, toList_normalize]
  have hleft := (cuts_cutAllMarkers (plain a.toList)).within [] (plain b.toList)
  have hright := (cuts_cutAllMarkers (plain b.toList)).within (cutAllMarkers (plain a.toList)) []
  have hstack : ∀ s : String, (normalize s).toList = stackPass (plain s.toList) :=
    fun s => by rw [toList_normalize, cutAllMarkers_eq_stackPass]
  rw [List.append_nil, List.append_nil] at hright
  rw [← String.toList_inj, hstack, hstack]
  calc stackPass (plain (a ++ b).toList)
      = stackPass (plain a.toList ++ plain b.toList) := by
        rw [String.toList_append, plain_append]
    _ = stackPass (cutAllMarkers (plain a.toList) ++ cutAllMarkers (plain b.toList)) :=
        hleft.stackPass_eq.trans hright.stackPass_eq
    _ = stackPass (plain (normalize a ++ normalize b).toList) := by
        rw [String.toList_append, plain_append, hpart, hpart]

/-- From the plain form of a text, cutting out occurrences of the marker one at a time comes to an
end, in whatever order it is done, and always at the clean text: it can be reached from wherever
one has come to, and nothing else is left without a marker. One pass with a stack gives the same. So
parts can be cleaned before they are put together. -/
theorem normalize_confluent (s a b : String) :
    (∀ cs, Cuts (s.toList.flatMap plainForm) cs →
        Cuts cs (normalize s).toList ∧ ((∀ ds, ¬Cut cs ds) ↔ cs = (normalize s).toList)) ∧
      Acc (fun ds cs => Cut cs ds) (s.toList.flatMap plainForm) ∧
      stackPass (s.toList.flatMap plainForm) = (normalize s).toList ∧
      normalize (a ++ b) = normalize (normalize a ++ normalize b) := by
  rw [← plain_eq_flatMap]
  have hnormal : stackPass (plain s.toList) = (normalize s).toList := by
    rw [toList_normalize, cutAllMarkers_eq_stackPass]
  refine ⟨fun cs hcs => ?_, cut_wellFounded.apply _, hnormal, normalize_append a b⟩
  have hstack : stackPass cs = (normalize s).toList := hcs.stackPass_eq.symm.trans hnormal
  refine ⟨?_, fun hnone => ?_, ?_⟩
  · rw [← hstack, ← cutAllMarkers_eq_stackPass]
    exact cuts_cutAllMarkers cs
  · have hunmarked : ¬lineBreakMarker <:+: cs := by
      rw [← exists_cut_iff]
      simpa using hnone
    rw [← hstack, stackPass_of_unmarked hunmarked]
  · rintro rfl ds hcut
    exact (clean_normalize s).unmarked (exists_cut_iff.mp ⟨ds, hcut⟩)

/-- A text with an apostrophe, full-width quotes and parentheses, and a marker inside a marker. -/
def nestedText : String := "it's “\\r\\r\\n\\n”（b）"

/-- Cutting the inner marker first leaves the outer one, and cutting that ends at the clean text. -/
theorem normalize_confluent_sample :
    let outer : List Char := "its \"\\r\\n\"(b)".toList
    Cut (nestedText.toList.flatMap plainForm) outer ∧ (∃ ds, Cut outer ds) ∧
      Cuts outer (normalize nestedText).toList ∧ normalize nestedText = "its \"\"(b)" := by
  intro outer
  obtain ⟨hends, -, hstack, -⟩ := normalize_confluent nestedText "" ""
  have inner : Cut (nestedText.toList.flatMap plainForm) outer :=
    .marker "its \"\\r".toList "\\n\"(b)".toList
  have again : Cut outer "its \"\"(b)".toList := .marker "its \"".toList "\"(b)".toList
  have clean : (normalize nestedText).toList = "its \"\"(b)".toList :=
    hstack.symm.trans (by decide +kernel)
  exact ⟨inner, ⟨_, again⟩, (hends outer (.single inner)).1, String.toList_inj.mp clean⟩

end SiteSpiders.Text
