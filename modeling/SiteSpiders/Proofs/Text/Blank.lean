import Mathlib.Data.List.DropRight
import SiteSpiders.Text.Blank

/-!
# White space

White space is looked up in a table by bisection, and blanks are taken off a text at both ends. The
table holds the code points with the White_Space property, and what is left of a text is the one
part of it that begins and ends with none of them.
-/
namespace SiteSpiders.Text

/-! ## The table -/

/-- Among rising keys, bisection finds the first that exceeds a number. -/
theorem bisect_spec {key : Nat → Nat} {k lo hi size : Nat} (hsize : hi ≤ size) (hle : lo ≤ hi)
    (rising : ∀ i j, i < j → j < size → key i < key j) (below : ∀ i < lo, key i ≤ k)
    (above : ∀ i, hi ≤ i → i < size → k < key i) :
    bisect key k lo hi ≤ size ∧ (∀ i < bisect key k lo hi, key i ≤ k) ∧
      ∀ i, bisect key k lo hi ≤ i → i < size → k < key i := by
  have rising' : ∀ i j, i ≤ j → j < size → key i ≤ key j := by
    intro i j hij hj
    rcases Nat.lt_or_eq_of_le hij with hlt | rfl
    · exact Nat.le_of_lt (rising i j hlt hj)
    · exact Nat.le_refl _
  fun_induction bisect key k lo hi with
  | case1 lo hi hlt mid hmid ih =>
    refine ih hsize (by omega) (fun i hi => ?_) above
    exact Nat.le_trans (rising' i mid (by omega) (by omega)) hmid
  | case2 lo hi hlt mid hmid ih =>
    refine ih (by omega) (by omega) below fun i hi hsize => ?_
    exact Nat.lt_of_lt_of_le (Nat.lt_of_not_le hmid) (rising' mid i hi hsize)
  | case3 lo hi hlt =>
    obtain rfl : lo = hi := by omega
    exact ⟨hsize, below, above⟩

namespace CharSet

/-- Whether ranges are in rising order and apart. -/
def Sorted (s : CharSet) : Prop := s.ranges.toList.Pairwise fun r q => r.1 < q.1 ∧ r.2 < q.1

/-- A sorted set has the code points of its ranges. -/
theorem Sorted.containsNat_iff {s : CharSet} (sorted : s.Sorted) (n : Nat) :
    s.containsNat n = true ↔ ∃ r ∈ s.ranges.toList, r.1 ≤ n ∧ n ≤ r.2 := by
  unfold containsNat
  unfold Sorted at sorted
  simp only [← Array.getElem?_toList, ← Array.length_toList]
  generalize s.ranges.toList = l at sorted
  have at_ : ∀ (i : Nat) (h : i < l.length) (d : Nat × Nat), l[i]?.getD d = l[i] := by
    intro i h d
    simp [h]
  have apart : ∀ (i j : Nat) (hi : i < l.length) (hj : j < l.length), i < j →
      l[i].1 < l[j].1 ∧ l[i].2 < l[j].1 := List.pairwise_iff_getElem.mp sorted
  obtain ⟨hsize, below, above⟩ := @bisect_spec (fun j => (l[j]?.getD (0, 0)).1) n 0 l.length
    l.length (Nat.le_refl _) (Nat.zero_le _)
    (fun i j hij hj => by
      simp only [at_ i (Nat.lt_trans hij hj), at_ j hj]
      exact (apart i j _ hj hij).1)
    (fun i hi => absurd hi (Nat.not_lt_zero i)) (fun i hi hsize => absurd hsize (by omega))
  generalize bisect _ n 0 l.length = found at hsize below above
  cases found with
  | zero =>
    refine iff_of_false Bool.false_ne_true ?_
    rintro ⟨r, hr, hfirst, -⟩
    obtain ⟨i, hi, rfl⟩ := List.mem_iff_getElem.mp hr
    have hbehind := above i (Nat.zero_le i) hi
    simp only [at_ i hi] at hbehind
    omega
  | succ j =>
    have hfirst := below j (Nat.lt_succ_self j)
    simp only [at_ j hsize] at hfirst
    simp only [decide_eq_true_eq, at_ j hsize]
    refine ⟨fun hlast => ⟨_, List.getElem_mem hsize, hfirst, hlast⟩, ?_⟩
    rintro ⟨r, hr, hle, hlast⟩
    obtain ⟨i, hi, rfl⟩ := List.mem_iff_getElem.mp hr
    -- a range before the found one ends too early, and one behind it begins too late
    rcases Nat.lt_trichotomy i j with before | rfl | behind
    · have := (apart i j hi hsize before).2
      omega
    · exact hlast
    · have hbehind := above i behind hi
      simp only [at_ i hi] at hbehind
      omega

end CharSet

/-- The ranges of code points that are white space. -/
def spaceRanges : List (Nat × Nat) :=
  [(0x9, 0xd), (0x20, 0x20), (0x85, 0x85), (0xa0, 0xa0), (0x1680, 0x1680), (0x2000, 0x200a),
    (0x2028, 0x2029), (0x202f, 0x202f), (0x205f, 0x205f), (0x3000, 0x3000)]

/-- Whether a character has the White_Space property. -/
def IsSpace (c : Char) : Prop := ∃ r ∈ spaceRanges, r.1 ≤ c.toNat ∧ c.toNat ≤ r.2

instance (c : Char) : Decidable (IsSpace c) := by
  unfold IsSpace
  infer_instance

theorem isBlank_iff (c : Char) : isBlank c = true ↔ IsSpace c := by
  have table : Unicode.whiteSpace.ranges.toList = spaceRanges := by decide +kernel
  have sorted : Unicode.whiteSpace.Sorted := by
    rw [CharSet.Sorted, table]
    decide
  unfold isBlank Unicode.isWhiteSpace
  split_ifs with ascii
  · have all : ∀ n < 0x80, (Char.ofNat n == ' ' || ('\t' ≤ Char.ofNat n && Char.ofNat n ≤ '\r')) =
        true ↔ IsSpace (Char.ofNat n) := by decide +kernel
    simpa using all c.toNat ascii
  · rw [CharSet.contains, sorted.containsNat_iff, table]
    rfl

/-! ## Trimming -/

/-- Whether a text is what is left of another without the white space at both ends. -/
structure Trimmed (text core : List Char) : Prop where
  around : ∃ front back, text = front ++ core ++ back ∧ (∀ c ∈ front, IsSpace c) ∧
    ∀ c ∈ back, IsSpace c
  first : ∀ c ∈ core.head?, ¬IsSpace c
  last : ∀ c ∈ core.getLast?, ¬IsSpace c

theorem dropWhile_blanks {front rest : List Char} (blanks : ∀ c ∈ front, IsSpace c)
    (first : ∀ c ∈ rest.head?, ¬IsSpace c) : (front ++ rest).dropWhile isBlank = rest := by
  induction front with
  | nil =>
    cases rest with
    | nil => rfl
    | cons c rest =>
      have hc : ¬isBlank c = true := fun h => first c rfl ((isBlank_iff c).mp h)
      rw [List.nil_append, List.dropWhile_cons_of_neg hc]
  | cons c front ih =>
    rw [List.cons_append, List.dropWhile_cons_of_pos ((isBlank_iff c).mpr (blanks c (by simp)))]
    exact ih fun d hd => blanks d (List.mem_cons_of_mem _ hd)

theorem trimList_eq (text : List Char) :
    trimList text = (text.dropWhile isBlank).rdropWhile isBlank := rfl

/-- Trimming leaves the trimmed text, and that only. -/
theorem trimmed_iff {text core : List Char} : Trimmed text core ↔ core = trimList text := by
  constructor
  · rintro ⟨⟨front, back, rfl, hfront, hback⟩, first, last⟩
    have hdrop : ((core ++ back).rdropWhile isBlank) = core := by
      have hlast : ∀ c ∈ core.reverse.head?, ¬IsSpace c := by rwa [List.head?_reverse]
      have hback' : ∀ c ∈ back.reverse, IsSpace c := by simpa using hback
      rw [List.rdropWhile, List.reverse_append, dropWhile_blanks hback' hlast,
        List.reverse_reverse]
    rw [trimList_eq, List.append_assoc]
    cases core with
    | nil =>
      have hall : ∀ c ∈ front ++ back, IsSpace c := fun c hc =>
        (List.mem_append.mp hc).elim (hfront c) (hback c)
      have hnone := @dropWhile_blanks (front ++ back) [] hall (by simp)
      rw [List.append_nil] at hnone
      rw [List.nil_append, hnone, List.rdropWhile_nil]
    | cons c core =>
      rw [dropWhile_blanks hfront (by simpa using first), hdrop]
  · rintro rfl
    rw [trimList_eq]
    refine ⟨⟨text.takeWhile isBlank, (text.dropWhile isBlank).rtakeWhile isBlank, ?_, ?_, ?_⟩,
      fun c hc => ?_, fun c hc => ?_⟩
    · rw [List.append_assoc, List.rdropWhile_append_rtakeWhile, List.takeWhile_append_dropWhile]
    · exact fun c hc => (isBlank_iff c).mp (List.mem_takeWhile_imp hc)
    · exact fun c hc => (isBlank_iff c).mp (List.mem_rtakeWhile_imp hc)
    · -- what is left at the end begins as what is left at the front
      obtain ⟨back, hback⟩ := List.rdropWhile_prefix isBlank (text.dropWhile isBlank)
      have hhead : (text.dropWhile isBlank).head? = some c := by
        rw [← hback, List.head?_append, Option.mem_def.mp hc]
        rfl
      have hnot := List.head?_dropWhile_not isBlank text
      rw [hhead] at hnot
      rw [← isBlank_iff, Bool.not_eq_true]
      simpa using hnot
    · obtain ⟨hne, rfl⟩ := List.mem_getLast?_eq_getLast hc
      rw [← isBlank_iff]
      exact List.rdropWhile_last_not isBlank _ hne

end SiteSpiders.Text
