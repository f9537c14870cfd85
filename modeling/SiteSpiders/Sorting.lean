/-!
# Stable sorting

Merge sort by recursion on a depth and on the lists themselves, so that closed
instances evaluate. Main statement: it agrees with the library's `mergeSort`.
-/
namespace SiteSpiders.Sorting

/-- Puts one element and then the merge of what follows it into a list. -/
def mergeHead (le : α → α → Bool) (x : α) (rest : List α → List α) : List α → List α
  | [] => x :: rest []
  | y :: ys => if le x y then x :: rest (y :: ys) else y :: mergeHead le x rest ys

/-- Merges two sorted lists; of equal elements those of the first list come first. -/
def merge (le : α → α → Bool) : List α → List α → List α
  | [], ys => ys
  | x :: xs, ys => mergeHead le x (merge le xs) ys

/-- Sorts a list whose length is at most the depth. -/
def sortDepth (le : α → α → Bool) : Nat → List α → List α
  | 0, xs => xs
  | _ + 1, [] => []
  | _ + 1, [a] => [a]
  | d + 1, a :: b :: xs =>
    let all := a :: b :: xs
    let half := (all.length + 1) / 2
    merge le (sortDepth le d (all.take half)) (sortDepth le d (all.drop half))

/-- Sorts a list and keeps equal elements in their order. -/
def sortBy (le : α → α → Bool) (xs : List α) : List α := sortDepth le xs.length xs

theorem merge_eq (le : α → α → Bool) (xs ys : List α) : merge le xs ys = List.merge xs ys le := by
  induction xs generalizing ys with
  | nil => simp [merge]
  | cons x xs ihx =>
    induction ys with
    | nil => simp [merge, mergeHead, ihx]
    | cons y ys ihy =>
      rw [merge] at ihy
      by_cases h : le x y
      · simp [merge, mergeHead, h, ihx]
      · simp [merge, mergeHead, h, ihy]

theorem sortDepth_eq (le : α → α → Bool) (d : Nat) (xs : List α) (h : xs.length ≤ d) :
    sortDepth le d xs = xs.mergeSort le := by
  induction d generalizing xs with
  | zero =>
    have := List.eq_nil_of_length_eq_zero (Nat.le_zero.1 h)
    subst this
    simp [sortDepth]
  | succ d ih =>
    match xs with
    | [] => simp [sortDepth]
    | [a] => simp [sortDepth]
    | a :: b :: xs =>
      simp only [List.length_cons] at h
      have hl : ((a :: b :: xs).take (((a :: b :: xs).length + 1) / 2)).length ≤ d := by
        simp only [List.length_take, List.length_cons]; omega
      have hr : ((a :: b :: xs).drop (((a :: b :: xs).length + 1) / 2)).length ≤ d := by
        simp only [List.length_drop, List.length_cons]; omega
      simp only [sortDepth, merge_eq, ih _ hl, ih _ hr]
      simp only [List.mergeSort, List.MergeSort.Internal.splitInTwo, List.splitAt_eq]

theorem sortBy_eq_mergeSort (le : α → α → Bool) (xs : List α) :
    sortBy le xs = xs.mergeSort le := sortDepth_eq le xs.length xs (Nat.le_refl _)

end SiteSpiders.Sorting
