/-!
# Dividing texts

The parts of a list between its dividers. There is always at least one part, and
putting the dividers back gives the list again.
-/
namespace SiteSpiders.Text

/-- The first part of a list and all later ones. -/
def partsOf [DecidableEq α] (divider : α) (xs : List α) : List α × List (List α) :=
  xs.foldr (fun x found =>
    if x = divider then ([], found.1 :: found.2) else (x :: found.1, found.2)) ([], [])

/-- The parts of a list between its dividers. -/
def divide [DecidableEq α] (divider : α) (xs : List α) : List (List α) :=
  (partsOf divider xs).1 :: (partsOf divider xs).2

/-- Parts with a divider between each two. -/
def joinWith (divider : α) : List (List α) → List α
  | [] => []
  | [part] => part
  | part :: rest => part ++ divider :: joinWith divider rest

/-- The parts of a text between its dividers. -/
def divideText (divider : Char) (s : String) : List String :=
  (divide divider s.toList).map String.ofList

theorem joinWith_cons_cons (divider x : α) (part : List α) (rest : List (List α)) :
    joinWith divider ((x :: part) :: rest) = x :: joinWith divider (part :: rest) := by
  cases rest <;> simp [joinWith]

theorem joinWith_divide [DecidableEq α] (divider : α) (xs : List α) :
    joinWith divider (divide divider xs) = xs := by
  induction xs with
  | nil => simp [divide, partsOf, joinWith]
  | cons x xs ih =>
    simp only [divide, partsOf, List.foldr_cons] at ih ⊢
    by_cases h : x = divider
    · simp [h, joinWith, ih]
    · simp [h, joinWith_cons_cons, ih]

end SiteSpiders.Text
