/-!
# Clean text

Every free-text field is cleaned before it is kept: apostrophes go, full-width
quotes and parentheses become plain ones, and escaped line breaks are cut out
until none is left.
-/
namespace SiteSpiders.Text

/-- The escaped line break: backslash, `r`, backslash, `n`. -/
def lineBreakMarker : List Char := ['\\', 'r', '\\', 'n']

/-- Plain form of a full-width quote or parenthesis. -/
def plainChar (c : Char) : Char :=
  if c = '“' ∨ c = '”' then '"'
  else if c = '（' then '('
  else if c = '）' then ')'
  else c

/-- Drops apostrophes and makes quotes and parentheses plain. -/
def plain (cs : List Char) : List Char :=
  (cs.filter fun c => c != '\'').map plainChar

/-- Cuts every escaped line break in one pass from left to right. -/
def cutMarkers : List Char → List Char
  | '\\' :: 'r' :: '\\' :: 'n' :: rest => cutMarkers rest
  | c :: rest => c :: cutMarkers rest
  | [] => []

/-- Whether an escaped line break occurs. -/
def hasMarker : List Char → Bool
  | [] => false
  | c :: rest => lineBreakMarker.isPrefixOf (c :: rest) || hasMarker rest

theorem length_cutMarkers_le (cs : List Char) : (cutMarkers cs).length ≤ cs.length := by
  fun_induction cutMarkers cs <;> simp <;> omega

theorem length_cutMarkers_lt (cs : List Char) (h : hasMarker cs = true) :
    (cutMarkers cs).length < cs.length := by
  fun_induction cutMarkers cs with
  | case1 rest ih =>
    have := length_cutMarkers_le rest
    simp; omega
  | case2 c rest hne ih =>
    have hrest : hasMarker rest = true := by
      rw [hasMarker, Bool.or_eq_true] at h
      rcases h with h | h
      · exfalso
        match rest, h, hne with
        | [], h, _ => simp [lineBreakMarker, List.isPrefixOf] at h
        | [_], h, _ => simp [lineBreakMarker, List.isPrefixOf] at h
        | [_, _], h, _ => simp [lineBreakMarker, List.isPrefixOf] at h
        | a :: b :: d :: more, h, hne =>
          simp only [lineBreakMarker, List.isPrefixOf, Bool.and_eq_true, beq_iff_eq,
            and_true] at h
          obtain ⟨h1, h2, h3, h4⟩ := h
          exact hne more h1.symm (by rw [← h2, ← h3, ← h4])
      · exact h
    simpa using ih hrest
  | case3 => simp [hasMarker] at h

/-- Cuts escaped line breaks until none is left: cutting one can join the halves of another. -/
def cutAllMarkers (cs : List Char) : List Char :=
  if hasMarker cs = true then cutAllMarkers (cutMarkers cs) else cs
termination_by cs.length
decreasing_by exact length_cutMarkers_lt cs (by assumption)

/-- Clean form of a list of characters. -/
def normalizeList (cs : List Char) : List Char := cutAllMarkers (plain cs)

def normalize (s : String) : String := String.ofList (normalizeList s.toList)

end SiteSpiders.Text
