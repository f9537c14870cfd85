import Mathlib.Data.List.Basic
import SiteSpiders.Pattern.Basic

/-!
# Preferred matches

Of the places that a pattern can end at, only the first counts for a match. For a literal
there is one such place or none, and for a lazy repetition in front of a literal it is the
place behind the shortest text that the literal follows.
-/
namespace SiteSpiders.Pattern

/-- The place behind a text that stands at a place. -/
def Place.pass (p : Place) : List Char → Place
  | [] => p
  | c :: text =>
    Place.pass { p with before := some c, rest := p.rest.tail, offset := p.offset + 1 } text

@[simp] theorem Place.pass_offset (p : Place) (text : List Char) :
    (p.pass text).offset = p.offset + text.length := by
  induction text generalizing p with
  | nil => rfl
  | cons c text ih =>
    simp only [pass, ih, List.length_cons]
    omega

@[simp] theorem Place.pass_rest (p : Place) (text : List Char) :
    (p.pass text).rest = p.rest.drop text.length := by
  induction text generalizing p with
  | nil => rfl
  | cons c text ih => simp [pass, ih]

@[simp] theorem Place.pass_groups (p : Place) (text : List Char) :
    (p.pass text).groups = p.groups := by
  induction text generalizing p with
  | nil => rfl
  | cons c text ih => simp [pass, ih]

/-- What a match takes from the place it ends at. -/
def Place.mark (p : Place) : Nat × List (Nat × Nat × Nat) := (p.offset, p.groups)

theorem head?_firstOfEach (ps : List Place) : (firstOfEach [] ps).head? = ps.head? := by
  cases ps with
  | nil => rfl
  | cons p ps => simp [firstOfEach]

lemma head?_run_cat (a b : Pattern) (p : Place) :
    ((cat a b).run p).head? = ((a.run p).flatMap b.run).head? := head?_firstOfEach _

theorem run_char (c : Char) (p : Place) :
    (char c).run p = if [c] <+: p.rest then [p.pass [c]] else [] := by
  rcases p with ⟨before, rest, offset, groups⟩
  cases rest with
  | nil => simp [char, one, run, Place.advance?]
  | cons d rest =>
    by_cases hd : d = c
    · simp [char, one, run, Place.advance?, Place.pass, hd]
    · have hne : c ≠ d := fun he => hd he.symm
      simp [char, one, run, Place.advance?, hd, hne]

/-- A text in a row is passed whole or not at all. -/
theorem run_sequence_char (text : List Char) (p : Place) :
    (sequence (text.map char)).run p = if text <+: p.rest then [p.pass text] else [] := by
  induction text generalizing p with
  | nil => simp [sequence, run, Place.pass]
  | cons c text ih =>
    cases text with
    | nil => exact run_char c p
    | cons d text =>
      have hcat : (sequence ((c :: d :: text).map char)).run p =
          firstOfEach [] (((char c).run p).flatMap (sequence ((d :: text).map char)).run) := rfl
      rw [hcat, run_char]
      cases hrest : p.rest with
      | nil => simp [firstOfEach]
      | cons x rest =>
        by_cases hx : c = x
        · have hpass : (p.pass [c]).pass (d :: text) = p.pass (c :: d :: text) := rfl
          simp only [hx, List.cons_prefix_cons, List.nil_prefix, and_true, true_and, if_true,
            List.flatMap_singleton, ih, Place.pass_rest, hrest, List.length_singleton,
            List.drop_succ_cons, List.drop_zero]
          subst hx
          split_ifs
          · rw [hpass]
            simp [firstOfEach]
          · rfl
        · simp [hx, firstOfEach]

theorem run_literal (text : String) (p : Place) :
    (literal text).run p = if text.toList <+: p.rest then [p.pass text.toList] else [] :=
  run_sequence_char text.toList p

/-- The shortest text of accepted characters that a literal follows. -/
def upTo? (accepts : Char → Bool) (closing : List Char) : List Char → Option (List Char)
  | [] => if closing = [] then some [] else none
  | c :: rest =>
    if closing <+: c :: rest then some []
    else if accepts c then (upTo? accepts closing rest).map (c :: ·)
    else none

section UpTo

variable {accepts : Char → Bool} {closing text : List Char}

/-- What is passed consists of accepted characters, and the literal follows it. -/
theorem prefix_of_upTo?_eq_some {cs : List Char} (h : upTo? accepts closing cs = some text) :
    text ++ closing <+: cs ∧ ∀ c ∈ text, accepts c = true := by
  induction cs generalizing text with
  | nil =>
    simp only [upTo?, Option.ite_none_right_eq_some, Option.some.injEq] at h
    obtain ⟨rfl, rfl⟩ := h
    simp
  | cons c cs ih =>
    rw [upTo?] at h
    split_ifs at h with hclosing haccepts
    · obtain rfl := Option.some.inj h
      exact ⟨hclosing, by simp⟩
    · obtain ⟨passed, hpassed, rfl⟩ := Option.map_eq_some_iff.mp h
      obtain ⟨hstart, hall⟩ := ih hpassed
      refine ⟨by simpa using hstart, fun d hd => ?_⟩
      rcases List.mem_cons.mp hd with rfl | hd
      · exact haccepts
      · exact hall d hd

/-- Wherever the literal follows accepted characters, something is passed, and no more than
these. -/
theorem exists_upTo?_of_prefix {cs : List Char} (hstart : text ++ closing <+: cs)
    (hall : ∀ c ∈ text, accepts c = true) :
    ∃ passed, upTo? accepts closing cs = some passed ∧ passed.length ≤ text.length := by
  induction text generalizing cs with
  | nil =>
    refine ⟨[], ?_, Nat.le_refl _⟩
    rw [List.nil_append] at hstart
    cases cs with
    | nil => simpa [upTo?] using hstart
    | cons c cs => rw [upTo?, if_pos hstart]
  | cons c text ih =>
    obtain ⟨cs, rfl, hbehind⟩ := List.cons_prefix_iff.mp hstart
    have haccepts : accepts c = true := hall c (by simp)
    obtain ⟨passed, hpassed, hlength⟩ := ih hbehind fun d hd => hall d (by simp [hd])
    by_cases hclosing : closing <+: c :: cs
    · exact ⟨[], by rw [upTo?, if_pos hclosing], by simp⟩
    · refine ⟨c :: passed, ?_, by simpa using hlength⟩
      rw [upTo?, if_neg hclosing, if_pos haccepts, hpassed]
      rfl

end UpTo

section Fewest

variable (accepts : Char → Bool)

theorem run_fewest (p : Place) :
    (fewest (one accepts)).run p =
      spans accepts p.before p.offset p.groups none p.rest := by
  simp [fewest, one, run, iterate]

/-- The preferred place of a group that is repeated lazily up to a literal. -/
theorem head?_spans (closing : String) (k start : Nat) (groups : List (Nat × Nat × Nat))
    (rest : List Char) (before : Option Char) (offset : Nat) :
    ((((spans accepts before offset groups none rest).map fun q : Place =>
        { q with groups := (k, start, q.offset) :: q.groups }).flatMap
          (literal closing).run).head?).map Place.mark =
      (upTo? accepts closing.toList rest).map fun text =>
        (offset + text.length + closing.toList.length,
          (k, start, offset + text.length) :: groups) := by
  induction rest generalizing before offset with
  | nil =>
    by_cases hclosing : closing.toList = []
    · simp [spans, upTo?, run_literal, hclosing, Place.mark]
    · simp [spans, upTo?, run_literal, hclosing]
  | cons c rest ih =>
    rw [spans, upTo?]
    by_cases hclosing : closing.toList <+: c :: rest
    · by_cases haccepts : accepts c
      · simp [haccepts, run_literal, hclosing, Place.mark]
      · simp [haccepts, run_literal, hclosing, Place.mark]
    · by_cases haccepts : accepts c
      · -- The literal does not stand here, so the choice is the one behind `c`.
        have hrest := ih (some c) (offset + 1)
        simp only [reduceCtorEq, if_false, haccepts, if_true, Option.map_none, List.map_cons,
          List.flatMap_cons, run_literal, hclosing, List.nil_append] at hrest ⊢
        rw [hrest, Option.map_map]
        congr 1
        funext text
        have hlength : offset + 1 + text.length = offset + (text.length + 1) := by omega
        simp only [Function.comp_apply, List.length_cons, hlength]
      · simp [haccepts, run_literal, hclosing]

end Fewest

section Leftmost

variable (pattern : Pattern) (before : Option Char) (offset : Nat)

/-- The match that ends at the preferred place, where there is one. -/
def matchAt? (cs : List Char) : Option Found :=
  ((pattern.run ⟨before, cs, offset, []⟩).head?.map Place.mark).map fun m => ⟨offset, m.1, m.2⟩

theorem findFrom_nil : pattern.findFrom before offset [] = pattern.matchAt? before offset [] := by
  rw [findFrom, matchAt?]
  cases pattern.run ⟨before, [], offset, []⟩ with
  | nil => rfl
  | cons q places => rfl

/-- A match is looked for here first and then one character on. -/
theorem findFrom_cons (c : Char) (rest : List Char) :
    pattern.findFrom before offset (c :: rest) =
      (pattern.matchAt? before offset (c :: rest)).or
        (pattern.findFrom (some c) (offset + 1) rest) := by
  rw [findFrom, matchAt?]
  cases pattern.run ⟨before, c :: rest, offset, []⟩ with
  | nil => rfl
  | cons q places => rfl

end Leftmost

end SiteSpiders.Pattern
