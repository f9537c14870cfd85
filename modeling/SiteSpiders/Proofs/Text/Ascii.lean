import Mathlib.Data.List.Basic
import SiteSpiders.Proofs.Url.HostText
import SiteSpiders.Text.Utf8
import SiteSpiders.Unicode.Canonical

/-!
# ASCII texts

A text of ASCII characters has one byte for each of them, it is read back from these bytes, and
canonical composition leaves it as it is.
-/
namespace SiteSpiders

namespace Text

/-- Whether a text has ASCII characters only. -/
def Ascii (cs : List Char) : Prop := ∀ c ∈ cs, c.toNat < 0x80

instance (cs : List Char) : Decidable (Ascii cs) :=
  List.decidableBAll _ cs

lemma ascii_nil : Ascii [] := by simp [Ascii]

theorem Ascii.append {cs ds : List Char} (hc : Ascii cs) (hd : Ascii ds) : Ascii (cs ++ ds) := by
  intro c h
  rcases List.mem_append.mp h with h | h
  · exact hc c h
  · exact hd c h

theorem Ascii.cons {c : Char} {cs : List Char} (hc : c.toNat < 0x80) (h : Ascii cs) :
    Ascii (c :: cs) := by
  intro x hx
  rcases List.mem_cons.mp hx with rfl | hx
  · exact hc
  · exact h x hx

lemma Ascii.of_subset {cs ds : List Char} (h : Ascii ds) (sub : cs ⊆ ds) : Ascii cs :=
  fun c hc => h c (sub hc)

theorem Ascii.utf8Encode {cs : List Char} (h : Ascii cs) :
    utf8Encode cs = cs.map Char.toNat := by
  induction cs with
  | nil => rfl
  | cons c cs ih =>
    have hbytes : utf8Bytes c = [c.toNat] := if_pos (h c (by simp))
    have hrest := ih (h.of_subset (List.subset_cons_self c cs))
    rw [Text.utf8Encode, List.flatMap_cons, hbytes, List.map_cons, ← hrest]
    rfl

theorem Ascii.utf8Decode? {cs : List Char} (h : Ascii cs) :
    utf8Decode? (cs.map Char.toNat) = some cs := by
  induction cs with
  | nil => simp [Text.utf8Decode?]
  | cons c cs ih =>
    have hrest := ih (h.of_subset (List.subset_cons_self c cs))
    rw [List.map_cons, Text.utf8Decode?.eq_def]
    simp [h c (by simp), hrest, Char.ofNat_toNat]

section Divide

variable {α : Type} [DecidableEq α] {divider : α}

theorem divide_cons (x : α) (xs : List α) :
    divide divider (x :: xs) = if x = divider then [] :: divide divider xs
      else (x :: (partsOf divider xs).1) :: (partsOf divider xs).2 := by
  by_cases hx : x = divider <;> simp [divide, partsOf, hx]

/-- No part holds a divider. -/
theorem not_mem_of_mem_divide {part xs : List α} (h : part ∈ divide divider xs) :
    divider ∉ part := by
  induction xs generalizing part with
  | nil =>
    have hpart : part = [] := by simpa [divide, partsOf] using h
    simp [hpart]
  | cons x xs ih =>
    rw [divide_cons] at h
    split_ifs at h with hx
    · rcases List.mem_cons.mp h with rfl | h
      · simp
      · exact ih h
    · rcases List.mem_cons.mp h with rfl | h
      · have hfirst : divider ∉ (partsOf divider xs).1 := ih List.mem_cons_self
        exact List.not_mem_cons_of_ne_of_not_mem (Ne.symm hx) hfirst
      · exact ih (List.mem_cons_of_mem _ h)

theorem divide_joinWith {parts : List (List α)} (some_ : parts ≠ [])
    (clear : ∀ part ∈ parts, divider ∉ part) :
    divide divider (joinWith divider parts) = parts := by
  induction parts with
  | nil => exact absurd rfl some_
  | cons part parts ih =>
    have hpart := clear part (by simp)
    cases parts with
    | nil => exact divide_of_not_mem hpart
    | cons next parts =>
      have hrest := ih (by simp) fun p hp => clear p (by simp [hp])
      show divide divider (part ++ divider :: joinWith divider (next :: parts)) = _
      rw [divide_append _ hpart, hrest]

end Divide

theorem map_joinWith {α β : Type} (f : α → β) (divider : α) (parts : List (List α)) :
    (joinWith divider parts).map f = joinWith (f divider) (parts.map (·.map f)) := by
  induction parts with
  | nil => rfl
  | cons part parts ih =>
    cases parts with
    | nil => rfl
    | cons next parts => simpa [joinWith] using ih

theorem mem_joinWith {α : Type} {divider x : α} {parts : List (List α)}
    (h : x ∈ joinWith divider parts) : x = divider ∨ ∃ part ∈ parts, x ∈ part := by
  induction parts with
  | nil => cases h
  | cons part parts ih =>
    cases parts with
    | nil => exact .inr ⟨part, by simp, h⟩
    | cons next parts =>
      rcases List.mem_append.mp h with h | h
      · exact .inr ⟨part, by simp, h⟩
      rcases List.mem_cons.mp h with rfl | h
      · exact .inl rfl
      · obtain hx | ⟨p, hp, hx⟩ := ih h
        · exact .inl hx
        · exact .inr ⟨p, by simp [hp], hx⟩

theorem mem_joinWith_of_mem {α : Type} {divider x : α} {part : List α} {parts : List (List α)}
    (hpart : part ∈ parts) (hx : x ∈ part) : x ∈ joinWith divider parts := by
  induction parts with
  | nil => cases hpart
  | cons first parts ih =>
    cases parts with
    | nil => simpa [joinWith, List.mem_singleton.mp hpart] using hx
    | cons next parts =>
      rw [joinWith, List.mem_append, List.mem_cons]
      · rcases List.mem_cons.mp hpart with rfl | hpart
        · exact .inl hx
        · exact .inr (.inr (ih hpart))
      · simp

end Text

namespace Unicode

/-- ASCII does not decompose, and no mark is in it that could compose. -/
theorem composed_ascii {ns : List Nat} (h : ∀ n ∈ ns, n < 0x80) : composed ns = ns := by
  have hclass : ∀ n ∈ ns, combiningClass n = 0 := fun n hn =>
    if_pos (Nat.lt_trans (h n hn) (by decide))
  have hdecompose : ns.flatMap decompose = ns := by
    have hsame : ∀ n ∈ ns, decompose n = [n] := fun n hn =>
      if_pos (Nat.lt_trans (h n hn) (by decide))
    rw [List.flatMap_congr hsame]
    simp
  have horder : orderMarks [] ns = ns := by
    clear hdecompose h
    induction ns with
    | nil => rfl
    | cons n ns ih =>
      rw [orderMarks, if_pos (hclass n (by simp)), ih fun m hm => hclass m (by simp [hm])]
      rfl
  have hcompose : ∀ {s : Nat} {ns : List Nat}, (∀ n ∈ ns, n < 0x80) →
      composeFrom (some s) [] ns = s :: ns := by
    intro s ns hns
    induction ns generalizing s with
    | nil => rfl
    | cons n ns ih =>
      have hn : n < firstMark := Nat.lt_trans (hns n (by simp)) (by decide)
      have hpair : composePair? s n = none := if_pos hn
      have hzero : combiningClass n = 0 := if_pos hn
      simp only [composeFrom, hpair, hzero, if_true, ih fun m hm => hns m (by simp [hm])]
      rfl
  rw [composed, hdecompose, horder]
  cases ns with
  | nil => rfl
  | cons n ns =>
    rw [composeFrom]
    simp only [hclass n (by simp), if_true]
    exact hcompose fun m hm => h m (by simp [hm])

end Unicode

end SiteSpiders
