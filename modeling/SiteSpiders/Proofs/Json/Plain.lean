import Mathlib.Data.List.Basic
import SiteSpiders.Json.Printer

/-!
# Compact text is plain

Strings may hold any characters, but their control characters are escaped, and nothing is
written between tokens. So the compact text of a value has no control characters, and no
line feeds among them.
-/
namespace SiteSpiders

namespace Json

/-- Whether a text has no control characters. -/
def Plain (cs : List Char) : Prop := ∀ c ∈ cs, 0x20 ≤ c.toNat

theorem Plain.append {cs ds : List Char} (hc : Plain cs) (hd : Plain ds) : Plain (cs ++ ds) := by
  intro c h
  rcases List.mem_append.mp h with h | h
  · exact hc c h
  · exact hd c h

theorem Plain.cons {c : Char} {cs : List Char} (hc : 0x20 ≤ c.toNat) (h : Plain cs) :
    Plain (c :: cs) := by
  intro x hx
  rcases List.mem_cons.mp hx with rfl | hx
  · exact hc
  · exact h x hx

lemma Plain.of_subset {cs ds : List Char} (h : Plain ds) (sub : cs ⊆ ds) : Plain cs :=
  fun c hc => h c (sub hc)

theorem toDigits_plain (n : Nat) : Plain (Nat.toDigits 10 n) := by
  intro c hc
  have digit := Nat.isDigit_of_mem_toDigits (by decide) (by decide) hc
  simp only [Char.isDigit, Bool.and_eq_true, decide_eq_true_eq, ge_iff_le] at digit
  exact Nat.le_trans (by decide) (UInt32.le_iff_toNat_le.mp digit.1)

theorem hexText_plain (width n : Nat) : Plain (Number.hexText width n).toList := by
  have digits : ∀ w k, Plain (Number.hexText.digits w k) := by
    intro w
    induction w with
    | zero => simp [Number.hexText.digits, Plain]
    | succ w ih =>
      intro k
      refine (ih (k / 16)).append ?_
      have small : ∀ d < 16, 0x20 ≤
          (if d < 10 then Char.ofNat (d + 48) else Char.ofNat (d + 87)).toNat := by decide
      exact Plain.cons (small _ (Nat.mod_lt _ (by decide))) (by simp [Plain])
  simpa [Number.hexText] using digits width n

theorem controlEscape_plain (c : Char) : Plain (controlEscape c) := by
  unfold controlEscape
  split_ifs <;> simp [Plain]
  exact hexText_plain 4 c.toNat

theorem stringChar_plain (c : Char) : Plain (stringChar c) := by
  unfold stringChar
  split_ifs with _ _ hcontrol
  · simp [Plain]
  · simp [Plain]
  · exact controlEscape_plain c
  · exact .cons (Nat.not_lt.mp hcontrol) (by simp [Plain])

theorem quoted_plain (s : String) : Plain (quoted s) := by
  refine .cons (by decide) (.append ?_ (by simp [Plain]))
  intro c hc
  obtain ⟨x, -, hx⟩ := List.mem_flatMap.mp hc
  exact stringChar_plain x c hx

theorem pointed_plain {cs : List Char} (h : Plain cs) : Plain (pointed cs) := by
  fun_cases pointed cs with
  | case1 => exact h
  | case2 => exact h
  | case3 d rest =>
    refine .cons (h d List.mem_cons_self) (.cons (by decide) ?_)
    exact h.of_subset (List.subset_cons_self d rest)

theorem replicate_plain (n : Nat) : Plain (List.replicate n '0') := by
  intro c hc
  rw [(List.mem_replicate.mp hc).2]
  decide

theorem positiveDouble_plain (m : Nat) (e : Int) : Plain (positiveDouble m e) := by
  unfold positiveDouble
  dsimp only
  split_ifs
  · exact ((toDigits_plain _).append (replicate_plain _)).append (by simp [Plain])
  · refine ((toDigits_plain _).of_subset (List.take_subset _ _)).append (.cons (by decide) ?_)
    exact (toDigits_plain _).of_subset (List.drop_subset _ _)
  · exact .cons (by decide) (.cons (by decide) ((replicate_plain _).append (toDigits_plain _)))
  · exact (pointed_plain (toDigits_plain _)).append
      (.cons (by decide) (.cons (by decide) (toDigits_plain _)))
  · exact (pointed_plain (toDigits_plain _)).append
      (.cons (by decide) (.cons (by decide) (toDigits_plain _)))

theorem numberChars_plain (n : JsonNumber) : Plain (numberChars n) := by
  cases n with
  | natural n => exact toDigits_plain n
  | negative n => exact .cons (by decide) (toDigits_plain n)
  | floating x =>
    cases x with
    | nan => simp [numberChars, doubleChars, Plain]
    | infinite s => simp [numberChars, doubleChars, Plain]
    | finite s m e =>
      refine Plain.append ?_ ?_
      · split_ifs <;> simp [Plain]
      · split_ifs
        · simp [Plain]
        · exact positiveDouble_plain m e

theorem commaJoin_plain {parts : List (List Char)} (h : ∀ part ∈ parts, Plain part) :
    Plain (commaJoin parts) := by
  fun_induction commaJoin parts with
  | case1 => simp [Plain]
  | case2 part => exact h part List.mem_cons_self
  | case3 part rest _ ih =>
    refine (h part List.mem_cons_self).append (.cons (by decide) (ih fun p hp => ?_))
    exact h p (List.mem_cons_of_mem _ hp)

mutual
theorem chars_plain : ∀ j : Json, Plain j.chars
  | .null => by simp [chars, Plain]
  | .bool b => by cases b <;> simp [chars, Plain]
  | .number n => by simpa [chars] using numberChars_plain n
  | .string s => by simpa [chars] using quoted_plain s
  | .array items => by
    rw [chars]
    exact .cons (by decide) ((commaJoin_plain (itemChars_plain items)).append (by simp [Plain]))
  | .object fields => by
    rw [chars]
    exact .cons (by decide) ((commaJoin_plain (fieldChars_plain fields)).append (by simp [Plain]))

theorem itemChars_plain : ∀ (items : List Json), ∀ part ∈ itemChars items, Plain part
  | [] => by simp [itemChars]
  | item :: rest => by
    rw [itemChars, List.forall_mem_cons]
    exact ⟨chars_plain item, itemChars_plain rest⟩

theorem fieldChars_plain :
    ∀ (fields : List (String × Json)), ∀ part ∈ fieldChars fields, Plain part
  | [] => by simp [fieldChars]
  | (key, value) :: rest => by
    rw [fieldChars, List.forall_mem_cons]
    exact ⟨(quoted_plain key).append (.cons (by decide) (chars_plain value)),
      fieldChars_plain rest⟩
end

end Json

end SiteSpiders
