import SiteSpiders.Proofs.Url.Identity
import SiteSpiders.Retry.Policy

/-!
# Categories are known by their labels

A quoted literal can be read off character by character: a character stands for itself,
for a short form behind a backslash, or for a code point between braces, and none of these
is the beginning of another. So no two texts share a literal, and no two categories of a
policy share a label, whatever the names of the custom ones.
-/
namespace SiteSpiders.Text

/-- The characters that have a short form in literals, with the mark behind the backslash. -/
def shortForms : List (Char × Char) :=
  [('"', '"'), ('\\', '\\'), ('\n', 'n'), ('\r', 'r'), ('\t', 't'), (Char.ofNat 0, '0')]

/-- The ways in which a character is written in a literal. -/
inductive Written (c : Char) : List Char → Prop
  | plain (clear : c ≠ '\\') : Written c [c]
  | short {mark : Char} (form : (c, mark) ∈ shortForms) : Written c ['\\', mark]
  | coded : Written c (['\\', 'u', '\x7b'] ++ hexDigits c.toNat ++ ['\x7d'])

theorem written_literalChar (c : Char) : Written c (literalChar c) := by
  unfold literalChar
  split_ifs with quote backslash feed back tab nul code
  · exact .short (by simp [shortForms, quote])
  · exact .short (by simp [shortForms, backslash])
  · exact .short (by simp [shortForms, feed])
  · exact .short (by simp [shortForms, back])
  · exact .short (by simp [shortForms, tab])
  · have hnul : c = Char.ofNat 0 := Char.toNat_inj.mp nul
    exact .short (by simp [shortForms, hnul])
  · exact .coded
  · exact .plain backslash

theorem shortForms_marks :
    (shortForms.map Prod.snd).Nodup ∧ 'u' ∉ shortForms.map Prod.snd := by
  decide

theorem brace_not_mem_hexDigits (n : Nat) : ∀ c ∈ hexDigits n, (c != '\x7d') = true := by
  intro c hc
  obtain ⟨d, hd, rfl⟩ := mem_toDigits (by decide) hc
  have hall : ∀ d < 16, (Nat.digitChar d != '\x7d') = true := by decide
  exact hall d hd

theorem coded_inj {c d : Char} {x y : List Char}
    (h : hexDigits c.toNat ++ '\x7d' :: x = hexDigits d.toNat ++ '\x7d' :: y) : c = d ∧ x = y := by
  obtain ⟨hdigits, hrest⟩ := eq_of_append_eq (brace_not_mem_hexDigits _)
    (brace_not_mem_hexDigits _) (by simp) (by simp) h
  exact ⟨Char.toNat_inj.mp (toDigits_inj (by decide) (by decide) hdigits), (List.cons.inj hrest).2⟩

/-- What a character is written as tells where it ends and which it is. -/
theorem Written.inj {c d : Char} {a b x y : List Char} (hc : Written c a) (hd : Written d b)
    (h : a ++ x = b ++ y) : c = d ∧ x = y := by
  obtain ⟨hnodup, hopen⟩ := shortForms_marks
  cases hc with
  | plain clear =>
    cases hd with
    | plain => exact List.cons.inj h
    | short => exact absurd (List.cons.inj h).1 clear
    | coded => exact absurd (List.cons.inj h).1 clear
  | @short mark form =>
    cases hd with
    | plain clear => exact absurd (List.cons.inj h).1.symm clear
    | @short mark' form' =>
      obtain ⟨hmark, hrest⟩ := List.cons.inj (List.cons.inj h).2
      have hsame := List.inj_on_of_nodup_map hnodup form form' hmark
      exact ⟨congrArg Prod.fst hsame, hrest⟩
    | coded =>
      have hmark : mark = 'u' := (List.cons.inj (List.cons.inj h).2).1
      exact absurd (List.mem_map.mpr ⟨_, form, hmark⟩) hopen
  | coded =>
    cases hd with
    | plain clear => exact absurd (List.cons.inj h).1.symm clear
    | @short mark form =>
      have hmark : 'u' = mark := (List.cons.inj (List.cons.inj h).2).1
      exact absurd (List.mem_map.mpr ⟨_, form, hmark.symm⟩) hopen
    | coded => exact coded_inj (by simpa using h)

/-- A text is known by the characters of its literal. -/
theorem flatMap_literalChar_inj {s t : List Char}
    (h : s.flatMap literalChar = t.flatMap literalChar) : s = t := by
  have written_ne : ∀ c, literalChar c ≠ [] := by
    intro c hnil
    have hwritten := written_literalChar c
    rw [hnil] at hwritten
    cases hwritten
  induction s generalizing t with
  | nil =>
    cases t with
    | nil => rfl
    | cons d t =>
      rw [List.flatMap_cons] at h
      exact absurd (List.append_eq_nil_iff.mp h.symm).1 (written_ne d)
  | cons c s ih =>
    cases t with
    | nil =>
      rw [List.flatMap_cons] at h
      exact absurd (List.append_eq_nil_iff.mp h).1 (written_ne c)
    | cons d t =>
      rw [List.flatMap_cons, List.flatMap_cons] at h
      obtain ⟨rfl, hrest⟩ := (written_literalChar c).inj (written_literalChar d) h
      rw [ih hrest]

theorem literal_injective : Function.Injective literal := by
  intro s t h
  have hinner := (List.cons.inj (String.ofList_injective h)).2
  exact String.toList_injective (flatMap_literalChar_inj (List.append_inj' hinner rfl).1)

end SiteSpiders.Text

namespace SiteSpiders.Retry

/-- The categories that have no name of their own. -/
def plainCategories : List Category := [.rateLimit, .serverError, .botDetection]

theorem Category.plain_or_custom (c : Category) :
    c ∈ plainCategories ∨ ∃ name, c = .custom name := by
  cases c with
  | custom name => exact Or.inr ⟨name, rfl⟩
  | _ => exact Or.inl (by decide)

theorem toList_label_custom (name : String) :
    (Category.custom name).label.toList =
      "Custom(".toList ++ (Text.literal name).toList ++ [')'] := by
  simp [Category.label]

theorem label_ne_custom {c : Category} (plain : c ∈ plainCategories) (name : String) :
    c.label ≠ (Category.custom name).label := by
  intro h
  have hhead : ∀ c ∈ plainCategories, c.label.toList.head? ≠ some 'C' := by decide
  refine hhead c plain ?_
  rw [h, toList_label_custom]
  rfl

theorem Category.label_injective : Function.Injective Category.label := by
  intro a b h
  rcases a.plain_or_custom with plain | ⟨name, rfl⟩
  · rcases b.plain_or_custom with plain' | ⟨name', rfl⟩
    · have hplain : ∀ a ∈ plainCategories, ∀ b ∈ plainCategories, a.label = b.label → a = b := by
        decide
      exact hplain a plain b plain' h
    · exact absurd h (label_ne_custom plain name')
  · rcases b.plain_or_custom with plain' | ⟨name', rfl⟩
    · exact absurd h.symm (label_ne_custom plain' name)
    · have hlist := congrArg String.toList h
      rw [toList_label_custom, toList_label_custom] at hlist
      have hinner := List.append_cancel_left (List.append_cancel_right hlist)
      rw [Text.literal_injective (String.toList_injective hinner)]

end SiteSpiders.Retry
