import Mathlib.Data.List.Infix
import SiteSpiders.Unicode.Casing

/-!
# Lower case of a part

What lower-casing a text makes of a part of it. Only a capital sigma takes a form that depends on
its surroundings, and of those only on the nearest character on either side that casing does not
look through. So a part that stands in a text may read differently there than alone. The sigmas
that can do so are told from the part itself, and a part without them has one lower case.
-/
namespace SiteSpiders.Unicode

/-- The first character of a text that casing does not look through. -/
def firstSeen? (cs : List Char) : Option Char := cs.find? fun c => !isCaseIgnorable c

/-- The last character of a text that casing does not look through. -/
def lastSeen? (cs : List Char) : Option Char := firstSeen? cs.reverse

theorem casedAhead_eq (cs : List Char) : casedAhead cs = (firstSeen? cs).any isCased := by
  induction cs with
  | nil => rfl
  | cons c rest ih =>
    rw [casedAhead, ih, firstSeen?, firstSeen?, List.find?_cons]
    cases isCaseIgnorable c <;> rfl

@[simp] theorem firstSeen?_nil : firstSeen? [] = none := rfl

@[simp] theorem firstSeen?_append (xs ys : List Char) :
    firstSeen? (xs ++ ys) = (firstSeen? xs).or (firstSeen? ys) := List.find?_append

@[simp] theorem lastSeen?_append (xs ys : List Char) :
    lastSeen? (xs ++ ys) = (lastSeen? ys).or (lastSeen? xs) := by
  simp [lastSeen?]

/-- Whether a capital sigma between two texts ends a word: of the characters that casing does not
look through, the last one before it is cased and the first one after it is not. -/
def EndsWord (before after : List Char) : Prop :=
  (lastSeen? before).any isCased = true ∧ (firstSeen? after).any isCased = false

instance (before after : List Char) : Decidable (EndsWord before after) :=
  inferInstanceAs (Decidable (_ ∧ _))

/-- The small form of a capital sigma between two texts. -/
def sigmaForm (before after : List Char) : Char := if EndsWord before after then 'ς' else 'σ'

/-- Whether a character is one of the small forms of sigma. -/
def isSmallSigma (c : Char) : Bool := c == 'σ' || c == 'ς'

theorem isSmallSigma_sigmaForm (before after : List Char) :
    isSmallSigma (sigmaForm before after) = true := by
  unfold sigmaForm
  split_ifs <;> rfl

theorem sigmaForm_eq_iff {before after before' after' : List Char} :
    sigmaForm before after = sigmaForm before' after' ↔
      (EndsWord before after ↔ EndsWord before' after') := by
  unfold sigmaForm
  by_cases h : EndsWord before after <;> by_cases h' : EndsWord before' after' <;> simp [h, h']

/-- Lower case of a character between two texts. -/
def lowerBetween (before : List Char) (c : Char) (after : List Char) : List Char :=
  if c = 'Σ' then [sigmaForm before after] else lowerChar c

/-- Lower case of a part of a text, given what stands before and after the part. -/
def lowerPart (before : List Char) : List Char → List Char → List Char
  | [], _ => []
  | c :: rest, after =>
    lowerBetween before c (rest ++ after) ++ lowerPart (before ++ [c]) rest after

theorem lowerFrom_cons (before : List Char) (c : Char) (rest : List Char) :
    lowerFrom before.reverse (c :: rest) =
      lowerBetween before c rest ++ lowerFrom (before ++ [c]).reverse rest := by
  have hsigma : (c.toNat == 0x3a3) = decide (c = 'Σ') :=
    decide_eq_decide.mpr (Char.toNat_inj (d := 'Σ'))
  have hform : (if casedAhead before.reverse && !casedAhead rest then [Char.ofNat 0x3c2]
      else [Char.ofNat 0x3c3]) = [sigmaForm before rest] := by
    have hends : (casedAhead before.reverse && !casedAhead rest) = true ↔ EndsWord before rest := by
      simp [casedAhead_eq, EndsWord, lastSeen?]
    simp only [hends, sigmaForm]
    split_ifs <;> rfl
  rw [lowerFrom, hsigma, hform, lowerBetween, List.reverse_append]
  simp

/-- A part is lowered in the light of what stands around it, and the rest after it. -/
theorem lowerFrom_append (before part after : List Char) :
    lowerFrom before.reverse (part ++ after) =
      lowerPart before part after ++ lowerFrom (before ++ part).reverse after := by
  induction part generalizing before with
  | nil => simp [lowerPart]
  | cons c rest ih =>
    rw [List.cons_append, lowerFrom_cons, ih, lowerPart, List.append_assoc, List.append_assoc]
    rfl

theorem toList_lower (s : String) : (lower s).toList = lowerPart [] s.toList [] := by
  have h := lowerFrom_append [] s.toList []
  rw [List.append_nil, lowerFrom, List.append_nil] at h
  rw [lower, String.toList_ofList]
  exact h

/-- The lower case of a text that is put together from three is put together from theirs, each in
its place. -/
theorem toList_lower_append (a p b : String) :
    (lower (a ++ p ++ b)).toList =
      lowerPart [] a.toList (p.toList ++ b.toList) ++ lowerPart a.toList p.toList b.toList ++
        lowerPart (a.toList ++ p.toList) b.toList [] := by
  have ha := lowerFrom_append [] a.toList (p.toList ++ b.toList)
  have hp := lowerFrom_append a.toList p.toList b.toList
  have hb := lowerFrom_append (a.toList ++ p.toList) b.toList []
  rw [List.append_nil, lowerFrom, List.append_nil] at hb
  rw [List.nil_append, hp, hb] at ha
  rw [lower, String.toList_ofList, String.toList_append, String.toList_append, List.append_assoc,
    List.append_assoc]
  exact ha

section Forms

variable {q : Char → Bool} (hq : ∀ c, isSmallSigma c = true → q c = true)
include hq

theorem length_filter_lowerBetween (before before' : List Char) (c : Char)
    (after after' : List Char) :
    ((lowerBetween before c after).filter q).length =
      ((lowerBetween before' c after').filter q).length := by
  unfold lowerBetween
  split_ifs
  · simp [hq _ (isSmallSigma_sigmaForm _ _)]
  · rfl

/-- The surroundings of a part do not change how many characters its lower case has of a kind that
both small sigmas are of. -/
theorem length_filter_lowerPart (before before' part after after' : List Char) :
    ((lowerPart before part after).filter q).length =
      ((lowerPart before' part after').filter q).length := by
  induction part generalizing before before' with
  | nil => rfl
  | cons c rest ih =>
    simp only [lowerPart, List.filter_append, List.length_append]
    rw [length_filter_lowerBetween hq before before' c _ (rest ++ after'), ih]

theorem filter_lowerBetween_eq_iff {before before' : List Char} {c : Char}
    {after after' : List Char} :
    (lowerBetween before c after).filter q = (lowerBetween before' c after').filter q ↔
      (c = 'Σ' → (EndsWord before after ↔ EndsWord before' after')) := by
  unfold lowerBetween
  split_ifs with hc
  · simp [hq _ (isSmallSigma_sigmaForm _ _), hc, sigmaForm_eq_iff]
  · simp [hc]

/-- A part is lowered alike in two places just if each capital sigma in it ends a word in both or in
neither, and looking at the sigmas alone tells as much. -/
theorem filter_lowerPart_eq_iff {before before' part after after' : List Char} :
    (lowerPart before part after).filter q = (lowerPart before' part after').filter q ↔
      ∀ x y, part = x ++ 'Σ' :: y →
        (EndsWord (before ++ x) (y ++ after) ↔ EndsWord (before' ++ x) (y ++ after')) := by
  induction part generalizing before before' with
  | nil => simp [lowerPart]
  | cons c rest ih =>
    simp only [lowerPart, List.filter_append]
    constructor
    · intro h x y hpart
      -- the heads are equally long, so that they agree and the rests do
      obtain ⟨hhead, hrest⟩ := List.append_inj h (length_filter_lowerBetween hq _ _ _ _ _)
      rcases List.cons_eq_append_iff.mp hpart with ⟨rfl, htail⟩ | ⟨x', rfl, htail⟩
      · obtain ⟨rfl, rfl⟩ := List.cons.inj htail
        simpa using (filter_lowerBetween_eq_iff hq).mp hhead rfl
      · simpa using ih.mp hrest x' y htail
    · intro h
      have hhead : (lowerBetween before c (rest ++ after)).filter q =
          (lowerBetween before' c (rest ++ after')).filter q := by
        apply (filter_lowerBetween_eq_iff hq).mpr
        intro hc
        simpa using h [] rest (by rw [hc, List.nil_append])
      have hrest : (lowerPart (before ++ [c]) rest after).filter q =
          (lowerPart (before' ++ [c]) rest after').filter q := by
        apply ih.mpr
        intro x y htail
        simpa using h (c :: x) y (by rw [htail, List.cons_append])
      rw [hhead, hrest]

end Forms

/-- Whether a text keeps its lower case between two others: each capital sigma in it ends a word
there just if it does so in the text alone. -/
def KeepsForms (a p b : String) : Prop :=
  ∀ x y, p.toList = x ++ 'Σ' :: y → (EndsWord (a.toList ++ x) (y ++ b.toList) ↔ EndsWord x y)

theorem filter_lowerPart_eq_iff_keepsForms {q : Char → Bool}
    (hq : ∀ c, isSmallSigma c = true → q c = true) {a p b : String} :
    (lowerPart a.toList p.toList b.toList).filter q = (lower p).toList.filter q ↔
      KeepsForms a p b := by
  rw [toList_lower, filter_lowerPart_eq_iff hq]
  simp [KeepsForms]

/-- Whether a text has no sigma, up to case. -/
def SigmaFree (s : String) : Prop := ∀ c ∈ (lower s).toList, isSmallSigma c = false

/-- A text that keeps its lower case occurs in the lower case of the whole. -/
theorem KeepsForms.occurs {a p b : String} (h : KeepsForms a p b) :
    (lower p).toList <:+: (lower (a ++ p ++ b)).toList := by
  have hpart : lowerPart a.toList p.toList b.toList = (lower p).toList := by
    simpa using (filter_lowerPart_eq_iff_keepsForms (q := fun _ => true) (fun _ _ => rfl)).mpr h
  rw [toList_lower_append, hpart]
  exact ⟨_, _, rfl⟩

theorem SigmaFree.filter_lowerPart {s : String} (h : SigmaFree s) (before after : List Char) :
    (lowerPart before s.toList after).filter isSmallSigma = [] := by
  have halone : (lowerPart [] s.toList []).filter isSmallSigma = [] := by
    rw [← toList_lower]
    exact List.filter_eq_nil_iff.mpr fun c hc => by simp [h c hc]
  rw [← List.length_eq_zero_iff, length_filter_lowerPart (fun _ => id) before [] _ after [], halone]
  rfl

/-- Between texts without a sigma, a text occurs in the lower case of the whole only by keeping its
own: the sigmas of the whole are those of the text, so they would have to agree one by one. -/
theorem KeepsForms.of_occurs {a p b : String} (ha : SigmaFree a) (hb : SigmaFree b)
    (h : (lower p).toList <:+: (lower (a ++ p ++ b)).toList) : KeepsForms a p b := by
  have hsigmas := h.filter isSmallSigma
  rw [toList_lower_append, List.filter_append, List.filter_append, ha.filter_lowerPart,
    hb.filter_lowerPart, List.nil_append, List.append_nil] at hsigmas
  have hlength : ((lower p).toList.filter isSmallSigma).length =
      ((lowerPart a.toList p.toList b.toList).filter isSmallSigma).length := by
    rw [toList_lower]
    exact length_filter_lowerPart (fun _ => id) _ _ _ _ _
  apply (filter_lowerPart_eq_iff_keepsForms fun _ => id).mp
  exact (hsigmas.eq_of_length hlength).symm

/-- Whether a text settles the forms of its capital sigmas: each of them has a character to be seen
before it in the text unless a cased one follows, and one to be seen after it if a cased one
precedes. -/
def Settled (p : String) : Prop :=
  ∀ x y, p.toList = x ++ 'Σ' :: y →
    ((firstSeen? y).any isCased = false → lastSeen? x ≠ none) ∧
      ((lastSeen? x).any isCased = true → firstSeen? y ≠ none)

theorem settled_of_not_mem {p : String} (h : 'Σ' ∉ p.toList) : Settled p := by
  intro x y hp
  exact absurd (hp ▸ List.mem_append_right x List.mem_cons_self) h

theorem Settled.keepsForms {p : String} (h : Settled p) (a b : String) : KeepsForms a p b := by
  intro x y hp
  obtain ⟨hbefore, hafter⟩ := h x y hp
  simp only [EndsWord, lastSeen?_append, firstSeen?_append]
  cases hx : lastSeen? x with
  | none =>
    -- nothing shows before the sigma, so that a cased character follows
    cases hy : firstSeen? y with
    | none => exact absurd hx (hbefore (by rw [hy]; rfl))
    | some d =>
      have hcased : isCased d = true := by
        by_contra hnot
        exact hbefore (by simp [hy, hnot]) hx
      simp [hcased]
  | some c =>
    cases hy : firstSeen? y with
    | none =>
      -- nothing shows after the sigma, so that no cased character precedes
      have huncased : isCased c = false := by
        by_contra hnot
        exact hafter (by simp [hx, hnot]) hy
      simp [huncased]
    | some d => simp

theorem settled_of_keepsForms {p : String} (left : KeepsForms "A" p "")
    (right : KeepsForms "" p "A") : Settled p := by
  have hfirst : firstSeen? "A".toList = some 'A' := by decide
  have hlast : lastSeen? "A".toList = some 'A' := by decide
  have hcased : isCased 'A' = true := by decide
  refine fun x y hp => ⟨fun hy hx => ?_, fun hx hy => ?_⟩
  · have h := left x y hp
    simp only [EndsWord, lastSeen?_append, firstSeen?_append, hlast, hx, hy] at h
    simp [hcased, hy] at h
  · have h := right x y hp
    simp only [EndsWord, lastSeen?_append, firstSeen?_append, hfirst, hx, hy] at h
    simp [hcased] at h

theorem sigmaFree_empty : SigmaFree "" := by
  have hlower : (lower "").toList = [] := by decide
  intro c hc
  rw [hlower] at hc
  cases hc

theorem sigmaFree_letter : SigmaFree "A" := by
  have hlower : (lower "A").toList = ['a'] := by decide
  intro c hc
  rw [hlower] at hc
  rw [List.mem_singleton.mp hc]
  rfl

end SiteSpiders.Unicode
