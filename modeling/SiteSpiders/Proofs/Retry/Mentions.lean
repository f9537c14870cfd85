import SiteSpiders.Proofs.Retry.History
import SiteSpiders.Proofs.Retry.Range
import SiteSpiders.Proofs.Unicode.Lowering

/-!
# Texts that ask for another attempt

When a body in which a text stands is tried again by a category that asks for the text. Text and
body are put into lower case apart from each other, so that the text is missed where it reads
differently in the body than alone. A text is found in every body in which it stands exactly if it
settles the forms of its own capital sigmas.
-/
namespace SiteSpiders.Retry

open Unicode

theorem occursIn_iff {needle cs : List Char} : occursIn needle cs = true ↔ needle <:+: cs := by
  induction cs with
  | nil => simp [occursIn]
  | cons c rest ih =>
    rw [occursIn, Bool.or_eq_true, List.isPrefixOf_iff_prefix, ih, List.infix_cons_iff]

lemma mentions_iff {text body : String} :
    mentions text body = true ↔ (lower text).toList <:+: (lower body).toList := occursIn_iff

/-- Whether a body is tried again by every policy that asks for a text. Whatever the counters and
the order in which the categories are walked, if one of those that ask for the text has attempts
left, then one with attempts left is chosen, at a delay to be waited for if it can be computed. -/
def RetriedFor (text body : String) : Prop :=
  ∀ (policy : Policy) (c : Counters) (walk : List (Category × CategoryConfig)) (url : Url)
    (status : ℕ), walk.Perm policy.categories →
    (∃ k ∈ policy.categories, .text text ∈ k.2.conditions ∧
      (c.usage url).count k.1 < k.2.maxRetries) →
    ∃ k ∈ policy.categories, ∃ attempt < k.2.maxRetries,
      (c.consider walk url status body).1 = some (k.1, k.2.delay attempt) ∧
        (k.2.Computes attempt → ∃ delay,
          (c.consider walk url status body).1 = some (k.1, .ok delay))

/-- The treatment of a category that asks for a text and for nothing else. -/
def askingFor (text : String) : CategoryConfig where
  conditions := [.text text]

theorem applies_askingFor (text : String) (status : ℕ) (body : String) :
    (askingFor text).applies status body = mentions text body := by
  simp [CategoryConfig.applies, askingFor, Condition.holds]

theorem retriedFor_of_mentions {text body : String} (h : mentions text body = true) :
    RetriedFor text body := by
  rintro policy c walk url status order ⟨k, hk, hasks, hleft⟩
  have happlies : k.2.applies status body = true := List.any_eq_true.mpr ⟨_, hasks, h⟩
  rcases c.consider_cases walk url status body with ⟨-, hspent⟩ | ⟨m, hm, -, hattempt, heq⟩
  · exact absurd hleft (hspent k (order.mem_iff.mpr hk) happlies).not_gt
  · rw [heq]
    refine ⟨m, order.mem_iff.mp hm, _, hattempt, rfl, fun hcomputes => ?_⟩
    obtain ⟨delay, hdelay⟩ := CategoryConfig.delay_ok hcomputes
    exact ⟨delay, by rw [hdelay]⟩

/-- A body that is tried again has the text: else a category that asks for it alone is not
chosen. -/
theorem mentions_of_retriedFor {text body : String} (h : RetriedFor text body) :
    mentions text body = true := by
  have hleft : (({} : Counters).usage default).count .rateLimit < (askingFor text).maxRetries :=
    Nat.zero_lt_succ 2
  obtain ⟨_, -, _, -, hverdict, -⟩ := h ⟨[(.rateLimit, askingFor text)]⟩ {}
    [(.rateLimit, askingFor text)] default 200 (List.Perm.refl _)
    ⟨_, List.mem_singleton_self _, List.mem_singleton_self _, hleft⟩
  rcases Counters.consider_cases {} [(.rateLimit, askingFor text)] default 200 body with
    ⟨hnone, -⟩ | ⟨m, hm, happlies, -⟩
  · rw [hnone] at hverdict
    cases hverdict
  · rw [List.mem_singleton.mp hm, applies_askingFor] at happlies
    exact happlies

theorem retriedFor_iff {text body : String} :
    RetriedFor text body ↔ mentions text body = true :=
  ⟨mentions_of_retriedFor, retriedFor_of_mentions⟩

/-- A text is found in every body in which it stands exactly if it settles its forms. -/
theorem forall_mentions_iff {p : String} :
    (∀ a b, mentions p (a ++ p ++ b) = true) ↔ Settled p := by
  constructor
  · intro h
    exact settled_of_keepsForms
      (.of_occurs sigmaFree_letter sigmaFree_empty (mentions_iff.mp (h "A" "")))
      (.of_occurs sigmaFree_empty sigmaFree_letter (mentions_iff.mp (h "" "A")))
  · intro h a b
    exact mentions_iff.mpr (h.keepsForms a b).occurs

/-- A body in which a text stands has the text, and is tried again, if the text reads there as it
does alone. Between texts without a sigma it has the text only then. So a text is found in all
bodies in which it stands, and each of them is tried again as long as attempts are left, exactly if
the text settles the forms of its capital sigmas. -/
theorem literals_found_iff_settled (p : String) :
    (∀ a b, KeepsForms a p b →
      mentions p (a ++ p ++ b) = true ∧ RetriedFor p (a ++ p ++ b)) ∧
    (∀ a b, SigmaFree a → SigmaFree b →
      (mentions p (a ++ p ++ b) = true ↔ KeepsForms a p b)) ∧
    ((∀ a b, mentions p (a ++ p ++ b) = true) ↔ Settled p) ∧
    ((∀ a b, RetriedFor p (a ++ p ++ b)) ↔ Settled p) := by
  have hfound : ∀ a b, KeepsForms a p b → mentions p (a ++ p ++ b) = true :=
    fun a b h => mentions_iff.mpr h.occurs
  refine ⟨fun a b h => ?_, fun a b ha hb => ?_, forall_mentions_iff, ?_⟩
  · exact ⟨hfound a b h, retriedFor_of_mentions (hfound a b h)⟩
  · exact ⟨fun h => .of_occurs ha hb (mentions_iff.mp h), hfound a b⟩
  · simp only [retriedFor_iff, forall_mentions_iff]

/-- A text is found wherever it stands if it has no capital sigma, or only one between letters. -/
theorem literals_found_sample :
    RetriedFor "Captcha" ("<p>" ++ "Captcha" ++ "</p>") ∧
      Settled "AΣA" ∧ RetriedFor "AΣA" ("<p>" ++ "AΣA" ++ "</p>") := by
  have hplain : Settled "Captcha" := settled_of_not_mem (by decide)
  have hsettled : Settled "AΣA" := by
    intro x y hp
    have hsplit : ['A', 'Σ', 'A'] = x ++ 'Σ' :: y := hp
    obtain ⟨rfl, rfl⟩ : x = ['A'] ∧ y = ['A'] := by
      rcases x with _ | ⟨a, _ | ⟨b, _ | ⟨c, x⟩⟩⟩ <;> grind [List.append_eq_nil_iff]
    decide
  refine ⟨?_, hsettled, ?_⟩
  · exact (literals_found_iff_settled "Captcha").2.2.2.mpr hplain "<p>" "</p>"
  · exact (literals_found_iff_settled "AΣA").2.2.2.mpr hsettled "<p>" "</p>"

/-- A capital sigma is missed at the end of a word, and the body is kept although no attempt has
been used. -/
theorem literal_missed_at_word_end :
    mentions "Σ" ("A" ++ "Σ" ++ "") = false ∧
      (({} : Counters).usage default).count .rateLimit < (askingFor "Σ").maxRetries ∧
      (({} : Counters).consider [(.rateLimit, askingFor "Σ")] default 200
        ("A" ++ "Σ" ++ "")).1 = none := by
  have hmissed : mentions "Σ" ("A" ++ "Σ" ++ "") = false := by decide
  refine ⟨hmissed, by decide, ?_⟩
  rcases Counters.consider_cases {} [(.rateLimit, askingFor "Σ")] default 200
    ("A" ++ "Σ" ++ "") with ⟨hnone, -⟩ | ⟨k, hk, happlies, -⟩
  · rw [hnone]
  · rw [List.mem_singleton.mp hk, applies_askingFor, hmissed] at happlies
    cases happlies

end SiteSpiders.Retry
