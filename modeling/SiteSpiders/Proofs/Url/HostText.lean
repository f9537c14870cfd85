import Mathlib.Data.List.Nodup
import SiteSpiders.Url.Host

/-!
# Hosts are known by their texts

Numbers, IPv4 and IPv6 addresses can be read off their texts, and no domain name that
could be a number is left as a name. So two hosts of one kind of scheme that are written
alike are the same.
-/
namespace SiteSpiders

lemma digitChar_inj : ∀ a < 16, ∀ b < 16, Nat.digitChar a = Nat.digitChar b → a = b := by
  decide

/-- Numbers are known by their digits. -/
theorem toDigits_inj {b : Nat} (hb : 1 < b) (hle : b ≤ 16) {n m : Nat}
    (h : Nat.toDigits b n = Nat.toDigits b m) : n = m := by
  induction n using Nat.strongRecOn generalizing m with
  | _ n ih =>
    rw [Nat.toDigits_eq_if hb, Nat.toDigits_eq_if (n := m) hb] at h
    by_cases hn : n < b <;> by_cases hm : m < b
    · simp only [hn, hm, if_true, List.cons.injEq, and_true] at h
      exact digitChar_inj n (by omega) m (by omega) h
    · simp only [hn, hm, if_true, if_false] at h
      have hnil := congrArg List.length h
      simp only [List.length_append, List.length_singleton] at hnil
      exact absurd (List.length_eq_zero_iff.mp (by omega))
        (Nat.toDigits_ne_nil (n := m / b) (b := b))
    · simp only [hn, hm, if_true, if_false] at h
      have hnil := congrArg List.length h
      simp only [List.length_append, List.length_singleton] at hnil
      exact absurd (List.length_eq_zero_iff.mp (by omega))
        (Nat.toDigits_ne_nil (n := n / b) (b := b))
    · simp only [hn, hm, if_false] at h
      obtain ⟨hinit, hlast⟩ := List.append_inj' h rfl
      have hdiv := ih (n / b) (Nat.div_lt_self (by omega) hb) hinit
      have hmod := digitChar_inj (n % b) (Nat.lt_of_lt_of_le (Nat.mod_lt _ (by omega)) hle) (m % b)
        (Nat.lt_of_lt_of_le (Nat.mod_lt _ (by omega)) hle) (List.cons.inj hlast).1
      rw [← Nat.div_add_mod n b, ← Nat.div_add_mod m b, hdiv, hmod]

theorem mem_toDigits {b : Nat} (hb : 1 < b) {n : Nat} {c : Char} (h : c ∈ Nat.toDigits b n) :
    ∃ d < b, c = Nat.digitChar d := by
  induction n using Nat.strongRecOn with
  | _ n ih =>
    rw [Nat.toDigits_eq_if hb] at h
    by_cases hn : n < b
    · simp only [hn, if_true, List.mem_singleton] at h
      exact ⟨n, hn, h⟩
    · simp only [hn, if_false, List.mem_append, List.mem_singleton] at h
      rcases h with h | h
      · exact ih (n / b) (Nat.div_lt_self (by omega) hb) h
      · exact ⟨n % b, Nat.mod_lt _ (by omega), h⟩

theorem hexDigit_ne {c : Char} {n : Nat} (h : c ∈ Nat.toDigits 16 n) : c ≠ ':' ∧ c ≠ ']' := by
  obtain ⟨d, hd, rfl⟩ := mem_toDigits (by decide) h
  have hall : ∀ d < 16, Nat.digitChar d ≠ ':' ∧ Nat.digitChar d ≠ ']' := by decide
  exact hall d hd

@[simp] theorem toList_decimalText (n : Nat) :
    (Number.decimalText n).toList = Nat.toDigits 10 n := by
  simp [Number.decimalText]

theorem isDigit_of_mem_decimalText {n : Nat} {c : Char}
    (h : c ∈ (Number.decimalText n).toList) : c.isDigit = true := by
  rw [toList_decimalText] at h
  exact Nat.isDigit_of_mem_toDigits (by decide) (by decide) h

theorem decimalText_inj {n m : Nat} (h : Number.decimalText n = Number.decimalText m) : n = m := by
  have hdigits := congrArg String.toList h
  rw [toList_decimalText, toList_decimalText] at hdigits
  exact toDigits_inj (by decide) (by decide) hdigits

namespace Text

theorem divide_of_not_mem {α : Type} [DecidableEq α] {divider : α} {part : List α}
    (h : divider ∉ part) : divide divider part = [part] := by
  induction part with
  | nil => rfl
  | cons x rest ih =>
    have hne : x ≠ divider := fun he => h (he ▸ List.mem_cons_self)
    have hrest := ih fun hr => h (List.mem_cons_of_mem _ hr)
    simp only [divide, List.cons.injEq] at hrest
    simp [divide, partsOf, hne]
    simpa [partsOf] using hrest

theorem divide_append_cons {α : Type} [DecidableEq α] (divider : α) (xs ys : List α) :
    divide divider (xs ++ divider :: ys) = divide divider xs ++ divide divider ys := by
  induction xs with
  | nil => simp [divide, partsOf]
  | cons x xs ih =>
    simp only [divide, List.cons_append, List.cons.injEq] at ih
    by_cases h : x = divider
    · simp only [divide, partsOf, List.cons_append, List.foldr_cons, h, if_true] at ih ⊢
      rw [ih.1, ih.2]
    · simp only [divide, partsOf, List.cons_append, List.foldr_cons, h, if_false] at ih ⊢
      rw [ih.1, ih.2]

theorem divide_append {α : Type} [DecidableEq α] {divider : α} {part : List α} (rest : List α)
    (h : divider ∉ part) :
    divide divider (part ++ divider :: rest) = part :: divide divider rest := by
  rw [divide_append_cons, divide_of_not_mem h, List.singleton_append]

end Text

namespace Host

/-- The text of an IPv4 address is its four bytes. -/
theorem toList_ipv4Text (n : Nat) :
    (ipv4Text n).toList = Nat.toDigits 10 (n / 16777216 % 256) ++
      '.' :: (Nat.toDigits 10 (n / 65536 % 256) ++
        '.' :: (Nat.toDigits 10 (n / 256 % 256) ++ '.' :: Nat.toDigits 10 (n % 256))) := by
  simp [ipv4Text]

theorem dot_not_mem_toDigits (n : Nat) : '.' ∉ Nat.toDigits 10 n := by
  intro h
  have hdigit := Nat.isDigit_of_mem_toDigits (by decide) (by decide) h
  revert hdigit
  decide

/-- The bytes of an IPv4 address can be read off its text. -/
theorem divide_ipv4Text (n : Nat) :
    Text.divide '.' (ipv4Text n).toList = [Nat.toDigits 10 (n / 16777216 % 256),
      Nat.toDigits 10 (n / 65536 % 256), Nat.toDigits 10 (n / 256 % 256),
      Nat.toDigits 10 (n % 256)] := by
  rw [toList_ipv4Text, Text.divide_append _ (dot_not_mem_toDigits _),
    Text.divide_append _ (dot_not_mem_toDigits _), Text.divide_append _ (dot_not_mem_toDigits _),
    Text.divide_of_not_mem (dot_not_mem_toDigits _)]

theorem ipv4Text_inj {n m : Nat} (hn : n < 4294967296) (hm : m < 4294967296)
    (h : ipv4Text n = ipv4Text m) : n = m := by
  have hparts := congrArg (fun s : String => Text.divide '.' s.toList) h
  simp only [divide_ipv4Text, List.cons.injEq, and_true] at hparts
  obtain ⟨h₃, h₂, h₁, h₀⟩ := hparts
  have e₃ := toDigits_inj (by decide) (by decide) h₃
  have e₂ := toDigits_inj (by decide) (by decide) h₂
  have e₁ := toDigits_inj (by decide) (by decide) h₁
  have e₀ := toDigits_inj (by decide) (by decide) h₀
  omega

theorem endsInNumber_ipv4Text (n : Nat) : Url.endsInNumber (ipv4Text n).toList = true := by
  have hne : Nat.toDigits 10 (n % 256) ≠ [] := Nat.toDigits_ne_nil
  have hall : (Nat.toDigits 10 (n % 256)).all Char.isDigit = true :=
    List.all_eq_true.mpr fun c hc => Nat.isDigit_of_mem_toDigits (by decide) (by decide) hc
  unfold Url.endsInNumber
  rw [divide_ipv4Text]
  generalize Nat.toDigits 10 (n % 256) = last at hne hall
  cases last with
  | nil => exact absurd rfl hne
  | cons d rest => simp [hall]

theorem zeroRun_spec (l : List Nat) : l = List.replicate (zeroRun l) 0 ++ l.drop (zeroRun l) := by
  induction l with
  | nil => rfl
  | cons n rest ih =>
    cases n with
    | zero =>
      simp only [zeroRun, List.replicate_succ, List.drop_succ_cons, List.cons_append]
      exact congrArg _ ih
    | succ n => rfl

/-- The longest run of zeros is a run of zeros. -/
theorem longestZeros_spec (i : Nat) (l : List Nat) :
    (longestZeros i l).2 = 0 ∨ i ≤ (longestZeros i l).1 ∧
      l = l.take ((longestZeros i l).1 - i) ++ List.replicate (longestZeros i l).2 0 ++
        l.drop ((longestZeros i l).1 - i + (longestZeros i l).2) := by
  induction l generalizing i with
  | nil => exact Or.inl rfl
  | cons n rest ih =>
    unfold longestZeros
    dsimp only
    split_ifs with hle
    · refine Or.inr ⟨Nat.le_refl _, ?_⟩
      simpa using zeroRun_spec (n :: rest)
    · rcases ih (i + 1) with hzero | ⟨hi, heq⟩
      · omega
      · refine Or.inr ⟨by omega, ?_⟩
        have hsucc : (longestZeros (i + 1) rest).1 - i =
            (longestZeros (i + 1) rest).1 - (i + 1) + 1 := by omega
        rw [hsucc, List.take_succ_cons, Nat.add_right_comm, List.drop_succ_cons, List.cons_append,
          List.cons_append, ← heq]

/-- The pieces on one side of a gap, or an empty text if there is none. -/
def gapSide (pieces : List Nat) : List String :=
  if pieces.isEmpty then [""] else pieces.map pieceText

/-- The text of an IPv6 address between its colons. -/
def ipv6Parts (pieces : List Nat) : List String :=
  if (longestZeros 0 pieces).2 < 2 then pieces.map pieceText
  else
    gapSide (pieces.take (longestZeros 0 pieces).1) ++
      "" :: gapSide (pieces.drop ((longestZeros 0 pieces).1 + (longestZeros 0 pieces).2))

theorem intercalate_gapSide (pieces : List Nat) :
    String.intercalate ":" (gapSide pieces) = String.intercalate ":" (pieces.map pieceText) := by
  cases pieces <;> simp [gapSide]

lemma gapSide_ne_nil (pieces : List Nat) : gapSide pieces ≠ [] := by
  cases pieces <;> simp [gapSide]

theorem ipv6Text_eq (pieces : List Nat) :
    ipv6Text pieces = String.intercalate ":" (ipv6Parts pieces) := by
  unfold ipv6Text ipv6Parts
  dsimp only
  split_ifs
  · rfl
  · rw [String.intercalate_append_of_ne_nil (gapSide_ne_nil _) (by simp),
      String.intercalate_cons_of_ne_nil (gapSide_ne_nil _), intercalate_gapSide,
      intercalate_gapSide]
    have hcolons : "::" = ":" ++ ":" := rfl
    simp only [hcolons, String.empty_append, String.append_assoc]

theorem pieceText_ne_empty (n : Nat) : pieceText n ≠ "" := by
  intro h
  have hlist := congrArg String.toList h
  simp only [pieceText, String.toList_ofList, String.toList_empty] at hlist
  exact Nat.toDigits_ne_nil hlist

theorem map_pieceText_inj {p q : List Nat} (h : p.map pieceText = q.map pieceText) : p = q := by
  refine List.map_injective_iff.mpr (fun n m hnm => ?_) h
  have hlist := congrArg String.toList hnm
  simp only [pieceText, String.toList_ofList] at hlist
  exact toDigits_inj (by decide) (by decide) hlist

/-- What stands before an empty text that is not in front can be read off. -/
theorem takeWhile_gap {l : List String} (hl : ∀ s ∈ l, s ≠ "") (rest : List String) :
    ((if l.isEmpty then [""] else l) ++ "" :: rest).takeWhile (fun s => s ≠ "") = l := by
  cases l with
  | nil => simp
  | cons a more =>
    rw [if_neg (by simp), List.takeWhile_append_of_pos (by simpa using hl)]
    simp

theorem map_pieceText_ne_empty (pieces : List Nat) : ∀ s ∈ pieces.map pieceText, s ≠ "" := by
  intro s hs
  obtain ⟨n, _, rfl⟩ := List.mem_map.mp hs
  exact pieceText_ne_empty n

theorem gapSide_eq (pieces : List Nat) :
    gapSide pieces = if (pieces.map pieceText).isEmpty then [""] else pieces.map pieceText := by
  simp [gapSide]

theorem gapSide_reverse (pieces : List Nat) :
    (gapSide pieces).reverse = if ((pieces.map pieceText).reverse).isEmpty then [""]
      else (pieces.map pieceText).reverse := by
  cases pieces <;> simp [gapSide]

theorem gap_inj {l r l' r' : List Nat}
    (h : gapSide l ++ "" :: gapSide r = gapSide l' ++ "" :: gapSide r') :
    l = l' ∧ r = r' := by
  have hleft := congrArg (List.takeWhile fun s => decide (s ≠ "")) h
  have hright := congrArg (fun parts : List String =>
    parts.reverse.takeWhile fun s => decide (s ≠ "")) h
  simp only [List.reverse_append, List.reverse_cons, List.append_assoc, List.singleton_append,
    gapSide_reverse] at hright
  have hrev : ∀ pieces : List Nat, ∀ s ∈ (pieces.map pieceText).reverse, s ≠ "" :=
    fun pieces s hs => map_pieceText_ne_empty pieces s (List.mem_reverse.mp hs)
  rw [gapSide_eq l, gapSide_eq l', takeWhile_gap (map_pieceText_ne_empty l),
    takeWhile_gap (map_pieceText_ne_empty l')] at hleft
  rw [takeWhile_gap (hrev r), takeWhile_gap (hrev r')] at hright
  exact ⟨map_pieceText_inj hleft, map_pieceText_inj (List.reverse_injective hright)⟩

theorem colon_not_mem_parts (pieces : List Nat) : ∀ s ∈ ipv6Parts pieces, ':' ∉ s.toList := by
  have hpiece : ∀ n : Nat, ':' ∉ (pieceText n).toList := by
    intro n h
    simp only [pieceText, String.toList_ofList] at h
    exact (hexDigit_ne h).1 rfl
  have hside : ∀ l : List Nat, ∀ s ∈ gapSide l, ':' ∉ s.toList := by
    intro l s hs
    cases l with
    | nil =>
      rw [List.mem_singleton.mp hs]
      simp
    | cons n rest =>
      obtain ⟨m, _, rfl⟩ := List.mem_map.mp hs
      exact hpiece m
  intro s hs
  unfold ipv6Parts at hs
  split_ifs at hs
  · obtain ⟨n, _, rfl⟩ := List.mem_map.mp hs
    exact hpiece n
  · rcases List.mem_append.mp hs with hs | hs
    · exact hside _ s hs
    · rcases List.mem_cons.mp hs with rfl | hs
      · simp
      · exact hside _ s hs

/-- IPv6 addresses are known by their texts. -/
theorem ipv6Text_inj {p q : List Nat} (hp : p.length = 8) (hq : q.length = 8)
    (h : ipv6Text p = ipv6Text q) : p = q := by
  have hne : ∀ {l : List Nat}, l.length = 8 → ipv6Parts l ≠ [] := by
    intro l hl
    unfold ipv6Parts
    split_ifs
    · intro hnil
      rw [List.map_eq_nil_iff] at hnil
      rw [hnil] at hl
      cases hl
    · simp
  have hparts : ipv6Parts p = ipv6Parts q := by
    have hlist := congrArg (fun s : String => s.toList.splitOn ':') h
    simp only [ipv6Text_eq, String.toList_intercalate] at hlist
    have hsplit : ∀ {l : List Nat}, l.length = 8 →
        ([':'].intercalate ((ipv6Parts l).map String.toList)).splitOn ':' =
          (ipv6Parts l).map String.toList := by
      intro l hl
      refine List.splitOn_intercalate ':' ?_ (by simpa using hne hl)
      intro cs hcs
      obtain ⟨s, hs, rfl⟩ := List.mem_map.mp hcs
      exact colon_not_mem_parts l s hs
    rw [show (":" : String).toList = [':'] from rfl, hsplit hp, hsplit hq] at hlist
    exact List.map_injective_iff.mpr (fun _ _ => String.toList_injective) hlist
  unfold ipv6Parts at hparts
  by_cases hcp : (longestZeros 0 p).2 < 2 <;> by_cases hcq : (longestZeros 0 q).2 < 2
  · simp only [hcp, hcq, if_true] at hparts
    exact map_pieceText_inj hparts
  · simp only [hcp, hcq, if_true, if_false] at hparts
    have hempty : "" ∈ p.map pieceText := by
      rw [hparts]
      simp
    exact absurd rfl (map_pieceText_ne_empty p _ hempty)
  · simp only [hcp, hcq, if_true, if_false] at hparts
    have hempty : "" ∈ q.map pieceText := by
      rw [← hparts]
      simp
    exact absurd rfl (map_pieceText_ne_empty q _ hempty)
  · simp only [hcp, hcq, if_false] at hparts
    obtain ⟨hl, hr⟩ := gap_inj hparts
    rcases longestZeros_spec 0 p with hz | ⟨_, hp'⟩
    · omega
    rcases longestZeros_spec 0 q with hz | ⟨_, hq'⟩
    · omega
    simp only [Nat.sub_zero] at hp' hq'
    rw [hl, hr] at hp'
    have hlen : (longestZeros 0 p).2 = (longestZeros 0 q).2 := by
      have hp'' := congrArg List.length hp'
      have hq'' := congrArg List.length hq'
      simp only [List.length_append, List.length_replicate] at hp'' hq''
      omega
    rw [hp', hlen, ← hq']

end Host

end SiteSpiders
