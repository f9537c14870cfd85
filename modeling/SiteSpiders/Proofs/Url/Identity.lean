import SiteSpiders.Proofs.Url.HostText
import SiteSpiders.Url.Parser

/-!
# URLs are known by their texts

The parts of a URL keep clear of the characters that divide them, so the text of a URL
can be taken apart in one way only. A sound URL is one whose parts do so; two sound URLs
with the same text are the same.
-/
namespace SiteSpiders

/-- A text is divided in one way where its first part keeps clear of what the second starts
with. -/
theorem eq_of_append_eq {p : Char → Bool} {a b x y : List Char} (ha : ∀ c ∈ a, p c = true)
    (hb : ∀ c ∈ b, p c = true) (hx : ∀ c ∈ x.head?, p c = false) (hy : ∀ c ∈ y.head?, p c = false)
    (h : a ++ x = b ++ y) : a = b ∧ x = y := by
  have stop : ∀ {l : List Char}, (∀ c ∈ l.head?, p c = false) → l.takeWhile p = [] := by
    intro l hl
    cases l with
    | nil => rfl
    | cons c rest => rw [List.takeWhile_cons, if_neg (by simp [hl c rfl])]
  have htake := congrArg (List.takeWhile p) h
  rw [List.takeWhile_append_of_pos ha, List.takeWhile_append_of_pos hb, stop hx, stop hy,
    List.append_nil, List.append_nil] at htake
  subst htake
  exact ⟨rfl, List.append_cancel_left h⟩

/-- A text after its mark, if there is one. -/
def markedText (mark : Char) : Option String → List Char
  | some text => mark :: text.toList
  | none => []

theorem markedText_head (mark : Char) (text : Option String) :
    ∀ c ∈ (markedText mark text).head?, c = mark := by
  cases text <;> simp [markedText]

theorem markedText_inj {mark : Char} {s t : Option String}
    (h : markedText mark s = markedText mark t) :
    s = t := by
  cases s with
  | none =>
    cases t with
    | none => rfl
    | some t => cases h
  | some s =>
    cases t with
    | none => cases h
    | some t => exact congrArg _ (String.toList_injective (List.cons.inj h).2)

namespace Host

/-- Whether a host is one that can be read in a kind of scheme. -/
def Sound (kind : Url.SchemeKind) : Host → Prop
  | .domain name => name ≠ "" ∧ (∀ c ∈ name.toList, c ∉ ['#', '/', ':', '?', '@', '[']) ∧
      (kind ≠ .other → Url.endsInNumber name.toList = false)
  | .ipv4 address => address < 4294967296 ∧ kind ≠ .other
  | .ipv6 pieces => pieces.length = 8

variable {kind : Url.SchemeKind}

theorem mem_intercalate {parts : List (List Char)} {c d : Char} (h : c ∈ [d].intercalate parts) :
    c = d ∨ ∃ part ∈ parts, c ∈ part := by
  induction parts with
  | nil => simp at h
  | cons part rest ih =>
    cases rest with
    | nil => exact Or.inr ⟨part, List.mem_cons_self, by simpa using h⟩
    | cons next more =>
      rw [List.intercalate_cons_cons, List.mem_append, List.mem_append, List.mem_singleton] at h
      rcases h with (h | h) | h
      · exact Or.inr ⟨part, List.mem_cons_self, h⟩
      · exact Or.inl h
      · refine (ih h).imp_right ?_
        rintro ⟨part, hpart, hc⟩
        exact ⟨part, List.mem_cons_of_mem _ hpart, hc⟩

/-- The text of an IPv6 address has colons and hexadecimal digits only. -/
theorem ipv6Text_chars {pieces : List Nat} {c : Char} (h : c ∈ (ipv6Text pieces).toList) :
    c = ':' ∨ ∃ n, c ∈ Nat.toDigits 16 n := by
  rw [ipv6Text_eq, String.toList_intercalate] at h
  refine (mem_intercalate h).imp_right ?_
  rintro ⟨part, hpart, hc⟩
  obtain ⟨s, hs, rfl⟩ := List.mem_map.mp hpart
  have hside : ∀ l : List Nat, s ∈ gapSide l → ∃ n, c ∈ Nat.toDigits 16 n := by
    intro l hs
    cases l with
    | nil =>
      rw [List.mem_singleton.mp hs] at hc
      simp at hc
    | cons n rest =>
      obtain ⟨m, _, rfl⟩ := List.mem_map.mp hs
      exact ⟨m, by simpa [pieceText] using hc⟩
  unfold ipv6Parts at hs
  split_ifs at hs
  · obtain ⟨n, _, rfl⟩ := List.mem_map.mp hs
    exact ⟨n, by simpa [pieceText] using hc⟩
  · rcases List.mem_append.mp hs with hs | hs
    · exact hside _ hs
    · rcases List.mem_cons.mp hs with rfl | hs
      · simp at hc
      · exact hside _ hs

theorem ipv4Text_chars {n : Nat} {c : Char} (h : c ∈ (ipv4Text n).toList) :
    c.isDigit = true ∨ c = '.' := by
  rw [toList_ipv4Text] at h
  have hdigit : ∀ {n}, c ∈ Nat.toDigits 10 n → c.isDigit = true :=
    fun h => Nat.isDigit_of_mem_toDigits (by decide) (by decide) h
  simp only [List.mem_append, List.mem_cons] at h
  rcases h with h | h | h | h | h | h | h
  · exact Or.inl (hdigit h)
  · exact Or.inr h
  · exact Or.inl (hdigit h)
  · exact Or.inr h
  · exact Or.inl (hdigit h)
  · exact Or.inr h
  · exact Or.inl (hdigit h)

theorem ipv4Text_clear {n : Nat} {c : Char} (h : c ∈ (ipv4Text n).toList) :
    c ∉ ['#', '/', ':', '?', '@', '['] := by
  intro hmem
  have hdigits := ipv4Text_chars h
  revert hdigits
  simp only [List.mem_cons, List.not_mem_nil, or_false] at hmem
  rcases hmem with rfl | rfl | rfl | rfl | rfl | rfl <;> decide

/-- The text of a host that is no IPv6 address keeps clear of colons and brackets too. -/
theorem Sound.text_clear {h : Host} (sound : h.Sound kind) (hv6 : ∀ pieces, h ≠ .ipv6 pieces) :
    ∀ c ∈ h.text.toList, c ∉ ['#', '/', ':', '?', '@', '['] := by
  cases h with
  | domain name => exact sound.2.1
  | ipv4 n => exact fun c hc => ipv4Text_clear hc
  | ipv6 pieces => exact absurd rfl (hv6 pieces)

theorem toList_text_ipv6 (pieces : List Nat) :
    (Host.ipv6 pieces).text.toList = '[' :: ((ipv6Text pieces).toList ++ [']']) := by
  simp [text]

/-- The text of a sound host keeps clear of what divides an authority from the rest. -/
theorem Sound.text_chars {h : Host} (sound : h.Sound kind) :
    ∀ c ∈ h.text.toList, c ∉ ['#', '/', '?', '@'] := by
  by_cases hv6 : ∃ pieces, h = .ipv6 pieces
  · obtain ⟨pieces, rfl⟩ := hv6
    intro c hc hmem
    rw [toList_text_ipv6, List.mem_cons, List.mem_append, List.mem_singleton] at hc
    have hhex : ∀ d < 16, Nat.digitChar d ∉ ['#', '/', '?', '@'] := by decide
    rcases hc with rfl | hc | rfl
    · revert hmem
      decide
    · rcases ipv6Text_chars hc with rfl | ⟨n, hn⟩
      · revert hmem
        decide
      · obtain ⟨d, hd, rfl⟩ := mem_toDigits (by decide) hn
        exact hhex d hd hmem
    · revert hmem
      decide
  · intro c hc hmem
    refine sound.text_clear (fun pieces he => hv6 ⟨pieces, he⟩) c hc ?_
    simp only [List.mem_cons, List.not_mem_nil, or_false] at hmem ⊢
    tauto

theorem Sound.text_ne_nil {h : Host} (sound : h.Sound kind) : h.text.toList ≠ [] := by
  cases h with
  | domain name =>
    intro hnil
    exact sound.1 (String.toList_injective (by simpa [text] using hnil))
  | ipv4 n =>
    have hne : Nat.toDigits 10 (n / 16777216 % 256) ≠ [] := Nat.toDigits_ne_nil
    simp [text, toList_ipv4Text, hne]
  | ipv6 pieces => simp [toList_text_ipv6]

/-- Sound hosts that no bracket starts are known by their texts. -/
theorem Sound.eq_of_text {h h' : Host} (sound : h.Sound kind) (sound' : h'.Sound kind)
    (hv6 : ∀ pieces, h ≠ .ipv6 pieces) (hv6' : ∀ pieces, h' ≠ .ipv6 pieces)
    (heq : h.text.toList = h'.text.toList) : h = h' := by
  have htext : h.text = h'.text := String.toList_injective heq
  cases h with
  | ipv6 pieces => exact absurd rfl (hv6 pieces)
  | domain name =>
    cases h' with
    | ipv6 pieces => exact absurd rfl (hv6' pieces)
    | domain name' => exact congrArg _ htext
    | ipv4 n =>
      -- a name is never written like a number where numbers are read
      have hnumber := sound.2.2 sound'.2
      have hname : name = ipv4Text n := htext
      rw [hname, endsInNumber_ipv4Text] at hnumber
      cases hnumber
  | ipv4 n =>
    cases h' with
    | ipv6 pieces => exact absurd rfl (hv6' pieces)
    | ipv4 m => exact congrArg _ (ipv4Text_inj sound.1 sound'.1 htext)
    | domain name =>
      have hnumber := sound'.2.2 sound.2
      have hname : name = ipv4Text n := htext.symm
      rw [hname, endsInNumber_ipv4Text] at hnumber
      cases hnumber

end Host

namespace Authority

def portText (port : Option Nat) : List Char := markedText ':' (port.map Number.decimalText)

lemma portText_inj {p q : Option Nat} (h : portText p = portText q) : p = q :=
  Option.map_injective (fun _ _ => decimalText_inj) (markedText_inj h)

theorem portText_chars (port : Option Nat) :
    ∀ c ∈ portText port, c ∉ ['#', '/', '?', '@'] := by
  intro c hc hmem
  cases port with
  | none => cases hc
  | some p =>
    rcases List.mem_cons.mp hc with rfl | hc
    · revert hmem
      decide
    · have hdigit := isDigit_of_mem_decimalText hc
      revert hdigit
      simp only [List.mem_cons, List.not_mem_nil, or_false] at hmem
      rcases hmem with rfl | rfl | rfl | rfl <;> decide

/-- The text of a host and a port. -/
def hostPort (host : Option Host) (port : Option Nat) : List Char :=
  ((host.map Host.text).getD "").toList ++ portText port

variable {kind : Url.SchemeKind}

theorem hostPort_chars {host : Option Host} (port : Option Nat) (sound : ∀ h ∈ host, h.Sound kind) :
    ∀ c ∈ hostPort host port, c ∉ ['#', '/', '?', '@'] := by
  intro c hc
  rcases List.mem_append.mp hc with hc | hc
  · cases host with
    | none => simp at hc
    | some h => exact (sound h rfl).text_chars c hc
  · exact portText_chars port c hc

/-- A bracket in front tells IPv6 addresses from the other hosts. -/
theorem ipv6_of_hostPort {pieces : List Nat} {host : Host} {p p' : Option Nat}
    (sound : host.Sound kind)
    (heq : (Host.ipv6 pieces).text.toList ++ portText p = host.text.toList ++ portText p') :
    ∃ pieces', host = .ipv6 pieces' := by
  by_contra! hv6
  have hclear := sound.text_clear hv6
  rw [Host.toList_text_ipv6] at heq
  cases hlist : host.text.toList with
  | nil => exact sound.text_ne_nil hlist
  | cons c rest =>
    rw [hlist, List.cons_append, List.cons_append] at heq
    have hc := hclear c (by rw [hlist]; exact List.mem_cons_self)
    rw [← (List.cons.inj heq).1] at hc
    exact hc (by simp)

/-- An IPv6 address ends at its bracket. -/
theorem ipv6Port_inj {pieces pieces' : List Nat} {p p' : Option Nat}
    (sound : (Host.ipv6 pieces).Sound kind) (sound' : (Host.ipv6 pieces').Sound kind)
    (heq : (Host.ipv6 pieces).text.toList ++ portText p =
      (Host.ipv6 pieces').text.toList ++ portText p') : pieces = pieces' ∧ p = p' := by
  rw [Host.toList_text_ipv6, Host.toList_text_ipv6, List.cons_append, List.cons_append,
    List.append_assoc, List.append_assoc] at heq
  have hinner : ∀ (l : List Nat), ∀ c ∈ (Host.ipv6Text l).toList, (c != ']') = true := by
    intro l c hc
    rcases Host.ipv6Text_chars hc with rfl | ⟨n, hn⟩
    · decide
    · simpa using (hexDigit_ne hn).2
  obtain ⟨htext, hrest⟩ := eq_of_append_eq (hinner pieces) (hinner pieces') (by simp) (by simp)
    (List.cons.inj heq).2
  exact ⟨Host.ipv6Text_inj sound sound' (String.toList_injective htext),
    portText_inj (List.cons.inj hrest).2⟩

/-- Any other host ends at the colon of the port. -/
theorem namePort_inj {h h' : Host} {p p' : Option Nat} (sound : h.Sound kind)
    (sound' : h'.Sound kind) (hv6 : ∀ pieces, h ≠ .ipv6 pieces)
    (hv6' : ∀ pieces, h' ≠ .ipv6 pieces)
    (heq : h.text.toList ++ portText p = h'.text.toList ++ portText p') : h = h' ∧ p = p' := by
  have hcolon : ∀ {z : Host}, z.Sound kind → (∀ pieces, z ≠ .ipv6 pieces) →
      ∀ c ∈ z.text.toList, (c != ':') = true := by
    intro z hz hz6 c hc
    have hclear := hz.text_clear hz6 c hc
    simp only [List.mem_cons, List.not_mem_nil, or_false, not_or] at hclear
    simpa using hclear.2.2.1
  have hport : ∀ q : Option Nat, ∀ c ∈ (portText q).head?, (c != ':') = false := by
    intro q c hc
    rw [markedText_head _ _ c hc]
    rfl
  obtain ⟨htext, hrest⟩ := eq_of_append_eq (hcolon sound hv6) (hcolon sound' hv6') (hport p)
    (hport p') heq
  exact ⟨sound.eq_of_text sound' hv6 hv6' htext, portText_inj hrest⟩

/-- Hosts and ports are known by their texts. -/
theorem hostPort_inj {h h' : Option Host} {p p' : Option Nat} (sound : ∀ x ∈ h, x.Sound kind)
    (sound' : ∀ x ∈ h', x.Sound kind) (hnone : h = none → p = none) (hnone' : h' = none → p' = none)
    (heq : hostPort h p = hostPort h' p') : h = h' ∧ p = p' := by
  cases h with
  | none =>
    cases h' with
    | none => exact ⟨rfl, by rw [hnone rfl, hnone' rfl]⟩
    | some x =>
      rw [hnone rfl] at heq
      have hnil := List.append_eq_nil_iff.mp heq.symm
      exact absurd hnil.1 (sound' x rfl).text_ne_nil
  | some x =>
    cases h' with
    | none =>
      rw [hnone' rfl] at heq
      have hnil := List.append_eq_nil_iff.mp heq
      exact absurd hnil.1 (sound x rfl).text_ne_nil
    | some y =>
      have hx := sound x rfl
      have hy := sound' y rfl
      have heq : x.text.toList ++ portText p = y.text.toList ++ portText p' := heq
      by_cases hv6 : ∃ pieces, x = .ipv6 pieces
      · obtain ⟨pieces, rfl⟩ := hv6
        obtain ⟨pieces', rfl⟩ := ipv6_of_hostPort hy heq
        obtain ⟨rfl, hport⟩ := ipv6Port_inj hx hy heq
        exact ⟨rfl, hport⟩
      · have hv6' : ∀ pieces, y ≠ .ipv6 pieces := by
          rintro pieces rfl
          exact hv6 (ipv6_of_hostPort hx heq.symm)
        obtain ⟨rfl, hport⟩ := namePort_inj hx hy (not_exists.mp hv6) hv6' heq
        exact ⟨rfl, hport⟩

/-- Whether the parts of an authority keep clear of what divides them, and there is nothing without
a host. -/
structure Sound (kind : Url.SchemeKind) (a : Authority) : Prop where
  username : ∀ c ∈ a.username.toList, c ∉ ['#', '/', ':', '?', '@']
  password : ∀ c ∈ a.password.toList, c ∉ ['#', '/', ':', '?', '@']
  host : ∀ h ∈ a.host, h.Sound kind
  bare : a.host = none → a.username = "" ∧ a.password = "" ∧ a.port = none

/-- User name and password in front of the `@`. -/
def infoText (a : Authority) : List Char :=
  a.username.toList ++ if a.password.isEmpty then [] else ':' :: a.password.toList

theorem toList_text (a : Authority) :
    a.text.toList =
      (if a.username.isEmpty && a.password.isEmpty then [] else a.infoText ++ ['@']) ++
        hostPort a.host a.port := by
  obtain ⟨user, pass, host, port⟩ := a
  unfold text userinfo infoText hostPort portText
  cases port <;> split_ifs <;> simp [markedText]

theorem infoText_chars {a : Authority} (sound : a.Sound kind) :
    ∀ c ∈ a.infoText, c ∉ ['#', '/', '?', '@'] := by
  intro c hc hmem
  have hsub : c ∈ ['#', '/', ':', '?', '@'] := by
    simp only [List.mem_cons, List.not_mem_nil, or_false] at hmem ⊢
    tauto
  rcases List.mem_append.mp hc with hc | hc
  · exact sound.username c hc hsub
  · split_ifs at hc
    · cases hc
    · rcases List.mem_cons.mp hc with rfl | hc
      · revert hmem
        decide
      · exact sound.password c hc hsub

/-- The text of an authority keeps clear of what divides it from the rest. -/
theorem text_chars {a : Authority} (sound : a.Sound kind) :
    ∀ c ∈ a.text.toList, c ∉ ['#', '/', '?'] := by
  intro c hc hmem
  have hsub : c ∈ ['#', '/', '?', '@'] := by
    simp only [List.mem_cons, List.not_mem_nil, or_false] at hmem ⊢
    tauto
  rw [toList_text] at hc
  rcases List.mem_append.mp hc with hc | hc
  · split_ifs at hc
    · cases hc
    · rcases List.mem_append.mp hc with hc | hc
      · exact infoText_chars sound c hc hsub
      · rw [List.mem_singleton.mp hc] at hmem
        revert hmem
        decide
  · exact hostPort_chars a.port sound.host c hc hsub

/-- User name and password are known by their text. -/
theorem infoText_inj {a b : Authority} (ha : a.Sound kind) (hb : b.Sound kind)
    (h : a.infoText = b.infoText) : a.username = b.username ∧ a.password = b.password := by
  have hclear : ∀ {a : Authority}, a.Sound kind → ∀ c ∈ a.username.toList, (c != ':') = true := by
    intro a ha c hc
    have hnot := ha.username c hc
    simp only [List.mem_cons, List.not_mem_nil, or_false, not_or] at hnot
    simpa using hnot.2.2.1
  have hhead : ∀ a : Authority, ∀ c ∈ (if a.password.isEmpty then []
      else ':' :: a.password.toList).head?, (c != ':') = false := by
    intro a c hc
    split_ifs at hc
    · cases hc
    · obtain rfl : ':' = c := by simpa using hc
      rfl
  obtain ⟨huser, hpass⟩ := eq_of_append_eq (hclear ha) (hclear hb) (hhead a) (hhead b) h
  refine ⟨String.toList_injective huser, ?_⟩
  by_cases h₁ : a.password.isEmpty = true <;> by_cases h₂ : b.password.isEmpty = true
  · rw [String.isEmpty_iff.mp h₁, String.isEmpty_iff.mp h₂]
  · simp [h₁, h₂] at hpass
  · simp [h₁, h₂] at hpass
  · rw [if_neg h₁, if_neg h₂] at hpass
    exact String.toList_injective (List.cons.inj hpass).2

/-- Authorities are known by their texts. -/
theorem text_inj {a b : Authority} (ha : a.Sound kind) (hb : b.Sound kind)
    (h : a.text.toList = b.text.toList) : a = b := by
  have hat : ∀ {a : Authority}, a.Sound kind → '@' ∉ hostPort a.host a.port :=
    fun ha hmem => hostPort_chars _ ha.host '@' hmem (by simp)
  have hinfo : ∀ {a : Authority}, a.Sound kind → ∀ c ∈ a.infoText, (c != '@') = true := by
    intro a ha c hc
    have hnot := infoText_chars ha c hc
    simp only [List.mem_cons, List.not_mem_nil, or_false, not_or] at hnot
    simpa using hnot.2.2.2
  have hparts : a.username = b.username ∧ a.password = b.password ∧
      hostPort a.host a.port = hostPort b.host b.port := by
    rw [toList_text, toList_text] at h
    split_ifs at h with h₁ h₂ h₂
    · simp only [Bool.and_eq_true, String.isEmpty_iff] at h₁ h₂
      exact ⟨by rw [h₁.1, h₂.1], by rw [h₁.2, h₂.2], h⟩
    · refine absurd ?_ (hat ha)
      rw [List.nil_append] at h
      rw [h]
      simp
    · refine absurd ?_ (hat hb)
      rw [List.nil_append] at h
      rw [← h]
      simp
    · rw [List.append_assoc, List.append_assoc] at h
      obtain ⟨htext, hrest⟩ := eq_of_append_eq (hinfo ha) (hinfo hb) (by simp) (by simp) h
      obtain ⟨huser, hpass⟩ := infoText_inj ha hb htext
      exact ⟨huser, hpass, (List.cons.inj hrest).2⟩
  obtain ⟨huser, hpass, hrest⟩ := hparts
  obtain ⟨hhost, hport⟩ := hostPort_inj ha.host hb.host (fun h => (ha.bare h).2.2)
    (fun h => (hb.bare h).2.2) hrest
  obtain ⟨user, pass, host, port⟩ := a
  obtain ⟨user', pass', host', port'⟩ := b
  simp only at huser hpass hhost hport
  rw [huser, hpass, hhost, hport]

end Authority

namespace UrlPath

/-- Whether a segment keeps clear of what divides paths. -/
def SegmentClear (s : String) : Prop := ∀ c ∈ s.toList, c ∉ ['#', '/', '?']

/-- Whether a segment keeps clear of what divides paths, and does not name its own directory. -/
def SegmentSound (s : String) : Prop := s ≠ "." ∧ SegmentClear s

def segmentText (segments : List String) : List Char := segments.flatMap fun s => '/' :: s.toList

theorem toList_text_rooted (segments : List String) :
    (UrlPath.rooted segments).text.toList = segmentText segments := by
  simp only [text, segmentText, String.toList_join]
  induction segments with
  | nil => rfl
  | cons s rest ih => simp [ih]

theorem segmentText_head (segments : List String) :
    ∀ c ∈ (segmentText segments).head?, c = '/' := by
  cases segments with
  | nil => simp [segmentText]
  | cons s rest => simp [segmentText]

theorem segmentText_chars {segments : List String} (sound : ∀ s ∈ segments, SegmentClear s) :
    ∀ c ∈ segmentText segments, c ∉ ['#', '?'] := by
  intro c hc hmem
  obtain ⟨s, hs, hc⟩ := List.mem_flatMap.mp hc
  rcases List.mem_cons.mp hc with rfl | hc
  · revert hmem
    decide
  · refine sound s hs c hc ?_
    simp only [List.mem_cons, List.not_mem_nil, or_false] at hmem ⊢
    tauto

/-- Segments are known by their text. -/
theorem segmentText_inj {l l' : List String} (hl : ∀ s ∈ l, SegmentClear s)
    (hl' : ∀ s ∈ l', SegmentClear s) (h : segmentText l = segmentText l') : l = l' := by
  induction l generalizing l' with
  | nil =>
    cases l' with
    | nil => rfl
    | cons s rest => simp [segmentText] at h
  | cons s rest ih =>
    cases l' with
    | nil => simp [segmentText] at h
    | cons s' rest' =>
      have hclear : ∀ {s : String}, SegmentClear s → ∀ c ∈ s.toList, (c != '/') = true := by
        intro s hs c hc
        have hnot := hs c hc
        simp only [List.mem_cons, List.not_mem_nil, or_false, not_or] at hnot
        simpa using hnot.2.1
      have hhead : ∀ l : List String, ∀ c ∈ (segmentText l).head?, (c != '/') = false := by
        intro l c hc
        rw [segmentText_head l c hc]
        rfl
      simp only [segmentText, List.flatMap_cons, List.cons_append, List.cons.injEq, true_and] at h
      obtain ⟨hs, hrest⟩ := eq_of_append_eq (hclear (hl s List.mem_cons_self))
        (hclear (hl' s' List.mem_cons_self)) (hhead rest) (hhead rest') h
      rw [String.toList_injective hs, ih (fun s hs => hl s (List.mem_cons_of_mem _ hs))
        (fun s hs => hl' s (List.mem_cons_of_mem _ hs)) hrest]

/-- Whether a path is one that can stand with an authority or without. -/
def Sound (authority : Option Authority) : UrlPath → Prop
  | .rootless text => authority = none ∧ (∀ c ∈ text.toList.head?, c ≠ '/') ∧
      ∀ c ∈ text.toList, c ∉ ['#', '?']
  | .rooted segments => (∀ s ∈ segments, SegmentSound s) ∧ (authority = none → segments ≠ [])

end UrlPath

namespace Url

/-- Whether the parts of a URL keep clear of what divides them. -/
structure Sound (u : Url) : Prop where
  scheme : ':' ∉ u.scheme.toList
  authority : ∀ a ∈ u.authority, a.Sound (schemeKind u.scheme)
  path : u.path.Sound u.authority
  query : ∀ q ∈ u.query, '#' ∉ q.toList

/-- Authority and path of a URL. -/
def bodyText (u : Url) : List Char :=
  match u.authority with
  | some a => '/' :: '/' :: (a.text.toList ++ u.guardedPath.toList)
  | none => u.guardedPath.toList

theorem toList_text (u : Url) :
    u.text.toList = u.scheme.toList ++
      ':' :: (u.bodyText ++ (markedText '?' u.query ++ markedText '#' u.fragment)) := by
  obtain ⟨scheme, authority, path, query, fragment⟩ := u
  unfold text bodyText
  cases authority <;> cases query <;> cases fragment <;> simp [markedText]

/-- The segment that guards a path which would read as an authority. -/
def guardSegments : List String → List String
  | "" :: _ :: _ => ["."]
  | _ => []

theorem toList_guardedPath_none {u : Url} {segments : List String} (hnone : u.authority = none)
    (hpath : u.path = .rooted segments) :
    u.guardedPath.toList = UrlPath.segmentText (guardSegments segments ++ segments) := by
  unfold guardedPath guardSegments
  rw [hnone, hpath]
  split
  · rename_i heq
    cases heq
    simp [UrlPath.toList_text_rooted, UrlPath.segmentText]
  · rename_i hno
    have hguard : (match segments with
        | "" :: _ :: _ => ["."]
        | _ => []) = [] := by
      split
      · exact absurd rfl (hno _ _ rfl)
      · rfl
    rw [hguard, List.nil_append, UrlPath.toList_text_rooted]

theorem toList_guardedPath_some {u : Url} {a : Authority} {segments : List String}
    (hsome : u.authority = some a) (hpath : u.path = .rooted segments) :
    u.guardedPath.toList = UrlPath.segmentText segments := by
  unfold guardedPath
  rw [hsome, hpath]
  exact UrlPath.toList_text_rooted segments

theorem toList_guardedPath_rootless {u : Url} {text : String} (hpath : u.path = .rootless text) :
    u.guardedPath.toList = text.toList := by
  unfold guardedPath
  rw [hpath]
  cases u.authority <;> rfl

theorem guardSegments_clear (segments : List String) :
    ∀ s ∈ guardSegments segments, UrlPath.SegmentClear s := by
  intro s hs c hc hmem
  unfold guardSegments at hs
  split at hs
  · rw [List.mem_singleton.mp hs] at hc
    obtain rfl : c = '.' := by simpa using hc
    revert hmem
    decide
  · cases hs

theorem guardSegments_inj {l l' : List String} (hl : "." ∉ l) (hl' : "." ∉ l')
    (h : guardSegments l ++ l = guardSegments l' ++ l') : l = l' := by
  have hcases : ∀ l : List String, guardSegments l = [] ∨ guardSegments l = ["."] := by
    intro l
    unfold guardSegments
    split
    · exact Or.inr rfl
    · exact Or.inl rfl
  rcases hcases l with hg | hg <;> rcases hcases l' with hg' | hg' <;> rw [hg, hg'] at h
  · exact h
  · rw [List.nil_append] at h
    exact absurd (h ▸ List.mem_cons_self) hl
  · rw [List.nil_append] at h
    exact absurd (h ▸ List.mem_cons_self) hl'
  · exact (List.cons.inj h).2

/-- Without an authority no two slashes stand in front. -/
theorem bodyText_ne_slashes {u : Url} (sound : u.Sound) (hnone : u.authority = none)
    (rest : List Char) : u.bodyText ≠ '/' :: '/' :: rest := by
  intro h
  have hpath := sound.path
  simp only [bodyText, hnone] at h
  cases hp : u.path with
  | rootless text =>
    rw [hp] at hpath
    rw [toList_guardedPath_rootless hp] at h
    exact hpath.2.1 '/' (by rw [h]; rfl) rfl
  | rooted segments =>
    rw [hp] at hpath
    rw [toList_guardedPath_none hnone hp] at h
    cases hs : segments with
    | nil => exact hpath.2 hnone hs
    | cons s more =>
      rw [hs] at h
      cases hlist : s.toList with
      | cons c cs =>
        have hc := (hpath.1 s (by rw [hs]; exact List.mem_cons_self)).2 c
          (by rw [hlist]; exact List.mem_cons_self)
        have hguard : guardSegments (s :: more) = [] := by
          unfold guardSegments
          split
          · rename_i heq
            obtain ⟨rfl, _⟩ := List.cons.inj heq
            cases hlist
          · rfl
        simp only [hguard, List.nil_append, UrlPath.segmentText, List.flatMap_cons, hlist,
          List.cons_append, List.cons.injEq, true_and] at h
        rw [h.1] at hc
        exact hc (by simp)
      | nil =>
        obtain rfl : s = "" := String.toList_injective hlist
        cases more with
        | nil => simp [guardSegments, UrlPath.segmentText] at h
        | cons t more => simp [guardSegments, UrlPath.segmentText] at h

/-- Authority and path keep clear of what divides them from query and fragment. -/
theorem bodyText_chars {u : Url} (sound : u.Sound) : ∀ c ∈ u.bodyText, c ∉ ['#', '?'] := by
  have hpath := sound.path
  have hsub : ∀ {c : Char}, c ∈ ['#', '?'] → c ∈ ['#', '/', '?'] := by
    intro c hmem
    simp only [List.mem_cons, List.not_mem_nil, or_false] at hmem ⊢
    tauto
  intro c hc hmem
  cases hauth : u.authority with
  | none =>
    simp only [bodyText, hauth] at hc
    cases hp : u.path with
    | rootless text =>
      rw [hp] at hpath
      rw [toList_guardedPath_rootless hp] at hc
      exact hpath.2.2 c hc hmem
    | rooted segments =>
      rw [hp] at hpath
      rw [toList_guardedPath_none hauth hp] at hc
      refine UrlPath.segmentText_chars ?_ c hc hmem
      intro s hs
      rcases List.mem_append.mp hs with hs | hs
      · exact guardSegments_clear segments s hs
      · exact (hpath.1 s hs).2
  | some a =>
    simp only [bodyText, hauth, List.mem_cons, List.mem_append] at hc
    cases hp : u.path with
    | rootless text =>
      rw [hp] at hpath
      have hnone := hpath.1
      rw [hauth] at hnone
      cases hnone
    | rooted segments =>
      rw [hp] at hpath
      rw [toList_guardedPath_some hauth hp] at hc
      rcases hc with rfl | rfl | hc | hc
      · revert hmem
        decide
      · revert hmem
        decide
      · exact Authority.text_chars (sound.authority a hauth) c hc (hsub hmem)
      · exact UrlPath.segmentText_chars (fun s hs => (hpath.1 s hs).2) c hc hmem

theorem Sound.rooted {u : Url} (sound : u.Sound) {a : Authority} (hauth : u.authority = some a) :
    ∃ segments, u.path = .rooted segments ∧ ∀ s ∈ segments, UrlPath.SegmentSound s := by
  have hpath := sound.path
  cases hp : u.path with
  | rootless text =>
    rw [hp] at hpath
    have hnone := hpath.1
    rw [hauth] at hnone
    cases hnone
  | rooted segments =>
    rw [hp] at hpath
    exact ⟨segments, rfl, hpath.1⟩

/-- An authority ends at the first slash of the path. -/
theorem authority_path_inj {u v : Url} (hu : u.Sound) (hv : v.Sound)
    (hscheme : u.scheme = v.scheme) {a b : Authority} (ha : u.authority = some a)
    (hb : v.authority = some b) (h : u.bodyText = v.bodyText) : a = b ∧ u.path = v.path := by
  obtain ⟨segments, hp, hs⟩ := hu.rooted ha
  obtain ⟨segments', hp', hs'⟩ := hv.rooted hb
  simp only [bodyText, ha, hb, toList_guardedPath_some ha hp, toList_guardedPath_some hb hp',
    List.cons.injEq, true_and] at h
  have hclear : ∀ {a : Authority} {kind : SchemeKind}, a.Sound kind →
      ∀ c ∈ a.text.toList, (c != '/') = true := by
    intro a kind hsound c hc
    have hnot := Authority.text_chars hsound c hc
    simp only [List.mem_cons, List.not_mem_nil, or_false, not_or] at hnot
    simpa using hnot.2.1
  have hhead : ∀ l : List String, ∀ c ∈ (UrlPath.segmentText l).head?, (c != '/') = false := by
    intro l c hc
    rw [UrlPath.segmentText_head l c hc]
    rfl
  obtain ⟨hauth, hpath⟩ := eq_of_append_eq (hclear (hu.authority a ha))
    (hclear (hv.authority b hb)) (hhead segments) (hhead segments') h
  rw [hp, hp', UrlPath.segmentText_inj (fun s h => (hs s h).2) (fun s h => (hs' s h).2) hpath]
  exact ⟨Authority.text_inj (hu.authority a ha) (hscheme ▸ hv.authority b hb) hauth, rfl⟩

theorem guardedPath_ne_rootless {u : Url} {segments : List String} {text : String}
    (hnone : u.authority = none) (hp : u.path = .rooted segments) (hne : segments ≠ [])
    (htext : ∀ c ∈ text.toList.head?, c ≠ '/') : u.guardedPath.toList ≠ text.toList := by
  intro heq
  rw [toList_guardedPath_none hnone hp] at heq
  have hhead : (UrlPath.segmentText (guardSegments segments ++ segments)).head? = some '/' := by
    cases hl : guardSegments segments ++ segments with
    | nil => exact absurd (List.append_eq_nil_iff.mp hl).2 hne
    | cons s rest => rfl
  rw [heq] at hhead
  exact htext '/' hhead rfl

theorem guardedSegments_inj {l l' : List String} (hl : ∀ s ∈ l, UrlPath.SegmentSound s)
    (hl' : ∀ s ∈ l', UrlPath.SegmentSound s)
    (h : UrlPath.segmentText (guardSegments l ++ l) =
      UrlPath.segmentText (guardSegments l' ++ l')) : l = l' := by
  have hclear : ∀ {l : List String}, (∀ s ∈ l, UrlPath.SegmentSound s) →
      ∀ s ∈ guardSegments l ++ l, UrlPath.SegmentClear s := by
    intro l hl s hs
    rcases List.mem_append.mp hs with hs | hs
    · exact guardSegments_clear l s hs
    · exact (hl s hs).2
  exact guardSegments_inj (fun hdot => (hl _ hdot).1 rfl) (fun hdot => (hl' _ hdot).1 rfl)
    (UrlPath.segmentText_inj (hclear hl) (hclear hl') h)

/-- A path without an authority is known by its guarded text. -/
theorem guardedPath_inj {u v : Url} (hu : u.Sound) (hv : v.Sound) (ha : u.authority = none)
    (hb : v.authority = none) (h : u.guardedPath.toList = v.guardedPath.toList) :
    u.path = v.path := by
  have hpu := hu.path
  have hpv := hv.path
  cases hp : u.path with
  | rootless text =>
    rw [hp] at hpu
    rw [toList_guardedPath_rootless hp] at h
    cases hq : v.path with
    | rootless text' =>
      rw [toList_guardedPath_rootless hq] at h
      exact congrArg _ (String.toList_injective h)
    | rooted segments' =>
      rw [hq] at hpv
      exact absurd h.symm (guardedPath_ne_rootless hb hq (hpv.2 hb) hpu.2.1)
  | rooted segments =>
    rw [hp] at hpu
    cases hq : v.path with
    | rootless text' =>
      rw [hq] at hpv
      rw [toList_guardedPath_rootless hq] at h
      exact absurd h (guardedPath_ne_rootless ha hp (hpu.2 ha) hpv.2.1)
    | rooted segments' =>
      rw [hq] at hpv
      rw [toList_guardedPath_none ha hp, toList_guardedPath_none hb hq] at h
      rw [guardedSegments_inj hpu.1 hpv.1 h]

/-- Authority and path of sound URLs of one scheme are known by their text. -/
theorem bodyText_inj {u v : Url} (hu : u.Sound) (hv : v.Sound) (hscheme : u.scheme = v.scheme)
    (h : u.bodyText = v.bodyText) : u.authority = v.authority ∧ u.path = v.path := by
  cases ha : u.authority with
  | some a =>
    cases hb : v.authority with
    | none =>
      simp only [bodyText, ha] at h
      exact absurd h.symm (bodyText_ne_slashes hv hb _)
    | some b =>
      obtain ⟨rfl, hpath⟩ := authority_path_inj hu hv hscheme ha hb h
      exact ⟨rfl, hpath⟩
  | none =>
    cases hb : v.authority with
    | some b =>
      simp only [bodyText, hb] at h
      exact absurd h (bodyText_ne_slashes hu ha _)
    | none =>
      simp only [bodyText, ha, hb] at h
      exact ⟨rfl, guardedPath_inj hu hv ha hb h⟩

/-- Two sound URLs with the same text are the same. -/
theorem Sound.eq_of_text {u v : Url} (hu : u.Sound) (hv : v.Sound) (h : u.text = v.text) :
    u = v := by
  have hlist := congrArg String.toList h
  rw [toList_text, toList_text] at hlist
  have hscheme : ∀ {w : Url}, w.Sound → ∀ c ∈ w.scheme.toList, (c != ':') = true := by
    intro w hw c hc
    have hne : c ≠ ':' := fun he => hw.scheme (he ▸ hc)
    simpa using hne
  obtain ⟨hs, hrest⟩ := eq_of_append_eq (hscheme hu) (hscheme hv) (by simp) (by simp) hlist
  have hbody : ∀ {w : Url}, w.Sound → ∀ c ∈ w.bodyText, (c != '#' && c != '?') = true := by
    intro w hw c hc
    have hnot := bodyText_chars hw c hc
    simp only [List.mem_cons, List.not_mem_nil, or_false, not_or] at hnot
    simp [hnot.1, hnot.2]
  have htail : ∀ w : Url, ∀ c ∈ (markedText '?' w.query ++ markedText '#' w.fragment).head?,
      (c != '#' && c != '?') = false := by
    intro w c hc
    cases hq : w.query with
    | some q =>
      rw [hq] at hc
      obtain rfl : '?' = c := by simpa [markedText] using hc
      rfl
    | none =>
      rw [hq] at hc
      rw [markedText_head '#' w.fragment c hc]
      rfl
  obtain ⟨hb, hqf⟩ := eq_of_append_eq (hbody hu) (hbody hv) (htail u) (htail v)
    (List.cons.inj hrest).2
  have hquery : ∀ {w : Url}, w.Sound → ∀ c ∈ markedText '?' w.query, (c != '#') = true := by
    intro w hw c hc
    cases hq : w.query with
    | none =>
      rw [hq] at hc
      cases hc
    | some q =>
      rw [hq] at hc
      rcases List.mem_cons.mp hc with rfl | hc
      · rfl
      · have hne : c ≠ '#' := fun he => hw.query q hq (he ▸ hc)
        simpa using hne
  have hfragment : ∀ w : Url, ∀ c ∈ (markedText '#' w.fragment).head?, (c != '#') = false := by
    intro w c hc
    rw [markedText_head '#' w.fragment c hc]
    rfl
  obtain ⟨hq, hf⟩ := eq_of_append_eq (hquery hu) (hquery hv) (hfragment u) (hfragment v) hqf
  obtain ⟨hauth, hpath⟩ := bodyText_inj hu hv (String.toList_injective hs) hb
  have hquery' := markedText_inj hq
  have hfragment' := markedText_inj hf
  obtain ⟨scheme, authority, path, query, fragment⟩ := u
  obtain ⟨scheme', authority', path', query', fragment'⟩ := v
  simp only at hs hauth hpath hquery' hfragment'
  rw [String.toList_injective hs, hauth, hpath, hquery', hfragment']

end Url

end SiteSpiders
