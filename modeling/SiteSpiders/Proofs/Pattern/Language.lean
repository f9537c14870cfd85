import SiteSpiders.Proofs.Pattern.Preferred

/-!
# The texts a pattern matches

A pattern that is put together from literals and repeated characters can end exactly behind the
texts of a language that is put together in the same way. What is found with it is a text of that
language, and where only one text of the language stands at the start, that text is found.
-/
namespace SiteSpiders.Pattern

theorem Place.pass_append (p : Place) (front back : List Char) :
    p.pass (front ++ back) = (p.pass front).pass back := by
  induction front generalizing p with
  | nil => rfl
  | cons c front ih => exact ih _

/-- Whether a pattern can end exactly behind the texts of a language. -/
structure Reads (pattern : Pattern) (language : List Char → Prop) : Prop where
  sound : ∀ p, ∀ q ∈ pattern.run p, ∃ text, language text ∧ text <+: p.rest ∧ q = p.pass text
  complete : ∀ p text, language text → text <+: p.rest → p.pass text ∈ pattern.run p

theorem mem_of_mem_firstOfEach {seen : List Nat} {ps : List Place} {q : Place}
    (h : q ∈ firstOfEach seen ps) : q ∈ ps := by
  induction ps generalizing seen with
  | nil => cases h
  | cons p ps ih =>
    rw [firstOfEach] at h
    split_ifs at h
    · exact List.mem_cons_of_mem _ (ih h)
    · rcases List.mem_cons.mp h with rfl | h
      · exact List.mem_cons_self
      · exact List.mem_cons_of_mem _ (ih h)

/-- Every offset that was not seen before keeps a place. -/
theorem exists_mem_firstOfEach {seen : List Nat} {ps : List Place} {q : Place} (h : q ∈ ps)
    (unseen : q.offset ∉ seen) : ∃ r ∈ firstOfEach seen ps, r.offset = q.offset := by
  induction ps generalizing seen with
  | nil => cases h
  | cons p ps ih =>
    rw [firstOfEach]
    by_cases hseen : seen.contains p.offset = true
    · rw [if_pos hseen]
      rcases List.mem_cons.mp h with rfl | h
      · exact absurd (by simpa using hseen) unseen
      · exact ih h unseen
    · rw [if_neg hseen]
      by_cases hsame : q.offset = p.offset
      · exact ⟨p, List.mem_cons_self, hsame.symm⟩
      · rcases List.mem_cons.mp h with rfl | h
        · exact absurd rfl hsame
        · obtain ⟨r, hr, hoffset⟩ := ih h (List.not_mem_cons_of_ne_of_not_mem hsame unseen)
          exact ⟨r, List.mem_cons_of_mem _ hr, hoffset⟩

/-- Two texts that stand at a place are the same if they are equally long. -/
theorem eq_of_offset_eq {p : Place} {s t : List Char} (hs : s <+: p.rest) (ht : t <+: p.rest)
    (h : (p.pass s).offset = (p.pass t).offset) : s = t := by
  rw [Place.pass_offset, Place.pass_offset] at h
  exact (List.prefix_of_prefix_length_le hs ht (by omega)).eq_of_length (by omega)

theorem mem_firstOfEach_pass {p : Place} {ps : List Place} {text : List Char}
    (sound : ∀ q ∈ ps, ∃ t, t <+: p.rest ∧ q = p.pass t) (stands : text <+: p.rest)
    (h : p.pass text ∈ ps) : p.pass text ∈ firstOfEach [] ps := by
  obtain ⟨r, hr, hoffset⟩ := exists_mem_firstOfEach h (List.not_mem_nil)
  obtain ⟨t, ht, rfl⟩ := sound r (mem_of_mem_firstOfEach hr)
  rwa [eq_of_offset_eq ht stands hoffset] at hr

section Parts

variable {a b : Pattern} {l m : List Char → Prop}

theorem Reads.congr (h : Reads a l) (hl : ∀ t, l t ↔ m t) : Reads a m where
  sound p q hq := by
    obtain ⟨t, ht, hstands, heq⟩ := h.sound p q hq
    exact ⟨t, (hl t).mp ht, hstands, heq⟩
  complete p t ht := h.complete p t ((hl t).mpr ht)

theorem prefix_append_iff {front back rest : List Char} :
    front ++ back <+: rest ↔ front <+: rest ∧ back <+: rest.drop front.length := by
  constructor
  · rintro ⟨more, rfl⟩
    simp
  · rintro ⟨⟨more, rfl⟩, hback⟩
    rw [List.drop_left] at hback
    exact (List.prefix_append_right_inj front).mpr hback

/-- One pattern after another passes one text after another. -/
theorem Reads.cat (ha : Reads a l) (hb : Reads b m) :
    Reads (.cat a b) fun t => ∃ x y, l x ∧ m y ∧ t = x ++ y := by
  have hsound : ∀ p, ∀ q ∈ (a.run p).flatMap b.run,
      ∃ t, (∃ x y, l x ∧ m y ∧ t = x ++ y) ∧ t <+: p.rest ∧ q = p.pass t := by
    intro p q hq
    obtain ⟨r, hr, hq⟩ := List.mem_flatMap.mp hq
    obtain ⟨x, hx, hxstands, rfl⟩ := ha.sound p r hr
    obtain ⟨y, hy, hystands, rfl⟩ := hb.sound _ q hq
    rw [Place.pass_rest] at hystands
    exact ⟨x ++ y, ⟨x, y, hx, hy, rfl⟩, prefix_append_iff.mpr ⟨hxstands, hystands⟩,
      (p.pass_append x y).symm⟩
  constructor
  · exact fun p q hq => hsound p q (mem_of_mem_firstOfEach hq)
  · rintro p _ ⟨x, y, hx, hy, rfl⟩ hstands
    obtain ⟨hxstands, hystands⟩ := prefix_append_iff.mp hstands
    refine mem_firstOfEach_pass (fun q hq => ?_) hstands (List.mem_flatMap.mpr
      ⟨p.pass x, ha.complete p x hx hxstands, ?_⟩)
    · obtain ⟨t, -, ht⟩ := hsound p q hq
      exact ⟨t, ht⟩
    · rw [p.pass_append]
      exact hb.complete _ y hy (by rwa [Place.pass_rest])

theorem reads_literal (s : String) : Reads (literal s) (· = s.toList) := by
  constructor
  · intro p q hq
    rw [run_literal] at hq
    split_ifs at hq with hstands
    · exact ⟨_, rfl, hstands, List.mem_singleton.mp hq⟩
    · cases hq
  · rintro p _ rfl hstands
    rw [run_literal, if_pos hstands]
    exact List.mem_singleton_self _

theorem reads_char (c : Char) : Reads (char c) (· = [c]) := by
  constructor
  · intro p q hq
    rw [run_char] at hq
    split_ifs at hq with hstands
    · exact ⟨_, rfl, hstands, List.mem_singleton.mp hq⟩
    · cases hq
  · rintro p _ rfl hstands
    rw [run_char, if_pos hstands]
    exact List.mem_singleton_self _

variable {accepts : Char → Bool}

/-- The places behind accepted characters. -/
theorem mem_spans {bound : Option Nat} {p q : Place} :
    q ∈ spans accepts p.before p.offset p.groups bound p.rest ↔
      ∃ text, (∀ c ∈ text, accepts c = true) ∧ (∀ n ∈ bound, text.length ≤ n) ∧
        text <+: p.rest ∧ q = p.pass text := by
  obtain ⟨before, rest, offset, groups⟩ := p
  induction rest generalizing before offset bound with
  | nil =>
    have hspans : spans accepts before offset groups bound [] = [⟨before, [], offset, groups⟩] := by
      rw [spans]
      split_ifs <;> rfl
    simp only [hspans, List.mem_singleton, List.prefix_nil]
    constructor
    · rintro rfl
      exact ⟨[], by simp, by simp, rfl, rfl⟩
    · rintro ⟨_, -, -, rfl, rfl⟩
      rfl
  | cons c rest ih =>
    have hrest := @ih (bound.map (· - 1)) (some c) (offset + 1)
    simp only at hrest ⊢
    rw [spans]
    constructor
    · intro hq
      split_ifs at hq with hzero haccepts
      · obtain rfl := List.mem_singleton.mp hq
        exact ⟨[], by simp, by simp, List.nil_prefix, rfl⟩
      · rcases List.mem_cons.mp hq with rfl | hq
        · exact ⟨[], by simp, by simp, List.nil_prefix, rfl⟩
        · obtain ⟨text, hall, hbound, hstands, rfl⟩ := hrest.mp hq
          refine ⟨c :: text, List.forall_mem_cons.mpr ⟨haccepts, hall⟩, fun n hn => ?_,
            List.cons_prefix_cons.mpr ⟨rfl, hstands⟩, rfl⟩
          have hle := hbound (n - 1) (Option.mem_map_of_mem _ hn)
          have hpos : n ≠ 0 := fun he => hzero (he ▸ hn)
          rw [List.length_cons]
          omega
      · obtain rfl := List.mem_singleton.mp hq
        exact ⟨[], by simp, by simp, List.nil_prefix, rfl⟩
    · rintro ⟨text, hall, hbound, hstands, rfl⟩
      cases text with
      | nil =>
        show (⟨before, c :: rest, offset, groups⟩ : Place) ∈ _
        split_ifs <;> simp
      | cons d text =>
        obtain ⟨rfl, htail⟩ := List.cons_prefix_cons.mp hstands
        obtain ⟨haccepts, hall⟩ := List.forall_mem_cons.mp hall
        have hpos : bound ≠ some 0 := by
          rintro rfl
          have hle := hbound 0 rfl
          simp at hle
        rw [if_neg hpos, if_pos haccepts]
        refine List.mem_cons_of_mem _ (hrest.mpr ⟨text, hall, fun n hn => ?_, htail, rfl⟩)
        obtain ⟨n, hmost, rfl⟩ := Option.map_eq_some_iff.mp hn
        have hle := hbound n hmost
        rw [List.length_cons] at hle
        omega

theorem run_one (p : Place) : (one accepts).run p =
    match p.rest with
    | [] => []
    | c :: _ => if accepts c then [p.pass [c]] else [] := by
  obtain ⟨before, rest, offset, groups⟩ := p
  cases rest <;> rfl

/-- A character that may be left out. -/
theorem reads_optional : Reads (optional (one accepts)) fun t =>
    t = [] ∨ ∃ c, accepts c = true ∧ t = [c] := by
  have hrun : ∀ p q, q ∈ (optional (one accepts)).run p ↔
      q ∈ spans accepts p.before p.offset p.groups (some 1) p.rest := by
    intro p q
    simp [optional, one, run, iterate]
  have hshape : ∀ t : List Char, (t = [] ∨ ∃ c, accepts c = true ∧ t = [c]) ↔
      (∀ c ∈ t, accepts c = true) ∧ ∀ n ∈ some 1, t.length ≤ n := by
    intro t
    rcases t with _ | ⟨c, _ | ⟨d, t⟩⟩
    · simp
    · simp
    · simp
  constructor
  · intro p q hq
    obtain ⟨t, hall, hbound, hstands, rfl⟩ := mem_spans.mp ((hrun p q).mp hq)
    exact ⟨t, (hshape t).mpr ⟨hall, hbound⟩, hstands, rfl⟩
  · intro p t ht hstands
    obtain ⟨hall, hbound⟩ := (hshape t).mp ht
    exact (hrun p _).mpr (mem_spans.mpr ⟨t, hall, hbound, hstands, rfl⟩)

/-- Accepted characters, at least one of them. -/
theorem reads_oneOrMore : Reads (oneOrMore (one accepts)) fun t =>
    t ≠ [] ∧ ∀ c ∈ t, accepts c = true := by
  have hrun : ∀ p q, q ∈ (oneOrMore (one accepts)).run p ↔
      ∃ r ∈ (one accepts).run p, q ∈ spans accepts r.before r.offset r.groups none r.rest := by
    intro p q
    have hstart : iterate (one accepts).run 1 [p] = (one accepts).run p := by
      have honce : iterate (one accepts).run 1 [p] =
          firstOfEach [] ([p].flatMap (one accepts).run) := rfl
      rw [honce, List.flatMap_singleton, run_one]
      split
      · rfl
      · split_ifs <;> simp [firstOfEach]
    have hunfold : (oneOrMore (one accepts)).run p =
        (iterate (one accepts).run 1 [p]).flatMap fun r =>
          (spans accepts r.before r.offset r.groups none r.rest).reverse := rfl
    rw [hunfold, hstart, List.mem_flatMap]
    simp only [List.mem_reverse]
  constructor
  · intro p q hq
    obtain ⟨r, hr, hq⟩ := (hrun p q).mp hq
    rw [run_one] at hr
    split at hr
    · cases hr
    · rename_i c rest hrest
      split_ifs at hr with haccepts
      · obtain rfl := List.mem_singleton.mp hr
        obtain ⟨t, hall, -, hstands, rfl⟩ := mem_spans.mp hq
        refine ⟨c :: t, ⟨by simp, List.forall_mem_cons.mpr ⟨haccepts, hall⟩⟩, ?_, rfl⟩
        rw [hrest]
        rw [Place.pass_rest, hrest] at hstands
        exact List.cons_prefix_cons.mpr ⟨rfl, hstands⟩
      · cases hr
  · rintro p t ⟨hne, hall⟩ hstands
    cases t with
    | nil => exact absurd rfl hne
    | cons c t =>
      obtain ⟨haccepts, hall⟩ := List.forall_mem_cons.mp hall
      obtain ⟨rest, hrest, htail⟩ := List.cons_prefix_iff.mp hstands
      refine (hrun p _).mpr ⟨p.pass [c], ?_, mem_spans.mpr ⟨t, hall, by simp, ?_, rfl⟩⟩
      · rw [run_one, hrest]
        simp [haccepts]
      · rw [Place.pass_rest, hrest]
        exact htail

end Parts

section Find

variable {pattern : Pattern} {language : List Char → Prop}

theorem Reads.of_matchAt? (reads : Reads pattern language) {before : Option Char} {offset : Nat}
    {cs : List Char} {found : Found} (h : pattern.matchAt? before offset cs = some found) :
    ∃ text, language text ∧ text <+: cs ∧ found.first = offset ∧
      found.last = offset + text.length := by
  rw [matchAt?, Option.map_map, Option.map_eq_some_iff] at h
  obtain ⟨q, hq, rfl⟩ := h
  obtain ⟨text, htext, hstands, rfl⟩ := reads.sound _ q (List.mem_of_mem_head? hq)
  exact ⟨text, htext, hstands, rfl, by simp [Place.mark]⟩

/-- Where a search starts makes no difference to what it finds. -/
theorem Reads.of_findFrom (reads : Reads pattern language) {before : Option Char} {offset : Nat}
    {cs : List Char} {found : Found} (h : pattern.findFrom before offset cs = some found) :
    ∃ front text back, language text ∧ cs = front ++ text ++ back ∧
      found.first = offset + front.length ∧ found.last = found.first + text.length := by
  induction cs generalizing before offset with
  | nil =>
    rw [findFrom_nil] at h
    obtain ⟨text, htext, hstands, hfirst, hlast⟩ := reads.of_matchAt? h
    obtain rfl := List.prefix_nil.mp hstands
    exact ⟨[], [], [], htext, rfl, hfirst, by rw [hlast, hfirst]⟩
  | cons c cs ih =>
    rw [findFrom_cons, Option.or_eq_some_iff] at h
    rcases h with h | ⟨-, h⟩
    · obtain ⟨text, htext, ⟨back, hback⟩, hfirst, hlast⟩ := reads.of_matchAt? h
      exact ⟨[], text, back, htext, hback.symm, hfirst, by rw [hlast, hfirst]⟩
    · obtain ⟨front, text, back, htext, rfl, hfirst, hlast⟩ := ih h
      exact ⟨c :: front, text, back, htext, rfl, by rw [hfirst, List.length_cons]; omega, hlast⟩

theorem Reads.of_find? (reads : Reads pattern language) {cs : List Char} {found : Found}
    (h : pattern.find? cs = some found) : language (found.text cs) ∧ found.text cs <:+: cs := by
  obtain ⟨front, text, back, htext, rfl, hfirst, hlast⟩ := reads.of_findFrom h
  have hslice : found.text (front ++ text ++ back) = text := by
    have hlength : found.last - found.first = text.length := by omega
    rw [Found.text, slice, hlength, hfirst, Nat.zero_add, List.append_assoc, List.drop_left,
      List.take_left]
  rw [hslice]
  exact ⟨htext, front, back, rfl⟩

/-- A text of the language at the start is found there, if it is the only one there. -/
theorem Reads.find?_of_prefix (reads : Reads pattern language) {cs text : List Char}
    (member : language text) (stands : text <+: cs)
    (only : ∀ t, language t → t <+: cs → t = text) :
    ∃ found, pattern.find? cs = some found ∧ found.text cs = text := by
  have hmem := reads.complete (Place.start cs) text member stands
  cases hrun : pattern.run (Place.start cs) with
  | nil =>
    rw [hrun] at hmem
    cases hmem
  | cons q places =>
    obtain ⟨t, ht, htstands, rfl⟩ := reads.sound (Place.start cs) q (by rw [hrun]; simp)
    obtain rfl := only t ht htstands
    have hmatch : pattern.matchAt? none 0 cs =
        some ⟨0, ((Place.start cs).pass t).offset, ((Place.start cs).pass t).groups⟩ := by
      rw [matchAt?]
      show ((pattern.run (Place.start cs)).head?.map _).map _ = _
      rw [hrun]
      rfl
    refine ⟨⟨0, ((Place.start cs).pass t).offset, ((Place.start cs).pass t).groups⟩, ?_, ?_⟩
    · rw [find?]
      cases cs with
      | nil => rw [findFrom_nil, hmatch]
      | cons c cs => rw [findFrom_cons, hmatch, Option.some_or]
    · obtain ⟨back, rfl⟩ := stands
      rw [Found.text, slice, Place.pass_offset]
      simp [Place.start]

end Find

end SiteSpiders.Pattern
