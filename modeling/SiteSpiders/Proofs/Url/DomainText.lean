import SiteSpiders.Proofs.Text.Ascii
import SiteSpiders.Proofs.Url.Punycode
import SiteSpiders.Proofs.Url.Reading

/-!
# Domain names are read as they are written

The ASCII form of a domain name is a domain name, and its own ASCII form: a label that was written
in Punycode is decoded to the label it was made of, and every other label is ASCII that stays as it
is. Only a label that has become too long in Punycode is not decoded again.
-/
namespace SiteSpiders.Url

open Text (Ascii divide joinWith utf8Encode)

theorem mapPoint_eq {n : Nat} (h : mapPoint n = some [n]) : n.isValidChar := by
  by_cases hascii : n < 0x80
  · exact .inl (Nat.lt_trans hascii (by decide))
  · by_contra hvalid
    rw [mapPoint, if_neg hascii, if_pos hvalid] at h
    cases h

section Mapped

variable {label : List Nat}

lemma isMapped_iff : isMapped label = true ↔ ∀ n ∈ label, mapPoint n = some [n] := by
  simp [isMapped]

lemma isValidChar_of_isMapped (h : isMapped label = true) : ∀ n ∈ label, n.isValidChar :=
  fun n hn => mapPoint_eq (isMapped_iff.mp h n hn)

theorem mapPoints_of_isMapped (h : isMapped label = true) : mapPoints label = some label := by
  induction label with
  | nil => rfl
  | cons n label ih =>
    have hall := isMapped_iff.mp h
    rw [mapPoints, hall n (by simp), ih (isMapped_iff.mpr fun m hm => hall m (by simp [hm]))]
    rfl

end Mapped

/-- Whether a label of a domain name, if it is in Punycode, is short enough to be decoded. -/
def DecodableLabel (label : List Char) : Prop :=
  ['x', 'n', '-', '-'] <+: label → label.length ≤ 4 + longestPunycode

instance (label : List Char) : Decidable (DecodableLabel label) :=
  inferInstanceAs (Decidable (_ → _))

/-- A label as it stands in the ASCII form of a domain name. -/
structure LabelText (written : List Char) : Prop where
  ascii : Ascii written
  mapped : isMapped (written.map Char.toNat) = true
  undivided : '.' ∉ written

/-- The characters of a label beyond ASCII written in Punycode are ASCII. -/
theorem labelText_encode {label : List Nat} (mapped : isMapped label = true)
    (short : label.length ≤ Punycode.longest) (undivided : 0x2e ∉ label) :
    LabelText ('x' :: 'n' :: '-' :: '-' :: Punycode.encode label) := by
  obtain ⟨digits, hdigits, hencode, -⟩ :=
    Punycode.encode_eq (isValidChar_of_isMapped mapped) short
  have hdigit : ∀ c ∈ digits, c.toNat < 0x80 ∧ mapPoint c.toNat = some [c.toNat] ∧ c ≠ '.' := by
    intro c hc
    obtain ⟨d, hd, rfl⟩ := hdigits c hc
    have hall : ∀ d < 36, (Punycode.digitChar d).toNat < 0x80 ∧
        mapPoint (Punycode.digitChar d).toNat = some [(Punycode.digitChar d).toNat] ∧
          Punycode.digitChar d ≠ '.' := by decide
    exact hall d hd
  have hbasic : ∀ c ∈ (label.filter (· < 0x80)).map Char.ofNat,
      c.toNat < 0x80 ∧ mapPoint c.toNat = some [c.toNat] ∧ c ≠ '.' := by
    intro c hc
    obtain ⟨n, hn, rfl⟩ := List.mem_map.mp hc
    obtain ⟨hmem, hlt⟩ := List.mem_filter.mp hn
    have hpoint := isMapped_iff.mp mapped n hmem
    rw [Punycode.toNat_ofNat (mapPoint_eq hpoint)]
    refine ⟨by simpa using hlt, hpoint, ?_⟩
    intro hdot
    have hcode := congrArg Char.toNat hdot
    rw [Punycode.toNat_ofNat (mapPoint_eq hpoint)] at hcode
    rw [hcode] at hmem
    exact undivided hmem
  have hfixed : ∀ c ∈ ['x', 'n', '-'],
      c.toNat < 0x80 ∧ mapPoint c.toNat = some [c.toNat] ∧ c ≠ '.' := by
    simp only [List.forall_mem_cons, List.not_mem_nil, false_implies, implies_true, and_true]
    decide
  have hall : ∀ c ∈ 'x' :: 'n' :: '-' :: '-' :: Punycode.encode label,
      c.toNat < 0x80 ∧ mapPoint c.toNat = some [c.toNat] ∧ c ≠ '.' := by
    intro c hc
    rw [hencode] at hc
    simp only [List.mem_cons, List.mem_append] at hc
    rcases hc with rfl | rfl | rfl | rfl | hc | hc
    · exact hfixed _ (by simp)
    · exact hfixed _ (by simp)
    · exact hfixed _ (by simp)
    · exact hfixed _ (by simp)
    · split_ifs at hc
      · cases hc
      · rcases List.mem_append.mp hc with hc | hc
        · exact hbasic c hc
        · exact hfixed c (by simp [List.mem_singleton.mp hc])
    · exact hdigit c hc
  refine ⟨fun c hc => (hall c hc).1, isMapped_iff.mpr ?_, fun h => (hall _ h).2.2 rfl⟩
  intro n hn
  obtain ⟨c, hc, rfl⟩ := List.mem_map.mp hn
  exact (hall c hc).2.1

theorem labelText_ascii {label : List Nat} (ascii : label.all (· < 0x80) = true)
    (mapped : isMapped label = true) (undivided : 0x2e ∉ label) :
    (label.map Char.ofNat).map Char.toNat = label ∧ LabelText (label.map Char.ofNat) := by
  have hascii : ∀ n ∈ label, n < 0x80 := by simpa using ascii
  have hmap := Punycode.map_ofNat_ascii hascii
  refine ⟨hmap, ?_, by rwa [hmap], ?_⟩
  · intro c hc
    have hmem := List.mem_map_of_mem (f := Char.toNat) hc
    rw [hmap] at hmem
    exact hascii _ hmem
  · intro hdot
    have hmem := List.mem_map_of_mem (f := Char.toNat) hdot
    rw [hmap] at hmem
    exact undivided hmem

theorem decodable_iff {label : List Nat} (ascii : ∀ n ∈ label, n < 0x80) :
    DecodableLabel (label.map Char.ofNat) ↔
      (punycodeMark.isPrefixOf label = true → label.length ≤ 4 + longestPunycode) := by
  have hprefix : ['x', 'n', '-', '-'] <+: label.map Char.ofNat ↔
      punycodeMark.isPrefixOf label = true := by
    rw [List.isPrefixOf_iff_prefix]
    constructor
    · intro h
      have hpoints := h.map Char.toNat
      rwa [Punycode.map_ofNat_ascii ascii] at hpoints
    · intro h
      exact h.map Char.ofNat
  rw [DecodableLabel, hprefix, List.length_map]

/-- A label is read from the ASCII it is written in as it was read before, if it is short enough
to be decoded. -/
theorem processLabel_written {label readable : List Nat} {written : List Char}
    (undivided : 0x2e ∉ label) (h : processLabel label = some (readable, written)) :
    LabelText written ∧ processLabel (written.map Char.toNat) =
      if DecodableLabel written then some (readable, written) else none := by
  have hlabel := h
  unfold processLabel at h
  by_cases hmark : punycodeMark.isPrefixOf label = true
  · rw [if_pos hmark] at h
    split_ifs at h with hall
    simp only [Bool.and_eq_true, decide_eq_true_eq] at hall
    obtain ⟨⟨hascii, hmapped⟩, hlength⟩ := hall
    obtain ⟨decoded, hdecoded, h⟩ := Option.bind_eq_some_iff.mp h
    split_ifs at h
    obtain ⟨rfl, rfl⟩ : decoded = readable ∧ label.map Char.ofNat = written := by simpa using h
    obtain ⟨hmap, htext⟩ := labelText_ascii hascii hmapped undivided
    have hdecodable : DecodableLabel (label.map Char.ofNat) :=
      (decodable_iff (by simpa using hascii)).mpr fun _ => hlength
    exact ⟨htext, by rw [hmap, hlabel, if_pos hdecodable]⟩
  rw [if_neg hmark] at h
  split_ifs at h with hinvalid hascii
  all_goals
    have hvalid : labelValid label = true := by simpa using hinvalid
    have hparts := hvalid
    simp only [labelValid, Bool.and_eq_true, Bool.or_eq_true, decide_eq_true_eq] at hparts
    obtain ⟨⟨⟨_, hmapped⟩, _⟩, hshort⟩ := hparts
  · obtain ⟨rfl, rfl⟩ : label = readable ∧ label.map Char.ofNat = written := by simpa using h
    obtain ⟨hmap, htext⟩ := labelText_ascii hascii hmapped undivided
    have hdecodable : DecodableLabel (label.map Char.ofNat) :=
      (decodable_iff (by simpa using hascii)).mpr fun hpunycode => absurd hpunycode hmark
    exact ⟨htext, by rw [hmap, hlabel, if_pos hdecodable]⟩
  · obtain ⟨rfl, rfl⟩ : label = readable ∧
        'x' :: 'n' :: '-' :: '-' :: Punycode.encode label = written := by simpa using h
    have hlength : label.length ≤ Punycode.longest := by
      rcases hshort with hshort | hshort
      · exact Nat.le_trans hshort (by decide)
      · exact absurd hshort hascii
    have htext := labelText_encode hmapped hlength undivided
    have hdecode := Punycode.decode?_encode (isValidChar_of_isMapped hmapped) hlength
    refine ⟨htext, ?_⟩
    generalize Punycode.encode label = digits at htext hdecode
    have hpoints : (('x' :: 'n' :: '-' :: '-' :: digits).map Char.toNat).all (· < 0x80) = true := by
      rw [List.all_map, List.all_eq_true]
      exact fun c hc => decide_eq_true (htext.ascii c hc)
    have hmark : punycodeMark.isPrefixOf
        (('x' :: 'n' :: '-' :: '-' :: digits).map Char.toNat) = true := by
      simp [punycodeMark, List.isPrefixOf]
    have hagain : ∀ cs : List Char, (cs.map Char.toNat).map Char.ofNat = cs := by
      simp [Function.comp_def, Char.ofNat_toNat]
    have hdigits : ((('x' :: 'n' :: '-' :: '-' :: digits).map Char.toNat).drop 4).map Char.ofNat =
        digits := hagain digits
    have hbeyond : (label.isEmpty || label.all (· < 0x80) || !labelValid label) = false := by
      cases label with
      | nil => exact absurd rfl hascii
      | cons n rest => simp [hascii, hvalid]
    have hdecodable : DecodableLabel ('x' :: 'n' :: '-' :: '-' :: digits) ↔
        (('x' :: 'n' :: '-' :: '-' :: digits).map Char.toNat).length ≤ 4 + longestPunycode := by
      simp [DecodableLabel]
    rw [processLabel, if_pos hmark, hpoints, htext.mapped, hdigits, hdecode, hagain]
    simp only [Bool.true_and, decide_eq_true_eq, hdecodable]
    refine if_congr Iff.rfl ?_ rfl
    simp only [Option.bind_eq_bind, Option.bind_some, hbeyond]
    rfl

/-- The labels of the ASCII form of a domain name. -/
theorem mapM_processLabel_written {labels : List (List Nat)} {results : List (List Nat × List Char)}
    (undivided : ∀ label ∈ labels, 0x2e ∉ label) (h : labels.mapM processLabel = some results) :
    (∀ r ∈ results, LabelText r.2) ∧
      (results.map fun r => r.2.map Char.toNat).mapM processLabel =
        if ∀ r ∈ results, DecodableLabel r.2 then some results else none := by
  induction labels generalizing results with
  | nil =>
    obtain rfl := Option.some.inj h
    simp
  | cons label labels ih =>
    simp only [List.mapM_cons, Option.bind_eq_bind, Option.bind_eq_some_iff, Option.pure_def,
      Option.some.injEq] at h
    obtain ⟨⟨readable, written⟩, hlabel, results, hmore, rfl⟩ := h
    obtain ⟨htext, hagain⟩ := processLabel_written (undivided label (by simp)) hlabel
    obtain ⟨htexts, hmoreAgain⟩ := ih (fun l hl => undivided l (by simp [hl])) hmore
    refine ⟨List.forall_mem_cons.mpr ⟨htext, htexts⟩, ?_⟩
    rw [List.map_cons, List.mapM_cons, hagain, hmoreAgain]
    have hcons : (∀ r ∈ (readable, written) :: results, DecodableLabel r.2) ↔
        DecodableLabel written ∧ ∀ r ∈ results, DecodableLabel r.2 := List.forall_mem_cons
    by_cases hhead : DecodableLabel written
    · by_cases hall : ∀ r ∈ results, DecodableLabel r.2
      · rw [if_pos hhead, if_pos hall, if_pos (hcons.mpr ⟨hhead, hall⟩)]
        rfl
      · rw [if_pos hhead, if_neg hall, if_neg fun hboth => hall (hcons.mp hboth).2]
        rfl
    · rw [if_neg hhead, if_neg fun hboth => hhead (hcons.mp hboth).1]
      rfl

/-- Whether all labels of a domain name are short enough to be decoded. -/
def DecodableName (name : List Char) : Prop := ∀ label ∈ divide '.' name, DecodableLabel label

instance (name : List Char) : Decidable (DecodableName name) :=
  inferInstanceAs (Decidable (∀ label ∈ divide '.' name, DecodableLabel label))

/-- The labels that the ASCII form of a domain name was joined from. -/
theorem exists_labels {bytes : List Nat} {name : List Char} (h : domainToAscii bytes = some name) :
    ∃ (labels : List (List Nat)) (results : List (List Nat × List Char)),
      labels.mapM processLabel = some results ∧ results ≠ [] ∧
      (∀ label ∈ labels, 0x2e ∉ label) ∧ name = joinWith '.' (results.map (·.2)) ∧
      ¬((results.map (·.1)).any hasRightToLeft &&
        !(results.map (·.1)).all directionsFit) = true ∧
      ¬name.any (fun c => forbiddenInDomain c.toNat) = true := by
  simp only [domainToAscii, Option.bind_eq_bind, Option.bind_eq_some_iff] at h
  obtain ⟨cs, _, mapped, _, results, hresults, h⟩ := h
  split_ifs at h with hdirections hforbidden
  obtain rfl := Option.some.inj h
  refine ⟨_, results, hresults, ?_, fun label => Text.not_mem_of_mem_divide, rfl, hdirections,
    hforbidden⟩
  rintro rfl
  have hlength := length_of_mapM hresults
  simp [divide] at hlength

/-- The ASCII form of a domain name is ASCII that stays as it is, without percent signs. -/
theorem domainToAscii_ascii {bytes : List Nat} {name : List Char}
    (h : domainToAscii bytes = some name) :
    Ascii name ∧ isMapped (name.map Char.toNat) = true ∧ '%' ∉ name := by
  obtain ⟨labels, results, hresults, -, hundivided, rfl, -, hforbidden⟩ := exists_labels h
  obtain ⟨htexts, -⟩ := mapM_processLabel_written hundivided hresults
  have hchar : ∀ c ∈ joinWith '.' (results.map (·.2)),
      c.toNat < 0x80 ∧ mapPoint c.toNat = some [c.toNat] := by
    intro c hc
    rcases Text.mem_joinWith hc with rfl | ⟨part, hpart, hc⟩
    · decide
    · obtain ⟨r, hr, rfl⟩ := List.mem_map.mp hpart
      have htext := htexts r hr
      exact ⟨htext.ascii c hc, isMapped_iff.mp htext.mapped _ (List.mem_map_of_mem hc)⟩
  refine ⟨fun c hc => (hchar c hc).1, isMapped_iff.mpr ?_, ?_⟩
  · intro n hn
    obtain ⟨c, hc, rfl⟩ := List.mem_map.mp hn
    exact (hchar c hc).2
  · intro hc
    exact hforbidden (List.any_eq_true.mpr ⟨_, hc, by decide⟩)

theorem percentDecode_of_not_mem {bytes : List Nat} (h : 0x25 ∉ bytes) :
    percentDecode bytes = bytes := by
  induction bytes with
  | nil => simp [percentDecode]
  | cons b bytes ih =>
    have hb : b ≠ 0x25 := fun he => h (he ▸ List.mem_cons_self)
    have hrest := ih fun hm => h (List.mem_cons_of_mem _ hm)
    rw [percentDecode.eq_def]
    split
    · rename_i heq
      exact absurd (List.cons.inj heq).1 hb
    · rename_i heq
      obtain ⟨rfl, rfl⟩ := List.cons.inj heq
      rw [hrest]
    · rename_i heq
      cases heq

/-- The ASCII form of a domain name is its own ASCII form, if its labels can be decoded. -/
theorem domainToAscii_again {bytes : List Nat} {name : List Char}
    (h : domainToAscii bytes = some name) :
    domainToAscii (percentDecode (utf8Encode name)) =
      if DecodableName name then some name else none := by
  obtain ⟨hascii, hmapped, hpercent⟩ := domainToAscii_ascii h
  obtain ⟨labels, results, hresults, hne, hundivided, hname, hdirections, hforbidden⟩ :=
    exists_labels h
  obtain ⟨htexts, hagain⟩ := mapM_processLabel_written hundivided hresults
  have hparts : ∀ part ∈ results.map (·.2), '.' ∉ part := by
    intro part hpart
    obtain ⟨r, hr, rfl⟩ := List.mem_map.mp hpart
    exact (htexts r hr).undivided
  have hdivide : divide '.' name = results.map (·.2) := by
    rw [hname, Text.divide_joinWith (by simpa using hne) hparts]
  have hpoints : divide 0x2e (name.map Char.toNat) = results.map fun r => r.2.map Char.toNat := by
    have hjoin : name.map Char.toNat =
        joinWith 0x2e (results.map fun r => r.2.map Char.toNat) := by
      rw [hname, Text.map_joinWith, List.map_map]
      rfl
    rw [hjoin, Text.divide_joinWith (by simpa using hne)]
    intro part hpart
    obtain ⟨r, hr, rfl⟩ := List.mem_map.mp hpart
    intro hdot
    obtain ⟨c, hc, hcode⟩ := List.mem_map.mp hdot
    obtain rfl : c = '.' := Char.toNat_inj.mp hcode
    exact (htexts r hr).undivided hc
  have hbytes : percentDecode (utf8Encode name) = name.map Char.toNat := by
    rw [hascii.utf8Encode, percentDecode_of_not_mem]
    intro hc
    obtain ⟨c, hc, hcode⟩ := List.mem_map.mp hc
    obtain rfl : c = '%' := Char.toNat_inj.mp hcode
    exact hpercent hc
  have hcomposed : Unicode.composed (name.map Char.toNat) = name.map Char.toNat := by
    refine Unicode.composed_ascii fun n hn => ?_
    obtain ⟨c, hc, rfl⟩ := List.mem_map.mp hn
    exact hascii c hc
  have hdecodable : DecodableName name ↔ ∀ r ∈ results, DecodableLabel r.2 := by
    rw [DecodableName, hdivide, List.forall_mem_map]
  simp only [domainToAscii, hbytes, hascii.utf8Decode?, Option.bind_eq_bind, Option.bind_some,
    mapPoints_of_isMapped hmapped, hcomposed, hpoints, hagain, hdecodable]
  split_ifs with hall
  · simp only [Option.bind_some, if_neg hdirections, ← hname, if_neg hforbidden]
  · rfl

end SiteSpiders.Url
