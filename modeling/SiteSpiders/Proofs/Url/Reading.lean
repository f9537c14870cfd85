import Mathlib.Data.List.TakeWhile
import SiteSpiders.Proofs.Url.Identity

/-!
# URLs that are read are sound

Whatever is read, on its own or as a link, has parts that keep clear of what divides
them: reading cuts a text at the dividers and escapes what could be taken for one. So
URLs that were read are known by their texts.
-/
namespace SiteSpiders.Url

open UrlPath (SegmentSound SegmentClear)

def escapeChars : List Char := '%' :: (List.range 16).map upperHex

theorem utf8Bytes_lt {c : Char} {b : Nat} (h : b ∈ Text.utf8Bytes c) : b < 256 := by
  have hmax : c.toNat < 1114112 := by
    rcases c.valid with h | ⟨_, h⟩
    · exact Nat.lt_trans h (by decide)
    · exact h
  unfold Text.utf8Bytes at h
  dsimp only at h
  split_ifs at h
  all_goals
    simp only [List.mem_cons, List.not_mem_nil, or_false] at h
    omega

/-- What percent-encoding keeps is not in the set. -/
theorem mem_percentEncode {set : EncodeSet} {cs : List Char} {x : Char} (hx : x ∉ escapeChars)
    (h : x ∈ percentEncode set cs) : x ∈ cs ∧ set x = false := by
  obtain ⟨c, hc, hmem⟩ := List.mem_flatMap.mp h
  split_ifs at hmem with hset
  · obtain ⟨b, hb, hescape⟩ := List.mem_flatMap.mp hmem
    have hlt := utf8Bytes_lt hb
    have hhex : ∀ n < 16, upperHex n ∈ escapeChars := by
      intro n hn
      exact List.mem_cons_of_mem _ (List.mem_map_of_mem (List.mem_range.mpr hn))
    simp only [escapeByte, List.mem_cons, List.not_mem_nil, or_false] at hescape
    rcases hescape with rfl | rfl | rfl
    · exact absurd List.mem_cons_self hx
    · exact absurd (hhex _ (by omega)) hx
    · exact absurd (hhex _ (by omega)) hx
  · rw [List.mem_singleton.mp hmem]
    exact ⟨hc, by simpa using hset⟩

/-- Percent-encoding keeps clear of dividers that are in the set or not in the text. -/
theorem percentEncode_clear {set : EncodeSet} {cs bad : List Char}
    (hbad : bad.all (· ∉ escapeChars) = true) (h : ∀ x ∈ bad, x ∈ cs → set x = true) :
    ∀ c ∈ percentEncode set cs, c ∉ bad := by
  intro c hc hmem
  have hescape := List.all_eq_true.mp hbad c hmem
  obtain ⟨hcs, hset⟩ := mem_percentEncode (of_decide_eq_true hescape) hc
  rw [h c hmem hcs] at hset
  cases hset

theorem percentEncode_ne_nil {set : EncodeSet} {cs : List Char} (h : cs ≠ []) :
    percentEncode set cs ≠ [] := by
  cases cs with
  | nil => exact absurd rfl h
  | cons c rest =>
    intro hnil
    have hfirst := (List.append_eq_nil_iff.mp hnil).1
    dsimp only at hfirst
    split_ifs at hfirst
    unfold Text.utf8Bytes at hfirst
    dsimp only at hfirst
    split_ifs at hfirst <;> simp [escapeByte] at hfirst

theorem percentEncode_head {set : EncodeSet} {cs : List Char} :
    ∀ x ∈ (percentEncode set cs).head?, x = '%' ∨ x ∈ cs.head? := by
  intro x hx
  cases cs with
  | nil => cases hx
  | cons c rest =>
    simp only [percentEncode, List.flatMap_cons] at hx
    split_ifs at hx
    · unfold Text.utf8Bytes at hx
      dsimp only at hx
      split_ifs at hx <;> exact Or.inl (Option.some.inj hx).symm
    · exact Or.inr hx

/-- A segment ends where a path is divided. -/
theorem readSegment_clear (kind : SchemeKind) (cs : List Char) :
    ∀ c ∈ (readSegment kind cs).1, c ∉ ['#', '/', '?'] := by
  induction cs with
  | nil => simp [readSegment]
  | cons c rest ih =>
    unfold readSegment
    split_ifs with h₁ h₂
    · simp
    · simp
    · intro x hx
      rcases List.mem_cons.mp hx with rfl | hx
      · intro hmem
        simp only [List.mem_cons, List.not_mem_nil, or_false] at hmem
        rcases hmem with rfl | rfl | rfl
        · exact h₂ (Or.inr rfl)
        · exact h₁ (Or.inl rfl)
        · exact h₂ (Or.inl rfl)
      · exact ih x hx

theorem readSegment_length (kind : SchemeKind) (cs : List Char)
    (slash : (readSegment kind cs).2.1 = true) : (readSegment kind cs).2.2.length < cs.length := by
  induction cs with
  | nil => simp [readSegment] at slash
  | cons c rest ih =>
    unfold readSegment at slash ⊢
    split_ifs with h₁ h₂
    · simp
    · rw [if_neg h₁, if_pos h₂] at slash
      cases slash
    · rw [if_neg h₁, if_neg h₂] at slash
      exact Nat.lt_succ_of_lt (ih slash)

lemma segmentSound_empty : SegmentSound "" := ⟨by decide, by intro c hc; simp at hc⟩

theorem stepOut_subset (dirs : List String) : stepOut dirs ⊆ dirs := by
  cases dirs with
  | nil => exact fun _ => id
  | cons d rest =>
    simp only [stepOut]
    split_ifs
    · exact fun _ => id
    · exact List.subset_cons_self _ _

theorem encodedSegment_clear (kind : SchemeKind) (cs : List Char) :
    SegmentClear (String.ofList (percentEncode inPath (readSegment kind cs).1)) := by
  intro c hc
  rw [String.toList_ofList] at hc
  refine percentEncode_clear (by decide) (fun x hx hmem => ?_) c hc
  exact absurd hx (readSegment_clear kind cs x hmem)

/-- A drive letter as it is written is sound. -/
theorem driveSegment_sound {segment : String} (h : SegmentSound segment) :
    SegmentSound (match segment.toList with
      | a :: _ => String.ofList [a, ':']
      | [] => segment) := by
  split
  · rename_i a rest heq
    refine ⟨?_, ?_⟩
    · intro hdot
      have hlength := congrArg (fun s : String => s.toList.length) hdot
      simp at hlength
    · intro c hc
      rw [String.toList_ofList] at hc
      rcases List.mem_cons.mp hc with rfl | hc
      · exact h.2 c (by rw [heq]; exact List.mem_cons_self)
      · rw [List.mem_singleton.mp hc]
        decide
  · exact h

/-- Reading a path adds sound segments. -/
theorem readPath_sound (kind : SchemeKind) (fuel : Nat) {dirs : List String} (keeps : Bool)
    (cs : List Char) (hdirs : ∀ s ∈ dirs, SegmentSound s) :
    ∀ s ∈ (readPath kind fuel dirs keeps cs).segments, SegmentSound s := by
  have hcons : ∀ {dirs : List String} {s : String}, SegmentSound s → (∀ s ∈ dirs, SegmentSound s) →
      ∀ t ∈ s :: dirs, SegmentSound t := by
    intro dirs s hs hdirs t ht
    rcases List.mem_cons.mp ht with rfl | ht
    · exact hs
    · exact hdirs t ht
  induction fuel generalizing dirs keeps cs with
  | zero => exact fun s hs => hdirs s (List.mem_reverse.mp hs)
  | succ fuel ih =>
    have hout : ∀ s ∈ stepOut dirs, SegmentSound s := fun s hs => hdirs s (stepOut_subset dirs hs)
    have hsegment := encodedSegment_clear kind cs
    unfold readPath
    dsimp only
    generalize String.ofList (percentEncode inPath (readSegment kind cs).1) = segment at hsegment
    by_cases hdouble : isDoubleDot segment = true
    · rw [if_pos hdouble]
      split_ifs
      · exact ih _ _ hout
      · exact fun s hs => hcons segmentSound_empty hout s (List.mem_reverse.mp hs)
    rw [if_neg hdouble]
    by_cases hsingle : isSingleDot segment = true
    · rw [if_pos hsingle]
      split_ifs
      · exact ih _ _ hdirs
      · exact fun s hs => hcons segmentSound_empty hdirs s (List.mem_reverse.mp hs)
    rw [if_neg hsingle]
    have hsound : SegmentSound segment := by
      refine ⟨?_, hsegment⟩
      rintro rfl
      exact hsingle rfl
    have hdrive := driveSegment_sound hsound
    split_ifs
    · exact ih _ _ (hcons hdrive hdirs)
    · exact ih _ _ (hcons hsound hdirs)
    · exact fun s hs => hcons hdrive hdirs s (List.mem_reverse.mp hs)
    · exact fun s hs => hcons hsound hdirs s (List.mem_reverse.mp hs)

/-- Reading a path to its end gives at least one segment. -/
theorem readPath_ne_nil (kind : SchemeKind) {fuel : Nat} (dirs : List String) (keeps : Bool)
    {cs : List Char} (enough : cs.length < fuel) :
    (readPath kind fuel dirs keeps cs).segments ≠ [] := by
  induction fuel generalizing dirs keeps cs with
  | zero => cases enough
  | succ fuel ih =>
    have hmore : (readSegment kind cs).2.1 = true →
        (readSegment kind cs).2.2.length < fuel := by
      intro slash
      have hlength := readSegment_length kind cs slash
      omega
    unfold readPath
    dsimp only
    by_cases slash : (readSegment kind cs).2.1 = true
    · have hlater : ∀ dirs keeps,
          (readPath kind fuel dirs keeps (readSegment kind cs).2.2).segments ≠ [] :=
        fun dirs keeps => ih dirs keeps (hmore slash)
      simp only [slash, if_true]
      split_ifs <;> exact hlater _ _
    · simp only [slash, Bool.false_eq_true, if_false]
      split_ifs <;> simp

theorem dropEmptyFront_suffix (segments : List String) :
    dropEmptyFront segments <:+ segments ∧ (segments ≠ [] → dropEmptyFront segments ≠ []) := by
  induction segments with
  | nil => exact ⟨List.suffix_refl _, id⟩
  | cons s rest ih =>
    unfold dropEmptyFront
    split
    · rename_i heq
      cases heq
      exact ⟨ih.1.trans (List.suffix_cons _ _), fun _ => ih.2 (by simp)⟩
    · exact ⟨List.suffix_refl _, id⟩

/-- A path that is read onto sound directories is sound and has a segment. -/
theorem pathFrom_sound (kind : SchemeKind) {dirs : List String} (keeps : Bool) (cs : List Char)
    (hdirs : ∀ s ∈ dirs, SegmentSound s) :
    (∀ s ∈ (pathFrom kind dirs keeps cs).segments, SegmentSound s) ∧
      (pathFrom kind dirs keeps cs).segments ≠ [] := by
  have hsound := readPath_sound kind (cs.length + 1) keeps cs hdirs
  have hne := readPath_ne_nil kind dirs keeps (Nat.lt_succ_self cs.length)
  unfold pathFrom
  dsimp only
  split_ifs
  · obtain ⟨hsuffix, hnil⟩ := dropEmptyFront_suffix
      (readPath kind (cs.length + 1) dirs keeps cs).segments
    exact ⟨fun s hs => hsound s (hsuffix.subset hs), hnil hne⟩
  · exact ⟨hsound, hne⟩

theorem pathAfterAuthority_sound (kind : SchemeKind) (keeps : Bool) (cs : List Char) :
    ∀ s ∈ (pathAfterAuthority kind keeps cs).segments, SegmentSound s := by
  have hnew : ∀ cs, ∀ s ∈ (pathFrom kind [] keeps cs).segments, SegmentSound s :=
    fun cs => (pathFrom_sound kind keeps cs (by simp)).1
  unfold pathAfterAuthority
  split
  · split_ifs
    · exact hnew _
    · simp
  · split_ifs
    · exact hnew _
    · exact hnew _
    · simp
    · exact hnew _

theorem readTail_query (kind : SchemeKind) (cs : List Char) :
    ∀ q ∈ (readTail kind cs).1, '#' ∉ q.toList := by
  intro q hq
  unfold readTail at hq
  dsimp only at hq
  split at hq
  · rename_i rest
    obtain rfl := Option.some.inj hq
    rw [String.toList_ofList]
    intro hmem
    have hraw := (mem_percentEncode (by decide) hmem).1
    have htake := List.mem_takeWhile_imp hraw
    simp at htake
  · cases hq

theorem parseIpv6_length {cs : List Char} {pieces : List Nat} (h : parseIpv6 cs = .ok pieces) :
    pieces.length = 8 := by
  unfold parseIpv6 at h
  dsimp only at h
  split at h
  · cases h
  · split_ifs at h with hlength
    obtain rfl := Except.ok.inj h
    exact hlength
  · split_ifs at h with hlength
    obtain rfl := Except.ok.inj h
    simp only [List.length_append, List.length_take, List.length_replicate, List.length_drop]
    omega

theorem parseBracketed_sound {rest : List Char} {host : Host} (kind : SchemeKind)
    (h : parseBracketed rest = .ok host) : host.Sound kind := by
  unfold parseBracketed at h
  split_ifs at h
  cases hpieces : parseIpv6 rest.dropLast with
  | error e =>
    rw [hpieces] at h
    cases h
  | ok pieces =>
    rw [hpieces] at h
    obtain rfl := Except.ok.inj h
    exact parseIpv6_length hpieces

theorem length_of_mapM {α β : Type} {f : α → Option β} {l : List α} {l' : List β}
    (h : l.mapM f = some l') : l'.length = l.length := by
  induction l generalizing l' with
  | nil =>
    obtain rfl := Option.some.inj h
    rfl
  | cons a rest ih =>
    simp only [List.mapM_cons, Option.bind_eq_bind, Option.bind_eq_some_iff, Option.pure_def,
      Option.some.injEq] at h
    obtain ⟨b, _, more, hmore, rfl⟩ := h
    rw [List.length_cons, List.length_cons, ih hmore]

/-- An IPv4 address that is read has four bytes. -/
theorem parseIpv4_lt {cs : List Char} {n : Nat} (h : parseIpv4 cs = .ok n) : n < 4294967296 := by
  unfold parseIpv4 at h
  dsimp only at h
  generalize (if (Text.divide '.' cs).getLast? = some [] then (Text.divide '.' cs).dropLast
    else Text.divide '.' cs) = parts at h
  split_ifs at h with hparts
  split at h
  · cases h
  · rename_i numbers hnumbers
    have hlength := length_of_mapM hnumbers
    split at h
    · cases h
    · rename_i last hlast
      split_ifs at h with hrange
      obtain rfl := Except.ok.inj h
      have hfront : numbers.dropLast.length ≤ 3 := by
        rw [List.length_dropLast]
        omega
      generalize numbers.dropLast = front at hrange hfront
      simp only [List.any_eq_true, decide_eq_true_eq, not_or, Nat.not_le, not_exists, not_and,
        Nat.not_lt] at hrange
      obtain ⟨hlt, hbytes⟩ := hrange
      match front, hfront, hlt, hbytes with
      | [], _, hlt, _ => simpa [ipv4Bytes] using hlt
      | [a], _, hlt, hbytes =>
        have ha := hbytes a (by simp)
        have hlt : last < 16777216 := hlt
        simp only [ipv4Bytes]
        omega
      | [a, b], _, hlt, hbytes =>
        have ha := hbytes a (by simp)
        have hb := hbytes b (by simp)
        have hlt : last < 65536 := hlt
        simp only [ipv4Bytes]
        omega
      | [a, b, c], _, hlt, hbytes =>
        have ha := hbytes a (by simp)
        have hb := hbytes b (by simp)
        have hc := hbytes c (by simp)
        have hlt : last < 256 := hlt
        simp only [ipv4Bytes]
        omega

theorem domainToAscii_clear {bytes : List Nat} {name : List Char}
    (h : domainToAscii bytes = some name) :
    ∀ c ∈ name, c ∉ ['#', '/', ':', '?', '@', '['] := by
  simp only [domainToAscii, Option.bind_eq_bind, Option.bind_eq_some_iff] at h
  obtain ⟨cs, _, mapped, _, labels, _, h⟩ := h
  split_ifs at h with _ hforbidden
  obtain rfl := Option.some.inj h
  intro c hc hmem
  refine hforbidden (List.any_eq_true.mpr ⟨c, hc, ?_⟩)
  have hall : ['#', '/', ':', '?', '@', '['].all (fun c => forbiddenInDomain c.toNat) = true := by
    decide
  exact List.all_eq_true.mp hall c hmem

/-- The host of a special scheme is sound. -/
theorem parseHost_sound {cs : List Char} {host : Host} {kind : SchemeKind} (hkind : kind ≠ .other)
    (h : parseHost cs = .ok host) : host.Sound kind := by
  unfold parseHost at h
  split at h
  · exact parseBracketed_sound kind h
  · split at h
    · cases h
    · cases h
    · rename_i name hne hname
      split_ifs at h with hnumber
      · cases haddress : parseIpv4 name with
        | error e =>
          rw [haddress] at h
          cases h
        | ok address =>
          rw [haddress] at h
          obtain rfl := Except.ok.inj h
          exact ⟨parseIpv4_lt haddress, hkind⟩
      · obtain rfl := Except.ok.inj h
        refine ⟨?_, ?_, fun _ => ?_⟩
        · intro hempty
          have hlist := congrArg String.toList hempty
          rw [String.toList_ofList] at hlist
          exact hne hlist
        · rw [String.toList_ofList]
          exact domainToAscii_clear hname
        · rw [String.toList_ofList]
          simpa using hnumber

/-- The host of any other scheme is sound. -/
theorem parseFreeHost_sound {cs : List Char} {host : Host}
    (h : parseFreeHost cs = .ok (some host)) :
    host.Sound .other := by
  unfold parseFreeHost at h
  split at h
  · rename_i rest
    cases hbracketed : parseBracketed rest with
    | error e =>
      rw [hbracketed] at h
      cases h
    | ok x =>
      rw [hbracketed] at h
      obtain rfl := Option.some.inj (Except.ok.inj h)
      exact parseBracketed_sound _ hbracketed
  · cases h
  · rename_i hne
    split_ifs at h with hforbidden
    obtain rfl := Option.some.inj (Except.ok.inj h)
    refine ⟨?_, ?_, fun hkind => absurd rfl hkind⟩
    · intro hempty
      have hlist := congrArg String.toList hempty
      rw [String.toList_ofList] at hlist
      cases cs with
      | nil => exact hne rfl
      | cons c rest =>
        exact percentEncode_ne_nil (List.cons_ne_nil c rest) hlist
    · rw [String.toList_ofList]
      refine percentEncode_clear (by decide) ?_
      intro x hx hmem
      refine absurd (List.any_eq_true.mpr ⟨x, hmem, ?_⟩) hforbidden
      have hall : ['#', '/', ':', '?', '@', '['].all forbiddenInHost = true := by decide
      exact List.all_eq_true.mp hall x hx

/-- User name and password are escaped. -/
theorem readUserinfo_clear {kind : SchemeKind} {cs rest : List Char} {user pass : String}
    (h : readUserinfo kind cs = .ok (user, pass, rest)) :
    (∀ c ∈ user.toList, c ∉ ['#', '/', ':', '?', '@']) ∧
      ∀ c ∈ pass.toList, c ∉ ['#', '/', ':', '?', '@'] := by
  have hencode : ∀ part : List Char,
      ∀ c ∈ (String.ofList (percentEncode inUserinfo part)).toList,
        c ∉ ['#', '/', ':', '?', '@'] := by
    intro part
    rw [String.toList_ofList]
    refine percentEncode_clear (by decide) fun x hx _ => ?_
    have hall : ['#', '/', ':', '?', '@'].all inUserinfo = true := by decide
    exact List.all_eq_true.mp hall x hx
  unfold readUserinfo at h
  dsimp only at h
  split_ifs at h
  · obtain ⟨rfl, rfl, _⟩ : "" = user ∧ "" = pass ∧ _ := by simpa using h
    simp
  · split at h
    · cases h
    · obtain ⟨rfl, rfl, _⟩ : "" = user ∧ "" = pass ∧ _ := by simpa using h
      simp
  · simp only [Except.ok.injEq, Prod.mk.injEq] at h
    obtain ⟨rfl, rfl, _⟩ := h
    exact ⟨hencode _, hencode _⟩

section

variable {α β : Type} {x y : Except UrlError α} {f : α → Except UrlError β} {b : β} {p : Prop}
  [Decidable p]

theorem of_bind (h : x >>= f = .ok b) : ∃ a, x = .ok a ∧ f a = .ok b := by
  cases x with
  | error e => cases h
  | ok a => exact ⟨a, rfl, h⟩

theorem of_branch (h : (if p then x >>= f else y >>= f) = .ok b) :
    ∃ a, (if p then x else y) = .ok a ∧ f a = .ok b := by
  split_ifs at h ⊢ <;> exact of_bind h

theorem of_guard {e : UrlError} {z : Except UrlError β}
    (h : (if p then throw e >>= f else z) = .ok b) :
    ¬p ∧ z = .ok b := by
  split_ifs at h with hp
  · cases h
  · exact ⟨hp, h⟩

end

/-- A URL with an authority is sound. -/
theorem readAuthority_sound {scheme : String} {cs : List Char} {u : Url}
    (hscheme : ':' ∉ scheme.toList) (hkind : schemeKind scheme ≠ .file)
    (h : readAuthority scheme cs = .ok u) : u.Sound := by
  obtain ⟨⟨user, pass, rest⟩, hinfo, h⟩ := of_bind h
  obtain ⟨huser, hpass⟩ := readUserinfo_clear hinfo
  dsimp only at h
  generalize readHostText (schemeKind scheme) false rest = hostRead at h
  obtain ⟨hostText, rest⟩ := hostRead
  obtain ⟨_, h⟩ := of_guard h
  obtain ⟨host, hhost, h⟩ := of_branch h
  obtain ⟨hbarePort, h⟩ := of_guard h
  obtain ⟨⟨port, rest'⟩, hport, h⟩ := of_branch h
  obtain ⟨hbareUser, h⟩ := of_guard h
  obtain rfl := Except.ok.inj h
  have hsound : ∀ x ∈ host, x.Sound (schemeKind scheme) := by
    intro x hx
    obtain rfl : host = some x := hx
    cases hk : schemeKind scheme with
    | file => exact absurd hk hkind
    | special =>
      rw [if_pos hk] at hhost
      cases hparse : parseHost hostText with
      | error e =>
        rw [hparse] at hhost
        cases hhost
      | ok y =>
        rw [hparse] at hhost
        obtain rfl := Option.some.inj (Except.ok.inj hhost)
        exact parseHost_sound (by simp) hparse
    | other =>
      rw [if_neg (by simp [hk])] at hhost
      exact parseFreeHost_sound hhost
  refine ⟨hscheme, ?_, ⟨pathAfterAuthority_sound _ _ _, fun hnone => nomatch hnone⟩,
    readTail_query _ _⟩
  intro a ha
  obtain rfl := Option.some.inj ha
  refine ⟨huser, hpass, hsound, ?_⟩
  intro hnone
  obtain rfl : host = none := hnone
  simp only [Option.isNone_none, true_and, Bool.not_eq_true, Bool.not_eq_eq_eq_not, Bool.not_true,
    Bool.and_eq_true, String.isEmpty_iff, Bool.not_eq_false] at hbarePort hbareUser
  rw [hbarePort, if_neg (by simp)] at hport
  refine ⟨hbareUser.1, hbareUser.2, ?_⟩
  exact (congrArg Prod.fst (Except.ok.inj hport)).symm

theorem fileUrl_sound {host : Option Host} {read : PathRead} (hhost : ∀ x ∈ host, x.Sound .file)
    (hread : ∀ s ∈ read.segments, SegmentSound s) : (fileUrl host read).Sound := by
  have hscheme : ':' ∉ "file".toList := by decide
  refine ⟨hscheme, ?_, ⟨hread, fun hnone => nomatch hnone⟩, readTail_query _ _⟩
  intro a ha
  obtain rfl := Option.some.inj ha
  exact ⟨by simp, by simp, hhost, fun _ => ⟨rfl, rfl, rfl⟩⟩

theorem readFileHost_sound {cs : List Char} {u : Url} (h : readFileHost cs = .ok u) : u.Sound := by
  have hlocal : ∀ cs, (fileUrl none (pathFrom .file [] false cs)).Sound :=
    fun cs => fileUrl_sound (by simp) (pathFrom_sound _ _ _ (by simp)).1
  unfold readFileHost at h
  dsimp only at h
  split at h
  · obtain rfl := Except.ok.inj h
    exact hlocal _
  split at h
  · obtain rfl := Except.ok.inj h
    exact hlocal _
  · obtain ⟨host, hhost, h⟩ := of_bind h
    split at h
    · obtain rfl := Except.ok.inj h
      exact hlocal _
    · obtain rfl := Except.ok.inj h
      refine fileUrl_sound ?_ (pathAfterAuthority_sound _ _ _)
      intro x hx
      split_ifs at hx
      · obtain rfl := Option.some.inj hx
        exact parseHost_sound (by simp) hhost
      · cases hx

theorem Sound.segments_sound {u : Url} (sound : u.Sound) : ∀ s ∈ u.segments, SegmentSound s := by
  have hpath := sound.path
  unfold segments
  split
  · rename_i segments heq
    rw [heq] at hpath
    exact hpath.1
  · simp

theorem Sound.baseDirs_sound {u : Url} (sound : u.Sound) (kind : SchemeKind) :
    ∀ s ∈ baseDirs kind u, SegmentSound s := by
  have hall : ∀ s ∈ u.segments.reverse, SegmentSound s :=
    fun s hs => sound.segments_sound s (List.mem_reverse.mp hs)
  unfold baseDirs
  split
  · simp
  · rename_i last dirs heq
    rw [heq] at hall
    split_ifs
    · exact hall
    · exact fun s hs => hall s (List.mem_cons_of_mem _ hs)

theorem Sound.withPath_sound {u : Url} (sound : u.Sound) (kind : SchemeKind) {dirs : List String}
    (keeps : Bool) (cs : List Char) (hdirs : ∀ s ∈ dirs, SegmentSound s) :
    (u.withPath kind (pathFrom kind dirs keeps cs)).Sound := by
  obtain ⟨hsegments, hne⟩ := pathFrom_sound kind keeps cs hdirs
  exact ⟨sound.scheme, sound.authority, ⟨hsegments, fun _ => hne⟩, readTail_query _ _⟩

theorem Sound.withTail_sound {u : Url} (sound : u.Sound) (kind : SchemeKind) (cs : List Char) :
    (u.withTail kind cs).Sound := by
  unfold withTail
  split
  · exact ⟨sound.scheme, sound.authority, sound.path, readTail_query _ _⟩
  · exact ⟨sound.scheme, sound.authority, sound.path, sound.query⟩
  · exact ⟨sound.scheme, sound.authority, sound.path, sound.query⟩

lemma Sound.withoutFragment_sound {u : Url} (sound : u.Sound) : u.withoutFragment.Sound :=
  ⟨sound.scheme, sound.authority, sound.path, sound.query⟩

/-- A file URL that is read from a path is sound, if the base is a sound file URL. -/
theorem readFilePath_sound {base : Option Url} {cs : List Char} {u : Url}
    (hbase : ∀ b ∈ base, b.Sound ∧ b.scheme = "file") (h : readFile.readFilePath base cs = .ok u) :
    u.Sound := by
  have hnew : ∀ {host : Option Host} {dirs : List String} (keeps : Bool) (cs : List Char),
      (∀ x ∈ host, x.Sound .file) → (∀ s ∈ dirs, SegmentSound s) →
      (fileUrl host (pathFrom .file dirs keeps cs)).Sound :=
    fun keeps cs hhost hdirs => fileUrl_sound hhost (pathFrom_sound _ _ _ hdirs).1
  have hhost : ∀ {b : Url}, b.Sound ∧ b.scheme = "file" → ∀ x ∈ b.host?, x.Sound .file := by
    intro b hb x hx
    obtain ⟨a, ha, hx⟩ := Option.bind_eq_some_iff.mp hx
    have hsound := (hb.1.authority a ha).host x hx
    rw [hb.2] at hsound
    exact hsound
  unfold readFile.readFilePath at h
  split at h
  · rename_i c rest
    by_cases hslash : isSlash c = true
    · rw [if_pos hslash] at h
      obtain rfl := Except.ok.inj h
      cases base with
      | none => exact hnew _ _ (by simp) (by simp)
      | some b =>
        have hb := hbase b rfl
        have hsegments := hb.1.segments_sound
        dsimp only
        split
        · exact hnew _ _ (by simp) (by simp)
        · split
          · rename_i first more heq
            split_ifs
            · refine hnew _ _ (by simp) fun s hs => ?_
              rw [List.mem_singleton.mp hs]
              exact hsegments first (heq ▸ List.mem_cons_self)
            · exact hnew _ _ (hhost hb) (by simp)
          · exact hnew _ _ (hhost hb) (by simp)
    · rw [if_neg hslash] at h
      cases base with
      | none =>
        obtain rfl := Except.ok.inj h
        exact hnew _ _ (by simp) (by simp)
      | some b =>
        have hb := hbase b rfl
        dsimp only at h
        split_ifs at h
        · obtain rfl := Except.ok.inj h
          exact hb.1.withTail_sound _ _
        · obtain rfl := Except.ok.inj h
          exact hnew _ _ (by simp) (by simp)
        · obtain rfl := Except.ok.inj h
          exact hb.1.withPath_sound _ _ _ (hb.1.baseDirs_sound _)
  · rename_i b
    obtain rfl := Except.ok.inj h
    exact (hbase b rfl).1.withoutFragment_sound
  · obtain rfl := Except.ok.inj h
    exact hnew _ _ (by simp) (by simp)

theorem readFile_sound {base : Option Url} {cs : List Char} {u : Url}
    (hbase : ∀ b ∈ base, b.Sound ∧ b.scheme = "file") (h : readFile base cs = .ok u) : u.Sound := by
  unfold readFile at h
  split at h
  · split_ifs at h
    · exact readFileHost_sound h
    · exact readFilePath_sound hbase h
  · exact readFilePath_sound hbase h

/-- A link relative to a sound base is sound. -/
theorem readRelative_sound {base : Url} {cs : List Char} {u : Url} (hbase : base.Sound)
    (hkind : schemeKind base.scheme ≠ .file) (h : readRelative base cs = .ok u) : u.Sound := by
  have hroot : ∀ rest, (base.withPath (schemeKind base.scheme)
      (pathFrom (schemeKind base.scheme) [] true rest)).Sound :=
    fun rest => hbase.withPath_sound _ _ _ (by simp)
  unfold readRelative at h
  dsimp only at h
  split at h
  · obtain rfl := Except.ok.inj h
    exact hbase.withoutFragment_sound
  · obtain rfl := Except.ok.inj h
    exact hbase.withTail_sound _ _
  · obtain rfl := Except.ok.inj h
    exact hbase.withTail_sound _ _
  · exact readAuthority_sound hbase.scheme hkind h
  · split_ifs at h
    · split at h
      · split_ifs at h
        · exact readAuthority_sound hbase.scheme hkind h
        · obtain rfl := Except.ok.inj h
          exact hroot _
      · obtain rfl := Except.ok.inj h
        exact hroot _
    · obtain rfl := Except.ok.inj h
      exact hbase.withPath_sound _ _ _ (hbase.baseDirs_sound _)

/-- A URL of another scheme is sound. -/
theorem readOther_sound {scheme : String} {cs : List Char} {u : Url} (hscheme : ':' ∉ scheme.toList)
    (hkind : schemeKind scheme = .other) (h : readOther scheme cs = .ok u) : u.Sound := by
  unfold readOther at h
  split at h
  · exact readAuthority_sound hscheme (by simp [hkind]) h
  · obtain rfl := Except.ok.inj h
    refine ⟨hscheme, by simp, ?_, readTail_query _ _⟩
    obtain ⟨hsegments, hne⟩ := pathFrom_sound .other false ‹_› (List.forall_mem_nil SegmentSound)
    exact ⟨hsegments, fun _ => hne⟩
  · rename_i hslashes hslash
    obtain rfl := Except.ok.inj h
    refine ⟨hscheme, by simp, ⟨rfl, ?_, ?_⟩, readTail_query _ _⟩
    · intro c hc
      rw [String.toList_ofList] at hc
      rcases percentEncode_head c hc with rfl | hc
      · decide
      · rintro rfl
        cases cs with
        | nil => cases hc
        | cons d rest =>
          rw [List.takeWhile_cons] at hc
          split_ifs at hc
          · exact hslash rest (congrArg (· :: rest) (Option.some.inj hc))
          · cases hc
    · rw [String.toList_ofList]
      refine percentEncode_clear (by decide) fun x hx hmem => ?_
      have htake := List.mem_takeWhile_imp hmem
      simp only [List.mem_cons, List.not_mem_nil, or_false] at hx
      rcases hx with rfl | rfl <;> simp at htake

theorem readScheme_clear {cs rest : List Char} {scheme : String}
    (h : readScheme cs = some (scheme, rest)) : ':' ∉ scheme.toList := by
  unfold readScheme at h
  split at h
  · split_ifs at h
    split at h
    · obtain ⟨rfl, _⟩ := Prod.mk.inj (Option.some.inj h)
      rw [String.toList_ofList]
      intro hmem
      obtain ⟨c, hc, hlower⟩ := List.mem_map.mp hmem
      have hchar := List.mem_takeWhile_imp hc
      unfold lowerAscii at hlower
      split_ifs at hlower with hupper
      · have hall : ∀ n < 91, 65 ≤ n → Char.ofNat (n + 32) ≠ ':' := by decide
        exact hall c.toNat (Nat.lt_succ_of_le hupper.2) hupper.1 hlower
      · rw [hlower] at hchar
        revert hchar
        decide
    · cases h
  · cases h

/-- What is read against a sound base, or none, is sound. -/
theorem read_sound {base : Option Url} {cs : List Char} {u : Url} (hbase : ∀ b ∈ base, b.Sound)
    (h : read base cs = .ok u) : u.Sound := by
  unfold read at h
  dsimp only at h
  split at h
  · rename_i scheme rest hread
    have hscheme := readScheme_clear hread
    split at h
    · refine readFile_sound (fun b hb => ?_) h
      obtain ⟨hb, hfile⟩ := Option.filter_eq_some_iff.mp hb
      exact ⟨hbase b hb, by simpa using hfile⟩
    · rename_i hkind
      have hspecial : schemeKind scheme ≠ .file := by simp [hkind]
      split at h
      · rename_i b
        split_ifs at h with hsame
        · exact readRelative_sound (hbase b rfl) (hsame.2 ▸ hspecial) h
        · exact readAuthority_sound hscheme hspecial h
      · exact readAuthority_sound hscheme hspecial h
    · rename_i hkind
      exact readOther_sound hscheme hkind h
  · split at h
    · cases h
    · rename_i b
      have hb := hbase b rfl
      split_ifs at h with _ _ hfile
      · obtain rfl := Except.ok.inj h
        exact hb.withTail_sound _ _
      · exact readFile_sound (fun c hc => Option.some.inj hc ▸ ⟨hb, hfile⟩) h
      · refine readRelative_sound hb ?_ h
        unfold schemeKind
        split_ifs
        · simp
        · simp

/-- URLs that were read: on their own, or as a link found at one that was. -/
inductive Parsed : Url → Prop
  | own {s : String} {u : Url} (h : parse s = .ok u) : Parsed u
  | link {base u : Url} {s : String} (hbase : Parsed base) (h : base.join s = .ok u) : Parsed u

theorem Parsed.sound {u : Url} (h : u.Parsed) : u.Sound := by
  induction h with
  | own h => exact read_sound (by simp) h
  | link _ h ih => exact read_sound (fun b hb => Option.some.inj hb ▸ ih) h

theorem Parsed.eq_of_text {u v : Url} (hu : u.Parsed) (hv : v.Parsed) (h : u.text = v.text) :
    u = v :=
  hu.sound.eq_of_text hv.sound h

theorem Parsed.of_follow {base u : Url} {s : String} (hbase : base.Parsed)
    (h : base.follow s = some u) : u.Parsed := by
  unfold follow at h
  cases hjoin : base.join (Text.trim s) with
  | error e =>
    rw [hjoin] at h
    cases h
  | ok v =>
    rw [hjoin] at h
    obtain rfl := Option.some.inj h
    exact .link hbase hjoin

end SiteSpiders.Url
