import SiteSpiders.Proofs.Url.AuthorityReading

/-!
# Paths are read directory by directory

Up to its last slash a path only moves through directories: what stands behind is read from the
directory reached. A question mark or a number sign ends the path, and then there is a query or a
fragment.
-/
namespace SiteSpiders.Url

/-- Whether a character ends a path. -/
def endsPath (c : Char) : Bool := c == '?' || c == '#'

/-- The directories, in reverse, after one more segment. -/
def enter (dirs : List String) (raw : List Char) : List String :=
  let segment := String.ofList (percentEncode inPath raw)
  if isDoubleDot segment then stepOut dirs
  else if isSingleDot segment then dirs
  else segment :: dirs

/-- The segments of a path, in reverse, that ends with one more segment. -/
def finish (dirs : List String) (raw : List Char) : List String :=
  let segment := String.ofList (percentEncode inPath raw)
  if isDoubleDot segment ∨ isSingleDot segment then "" :: enter dirs raw else segment :: dirs

section Segments

variable {raw rest cs : List Char} {dirs : List String} {keeps : Bool} {fuel : Nat}

theorem readSegment_slash {slash : Char} (clear : ∀ c ∈ raw, isSlash c = false ∧ endsPath c = false)
    (divides : isSlash slash = true) :
    readSegment .special (raw ++ slash :: rest) = (raw, true, rest) := by
  induction raw with
  | nil =>
    simp only [isSlash, Bool.or_eq_true, beq_iff_eq] at divides
    simp [readSegment, divides, SchemeKind.isSpecial]
  | cons c raw ih =>
    have hrest := ih fun d hd => clear d (by simp [hd])
    obtain ⟨hslash, hends⟩ := clear c (by simp)
    simp only [isSlash, endsPath, Bool.or_eq_false_iff, beq_eq_false_iff_ne, ne_eq] at hslash hends
    simp [readSegment, hrest, hslash, hends]

/-- What a segment leaves holds the end of the path, and starts with it if no slash ended the
segment. -/
theorem readSegment_rest (cs : List Char) :
    (readSegment .special cs).2.2.dropWhile (fun c => !endsPath c) =
        cs.dropWhile (fun c => !endsPath c) ∧
      ((readSegment .special cs).2.1 = false →
        (readSegment .special cs).2.2 = cs.dropWhile (fun c => !endsPath c)) := by
  induction cs with
  | nil => simp [readSegment]
  | cons c cs ih =>
    rw [readSegment]
    by_cases hslash : c = '/' ∨ (c = '\\' ∧ SchemeKind.special.isSpecial)
    · have hopen : endsPath c = false := by
        rcases hslash with rfl | ⟨rfl, -⟩ <;> decide
      rw [if_pos hslash]
      simp [hopen]
    by_cases hends : c = '?' ∨ c = '#'
    · have hclosed : endsPath c = true := by
        rcases hends with rfl | rfl <;> decide
      rw [if_neg hslash, if_pos hends]
      simp [hclosed]
    · have hopen : endsPath c = false := by simpa [endsPath] using hends
      rw [if_neg hslash, if_neg hends]
      simpa [hopen] using ih

/-- A path goes on behind a slash and ends without one. -/
theorem readPath_succ :
    readPath .special (fuel + 1) dirs keeps cs =
      if (readSegment .special cs).2.1 then
        readPath .special fuel (enter dirs (readSegment .special cs).1) keeps
          (readSegment .special cs).2.2
      else ⟨(finish dirs (readSegment .special cs).1).reverse, keeps,
        (readSegment .special cs).2.2⟩ := by
  have hdrive : ∀ {p : Prop}, ¬(SchemeKind.special = SchemeKind.file ∧ p) := by simp
  rw [readPath]
  simp only [hdrive, if_false]
  generalize readSegment .special cs = read
  obtain ⟨raw, slash, rest⟩ := read
  by_cases hdouble : isDoubleDot (String.ofList (percentEncode inPath raw)) = true
  · simp only [enter, finish, hdouble, true_or, if_true]
  · by_cases hsingle : isSingleDot (String.ofList (percentEncode inPath raw)) = true
    · simp only [enter, finish, hdouble, hsingle, or_true, if_true, Bool.false_eq_true,
        if_false]
    · simp only [enter, finish, hdouble, hsingle, or_self, Bool.false_eq_true, if_false]

theorem readPath_fuel {fuel' : Nat} (enough : cs.length < fuel) (enough' : cs.length < fuel') :
    readPath .special fuel dirs keeps cs = readPath .special fuel' dirs keeps cs := by
  induction fuel generalizing fuel' dirs cs with
  | zero => cases enough
  | succ fuel ih =>
    cases fuel' with
    | zero => cases enough'
    | succ fuel' =>
      rw [readPath_succ, readPath_succ]
      by_cases hslash : (readSegment .special cs).2.1 = true
      · have hlength := readSegment_length .special cs hslash
        rw [if_pos hslash, if_pos hslash]
        exact ih (by omega) (by omega)
      · rw [if_neg hslash, if_neg hslash]

theorem pathFrom_special : pathFrom .special dirs keeps cs =
    readPath .special (cs.length + 1) dirs keeps cs := by
  rw [pathFrom]
  exact if_neg (by simp)

/-- A segment with a slash behind it leads into a directory. -/
theorem pathFrom_slash {slash : Char} (clear : ∀ c ∈ raw, isSlash c = false ∧ endsPath c = false)
    (divides : isSlash slash = true) :
    pathFrom .special dirs keeps (raw ++ slash :: rest) =
      pathFrom .special (enter dirs raw) keeps rest := by
  rw [pathFrom_special, pathFrom_special, readPath_succ, readSegment_slash clear divides]
  refine (if_pos rfl).trans (readPath_fuel ?_ (Nat.lt_succ_self _))
  simp only [List.length_append, List.length_cons]
  omega

theorem exists_first_slash {cs : List Char} (h : ∃ c ∈ cs, isSlash c = true) :
    ∃ raw slash back, cs = raw ++ slash :: back ∧ (∀ c ∈ raw, isSlash c = false) ∧
      isSlash slash = true := by
  induction cs with
  | nil => simp at h
  | cons c cs ih =>
    by_cases hc : isSlash c = true
    · exact ⟨[], c, cs, rfl, by simp, hc⟩
    · obtain ⟨d, hd, hslash⟩ := h
      have hmem : d ∈ cs := by
        rcases List.mem_cons.mp hd with rfl | hd
        · exact absurd hslash hc
        · exact hd
      obtain ⟨raw, slash, back, rfl, hraw, hdivides⟩ := ih ⟨d, hmem, hslash⟩
      refine ⟨c :: raw, slash, back, rfl, List.forall_mem_cons.mpr ⟨?_, hraw⟩, hdivides⟩
      simpa using hc

/-- Up to a slash a path leads to some directory, and what stands behind is read from there. -/
theorem pathFrom_append {front : List Char} (dirs : List String)
    (open_ : ∀ c ∈ front, endsPath c = false) :
    ∃ dirs', ∀ keeps rest, pathFrom .special dirs keeps (front ++ '/' :: rest) =
      pathFrom .special dirs' keeps rest := by
  induction hlength : front.length using Nat.strongRecOn generalizing front dirs with
  | ind n ih =>
    by_cases hslash : ∃ c ∈ front, isSlash c = true
    · obtain ⟨raw, slash, back, rfl, hraw, hdivides⟩ := exists_first_slash hslash
      obtain ⟨dirs', hdirs'⟩ := ih back.length (by simp at hlength; omega) (enter dirs raw)
        (fun c hc => open_ c (by simp [hc])) rfl
      refine ⟨dirs', fun keeps rest => ?_⟩
      have hclear : ∀ c ∈ raw, isSlash c = false ∧ endsPath c = false :=
        fun c hc => ⟨hraw c hc, open_ c (by simp [hc])⟩
      rw [List.append_assoc, List.cons_append, pathFrom_slash hclear hdivides, hdirs']
    · refine ⟨enter dirs front, fun keeps rest => pathFrom_slash (fun c hc => ?_) rfl⟩
      have hc' : ¬isSlash c = true := fun h => hslash ⟨c, hc, h⟩
      exact ⟨by simpa using hc', open_ c hc⟩

theorem pathFrom_nil (dirs : List String) (keeps : Bool) :
    pathFrom .special dirs keeps [] = ⟨("" :: dirs).reverse, keeps, []⟩ := by
  have hfinish : finish dirs [] = "" :: dirs := by
    have hdots : isDoubleDot (String.ofList (percentEncode inPath [])) = false ∧
        isSingleDot (String.ofList (percentEncode inPath [])) = false := by decide +kernel
    simp only [finish, hdots, Bool.false_eq_true, or_self, if_false]
    rfl
  rw [pathFrom_special, readPath_succ]
  exact (if_neg (by simp [readSegment])).trans (by rw [readSegment, hfinish])

end Segments

section Tail

variable {cs : List Char}

/-- A path that is read leaves what stands from its end on. -/
theorem rest_pathFrom (dirs : List String) (keeps : Bool) (cs : List Char) :
    (pathFrom .special dirs keeps cs).rest = cs.dropWhile (fun c => !endsPath c) := by
  have hread : ∀ (fuel : Nat) (dirs : List String) (cs : List Char), cs.length < fuel →
      (readPath .special fuel dirs keeps cs).rest = cs.dropWhile (fun c => !endsPath c) := by
    intro fuel
    induction fuel with
    | zero => exact fun _ _ enough => nomatch enough
    | succ fuel ih =>
      intro dirs cs enough
      obtain ⟨hrest, hlast⟩ := readSegment_rest cs
      rw [readPath_succ]
      by_cases hslash : (readSegment .special cs).2.1 = true
      · have hlength := readSegment_length .special cs hslash
        rw [if_pos hslash, ih _ _ (by omega), hrest]
      · rw [if_neg hslash]
        exact hlast (by simpa using hslash)
  rw [pathFrom_special]
  exact hread _ _ _ (Nat.lt_succ_self _)

theorem readTail_eq_none_iff :
    readTail .special (cs.dropWhile fun c => !endsPath c) = (none, none) ↔
      ∀ c ∈ cs, endsPath c = false := by
  have hall : (∀ c ∈ cs, endsPath c = false) ↔ cs.dropWhile (fun c => !endsPath c) = [] := by
    simp [List.dropWhile_eq_nil_iff]
  rw [hall]
  cases hrest : cs.dropWhile (fun c => !endsPath c) with
  | nil => simp [readTail]
  | cons c rest =>
    have hends : endsPath c = true := by
      have hne : cs.dropWhile (fun c => !endsPath c) ≠ [] := by simp [hrest]
      have hhead := List.head_dropWhile_not (fun c => !endsPath c) hne
      simpa [hrest] using hhead
    simp only [endsPath, Bool.or_eq_true, beq_iff_eq] at hends
    rcases hends with rfl | rfl <;> simp [readTail]

end Tail

section Behind

variable {u : Url} {front segment : List Char}

/-- Whether a URL has the given segments for its path, and no query and no fragment. -/
def EndsIn (u : Url) (segments : List String) : Prop :=
  u.path = .rooted segments ∧ u.query = none ∧ u.fragment = none

/-- Whether a text is read as a segment as it is. -/
structure PlainSegment (segment : List Char) : Prop where
  clear : ∀ c ∈ segment, inPath c = false ∧ isSlash c = false ∧ endsPath c = false
  starts : ∃ rest, segment = 'z' :: rest

theorem PlainSegment.enter_eq (plain : PlainSegment segment) (dirs : List String) :
    enter dirs segment = String.ofList segment :: dirs := by
  obtain ⟨rest, rfl⟩ := plain.starts
  have hencode : percentEncode inPath ('z' :: rest) = 'z' :: rest :=
    percentEncode_of_clear fun c hc => (plain.clear c hc).1
  have hlower : ((String.ofList ('z' :: rest)).map lowerAscii).toList =
      'z' :: rest.map lowerAscii := by
    rw [String.toList_map, String.toList_ofList]
    rfl
  have hne : ∀ (d : Char) (ds : List Char), d ≠ 'z' →
      (String.ofList ('z' :: rest)).map lowerAscii ≠ String.ofList (d :: ds) := by
    intro d ds hd heq
    have hlist := congrArg String.toList heq
    rw [hlower, String.toList_ofList] at hlist
    exact hd (List.cons.inj hlist).1.symm
  have hdouble : isDoubleDot (String.ofList ('z' :: rest)) = false := by
    have h₁ := hne '.' ['.'] (by decide)
    have h₂ := hne '.' ['%', '2', 'e'] (by decide)
    have h₃ := hne '%' ['2', 'e', '.'] (by decide)
    have h₄ := hne '%' ['2', 'e', '%', '2', 'e'] (by decide)
    simp only [isDoubleDot, List.contains_eq_mem, List.mem_cons, List.not_mem_nil, or_false,
      decide_eq_false_iff_not, not_or]
    exact ⟨h₁, h₂, h₃, h₄⟩
  have hsingle : isSingleDot (String.ofList ('z' :: rest)) = false := by
    have h₁ := hne '%' ['2', 'e'] (by decide)
    have h₂ : String.ofList ('z' :: rest) ≠ "." := by
      intro heq
      have hlist := congrArg String.toList heq
      rw [String.toList_ofList] at hlist
      exact nomatch (List.cons.inj hlist).1
    simp only [isSingleDot, Bool.or_eq_false_iff, beq_eq_false_iff_ne]
    exact ⟨h₂, h₁⟩
  rw [enter, hencode]
  simp only [hdouble, hsingle, Bool.false_eq_true, if_false]

/-- A text that stands right behind an authority and does not end the path leads to some
directory. -/
theorem pathAfterAuthority_append (closes : Closes front)
    (open_ : ∀ c ∈ front, endsPath c = false) :
    ∃ dirs : List String, ∀ rest, pathAfterAuthority .special true (front ++ '/' :: rest) =
      pathFrom .special dirs true rest := by
  cases front with
  | nil => exact ⟨[], fun rest => by simp [pathAfterAuthority]⟩
  | cons c front =>
    have hslash : c = '/' ∨ (c = '\\' ∧ SchemeKind.special.isSpecial) := by
      have hends := closes c rfl
      have hc := open_ c (by simp)
      simp only [endsAuthority, endsPath, Bool.or_eq_true, Bool.and_eq_true, Bool.or_eq_false_iff,
        beq_iff_eq, beq_eq_false_iff_ne] at hends hc
      rcases hends with ((hslash | hquery) | hfragment) | hslash
      · exact .inl hslash
      · exact absurd hquery hc.1
      · exact absurd hfragment hc.2
      · exact .inr hslash
    have hfront : ∀ d ∈ front, endsPath d = false := fun d hd => open_ d (by simp [hd])
    obtain ⟨dirs, hdirs⟩ := pathFrom_append [] hfront
    refine ⟨dirs, fun rest => ?_⟩
    rw [List.cons_append, pathAfterAuthority, if_pos hslash, hdirs]

/-- Behind an authority there is no query and no fragment exactly if nothing ends the path. -/
theorem behind_tail_iff (cs : List Char) :
    ((u.behind cs).query = none ∧ (u.behind cs).fragment = none) ↔
      ∀ c ∈ cs, endsPath c = false := by
  have hrest : (pathAfterAuthority .special true cs).rest =
      cs.dropWhile (fun c => !endsPath c) := by
    cases cs with
    | nil => exact rest_pathFrom [] true []
    | cons c cs =>
      rw [pathAfterAuthority]
      by_cases hslash : c = '/' ∨ (c = '\\' ∧ SchemeKind.special.isSpecial)
      · have hopen : endsPath c = false := by
          rcases hslash with rfl | ⟨rfl, -⟩ <;> decide
        rw [if_pos hslash, rest_pathFrom]
        simp [hopen]
      · rw [if_neg hslash]
        exact rest_pathFrom [] true (c :: cs)
  rw [← readTail_eq_none_iff, ← hrest, Prod.ext_iff]
  rfl

theorem forall_endsPath_iff {back : List Char} (hback : ∀ c ∈ back, endsPath c = false) :
    (∀ c ∈ front ++ back, endsPath c = false) ↔ ∀ c ∈ front, endsPath c = false := by
  rw [List.forall_mem_append]
  exact and_iff_left hback

/-- A segment behind an authority adds to the path of the URL without it, unless the path has ended
before. -/
theorem behind_segment (closes : Closes front) (plain : PlainSegment segment) :
    ((u.behind (front ++ '/' :: (segment ++ ['/']))).query = none ∧
        (u.behind (front ++ '/' :: (segment ++ ['/']))).fragment = none ↔
      (u.behind (front ++ ['/'])).query = none ∧ (u.behind (front ++ ['/'])).fragment = none) ∧
    ((u.behind (front ++ ['/'])).query = none ∧ (u.behind (front ++ ['/'])).fragment = none →
      ∃ dirs, (u.behind (front ++ '/' :: (segment ++ ['/']))).path =
          .rooted (dirs ++ [String.ofList segment, ""]) ∧
        (u.behind (front ++ ['/'])).path = .rooted (dirs ++ [""])) := by
  have hclear : ∀ c ∈ segment, isSlash c = false ∧ endsPath c = false :=
    fun c hc => (plain.clear c hc).2
  have hbehind : ∀ c ∈ '/' :: (segment ++ ['/']), endsPath c = false := by
    intro c hc
    simp only [List.mem_cons, List.mem_append, List.not_mem_nil, or_false] at hc
    rcases hc with rfl | hc | rfl
    · decide
    · exact (hclear c hc).2
    · decide
  rw [behind_tail_iff, behind_tail_iff, forall_endsPath_iff hbehind,
    forall_endsPath_iff (by simp [endsPath])]
  refine ⟨Iff.rfl, fun open_ => ?_⟩
  obtain ⟨dirs, hdirs⟩ := pathAfterAuthority_append closes open_
  refine ⟨dirs.reverse, ?_, ?_⟩
  · show UrlPath.rooted (pathAfterAuthority .special true _).segments = _
    rw [hdirs, pathFrom_slash hclear rfl, plain.enter_eq, pathFrom_nil]
    simp
  · show UrlPath.rooted (pathAfterAuthority .special true _).segments = _
    rw [hdirs, pathFrom_nil]
    simp

theorem EndsIn.eq {cs : List Char} {segments : List String}
    (h : (u.behind cs).EndsIn segments) :
    u.behind cs = { u with path := .rooted segments, query := none, fragment := none } := by
  obtain ⟨hpath, hquery, hfragment⟩ := h
  calc u.behind cs = { u with path := (u.behind cs).path, query := (u.behind cs).query
                              fragment := (u.behind cs).fragment } := rfl
    _ = { u with path := .rooted segments, query := none, fragment := none } := by
      rw [hpath, hquery, hfragment]

theorem behind_slash : (u.behind ['/']).EndsIn [""] := by
  refine ⟨?_, (behind_tail_iff ['/']).mpr (by simp [endsPath])⟩
  show UrlPath.rooted (pathFrom .special [] true []).segments = _
  rw [pathFrom_nil]
  rfl

theorem behind_segment_only (plain : PlainSegment segment) :
    (u.behind ('/' :: (segment ++ ['/']))).EndsIn [String.ofList segment, ""] := by
  have hslash : (u.behind ['/']).EndsIn [""] := behind_slash
  obtain ⟨htail, hpaths⟩ := behind_segment (u := u) closes_nil plain
  simp only [List.nil_append] at htail hpaths
  obtain ⟨dirs, hpath, hroot⟩ := hpaths hslash.2
  rw [hslash.1] at hroot
  have hdirs : dirs = [] := by simpa using hroot
  rw [hdirs] at hpath
  exact ⟨hpath, htail.mpr hslash.2⟩

end Behind

section Http

variable {scheme : String} {a : Authority} {cs segment : List Char}

theorem schemeKind_http (http : scheme = "http" ∨ scheme = "https") :
    schemeKind scheme = .special := by
  rcases http with rfl | rfl <;> decide

/-- A text that neither starts nor ends with a blank and has no tabs and line breaks counts as it
is. -/
theorem clean_of_ends (first last : Char) (unbroken : ∀ c ∈ cs, c ∉ ['\t', '\n', '\r'])
    (hfirst : 0x20 < first.toNat) (hlast : 0x20 < last.toNat) :
    clean (first :: (cs ++ [last])) = first :: (cs ++ [last]) := by
  have hvisible : ∀ c : Char, 0x20 < c.toNat →
      (c != '\t' && c != '\n' && c != '\r') = true := by
    intro c hc
    have hne : ∀ d : Char, d.toNat ≤ 0x20 → c ≠ d := by
      rintro d hd rfl
      omega
    simp [hne '\t' (by decide), hne '\n' (by decide), hne '\r' (by decide)]
  have hinner : ∀ c ∈ cs, (c != '\t' && c != '\n' && c != '\r') = true := by
    intro c hc
    simpa [and_assoc] using unbroken c hc
  have hfilter : ∀ c ∈ first :: (cs ++ [last]),
      (c != '\t' && c != '\n' && c != '\r') = true := by
    simp only [List.mem_cons, List.mem_append, List.not_mem_nil, or_false]
    rintro c (rfl | hc | rfl)
    · exact hvisible c hfirst
    · exact hinner c hc
    · exact hvisible c hlast
  have hstart : ¬first.toNat ≤ 0x20 := by omega
  have hend : ¬last.toNat ≤ 0x20 := by omega
  simp only [clean]
  rw [List.dropWhile_cons_of_neg (by simpa using hstart), List.reverse_cons, List.reverse_append,
    List.reverse_singleton, List.singleton_append, List.cons_append,
    List.dropWhile_cons_of_neg (by simpa using hend)]
  simpa using List.filter_eq_self.mpr hfilter

/-- A text that starts with the scheme of web pages is read behind its slashes. -/
theorem parse_http (http : scheme = "http" ∨ scheme = "https")
    (unbroken : ∀ c ∈ cs, c ∉ ['\t', '\n', '\r']) :
    parse (String.ofList (scheme.toList ++ ':' :: '/' :: '/' :: (cs ++ ['/']))) =
      readAuthority scheme ((cs ++ ['/']).dropWhile isSlash) := by
  have hletters : ∃ letters : List Char, scheme.toList = 'h' :: letters ∧
      ∀ c ∈ letters, c ∉ ['\t', '\n', '\r'] := by
    rcases http with rfl | rfl
    · exact ⟨['t', 't', 'p'], by decide, by simp⟩
    · exact ⟨['t', 't', 'p', 's'], by decide, by simp⟩
  obtain ⟨letters, hscheme, hletters⟩ := hletters
  have hinner : ∀ c ∈ letters ++ ':' :: '/' :: '/' :: cs, c ∉ ['\t', '\n', '\r'] := by
    intro c hc
    rw [List.mem_append, List.mem_cons, List.mem_cons, List.mem_cons] at hc
    rcases hc with hc | rfl | rfl | rfl | hc
    · exact hletters c hc
    · decide
    · decide
    · decide
    · exact unbroken c hc
  have hclean := clean_of_ends 'h' '/' hinner (by decide) (by decide)
  have htext : scheme.toList ++ ':' :: '/' :: '/' :: (cs ++ ['/']) =
      'h' :: ((letters ++ ':' :: '/' :: '/' :: cs) ++ ['/']) := by
    rw [hscheme]
    simp
  have hread : readScheme (scheme.toList ++ ':' :: '/' :: '/' :: (cs ++ ['/'])) =
      some (scheme, '/' :: '/' :: (cs ++ ['/'])) := by
    rcases http with rfl | rfl <;> rfl
  have hslashes : ('/' :: '/' :: (cs ++ ['/'])).dropWhile isSlash =
      (cs ++ ['/']).dropWhile isSlash := by
    simp [isSlash]
  rw [parse, read, String.toList_ofList, htext, hclean, ← htext, hread]
  simp only [schemeKind_http http, hslashes]

/-- An authority that was read and a segment behind it are read as they are written, if the host
can be. -/
theorem parse_segment (http : scheme = "http" ∨ scheme = "https") (written : a.Written scheme)
    (plain : PlainSegment segment) :
    parse (String.ofList (scheme.toList ++ ':' :: '/' :: '/' ::
        (a.text.toList ++ '/' :: (segment ++ ['/'])))) =
      if ∀ h ∈ a.host, h.Decodable then
        .ok { site scheme a with path := .rooted [String.ofList segment, ""] }
      else .error .invalidDomain := by
  have special := schemeKind_http http
  obtain ⟨hsome, hvisible⟩ := written_visible written
  obtain ⟨hbare, -⟩ := readUserinfo_text written
  have hsegment : ∀ c ∈ segment, 0x20 < c.toNat :=
    fun c hc => visible_of_inPath (plain.clear c hc).1
  have hunbroken : ∀ c ∈ a.text.toList ++ '/' :: segment, c ∉ ['\t', '\n', '\r'] := by
    have hall : ∀ c ∈ a.text.toList ++ '/' :: segment, 0x20 < c.toNat := by
      simp only [List.mem_append, List.mem_cons]
      rintro c (hc | rfl | hc)
      · exact hvisible c hc
      · decide
      · exact hsegment c hc
    intro c hc hmem
    have hlow : ∀ d ∈ ['\t', '\n', '\r'], d.toNat ≤ 0x20 := by simp
    exact absurd (hall c hc) (Nat.not_lt.mpr (hlow c hmem))
  have htext : a.text.toList ++ '/' :: (segment ++ ['/']) =
      a.text.toList ++ '/' :: segment ++ ['/'] := by simp
  have hslashes : (a.text.toList ++ '/' :: (segment ++ ['/'])).dropWhile isSlash =
      a.text.toList ++ '/' :: (segment ++ ['/']) := by
    cases htext : a.text.toList with
    | nil => exact absurd htext hsome
    | cons c cs =>
      have hc := hbare c (by simp [htext])
      rw [endsAuthority_eq, Bool.or_assoc, Bool.or_eq_false_iff] at hc
      simp [hc.1]
  obtain ⟨authority, hauthority⟩ := readAuthority_append special hbare
  have hcloses : Closes ('/' :: (segment ++ ['/'])) := by
    simp [Closes, endsAuthority]
  have hnil := hauthority [] closes_nil
  rw [List.append_nil, readAuthority_text special written] at hnil
  rw [htext, parse_http http hunbroken, ← htext, hslashes, hauthority _ hcloses]
  by_cases hdecodable : ∀ h ∈ a.host, h.Decodable
  · rw [if_pos hdecodable] at hnil ⊢
    cases hread : authority with
    | error e =>
      rw [hread] at hnil
      cases hnil
    | ok b =>
      rw [hread] at hnil
      have hsite : site scheme a = site scheme b := by
        have hok : site scheme a = (site scheme b).behind [] := Except.ok.inj hnil
        rwa [behind_nil] at hok
      rw [hsite]
      exact congrArg Except.ok (behind_segment_only plain).eq
  · rw [if_neg hdecodable] at hnil ⊢
    cases hread : authority with
    | error e =>
      rw [hread] at hnil
      exact hnil.symm ▸ rfl
    | ok b =>
      rw [hread] at hnil
      cases hnil

end Http

end SiteSpiders.Url
