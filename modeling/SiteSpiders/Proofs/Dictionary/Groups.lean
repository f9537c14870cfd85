import SiteSpiders.Dictionary.Links
import SiteSpiders.Proofs.Pattern.Language
import SiteSpiders.Proofs.Url.PathReading
import SiteSpiders.Proofs.Url.Plain

/-!
# Addresses of group pages

The group pattern is searched in the whole text of an address, other addresses in its path, query
or fragment included, and what is found is read as an address of its own. The pattern takes for the
site whatever stands between the scheme and the next slash. Reading it may end the authority
earlier, and then what was found is not the address of a group page.
-/
namespace SiteSpiders.Dictionary

open Url

/-- Whether a text is `zi_`, a word, an underscore and a number. -/
def IsGroupSegment (segment : List Char) : Prop :=
  ∃ word digits, (word ≠ [] ∧ ∀ c ∈ word, Unicode.isWord c = true) ∧
    (digits ≠ [] ∧ ∀ c ∈ digits, Unicode.isDecimalDigit c = true) ∧
    segment = 'z' :: 'i' :: '_' :: (word ++ '_' :: digits)

/-- Whether a URL is one of a group page: it is a web address, its path is a group segment between
slashes, and it has neither query nor fragment. -/
structure IsGroupPage (g : Url) : Prop where
  http : g.scheme = "http" ∨ g.scheme = "https"
  path : ∃ segment, IsGroupSegment segment ∧ g.path.text.toList = '/' :: (segment ++ ['/'])
  query : g.query = none
  fragment : g.fragment = none

/-- What the group pattern matches: a scheme, what stands for the site, and a segment. -/
structure GroupLink where
  scheme : String
  front : List Char
  segment : List Char
  http : scheme = "http" ∨ scheme = "https"
  some_front : front ≠ []
  clear : ∀ c ∈ front, c ≠ '/' ∧ Text.isBlank c = false
  group : IsGroupSegment segment

namespace GroupLink

/-- The text of the site alone. -/
def siteText (m : GroupLink) : List Char :=
  m.scheme.toList ++ ':' :: '/' :: '/' :: (m.front ++ ['/'])

def text (m : GroupLink) : List Char :=
  m.scheme.toList ++ ':' :: '/' :: '/' :: (m.front ++ '/' :: (m.segment ++ ['/']))

end GroupLink

section Segment

variable {segment : List Char}

theorem ascii_word {c : Char} (ascii : c.toNat < 0x80)
    (h : Unicode.isWord c = true ∨ Unicode.isDecimalDigit c = true) :
    inPath c = false ∧ isSlash c = false ∧ endsPath c = false := by
  have hall : ∀ n < 0x80, (Unicode.isWord (Char.ofNat n) = true ∨
      Unicode.isDecimalDigit (Char.ofNat n) = true) →
      inPath (Char.ofNat n) = false ∧ isSlash (Char.ofNat n) = false ∧
        endsPath (Char.ofNat n) = false := by
    decide +kernel
  have hc := hall c.toNat ascii
  rw [Char.ofNat_toNat] at hc
  exact hc h

theorem IsGroupSegment.chars (h : IsGroupSegment segment) {c : Char} (hc : c ∈ segment) :
    Unicode.isWord c = true ∨ Unicode.isDecimalDigit c = true := by
  obtain ⟨word, digits, ⟨-, hword⟩, ⟨-, hdigits⟩, rfl⟩ := h
  simp only [List.mem_cons, List.mem_append] at hc
  rcases hc with rfl | rfl | rfl | hc | rfl | hc
  · exact .inl (by decide)
  · exact .inl (by decide)
  · exact .inl (by decide)
  · exact .inl (hword c hc)
  · exact .inl (by decide)
  · exact .inr (hdigits c hc)

theorem IsGroupSegment.count_slash (h : IsGroupSegment segment) : segment.count '/' = 0 := by
  refine List.count_eq_zero.mpr fun hmem => ?_
  have hslash : ¬(Unicode.isWord '/' = true ∨ Unicode.isDecimalDigit '/' = true) := by decide
  exact hslash (h.chars hmem)

theorem IsGroupSegment.plain (h : IsGroupSegment segment) (ascii : Text.Ascii segment) :
    PlainSegment segment where
  clear c hc := ascii_word (ascii c hc) (h.chars hc)
  starts := by
    obtain ⟨word, digits, -, -, rfl⟩ := h
    exact ⟨_, rfl⟩

end Segment

section Matches

open Pattern

/-- The group pattern matches the texts of group links. -/
theorem reads_groupPattern : Reads groupPattern fun t => ∃ m : GroupLink, t = m.text := by
  have hparts : Reads groupPattern _ :=
    (reads_literal "http").cat <| reads_optional.cat <| (reads_literal "://").cat <|
      reads_oneOrMore.cat <| (reads_literal "/zi_").cat <| reads_oneOrMore.cat <|
      (reads_char '_').cat <| reads_oneOrMore.cat <| reads_char '/'
  refine hparts.congr fun t => ?_
  constructor
  · rintro ⟨_, _, rfl, ⟨s, _, hs, ⟨_, _, rfl, ⟨front, _, ⟨hfront, hclear⟩, ⟨_, _, rfl,
      ⟨word, _, hword, ⟨_, _, rfl, ⟨digits, _, hdigits, rfl, rfl⟩, rfl⟩, rfl⟩, rfl⟩, rfl⟩, rfl⟩,
      rfl⟩, rfl⟩
    have hscheme : ∃ scheme : String, (scheme = "http" ∨ scheme = "https") ∧
        scheme.toList = "http".toList ++ s := by
      rcases hs with rfl | ⟨c, hc, rfl⟩
      · exact ⟨"http", .inl rfl, by simp⟩
      · obtain rfl : c = 's' := by simpa using hc
        exact ⟨"https", .inr rfl, by simp⟩
    obtain ⟨scheme, http, hscheme⟩ := hscheme
    have hclear' : ∀ c ∈ front, c ≠ '/' ∧ Text.isBlank c = false :=
      fun c hc => by simpa using hclear c hc
    refine ⟨⟨scheme, front, _, http, hfront, hclear', word, digits, hword, hdigits, rfl⟩, ?_⟩
    simp [GroupLink.text, hscheme]
  · rintro ⟨⟨scheme, front, _, http, hfront, hclear, word, digits, hword, hdigits, rfl⟩, rfl⟩
    have hscheme : ∃ s, (s = [] ∨ ∃ c : Char, (c == 's') = true ∧ s = [c]) ∧
        scheme.toList = "http".toList ++ s := by
      rcases http with rfl | rfl
      · exact ⟨[], .inl rfl, by simp⟩
      · exact ⟨['s'], .inr ⟨'s', rfl, rfl⟩, by simp⟩
    obtain ⟨s, hs, hscheme⟩ := hscheme
    have hclear' : front ≠ [] ∧ ∀ c ∈ front, (c != '/' && !Text.isBlank c) = true :=
      ⟨hfront, fun c hc => by simpa using hclear c hc⟩
    refine ⟨_, _, rfl, ⟨s, _, hs, ⟨_, _, rfl, ⟨front, _, hclear', ⟨_, _, rfl, ⟨word, _, hword,
      ⟨_, _, rfl, ⟨digits, _, hdigits, rfl, rfl⟩, rfl⟩, rfl⟩, rfl⟩, rfl⟩, rfl⟩, rfl⟩, ?_⟩
    simp [GroupLink.text, hscheme]

/-- A text is known among those that start another one by its number of slashes, if the last one
stands at its end. -/
theorem eq_of_count_slash {s t cs : List Char} (hs : s ++ ['/'] <+: cs) (ht : t ++ ['/'] <+: cs)
    (count : (s ++ ['/']).count '/' = (t ++ ['/']).count '/') : s ++ ['/'] = t ++ ['/'] := by
  have hstarts : ∀ {s t : List Char}, s ++ ['/'] <+: t ++ ['/'] →
      (s ++ ['/']).count '/' = (t ++ ['/']).count '/' → s ++ ['/'] = t ++ ['/'] := by
    rintro s t ⟨more, hmore⟩ hcount
    rcases List.eq_nil_or_concat more with rfl | ⟨more, c, rfl⟩
    · simpa using hmore
    -- what the longer text has more would end in a slash
    · have hc : c = '/' := by
        rw [List.concat_eq_append, ← List.append_assoc] at hmore
        exact List.singleton_inj.mp (List.append_inj_right' hmore rfl)
      rw [← hmore, hc] at hcount
      simp at hcount
  rcases List.prefix_or_prefix_of_prefix hs ht with hst | hts
  · exact hstarts hst count
  · exact (hstarts hts count.symm).symm

namespace GroupLink

theorem text_eq (m : GroupLink) : m.text =
    (m.scheme.toList ++ ':' :: '/' :: '/' :: (m.front ++ '/' :: m.segment)) ++ ['/'] := by
  simp [text]

theorem count_slash (m : GroupLink) : m.text.count '/' = 4 := by
  have hscheme : m.scheme.toList.count '/' = 0 := by
    rcases m.http with h | h <;> rw [h] <;> decide
  have hfront : m.front.count '/' = 0 :=
    List.count_eq_zero.mpr fun hmem => (m.clear _ hmem).1 rfl
  have hsegment := m.group.count_slash
  simp [text, List.count_append, hscheme, hfront, hsegment]

theorem text_unique {m n : GroupLink} {cs : List Char} (hm : m.text <+: cs) (hn : n.text <+: cs) :
    m.text = n.text := by
  have hcount : m.text.count '/' = n.text.count '/' := m.count_slash.trans n.count_slash.symm
  rw [m.text_eq, n.text_eq] at hcount ⊢
  rw [m.text_eq] at hm
  rw [n.text_eq] at hn
  exact eq_of_count_slash hm hn hcount

theorem find?_of_prefix (m : GroupLink) {cs : List Char} (stands : m.text <+: cs) :
    ∃ found, groupPattern.find? cs = some found ∧ found.text cs = m.text := by
  refine reads_groupPattern.find?_of_prefix ⟨m, rfl⟩ stands ?_
  rintro _ ⟨n, rfl⟩ hn
  exact text_unique hn stands

end GroupLink

/-- The group page that a URL leads to is read from the group link found in its text. -/
theorem groupUrl?_eq_some_iff {u g : Url} : groupUrl? u = some g ↔
    ∃ found, groupPattern.find? u.text.toList = some found ∧
      Url.parse (String.ofList (found.text u.text.toList)) = .ok g := by
  unfold groupUrl?
  dsimp only
  cases groupPattern.find? u.text.toList with
  | none => simp
  | some found =>
    cases hread : Url.parse (String.ofList (found.text u.text.toList)) with
    | error e => simp [hread, Except.toOption]
    | ok v => simp [hread, Except.toOption]

end Matches

section Reading

variable {m : GroupLink} {g : Url} {segment : List Char}

/-- A group segment between slashes is all that the path of a group page has. -/
theorem IsGroupPage.of_endsIn (http : g.scheme = "http" ∨ g.scheme = "https")
    (group : IsGroupSegment segment) (ends : g.EndsIn [String.ofList segment, ""]) :
    IsGroupPage g := by
  obtain ⟨hpath, hquery, hfragment⟩ := ends
  refine ⟨http, ⟨segment, group, ?_⟩, hquery, hfragment⟩
  rw [hpath, UrlPath.toList_text_rooted]
  simp [UrlPath.segmentText]

theorem length_le_count_slash (segments : List String) :
    segments.length ≤ (UrlPath.segmentText segments).count '/' := by
  induction segments with
  | nil => simp
  | cons s segments ih =>
    simp only [UrlPath.segmentText, List.flatMap_cons, List.count_append, List.count_cons_self,
      List.length_cons] at ih ⊢
    omega

theorem IsGroupPage.length_le (page : IsGroupPage g) {segments : List String}
    (hpath : g.path = .rooted segments) : segments.length ≤ 2 := by
  obtain ⟨segment, group, htext⟩ := page.path
  have hcount := length_le_count_slash segments
  rw [← UrlPath.toList_text_rooted, ← hpath, htext] at hcount
  simpa [group.count_slash] using hcount

namespace GroupLink

theorem unbroken (m : GroupLink) : ∀ c ∈ m.front, c ∉ ['\t', '\n', '\r'] := by
  intro c hc hmem
  have hblank : ∀ d ∈ ['\t', '\n', '\r'], Text.isBlank d = true :=
    List.all_eq_true.mp (by decide)
  have hc' := (m.clear c hc).2
  rw [hblank c hmem] at hc'
  cases hc'

theorem parse_siteText (m : GroupLink) : Url.parse (String.ofList m.siteText) =
    readAuthority m.scheme ((m.front ++ ['/']).dropWhile isSlash) :=
  parse_http m.http m.unbroken

theorem parse_text (m : GroupLink) (plain : PlainSegment m.segment) :
    Url.parse (String.ofList m.text) =
      readAuthority m.scheme ((m.front ++ '/' :: (m.segment ++ ['/'])).dropWhile isSlash) := by
  have hunbroken : ∀ c ∈ m.front ++ '/' :: m.segment, c ∉ ['\t', '\n', '\r'] := by
    intro c hc hmem
    rcases List.mem_append.mp hc with hc | hc
    · exact m.unbroken c hc hmem
    rcases List.mem_cons.mp hc with rfl | hc
    · revert hmem
      decide
    · have hlow : ∀ d ∈ ['\t', '\n', '\r'], d.toNat ≤ 0x20 := by simp
      exact absurd (visible_of_inPath (plain.clear c hc).1) (Nat.not_lt.mpr (hlow c hmem))
  have hread := parse_http m.http hunbroken
  rwa [List.append_assoc, List.cons_append] at hread

/-- Reading a group link ends its authority somewhere in what stands for the site: what is left of
that stands in front of the segment. -/
structure Divides (m : GroupLink) (authority : Except UrlError Authority) (rest : List Char) :
    Prop where
  closes : Closes rest
  within : rest ⊆ m.front
  whole : Url.parse (String.ofList m.text) =
    authority.map fun a => (site m.scheme a).behind (rest ++ '/' :: (m.segment ++ ['/']))
  alone : Url.parse (String.ofList m.siteText) =
    authority.map fun a => (site m.scheme a).behind (rest ++ ['/'])

/-- There is an authority unless slashes are all that stands for the site. -/
theorem exists_divides (m : GroupLink) (plain : PlainSegment m.segment)
    (sited : m.front.dropWhile isSlash ≠ []) : ∃ authority rest, m.Divides authority rest := by
  set body := m.front.dropWhile isSlash with hbody
  have hdrop : ∀ back, (m.front ++ back).dropWhile isSlash = body ++ back := by
    intro back
    rw [List.dropWhile_append, if_neg (by rwa [List.isEmpty_iff])]
  set name := body.takeWhile fun c => !endsAuthority .special c with hname
  set rest := body.dropWhile fun c => !endsAuthority .special c with hrest
  have hbare : Bare name := by
    intro c hc
    simpa using List.mem_takeWhile_imp hc
  have hcloses : Closes rest := by
    intro c hc
    have hhead := List.head?_dropWhile_not (fun c => !endsAuthority .special c) body
    rw [← hrest, Option.mem_def.mp hc] at hhead
    simpa using hhead
  have hwithin : rest ⊆ m.front := fun c hc =>
    (List.dropWhile_sublist _).subset ((List.dropWhile_sublist _).subset hc)
  have hfollows : ∀ back, Closes (rest ++ '/' :: back) := by
    intro back
    cases hr : rest with
    | nil => simp [Closes, endsAuthority]
    | cons c cs => simpa [Closes, hr] using hcloses
  obtain ⟨authority, hauthority⟩ := readAuthority_append (schemeKind_http m.http) hbare
  have hsplit : ∀ back, body ++ '/' :: back = name ++ (rest ++ '/' :: back) := by
    intro back
    rw [← List.append_assoc, List.takeWhile_append_dropWhile]
  refine ⟨authority, rest, hcloses, hwithin, ?_, ?_⟩
  · rw [m.parse_text plain, hdrop, hsplit, hauthority _ (hfollows _)]
  · rw [m.parse_siteText, hdrop, hsplit, hauthority _ (hfollows _)]

/-- Whatever can be read can be read without its segment too. -/
theorem Divides.read {authority : Except UrlError Authority} {rest : List Char}
    (divides : m.Divides authority rest) (h : Url.parse (String.ofList m.text) = .ok g) :
    ∃ a, g = (site m.scheme a).behind (rest ++ '/' :: (m.segment ++ ['/'])) ∧
      Url.parse (String.ofList m.siteText) = .ok ((site m.scheme a).behind (rest ++ ['/'])) := by
  rw [divides.whole] at h
  cases hread : authority with
  | error e =>
    rw [hread] at h
    cases h
  | ok a =>
    rw [hread] at h
    exact ⟨a, (Except.ok.inj h).symm, by rw [divides.alone, hread]; rfl⟩

/-- Where slashes are all that stands for the site, the segment is read as the host, and without the
segment nothing is read. -/
theorem read_unsited (plain : PlainSegment m.segment) (unsited : m.front.dropWhile isSlash = [])
    (h : Url.parse (String.ofList m.text) = .ok g) :
    ∃ a, g = (site m.scheme a).behind ['/'] ∧
      Url.parse (String.ofList m.siteText) = .error .emptyHost := by
  have hdrop : ∀ back, (m.front ++ back).dropWhile isSlash = back.dropWhile isSlash := by
    intro back
    rw [List.dropWhile_append, if_pos (by rw [unsited]; rfl)]
  have hsegment : ('/' :: (m.segment ++ ['/'])).dropWhile isSlash = m.segment ++ ['/'] := by
    obtain ⟨rest, hrest⟩ := plain.starts
    rw [hrest]
    rfl
  have hbare : Bare m.segment := by
    intro c hc
    obtain ⟨-, hslash, hends⟩ := plain.clear c hc
    rw [endsAuthority_eq, Bool.or_assoc, hslash]
    exact hends
  have hcloses : Closes ['/'] := by simp [Closes, endsAuthority]
  obtain ⟨authority, hauthority⟩ := readAuthority_append (schemeKind_http m.http) hbare
  rw [m.parse_text plain, hdrop, hsegment, hauthority _ hcloses] at h
  cases hread : authority with
  | error e =>
    rw [hread] at h
    cases h
  | ok a =>
    rw [hread] at h
    refine ⟨a, (Except.ok.inj h).symm, ?_⟩
    rw [m.parse_siteText, hdrop]
    rcases m.http with hscheme | hscheme <;> rw [hscheme] <;> rfl

/-- A group page is read exactly if what stands for the site is read as a site and nothing more. -/
theorem page_iff (plain : PlainSegment m.segment)
    (h : Url.parse (String.ofList m.text) = .ok g) : g.scheme = m.scheme ∧
    (IsGroupPage g ↔
      ∃ v, Url.parse (String.ofList m.siteText) = .ok v ∧ v.EndsIn [""]) := by
  by_cases hsited : m.front.dropWhile isSlash = []
  · obtain ⟨a, rfl, hnone⟩ := read_unsited plain hsited h
    refine ⟨rfl, fun page => ?_, ?_⟩
    · obtain ⟨segment, group, htext⟩ := page.path
      rw [(behind_slash (u := site m.scheme a)).1, UrlPath.toList_text_rooted] at htext
      simp [UrlPath.segmentText] at htext
    · rintro ⟨v, hv, -⟩
      rw [hnone] at hv
      cases hv
  · obtain ⟨authority, rest, hdivides⟩ := m.exists_divides plain hsited
    obtain ⟨a, rfl, halone⟩ := hdivides.read h
    obtain ⟨htail, hpaths⟩ := behind_segment (u := site m.scheme a) hdivides.closes plain
    refine ⟨rfl, fun page => ⟨_, halone, ?_⟩, ?_⟩
    · have hended := htail.mp ⟨page.query, page.fragment⟩
      obtain ⟨dirs, hpath, hsite⟩ := hpaths hended
      have hlength := page.length_le hpath
      have hdirs : dirs = [] := by simpa using hlength
      rw [hdirs] at hsite
      exact ⟨hsite, hended⟩
    · rintro ⟨v, hv, hends⟩
      obtain rfl := Except.ok.inj (halone.symm.trans hv)
      obtain ⟨dirs, hpath, hsite⟩ := hpaths hends.2
      have hdirs : dirs = [] := by
        have hsame := hsite.symm.trans hends.1
        simpa using hsame
      rw [hdirs] at hpath
      exact .of_endsIn m.http m.group ⟨hpath, htail.mpr hends.2⟩

/-- What stands for the site is the whole site if nothing in it ends an authority. -/
theorem page_of_clear (plain : PlainSegment m.segment)
    (h : Url.parse (String.ofList m.text) = .ok g)
    (clear : ∀ c ∈ m.front, c ∉ ['?', '#', '\\']) : IsGroupPage g := by
  have hbare : Bare m.front := by
    intro c hc
    have hc' := clear c hc
    simp only [List.mem_cons, List.not_mem_nil, or_false, not_or] at hc'
    simp [endsAuthority, hc', (m.clear c hc).1]
  have hsited : m.front.dropWhile isSlash ≠ [] := by
    intro hnil
    obtain ⟨c, hc⟩ := List.exists_mem_of_ne_nil _ m.some_front
    have hends := hbare c hc
    rw [endsAuthority_eq, List.dropWhile_eq_nil_iff.mp hnil c hc] at hends
    cases hends
  obtain ⟨authority, rest, hdivides⟩ := m.exists_divides plain hsited
  have hrest : rest = [] := by
    cases hr : rest with
    | nil => rfl
    | cons c cs =>
      have hc := hdivides.closes c (by rw [hr]; rfl)
      rw [hbare c (hdivides.within (by rw [hr]; simp))] at hc
      cases hc
  obtain ⟨a, -, halone⟩ := hdivides.read h
  rw [hrest] at halone
  exact (page_iff plain h).2.mpr ⟨_, halone, behind_slash⟩

end GroupLink

/-- The segments of a group page's path are the group segment and an empty one. -/
theorem IsGroupPage.exists_path (page : IsGroupPage g) (parsed : g.Parsed) :
    ∃ segment, IsGroupSegment segment ∧ Text.Ascii segment ∧
      g.path = .rooted [String.ofList segment, ""] := by
  obtain ⟨segment, group, htext⟩ := page.path
  obtain ⟨a, hauth, -⟩ := parsed.plain.written (schemeKind_http page.http)
  obtain ⟨segments, hpath, hsegments⟩ := parsed.sound.rooted hauth
  have hascii : Text.Ascii segment := by
    have hall := parsed.plain.path.text
    rw [htext] at hall
    exact hall.of_subset fun c hc => by simp [hc]
  have hclear : ∀ s ∈ [String.ofList segment, ""], UrlPath.SegmentClear s := by
    intro s hs c hc
    rcases List.mem_pair.mp hs with rfl | rfl
    · rw [String.toList_ofList] at hc
      obtain ⟨-, hslash, hends⟩ := (group.plain hascii).clear c hc
      simp only [isSlash, endsPath, Bool.or_eq_false_iff, beq_eq_false_iff_ne] at hslash hends
      simp [hslash.1, hends.1, hends.2]
    · cases hc
  refine ⟨segment, group, hascii, ?_⟩
  rw [hpath, UrlPath.toList_text_rooted] at htext
  rw [hpath, UrlPath.segmentText_inj (fun s hs => (hsegments s hs).2) hclear]
  rw [htext]
  simp [UrlPath.segmentText]

theorem isBlank_of_visible {c : Char} (ascii : c.toNat < 0x80) (visible : 0x20 < c.toNat) :
    Text.isBlank c = false := by
  have hall : ∀ n < 0x80, 0x20 < n → Text.isBlank (Char.ofNat n) = false := by decide +kernel
  have hc := hall c.toNat ascii visible
  rwa [Char.ofNat_toNat] at hc

/-- A URL with a segment and the slash behind it for its path, and with no query and no fragment. -/
def pageAt (u : Url) (segment : List Char) : Url :=
  { u with path := .rooted [String.ofList segment, ""], query := none, fragment := none }

/-- Where a group segment starts the path of a URL, a group link starts its text. It is read as the
URL up to the segment, if its host can be read again. -/
theorem exists_link {u : Url} (parsed : u.Parsed) (http : u.scheme = "http" ∨ u.scheme = "https")
    (group : IsGroupSegment segment)
    (starts : '/' :: (segment ++ ['/']) <+: u.path.text.toList) :
    ∃ m : GroupLink, m.text <+: u.text.toList ∧
      Url.parse (String.ofList m.text) =
        if u.Decodable then .ok (pageAt u segment) else .error .invalidDomain := by
  obtain ⟨a, hauth, written⟩ := parsed.plain.written (schemeKind_http http)
  obtain ⟨segments, hpath, -⟩ := parsed.sound.rooted hauth
  obtain ⟨hsome, hvisible⟩ := written_visible written
  obtain ⟨hbare, -⟩ := readUserinfo_text written
  have hclear : ∀ c ∈ a.text.toList, c ≠ '/' ∧ Text.isBlank c = false := by
    intro c hc
    constructor
    · rintro rfl
      exact nomatch hbare '/' hc
    · exact isBlank_of_visible (parsed.plain.authority a hauth c hc) (hvisible c hc)
  have hascii : Text.Ascii segment :=
    (parsed.plain.path.text.of_subset starts.subset).of_subset fun c hc => by simp [hc]
  have hdecodable : (∀ h ∈ a.host, h.Decodable) ↔ u.Decodable := by
    rw [Url.Decodable, host?, hauth]
    rfl
  have hpage : { site u.scheme a with path := .rooted [String.ofList segment, ""] } =
      pageAt u segment := by
    simp only [site, pageAt, hauth]
  refine ⟨⟨u.scheme, a.text.toList, segment, http, hsome, hclear, group⟩, ?_, ?_⟩
  · -- what follows the authority starts with the path
    rw [hpath, UrlPath.toList_text_rooted] at starts
    obtain ⟨rest, hrest⟩ := starts
    rw [Url.toList_text, Url.bodyText, hauth]
    simp only [toList_guardedPath_some hauth hpath, ← hrest]
    simp [GroupLink.text]
  · have hread := parse_segment http written (group.plain hascii)
    rw [hpage] at hread
    exact hread.trans (if_congr hdecodable rfl rfl)

/-- What starts the text of a URL as a group link is what is read. -/
theorem GroupLink.groupUrl?_eq (m : GroupLink) {u : Url} (stands : m.text <+: u.text.toList) :
    groupUrl? u = (Url.parse (String.ofList m.text)).toOption := by
  obtain ⟨found, hfound, htext⟩ := m.find?_of_prefix stands
  unfold groupUrl?
  simp only [hfound, htext]

/-- A group page is found in its own text, and it is read from it again if its host can be. -/
theorem groupUrl?_self (parsed : g.Parsed) (page : IsGroupPage g) :
    groupUrl? g = some g ↔ g.Decodable := by
  obtain ⟨segment, group, -, hpath⟩ := page.exists_path parsed
  have hwhole : pageAt g segment = g := by
    obtain ⟨scheme, authority, path, query, fragment⟩ := g
    obtain rfl : path = _ := hpath
    obtain rfl : query = none := page.query
    obtain rfl : fragment = none := page.fragment
    rfl
  have starts : '/' :: (segment ++ ['/']) <+: g.path.text.toList := by
    rw [hpath, UrlPath.toList_text_rooted]
    simp [UrlPath.segmentText]
  obtain ⟨m, hstands, hread⟩ := exists_link parsed page.http group starts
  rw [m.groupUrl?_eq hstands, hread, hwhole]
  split_ifs with hshort <;> simp [Except.toOption, hshort]

/-- The group page of a URL whose path starts with a group segment is that segment on the site of
the URL, whatever follows it and whatever other addresses the URL embeds. It is missed exactly if
the host of the URL cannot be read again. -/
theorem groupUrl?_of_starts {u : Url} (parsed : u.Parsed)
    (http : u.scheme = "http" ∨ u.scheme = "https") (group : IsGroupSegment segment)
    (starts : '/' :: (segment ++ ['/']) <+: u.path.text.toList) :
    (groupUrl? u = if u.Decodable then some (pageAt u segment) else none) ∧
      (pageAt u segment).path.text.toList = '/' :: (segment ++ ['/']) := by
  obtain ⟨m, hstands, hread⟩ := exists_link parsed http group starts
  constructor
  · rw [m.groupUrl?_eq hstands, hread]
    split_ifs <;> rfl
  · rw [pageAt, UrlPath.toList_text_rooted]
    simp [UrlPath.segmentText]

/-- An address with user information and a port whose path starts with a group segment, and which
has more of them in its path, query and fragment. -/
def sampleDeep : Url where
  scheme := "http"
  authority := some
    { username := "u", password := "p", host := some (.domain "a"), port := some 8080 }
  path := .rooted ["zi_b_1", "zi_c_2", "d"]
  query := some "to=http://e/zi_f_3/"
  fragment := some "http://g/zi_h_4/"

/-- Of several group segments the one that starts the path is found. -/
theorem groupUrl?_of_starts_sample :
    Url.parse "http://u:p@a:8080/zi_b_1/zi_c_2/d?to=http://e/zi_f_3/#http://g/zi_h_4/" =
        .ok sampleDeep ∧
      sampleDeep.Decodable ∧ groupUrl? sampleDeep = some (pageAt sampleDeep "zi_b_1".toList) ∧
      (pageAt sampleDeep "zi_b_1".toList).text = "http://u:p@a:8080/zi_b_1/" := by
  have hread : Url.parse "http://u:p@a:8080/zi_b_1/zi_c_2/d?to=http://e/zi_f_3/#http://g/zi_h_4/" =
      .ok sampleDeep := by
    decide +kernel
  have hsegment : IsGroupSegment "zi_b_1".toList :=
    ⟨['b'], ['1'], ⟨by decide, List.all_eq_true.mp (by decide)⟩,
      ⟨by decide, List.all_eq_true.mp (by decide)⟩, by decide⟩
  have hstarts : '/' :: ("zi_b_1".toList ++ ['/']) <+: sampleDeep.path.text.toList :=
    ⟨"zi_c_2/d".toList, by decide +kernel⟩
  have hshort : sampleDeep.Decodable := by decide +kernel
  obtain ⟨hgroup, -⟩ := groupUrl?_of_starts (.own hread) (.inl rfl) hsegment hstarts
  rw [if_pos hshort] at hgroup
  exact ⟨hread, hshort, hgroup, by decide +kernel⟩

/-- The address that a URL leads to is read from the first group link in its text. It is one of a
group page exactly if what stands for the site is read as a site and nothing more, as it is unless
it has characters that end an authority. A group page leads to itself if its host can be read
again. -/
theorem groupUrl?_group_page {u : Url} (parsed : u.Parsed) (h : groupUrl? u = some g) :
    ∃ found, ∃ m : GroupLink, groupPattern.find? u.text.toList = some found ∧
      found.text u.text.toList = m.text ∧ g.scheme = m.scheme ∧
      (IsGroupPage g ↔ ∃ v, Url.parse (String.ofList m.siteText) = .ok v ∧ v.EndsIn [""]) ∧
      ((∀ c ∈ m.front, c ∉ ['?', '#', '\\']) → IsGroupPage g) ∧
      (IsGroupPage g → (groupUrl? g = some g ↔ g.Decodable)) := by
  obtain ⟨found, hfound, hread⟩ := groupUrl?_eq_some_iff.mp h
  obtain ⟨⟨m, hm⟩, hwithin⟩ := reads_groupPattern.of_find? hfound
  rw [hm] at hread hwithin
  have hascii : Text.Ascii m.segment := by
    refine (parsed.plain.text.of_subset hwithin.subset).of_subset fun c hc => ?_
    simp [GroupLink.text, hc]
  have plain := m.group.plain hascii
  obtain ⟨hscheme, hpage⟩ := GroupLink.page_iff plain hread
  exact ⟨found, m, hfound, hm, hscheme, hpage, GroupLink.page_of_clear plain hread,
    groupUrl?_self (.own hread)⟩

/-- The address of a group page. -/
def sampleGroup : Url where
  scheme := "https"
  authority := some { host := some (.domain "b"), port := some 8080 }
  path := .rooted ["zi_c_1", ""]

/-- An address with that of a group page in its query. -/
def sampleReferrer : Url where
  scheme := "https"
  authority := some { host := some (.domain "a") }
  path := .rooted [""]
  query := some "to=https://b:8080/zi_c_1/"

/-- A group page inside the query of another page is led to, and leads to itself. -/
theorem groupUrl?_group_page_sample :
    Url.parse "https://a/?to=https://b:8080/zi_c_1/" = .ok sampleReferrer ∧
      groupUrl? sampleReferrer = some sampleGroup ∧ IsGroupPage sampleGroup ∧
      groupUrl? sampleGroup = some sampleGroup := by
  have hread : Url.parse "https://a/?to=https://b:8080/zi_c_1/" = .ok sampleReferrer := by
    decide +kernel
  have hgroup : groupUrl? sampleReferrer = some sampleGroup := by decide +kernel
  obtain ⟨-, -, -, -, -, -, -, hself⟩ := groupUrl?_group_page (.own hread) hgroup
  have hsegment : IsGroupSegment "zi_c_1".toList :=
    ⟨['c'], ['1'], ⟨by decide, List.all_eq_true.mp (by decide)⟩,
      ⟨by decide, List.all_eq_true.mp (by decide)⟩, by decide⟩
  have hpage : IsGroupPage sampleGroup := .of_endsIn (.inr rfl) hsegment ⟨rfl, rfl, rfl⟩
  exact ⟨hread, hgroup, hpage, (hself hpage).mpr (by decide +kernel)⟩

/-- A question mark ends an authority where the pattern still takes it for a part of the site: what
is forwarded then is no group page. -/
theorem groupUrl?_query_in_site : ∃ u g, Url.parse "https://a/#http://b?c/zi_d_1/" = .ok u ∧
    groupUrl? u = some g ∧ g.text = "http://b/?c/zi_d_1/" ∧ ¬IsGroupPage g ∧
    groupUrl? g = none := by
  refine ⟨⟨"https", some ⟨"", "", some (.domain "a"), none⟩, .rooted [""], none,
      some "http://b?c/zi_d_1/"⟩,
    ⟨"http", some ⟨"", "", some (.domain "b"), none⟩, .rooted [""], some "c/zi_d_1/", none⟩,
    by decide +kernel, by decide +kernel, by decide +kernel, fun page => ?_, by decide +kernel⟩
  exact nomatch page.query

end Reading

end SiteSpiders.Dictionary
