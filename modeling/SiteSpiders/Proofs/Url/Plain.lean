import SiteSpiders.Proofs.Url.AuthorityReading

/-!
# URLs that are read are plain

Whatever is read, on its own or as a link, has an ASCII text: everything beyond ASCII is escaped or
coded. Behind a special scheme there is an authority, and it is as it is written.
-/
namespace SiteSpiders

open Text (Ascii ascii_nil)

theorem ascii_toDigits {b n : Nat} (hb : 1 < b) (hle : b ≤ 16) : Ascii (Nat.toDigits b n) := by
  intro c hc
  obtain ⟨d, hd, rfl⟩ := mem_toDigits hb hc
  have hall : ∀ d < 16, (Nat.digitChar d).toNat < 0x80 := by decide
  exact hall d (Nat.lt_of_lt_of_le hd hle)

namespace Url

/-- A set of characters with everything beyond ASCII in it. -/
def Covers (set : EncodeSet) : Prop := ∀ c, controls c = true → set c = true

theorem ascii_percentEncode {set : EncodeSet} (covers : Covers set) (cs : List Char) :
    Ascii (percentEncode set cs) := by
  intro c hc
  by_cases hescape : c ∈ escapeChars
  · have hall : Ascii escapeChars := by decide
    exact hall c hescape
  · have hset := (mem_percentEncode hescape hc).2
    by_contra hbeyond
    have hcontrol : controls c = true := by
      have hle : 0x7f ≤ c.toNat := by omega
      simp [controls, hle]
    rw [covers c hcontrol] at hset
    cases hset

lemma covers_inFragment : Covers inFragment := fun c hc => by simp [inFragment, hc]

lemma covers_inPath : Covers inPath := fun c hc => by simp [inPath, covers_inFragment c hc]

lemma covers_inUserinfo : Covers inUserinfo := fun c hc => by simp [inUserinfo, covers_inPath c hc]

lemma covers_inQuery : Covers inQuery := fun c hc => by simp [inQuery, hc]

lemma covers_inSpecialQuery : Covers inSpecialQuery :=
  fun c hc => by simp [inSpecialQuery, covers_inQuery c hc]

theorem ascii_escaped {set : EncodeSet} (covers : Covers set) (cs : List Char) :
    Ascii (String.ofList (percentEncode set cs)).toList := by
  rw [String.toList_ofList]
  exact ascii_percentEncode covers cs

theorem ascii_ipv6 (pieces : List Nat) : Ascii (Host.ipv6 pieces).text.toList := by
  rw [Host.toList_text_ipv6]
  refine .cons (by decide) (.append (fun c hc => ?_) (.cons (by decide) ascii_nil))
  rcases Host.ipv6Text_chars hc with rfl | ⟨n, hn⟩
  · decide
  · exact ascii_toDigits (by decide) (by decide) c hn

theorem ascii_parseHost {cs : List Char} {h : Host} (hparse : parseHost cs = .ok h) :
    Ascii h.text.toList := by
  cases h with
  | domain name =>
    obtain ⟨bytes, hname⟩ := exists_name_of_parseHost hparse
    exact (domainToAscii_ascii hname).1
  | ipv4 n =>
    intro c hc
    rw [Host.text, Host.toList_ipv4Text] at hc
    have hdigits : ∀ {n}, c ∈ Nat.toDigits 10 n → c.toNat < 0x80 :=
      fun h => ascii_toDigits (by decide) (by decide) c h
    simp only [List.mem_append, List.mem_cons] at hc
    rcases hc with hc | rfl | hc | rfl | hc | rfl | hc
    · exact hdigits hc
    · decide
    · exact hdigits hc
    · decide
    · exact hdigits hc
    · decide
    · exact hdigits hc
  | ipv6 pieces => exact ascii_ipv6 pieces

theorem ascii_parseFreeHost {cs : List Char} {h : Host} (hparse : parseFreeHost cs = .ok (some h)) :
    Ascii h.text.toList := by
  unfold parseFreeHost at hparse
  split at hparse
  · rename_i rest
    unfold parseBracketed at hparse
    split_ifs at hparse
    · cases hpieces : parseIpv6 rest.dropLast with
      | error e =>
        rw [hpieces] at hparse
        cases hparse
      | ok pieces =>
        rw [hpieces] at hparse
        obtain rfl := Option.some.inj (Except.ok.inj hparse)
        exact ascii_ipv6 pieces
    · cases hparse
  · cases hparse
  · split_ifs at hparse
    obtain rfl := Option.some.inj (Except.ok.inj hparse)
    exact ascii_escaped (fun c hc => hc) cs

/-- The text of an authority is ASCII if its parts are. -/
theorem ascii_authority {a : Authority} (user : Ascii a.username.toList)
    (pass : Ascii a.password.toList) (host : ∀ h ∈ a.host, Ascii h.text.toList) :
    Ascii a.text.toList := by
  have hport : Ascii (Authority.portText a.port) := by
    cases a.port with
    | none => exact ascii_nil
    | some p =>
      refine .cons (by decide) ?_
      rw [toList_decimalText]
      exact ascii_toDigits (by decide) (by decide)
  have hhost : Ascii ((a.host.map Host.text).getD "").toList := by
    cases hcase : a.host with
    | none => simpa using ascii_nil
    | some h => exact host h hcase
  rw [Authority.toList_text]
  refine .append ?_ (.append hhost hport)
  split_ifs
  · exact ascii_nil
  · refine .append (.append user ?_) (.cons (by decide) ascii_nil)
    split_ifs
    · exact ascii_nil
    · exact .cons (by decide) pass

def AsciiPath : UrlPath → Prop
  | .rootless text => Ascii text.toList
  | .rooted segments => ∀ s ∈ segments, Ascii s.toList

/-- Whether a URL is ASCII, and has a written authority behind a special scheme. -/
structure Plain (u : Url) : Prop where
  scheme : Ascii u.scheme.toList
  authority : ∀ a ∈ u.authority, Ascii a.text.toList
  path : AsciiPath u.path
  query : ∀ q ∈ u.query, Ascii q.toList
  fragment : ∀ f ∈ u.fragment, Ascii f.toList
  written : schemeKind u.scheme = .special →
    ∃ a, u.authority = some a ∧ a.Written u.scheme

theorem ascii_markedText {mark : Char} {text : Option String} (hmark : mark.toNat < 0x80)
    (h : ∀ t ∈ text, Ascii t.toList) : Ascii (markedText mark text) := by
  cases text with
  | none => exact ascii_nil
  | some t => exact .cons hmark (h t rfl)

theorem AsciiPath.text {path : UrlPath} (h : AsciiPath path) : Ascii path.text.toList := by
  cases path with
  | rootless text => exact h
  | rooted segments =>
    rw [UrlPath.toList_text_rooted]
    intro c hc
    obtain ⟨s, hs, hc⟩ := List.mem_flatMap.mp hc
    exact Ascii.cons (by decide) (h s hs) c hc

/-- The text of a plain URL is ASCII. -/
theorem Plain.text {u : Url} (plain : u.Plain) : Ascii u.text.toList := by
  have hpath : Ascii u.guardedPath.toList := by
    unfold guardedPath
    split
    · rw [String.toList_append]
      exact .append (by decide) plain.path.text
    · exact plain.path.text
  have hbody : Ascii u.bodyText := by
    unfold bodyText
    split
    · rename_i a ha
      exact .cons (by decide) (.cons (by decide) (.append (plain.authority a ha) hpath))
    · exact hpath
  rw [toList_text]
  refine .append plain.scheme (.cons (by decide) (.append hbody (.append ?_ ?_)))
  · exact ascii_markedText (by decide) plain.query
  · exact ascii_markedText (by decide) plain.fragment

section Reading

theorem ascii_of_isSchemeChar {c : Char} (h : isSchemeChar c = true) : c.toNat < 0x80 := by
  have hle : ∀ {d : Char}, c ≤ d → d.toNat < 0x80 → c.toNat < 0x80 :=
    fun hcd hd => Nat.lt_of_le_of_lt hcd hd
  simp only [isSchemeChar, isLetter, Char.isDigit, Bool.or_eq_true, Bool.and_eq_true,
    decide_eq_true_eq, beq_iff_eq] at h
  rcases h with ((((⟨-, h⟩ | ⟨-, h⟩) | ⟨-, h⟩) | rfl) | rfl) | rfl
  · exact hle h (by decide)
  · exact hle h (by decide)
  · exact hle h (by decide)
  · decide
  · decide
  · decide

theorem ascii_readScheme {cs rest : List Char} {scheme : String}
    (h : readScheme cs = some (scheme, rest)) : Ascii scheme.toList := by
  unfold readScheme at h
  split at h
  · split_ifs at h
    split at h
    · obtain ⟨rfl, -⟩ := Prod.mk.inj (Option.some.inj h)
      rw [String.toList_ofList]
      intro c hc
      obtain ⟨d, hd, rfl⟩ := List.mem_map.mp hc
      have hlower : ∀ n < 0x80, (lowerAscii (Char.ofNat n)).toNat < 0x80 := by decide
      have hd' := ascii_of_isSchemeChar (List.mem_takeWhile_imp hd)
      simpa [Char.ofNat_toNat] using hlower d.toNat hd'
    · cases h
  · cases h

theorem ascii_driveSegment {segment : String} (h : Ascii segment.toList) :
    Ascii (match segment.toList with
      | a :: _ => String.ofList [a, ':']
      | [] => segment).toList := by
  split
  · rename_i a rest heq
    rw [String.toList_ofList]
    exact .cons (h a (heq ▸ List.mem_cons_self)) (.cons (by decide) ascii_nil)
  · exact h

/-- Segments that are read are ASCII if the directories are. -/
theorem ascii_readPath (kind : SchemeKind) (fuel : Nat) {dirs : List String} (keeps : Bool)
    (cs : List Char) (hdirs : ∀ s ∈ dirs, Ascii s.toList) :
    ∀ s ∈ (readPath kind fuel dirs keeps cs).segments, Ascii s.toList := by
  induction fuel generalizing dirs keeps cs with
  | zero => exact fun s hs => hdirs s (List.mem_reverse.mp hs)
  | succ fuel ih =>
    have hout : ∀ s ∈ stepOut dirs, Ascii s.toList := fun s hs => hdirs s (stepOut_subset dirs hs)
    have hcons : ∀ {dirs : List String} {s : String}, Ascii s.toList →
        (∀ s ∈ dirs, Ascii s.toList) → ∀ t ∈ s :: dirs, Ascii t.toList :=
      fun hs hdirs => List.forall_mem_cons.mpr ⟨hs, hdirs⟩
    have hlast : ∀ {dirs : List String} {s : String}, Ascii s.toList →
        (∀ s ∈ dirs, Ascii s.toList) → ∀ t ∈ (s :: dirs).reverse, Ascii t.toList :=
      fun hs hdirs t ht => hcons hs hdirs t (List.mem_reverse.mp ht)
    have hempty : Ascii "".toList := by simp [Ascii]
    have hsegment := ascii_escaped covers_inPath (readSegment kind cs).1
    unfold readPath
    dsimp only
    generalize String.ofList (percentEncode inPath (readSegment kind cs).1) = segment at hsegment
    have hdrive := ascii_driveSegment hsegment
    split_ifs
    · exact ih _ _ hout
    · exact hlast hempty hout
    · exact ih _ _ hdirs
    · exact hlast hempty hdirs
    · exact ih _ _ (hcons hdrive hdirs)
    · exact ih _ _ (hcons hsegment hdirs)
    · exact hlast hdrive hdirs
    · exact hlast hsegment hdirs

theorem ascii_pathFrom (kind : SchemeKind) {dirs : List String} (keeps : Bool) (cs : List Char)
    (hdirs : ∀ s ∈ dirs, Ascii s.toList) :
    ∀ s ∈ (pathFrom kind dirs keeps cs).segments, Ascii s.toList := by
  have hread := ascii_readPath kind (cs.length + 1) keeps cs hdirs
  unfold pathFrom
  dsimp only
  split_ifs
  · have hsuffix := (dropEmptyFront_suffix (readPath kind (cs.length + 1) dirs keeps cs).segments).1
    exact fun s hs => hread s (hsuffix.subset hs)
  · exact hread

theorem ascii_pathAfterAuthority (kind : SchemeKind) (keeps : Bool) (cs : List Char) :
    ∀ s ∈ (pathAfterAuthority kind keeps cs).segments, Ascii s.toList := by
  have hnew : ∀ cs, ∀ s ∈ (pathFrom kind [] keeps cs).segments, Ascii s.toList :=
    fun cs => ascii_pathFrom kind keeps cs (by simp)
  unfold pathAfterAuthority
  split
  · split_ifs
    · exact hnew _
    · simp
  · split_ifs
    · exact hnew _
    · exact hnew _
    · simp
    · exact hnew _

theorem ascii_fragment (cs : List Char) : ∀ f ∈ (match cs with
    | '#' :: f => some (String.ofList (percentEncode inFragment f))
    | _ => none : Option String), Ascii f.toList := by
  intro f hf
  split at hf
  · obtain rfl := Option.some.inj hf
    exact ascii_escaped covers_inFragment _
  · cases hf

theorem ascii_readTail (kind : SchemeKind) (cs : List Char) :
    (∀ q ∈ (readTail kind cs).1, Ascii q.toList) ∧ ∀ f ∈ (readTail kind cs).2, Ascii f.toList := by
  have hset : Covers (if kind.isSpecial then inSpecialQuery else inQuery) := by
    split_ifs
    · exact covers_inSpecialQuery
    · exact covers_inQuery
  unfold readTail
  dsimp only
  split
  · refine ⟨fun q hq => ?_, ascii_fragment _⟩
    obtain rfl := Option.some.inj hq
    exact ascii_escaped hset _
  · exact ⟨by simp, ascii_fragment _⟩

theorem ascii_readUserinfo {kind : SchemeKind} {cs rest : List Char} {user pass : String}
    (h : readUserinfo kind cs = .ok (user, pass, rest)) :
    Ascii user.toList ∧ Ascii pass.toList := by
  obtain ⟨huser, hpass⟩ := readUserinfo_written h
  have hascii : ∀ {c : Char}, inUserinfo c = false → c.toNat < 0x80 := by
    intro c hc
    by_contra hbeyond
    have hcontrol : controls c = true := by
      have hle : 0x7f ≤ c.toNat := by omega
      simp [controls, hle]
    rw [covers_inUserinfo c hcontrol] at hc
    cases hc
  exact ⟨fun c hc => hascii (huser c hc), fun c hc => hascii (hpass c hc)⟩

/-- A URL with an authority is plain. -/
theorem plain_readAuthority {scheme : String} {cs : List Char} {u : Url}
    (hscheme : Ascii scheme.toList) (h : readAuthority scheme cs = .ok u) : u.Plain := by
  have hread := h
  obtain ⟨⟨user, pass, rest⟩, hinfo, h⟩ := of_bind h
  obtain ⟨huser, hpass⟩ := ascii_readUserinfo hinfo
  dsimp only at h
  generalize readHostText (schemeKind scheme) false rest = hostRead at h
  obtain ⟨hostText, rest⟩ := hostRead
  obtain ⟨-, h⟩ := of_guard h
  obtain ⟨host, hhost, h⟩ := of_branch h
  obtain ⟨-, h⟩ := of_guard h
  obtain ⟨⟨port, rest'⟩, -, h⟩ := of_branch h
  obtain ⟨-, h⟩ := of_guard h
  obtain rfl := Except.ok.inj h
  have hhost : ∀ x ∈ host, Ascii x.text.toList := by
    intro x hx
    obtain rfl : host = some x := hx
    split_ifs at hhost
    · cases hparse : parseHost hostText with
      | error e =>
        rw [hparse] at hhost
        cases hhost
      | ok y =>
        rw [hparse] at hhost
        obtain rfl := Option.some.inj (Except.ok.inj hhost)
        exact ascii_parseHost hparse
    · exact ascii_parseFreeHost hhost
  obtain ⟨hquery, hfragment⟩ := ascii_readTail (schemeKind scheme)
    (pathAfterAuthority (schemeKind scheme) true rest').rest
  refine ⟨hscheme, fun a ha => ?_, ascii_pathAfterAuthority _ _ _, hquery, hfragment, ?_⟩
  · obtain rfl := Option.some.inj ha
    exact ascii_authority huser hpass hhost
  · intro special
    obtain ⟨a, rest, hwritten, hu⟩ := readAuthority_written special hread
    exact ⟨a, congrArg Url.authority hu, hwritten⟩

theorem plain_fileUrl {host : Option Host} {read : PathRead}
    (hhost : ∀ x ∈ host, Ascii x.text.toList)
    (hread : ∀ s ∈ read.segments, Ascii s.toList) : (fileUrl host read).Plain := by
  obtain ⟨hquery, hfragment⟩ := ascii_readTail .file read.rest
  refine ⟨(by decide : Ascii "file".toList), fun a ha => ?_, hread, hquery, hfragment, ?_⟩
  · obtain rfl := Option.some.inj ha
    have hempty : Ascii "".toList := by decide
    exact ascii_authority hempty hempty hhost
  · exact fun special => nomatch special

theorem plain_readFileHost {cs : List Char} {u : Url} (h : readFileHost cs = .ok u) : u.Plain := by
  have hlocal : ∀ cs, (fileUrl none (pathFrom .file [] false cs)).Plain :=
    fun cs => plain_fileUrl (by simp) (ascii_pathFrom _ _ _ (by simp))
  unfold readFileHost at h
  dsimp only at h
  split at h
  · obtain rfl := Except.ok.inj h
    exact hlocal _
  split at h
  · obtain rfl := Except.ok.inj h
    exact hlocal _
  · obtain ⟨host, hhost, h⟩ := of_bind h
    split at h
    · obtain rfl := Except.ok.inj h
      exact hlocal _
    · obtain rfl := Except.ok.inj h
      refine plain_fileUrl ?_ (ascii_pathAfterAuthority _ _ _)
      intro x hx
      split_ifs at hx
      · obtain rfl := Option.some.inj hx
        exact ascii_parseHost hhost
      · cases hx

theorem Plain.segments {u : Url} (plain : u.Plain) : ∀ s ∈ u.segments, Ascii s.toList := by
  have hpath := plain.path
  unfold Url.segments
  split
  · rename_i segments heq
    rw [heq] at hpath
    exact hpath
  · simp

theorem Plain.baseDirs {u : Url} (plain : u.Plain) (kind : SchemeKind) :
    ∀ s ∈ baseDirs kind u, Ascii s.toList := by
  have hall : ∀ s ∈ u.segments.reverse, Ascii s.toList :=
    fun s hs => plain.segments s (List.mem_reverse.mp hs)
  unfold Url.baseDirs
  split
  · simp
  · rename_i last dirs heq
    rw [heq] at hall
    split_ifs
    · exact hall
    · exact fun s hs => hall s (List.mem_cons_of_mem _ hs)

theorem Plain.withPath {u : Url} (plain : u.Plain) (kind : SchemeKind) {dirs : List String}
    (keeps : Bool) (cs : List Char) (hdirs : ∀ s ∈ dirs, Ascii s.toList) :
    (u.withPath kind (pathFrom kind dirs keeps cs)).Plain := by
  obtain ⟨hquery, hfragment⟩ := ascii_readTail kind (pathFrom kind dirs keeps cs).rest
  exact ⟨plain.scheme, plain.authority, ascii_pathFrom kind keeps cs hdirs, hquery, hfragment,
    plain.written⟩

theorem Plain.withTail {u : Url} (plain : u.Plain) (kind : SchemeKind) (cs : List Char) :
    (u.withTail kind cs).Plain := by
  obtain ⟨hquery, hfragment⟩ := ascii_readTail kind cs
  unfold Url.withTail
  split
  · exact ⟨plain.scheme, plain.authority, plain.path, hquery, hfragment, plain.written⟩
  · exact ⟨plain.scheme, plain.authority, plain.path, plain.query, hfragment, plain.written⟩
  · exact ⟨plain.scheme, plain.authority, plain.path, plain.query, by simp [withoutFragment],
      plain.written⟩

theorem Plain.withoutFragment {u : Url} (plain : u.Plain) : u.withoutFragment.Plain :=
  ⟨plain.scheme, plain.authority, plain.path, plain.query, by simp [Url.withoutFragment],
    plain.written⟩

theorem Plain.host {u : Url} (plain : u.Plain) : ∀ x ∈ u.host?, Ascii x.text.toList := by
  intro x hx
  obtain ⟨a, ha, hx⟩ := Option.bind_eq_some_iff.mp hx
  refine (plain.authority a ha).of_subset fun c hc => ?_
  rw [Authority.toList_text, Authority.hostPort, hx]
  exact List.mem_append_right _ (List.mem_append_left _ hc)

/-- A file URL that is read from a path is plain, if the base is. -/
theorem plain_readFilePath {base : Option Url} {cs : List Char} {u : Url}
    (hbase : ∀ b ∈ base, b.Plain) (h : readFile.readFilePath base cs = .ok u) : u.Plain := by
  have hnew : ∀ {host : Option Host} {dirs : List String} (keeps : Bool) (cs : List Char),
      (∀ x ∈ host, Ascii x.text.toList) → (∀ s ∈ dirs, Ascii s.toList) →
      (fileUrl host (pathFrom .file dirs keeps cs)).Plain :=
    fun keeps cs hhost hdirs => plain_fileUrl hhost (ascii_pathFrom _ _ _ hdirs)
  unfold readFile.readFilePath at h
  split at h
  · rename_i c rest
    by_cases hslash : isSlash c = true
    · rw [if_pos hslash] at h
      obtain rfl := Except.ok.inj h
      cases base with
      | none => exact hnew _ _ (by simp) (by simp)
      | some b =>
        have hb := hbase b rfl
        have hsegments := hb.segments
        dsimp only
        split
        · exact hnew _ _ (by simp) (by simp)
        · split
          · rename_i first more heq
            split_ifs
            · refine hnew _ _ (by simp) fun s hs => ?_
              rw [List.mem_singleton.mp hs]
              exact hsegments first (heq ▸ List.mem_cons_self)
            · exact hnew _ _ hb.host (by simp)
          · exact hnew _ _ hb.host (by simp)
    · rw [if_neg hslash] at h
      cases base with
      | none =>
        obtain rfl := Except.ok.inj h
        exact hnew _ _ (by simp) (by simp)
      | some b =>
        have hb := hbase b rfl
        dsimp only at h
        split_ifs at h
        · obtain rfl := Except.ok.inj h
          exact hb.withTail _ _
        · obtain rfl := Except.ok.inj h
          exact hnew _ _ (by simp) (by simp)
        · obtain rfl := Except.ok.inj h
          exact hb.withPath _ _ _ (hb.baseDirs _)
  · rename_i b
    obtain rfl := Except.ok.inj h
    exact (hbase b rfl).withoutFragment
  · obtain rfl := Except.ok.inj h
    exact hnew _ _ (by simp) (by simp)

theorem plain_readFile {base : Option Url} {cs : List Char} {u : Url}
    (hbase : ∀ b ∈ base, b.Plain) (h : readFile base cs = .ok u) : u.Plain := by
  unfold readFile at h
  split at h
  · split_ifs at h
    · exact plain_readFileHost h
    · exact plain_readFilePath hbase h
  · exact plain_readFilePath hbase h

/-- A link relative to a plain base is plain. -/
theorem plain_readRelative {base : Url} {cs : List Char} {u : Url} (hbase : base.Plain)
    (h : readRelative base cs = .ok u) : u.Plain := by
  have hroot : ∀ rest, (base.withPath (schemeKind base.scheme)
      (pathFrom (schemeKind base.scheme) [] true rest)).Plain :=
    fun rest => hbase.withPath _ _ _ (by simp)
  unfold readRelative at h
  dsimp only at h
  split at h
  · obtain rfl := Except.ok.inj h
    exact hbase.withoutFragment
  · obtain rfl := Except.ok.inj h
    exact hbase.withTail _ _
  · obtain rfl := Except.ok.inj h
    exact hbase.withTail _ _
  · exact plain_readAuthority hbase.scheme h
  · split_ifs at h
    · split at h
      · split_ifs at h
        · exact plain_readAuthority hbase.scheme h
        · obtain rfl := Except.ok.inj h
          exact hroot _
      · obtain rfl := Except.ok.inj h
        exact hroot _
    · obtain rfl := Except.ok.inj h
      exact hbase.withPath _ _ _ (hbase.baseDirs _)

theorem plain_readOther {scheme : String} {cs : List Char} {u : Url} (hscheme : Ascii scheme.toList)
    (hkind : schemeKind scheme = .other) (h : readOther scheme cs = .ok u) : u.Plain := by
  have hother : ¬schemeKind scheme = .special := by simp [hkind]
  unfold readOther at h
  split at h
  · exact plain_readAuthority hscheme h
  · obtain rfl := Except.ok.inj h
    obtain ⟨hquery, hfragment⟩ := ascii_readTail .other (pathFrom .other [] false ‹_›).rest
    exact ⟨hscheme, by simp, ascii_pathFrom _ _ _ (by simp), hquery, hfragment,
      fun special => absurd special hother⟩
  · obtain rfl := Except.ok.inj h
    obtain ⟨hquery, hfragment⟩ := ascii_readTail .other
      (cs.drop (cs.takeWhile fun c => c != '?' && c != '#').length)
    exact ⟨hscheme, by simp, ascii_escaped (fun c hc => hc) _, hquery, hfragment,
      fun special => absurd special hother⟩

/-- What is read against a plain base, or none, is plain. -/
theorem plain_read {base : Option Url} {cs : List Char} {u : Url} (hbase : ∀ b ∈ base, b.Plain)
    (h : read base cs = .ok u) : u.Plain := by
  unfold read at h
  dsimp only at h
  split at h
  · rename_i scheme rest hread
    have hscheme := ascii_readScheme hread
    split at h
    · refine plain_readFile (fun b hb => ?_) h
      exact hbase b (Option.filter_eq_some_iff.mp hb).1
    · split at h
      · rename_i b
        split_ifs at h
        · exact plain_readRelative (hbase b rfl) h
        · exact plain_readAuthority hscheme h
      · exact plain_readAuthority hscheme h
    · rename_i hkind
      exact plain_readOther hscheme hkind h
  · split at h
    · cases h
    · rename_i b
      have hb := hbase b rfl
      split_ifs at h
      · obtain rfl := Except.ok.inj h
        exact hb.withTail _ _
      · exact plain_readFile (fun c hc => Option.some.inj hc ▸ hb) h
      · exact plain_readRelative hb h

theorem Parsed.plain {u : Url} (h : u.Parsed) : u.Plain := by
  induction h with
  | own h => exact plain_read (by simp) h
  | link _ h ih => exact plain_read (fun b hb => Option.some.inj hb ▸ ih) h

end Reading

end Url

end SiteSpiders
