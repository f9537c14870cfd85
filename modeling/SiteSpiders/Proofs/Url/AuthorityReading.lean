import SiteSpiders.Proofs.Url.HostReading

/-!
# Authorities are read as they are written

The authority of a special URL ends at the first slash, backslash, question mark or number sign.
What stands behind that is read on its own, and an authority that was read is read again from its
own text.
-/
namespace SiteSpiders.Url

/-- Whether no character of a text ends an authority. -/
def Bare (cs : List Char) : Prop := ∀ c ∈ cs, endsAuthority .special c = false

/-- Whether the authority in front of a text ends there. -/
def Closes (cs : List Char) : Prop := ∀ c ∈ cs.head?, endsAuthority .special c = true

/-- A scheme and an authority, with nothing behind them. -/
def site (scheme : String) (a : Authority) : Url :=
  { scheme, authority := some a, path := .rooted [""] }

/-- A URL with its path, query and fragment read from a text that stands behind its authority. -/
def behind (u : Url) (cs : List Char) : Url :=
  let read := pathAfterAuthority .special true cs
  let (query, fragment) := readTail .special read.rest
  { u with path := .rooted read.segments, query, fragment }

theorem behind_nil (scheme : String) (a : Authority) :
    (site scheme a).behind [] = site scheme a := by
  have hpath : (pathAfterAuthority .special true []).segments = [""] ∧
      readTail .special (pathAfterAuthority .special true []).rest = (none, none) := by
    decide +kernel
  simp only [behind, hpath]
  rfl

section Parts

variable {scheme : String} {front back cs : List Char}

/-- The port behind the text of a host, and what follows it. -/
def readPortBehind (scheme : String) (cs : List Char) : Except UrlError (Option Nat × List Char) :=
  if cs.head? == some ':' then readPort (defaultPort scheme) (cs.drop 1) else .ok (none, cs)

lemma ok_bind {α β : Type} (a : α) (f : α → Except UrlError β) :
    ((Except.ok a : Except UrlError α) >>= f) = f a := rfl

/-- The steps in which the text behind a special scheme is read. -/
theorem readAuthority_eq (special : schemeKind scheme = .special) (cs : List Char) :
    readAuthority scheme cs =
      (readUserinfo .special cs).bind fun (user, pass, rest) =>
        if (readHostText .special false rest).1.isEmpty then .error .emptyHost
        else (parseHost (readHostText .special false rest).1).bind fun host =>
          (readPortBehind scheme (readHostText .special false rest).2).bind fun (port, rest) =>
            .ok ((site scheme ⟨user, pass, some host, port⟩).behind rest) := by
  unfold readAuthority readPortBehind
  simp only [special]
  cases readUserinfo .special cs with
  | error e => rfl
  | ok info =>
    obtain ⟨user, pass, rest⟩ := info
    simp only [ok_bind, Except.bind]
    generalize readHostText .special false rest = hostRead
    obtain ⟨hostText, rest⟩ := hostRead
    cases hempty : hostText.isEmpty with
    | true =>
      simp only [and_self, if_true]
      rfl
    | false =>
      simp only [Bool.false_eq_true, and_false, if_false, if_true]
      cases parseHost hostText with
      | error e => rfl
      | ok host =>
        simp only [Except.map, ok_bind, Option.isNone_some, Bool.false_eq_true, false_and, if_false]
        cases hport : rest.head? == some ':' with
        | false =>
          simp only [Bool.false_eq_true, if_false]
          rfl
        | true =>
          simp only [if_true]
          cases readPort (defaultPort scheme) (rest.drop 1) with
          | error e => rfl
          | ok read => rfl

lemma bare_nil : Bare [] := by simp [Bare]

lemma closes_nil : Closes [] := by simp [Closes]

lemma Bare.of_subset {cs ds : List Char} (h : Bare ds) (sub : cs ⊆ ds) : Bare cs :=
  fun c hc => h c (sub hc)

theorem takeWhile_span (bare : Bare front) (closes : Closes back) :
    (front ++ back).takeWhile (fun c => !endsAuthority .special c) = front := by
  rw [List.takeWhile_append_of_pos fun c hc => by simp [bare c hc]]
  cases back with
  | nil => simp
  | cons c back => simp [closes c rfl]

theorem readUserinfo_bare (bare : Bare front) (closes : Closes back) (unnamed : '@' ∉ front) :
    readUserinfo .special (front ++ back) = .ok ("", "", front ++ back) := by
  have hhost : (front.reverse.takeWhile (· != '@')).reverse = front := by
    rw [List.takeWhile_eq_self_iff.mpr, List.reverse_reverse]
    intro c hc
    have hne : c ≠ '@' := fun he => unnamed (he ▸ List.mem_reverse.mp hc)
    simpa using hne
  unfold readUserinfo
  dsimp only
  rw [takeWhile_span bare closes, hhost, if_pos rfl]

/-- A user name or a password as it is written. -/
def encodedInfo (part : List Char) : String := String.ofList (percentEncode inUserinfo part)

/-- User name and password stand in front of the last `@`. -/
theorem readUserinfo_named {info host : List Char} (bare : Bare (info ++ '@' :: host))
    (closes : Closes back) (last : '@' ∉ host) (some_ : info ≠ [] ∨ host ≠ []) :
    readUserinfo .special ((info ++ '@' :: host) ++ back) =
      .ok (encodedInfo (info.takeWhile (· != ':')),
        encodedInfo ((info.dropWhile (· != ':')).drop 1), host ++ back) := by
  have hclear : ∀ c ∈ host.reverse, (c != '@') = true := by
    intro c hc
    have hne : c ≠ '@' := fun he => last (he ▸ List.mem_reverse.mp hc)
    simpa using hne
  have hhost : ((info ++ '@' :: host).reverse.takeWhile (· != '@')).reverse = host := by
    rw [List.reverse_append, List.reverse_cons, List.append_assoc,
      List.takeWhile_append_of_pos hclear]
    simp
  have hlength : ¬host.length = (info ++ '@' :: host).length := by
    simp only [List.length_append, List.length_cons]
    omega
  have hinfo : (info ++ '@' :: host).take
      ((info ++ '@' :: host).length - host.length - 1) = info := by
    refine List.take_left' ?_
    simp only [List.length_append, List.length_cons]
    omega
  unfold readUserinfo
  dsimp only
  rw [takeWhile_span bare closes, hhost, if_neg hlength, hinfo, List.drop_left]
  cases info with
  | nil =>
    cases host with
    | nil => simp at some_
    | cons c host => rfl
  | cons c info => rfl

/-- User name and password are found in the authority alone. -/
theorem readUserinfo_append (bare : Bare front) (named : front ≠ ['@']) :
    ∃ user pass rest, Bare rest ∧ ∀ back, Closes back →
      readUserinfo .special (front ++ back) = .ok (user, pass, rest ++ back) := by
  by_cases hat : '@' ∈ front
  · obtain ⟨host, info, hfront, hlast⟩ :=
      List.eq_append_cons_of_mem (List.mem_reverse.mpr hat)
    obtain rfl : front = info.reverse ++ '@' :: host.reverse := by
      have hreverse := congrArg List.reverse hfront
      simpa using hreverse
    have hsub : host.reverse ⊆ info.reverse ++ '@' :: host.reverse := by simp
    have hsome : info.reverse ≠ [] ∨ host.reverse ≠ [] := by
      by_contra hnone
      simp only [not_or, Classical.not_not] at hnone
      exact named (by rw [hnone.1, hnone.2]; rfl)
    have hlast' : '@' ∉ host.reverse := fun hmem => hlast (List.mem_reverse.mp hmem)
    exact ⟨_, _, host.reverse, bare.of_subset hsub, fun back closes =>
      readUserinfo_named bare closes hlast' hsome⟩
  · exact ⟨"", "", front, bare, fun back closes => readUserinfo_bare bare closes hat⟩

/-- The text of the host ends with the authority. -/
theorem readHostText_append (bare : Bare front) (closes : Closes back) (inside : Bool) :
    readHostText .special inside (front ++ back) =
      ((readHostText .special inside front).1, (readHostText .special inside front).2 ++ back) := by
  induction front generalizing inside with
  | nil =>
    cases back with
    | nil => rfl
    | cons c back => simp [readHostText, closes c rfl]
  | cons c front ih =>
    have hrest := ih fun d hd => bare d (by simp [hd])
    rw [List.cons_append, readHostText, readHostText]
    by_cases hends : (c = ':' ∧ !inside) ∨ endsAuthority .special c
    · rw [if_pos hends, if_pos hends]
      rfl
    · rw [if_neg hends, if_neg hends]
      simp only [hrest]

/-- Behind the text of the host a port or nothing follows. -/
theorem readHostText_rest (bare : Bare front) (inside : Bool) :
    (readHostText .special inside front).2 = [] ∨
      ∃ more, Bare more ∧ (readHostText .special inside front).2 = ':' :: more := by
  induction front generalizing inside with
  | nil => exact .inl rfl
  | cons c front ih =>
    have hfront : Bare front := fun d hd => bare d (by simp [hd])
    rw [readHostText]
    by_cases hends : (c = ':' ∧ !inside) ∨ endsAuthority .special c
    · rw [if_pos hends]
      rcases hends with ⟨rfl, -⟩ | hends
      · exact .inr ⟨front, hfront, rfl⟩
      · rw [bare c (by simp)] at hends
        cases hends
    · rw [if_neg hends]
      exact ih hfront _

theorem endsAuthority_eq (c : Char) :
    endsAuthority .special c = (isSlash c || c == '?' || c == '#') := by
  simp only [endsAuthority, isSlash, SchemeKind.isSpecial]
  cases c == '/' <;> cases c == '\\' <;> simp

/-- The value of the digits of a port. -/
def portValue (digits : List Char) : Nat := digits.foldl (fun n c => n * 10 + (c.toNat - 48)) 0

theorem isDigit_of_endsAuthority {c : Char} (h : endsAuthority .special c = true) :
    c.isDigit = false := by
  simp only [endsAuthority, Bool.or_eq_true, Bool.and_eq_true, beq_iff_eq] at h
  rcases h with ((rfl | rfl) | rfl) | ⟨rfl, -⟩ <;> decide

theorem takeWhile_of_closes {p : Char → Bool} (closes : Closes back)
    (clear : ∀ c, endsAuthority .special c = true → p c = false) : back.takeWhile p = [] := by
  cases back with
  | nil => rfl
  | cons c back => rw [List.takeWhile_cons, if_neg (by simp [clear c (closes c rfl)])]

/-- Digits up to the end of the authority are a port. -/
theorem readPort_digits (default? : Option Nat) (digits : ∀ c ∈ front, c.isDigit = true)
    (closes : Closes back) :
    readPort default? (front ++ back) =
      if 65535 < portValue front then .error .invalidPort
      else .ok (if front.isEmpty ∨ default? = some (portValue front) then none
        else some (portValue front), back) := by
  have hdigits : (front ++ back).takeWhile Char.isDigit = front := by
    rw [List.takeWhile_append_of_pos digits,
      takeWhile_of_closes closes fun c => isDigit_of_endsAuthority, List.append_nil]
  unfold readPort portValue
  dsimp only
  rw [hdigits, List.drop_left]
  cases back with
  | nil =>
    simp only [Bool.not_true, Bool.false_eq_true, or_false]
    split_ifs <;> rfl
  | cons c back =>
    have hended := (endsAuthority_eq c).symm.trans (closes c rfl)
    simp only [hended, Bool.not_true, Bool.false_eq_true, or_false]
    split_ifs <;> rfl

theorem drop_length_takeWhile (p : Char → Bool) (cs : List Char) :
    cs.drop (cs.takeWhile p).length = cs.dropWhile p := by
  induction cs with
  | nil => rfl
  | cons c cs ih => by_cases hc : p c <;> simp [hc, ih]

/-- A port is found in the authority alone. -/
theorem readPort_append (default? : Option Nat) (bare : Bare front) :
    ∃ port : Except UrlError (Option Nat), ∀ back, Closes back →
      readPort default? (front ++ back) = port.map fun p => (p, back) := by
  by_cases hdigits : ∀ c ∈ front, c.isDigit = true
  · refine ⟨if 65535 < portValue front then .error .invalidPort
      else .ok (if front.isEmpty ∨ default? = some (portValue front) then none
        else some (portValue front)), fun back closes => ?_⟩
    rw [readPort_digits default? hdigits closes]
    split_ifs <;> rfl
  · refine ⟨.error .invalidPort, fun back _ => ?_⟩
    have hrest : front.dropWhile Char.isDigit ≠ [] := by
      rwa [ne_eq, List.dropWhile_eq_nil_iff]
    have hdrop : (front ++ back).drop ((front ++ back).takeWhile Char.isDigit).length =
        front.dropWhile Char.isDigit ++ back := by
      rw [drop_length_takeWhile, List.dropWhile_append, if_neg (by simpa using hrest)]
    unfold readPort
    dsimp only
    rw [hdrop]
    cases hmore : front.dropWhile Char.isDigit with
    | nil => exact absurd hmore hrest
    | cons c more =>
      have hc := bare c ((List.dropWhile_sublist _).subset (hmore ▸ List.mem_cons_self))
      rw [endsAuthority_eq] at hc
      simp only [List.cons_append, hc, Bool.not_false, or_true, if_true]
      rfl

/-- What follows the text of a host is found in the authority alone. -/
theorem readPortBehind_append {more : List Char} (bare : Bare more) (scheme : String)
    (shape : cs = [] ∨ cs = ':' :: more) :
    ∃ port : Except UrlError (Option Nat), ∀ back, Closes back →
      readPortBehind scheme (cs ++ back) = port.map fun p => (p, back) := by
  rcases shape with rfl | rfl
  · refine ⟨.ok none, fun back closes => ?_⟩
    have hcolon : (back.head? == some ':') = false := by
      cases back with
      | nil => rfl
      | cons c back =>
        have hc : c ≠ ':' := by
          rintro rfl
          exact nomatch closes ':' rfl
        simpa using hc
    rw [List.nil_append, readPortBehind, hcolon]
    rfl
  · obtain ⟨port, hport⟩ := readPort_append (defaultPort scheme) bare
    exact ⟨port, fun back closes => hport back closes⟩

/-- An authority is found in the text up to its end. What stands behind is read on its own. -/
theorem readAuthority_append (special : schemeKind scheme = .special) (bare : Bare front) :
    ∃ authority : Except UrlError Authority, ∀ back, Closes back →
      readAuthority scheme (front ++ back) =
        authority.map fun a => (site scheme a).behind back := by
  by_cases hnamed : front = ['@']
  · subst hnamed
    refine ⟨.error .emptyHost, fun back closes => ?_⟩
    rw [readAuthority_eq special]
    cases back with
    | nil => rfl
    | cons c back =>
      have hinfo : readUserinfo .special (['@'] ++ c :: back) = .error .emptyHost := by
        unfold readUserinfo
        dsimp only
        rw [takeWhile_span bare closes]
        rfl
      rw [hinfo]
      rfl
  obtain ⟨user, pass, rest, hrest, hinfo⟩ := readUserinfo_append bare hnamed
  have hhost := fun back (closes : Closes back) => readHostText_append hrest closes false
  have hshape := readHostText_rest hrest false
  generalize readHostText .special false rest = hostRead at hhost hshape
  obtain ⟨hostText, portText⟩ := hostRead
  obtain ⟨more, hmore, hshape⟩ : ∃ more, Bare more ∧ (portText = [] ∨ portText = ':' :: more) := by
    rcases hshape with hnil | ⟨more, hmore, heq⟩
    · exact ⟨[], by simp [Bare], .inl hnil⟩
    · exact ⟨more, hmore, .inr heq⟩
  obtain ⟨port, hport⟩ := readPortBehind_append hmore scheme hshape
  refine ⟨if hostText.isEmpty then .error .emptyHost
    else (parseHost hostText).bind fun host => port.map fun p => ⟨user, pass, some host, p⟩,
    fun back closes => ?_⟩
  rw [readAuthority_eq special, hinfo back closes]
  simp only [Except.bind, hhost back closes, hport back closes]
  cases hostText.isEmpty with
  | true => rfl
  | false =>
    cases parseHost hostText with
    | error e => rfl
    | ok host =>
      cases port with
      | error e => rfl
      | ok p => rfl

end Parts

end SiteSpiders.Url

namespace SiteSpiders.Authority

/-- Whether an authority is as it is read for a scheme: user name and password are escaped, the
host was read, and the port is not the one the scheme has anyway. -/
structure Written (scheme : String) (a : Authority) : Prop where
  username : ∀ c ∈ a.username.toList, Url.inUserinfo c = false
  password : ∀ c ∈ a.password.toList, Url.inUserinfo c = false
  host : ∃ h cs, a.host = some h ∧ Url.parseHost cs = .ok h
  port : ∀ p ∈ a.port, p ≤ 65535 ∧ Url.defaultPort scheme ≠ some p

end SiteSpiders.Authority

namespace SiteSpiders.Url

section Written

variable {scheme : String} {cs : List Char}

theorem percentEncode_of_clear {set : EncodeSet} (clear : ∀ c ∈ cs, set c = false) :
    percentEncode set cs = cs := by
  induction cs with
  | nil => rfl
  | cons c cs ih =>
    have hrest := ih fun d hd => clear d (by simp [hd])
    rw [percentEncode] at hrest
    rw [percentEncode, List.flatMap_cons, hrest, clear c (by simp)]
    rfl

theorem escaped_clear {set : EncodeSet} (free : escapeChars.all (fun c => !set c) = true) :
    ∀ c ∈ percentEncode set cs, set c = false := by
  intro c hc
  by_cases hescape : c ∈ escapeChars
  · simpa using List.all_eq_true.mp free c hescape
  · exact (mem_percentEncode hescape hc).2

theorem readPort_written {default? port : Option Nat} {rest : List Char}
    (h : readPort default? cs = .ok (port, rest)) :
    ∀ p ∈ port, p ≤ 65535 ∧ default? ≠ some p := by
  unfold readPort at h
  dsimp only at h
  split_ifs at h with hrange hnone
  · obtain ⟨rfl, -⟩ := Prod.mk.inj (Except.ok.inj h)
    simp
  · obtain ⟨rfl, -⟩ := Prod.mk.inj (Except.ok.inj h)
    intro p hp
    obtain rfl := Option.some.inj hp
    exact ⟨Nat.not_lt.mp fun hlt => hrange (.inl hlt), fun he => hnone (.inr he)⟩

theorem readUserinfo_written {kind : SchemeKind} {user pass : String} {rest : List Char}
    (h : readUserinfo kind cs = .ok (user, pass, rest)) :
    (∀ c ∈ user.toList, inUserinfo c = false) ∧ ∀ c ∈ pass.toList, inUserinfo c = false := by
  have hencoded : ∀ part, ∀ c ∈ (encodedInfo part).toList, inUserinfo c = false := by
    intro part c hc
    rw [encodedInfo, String.toList_ofList] at hc
    exact escaped_clear (by decide) c hc
  unfold readUserinfo at h
  dsimp only at h
  split_ifs at h
  · obtain ⟨rfl, rfl, -⟩ : "" = user ∧ "" = pass ∧ _ := by simpa using h
    simp
  · split at h
    · cases h
    · obtain ⟨rfl, rfl, -⟩ : "" = user ∧ "" = pass ∧ _ := by simpa using h
      simp
  · simp only [Except.ok.injEq, Prod.mk.injEq] at h
    obtain ⟨rfl, rfl, -⟩ := h
    exact ⟨hencoded _, hencoded _⟩

/-- What is read behind a special scheme has a written authority. -/
theorem readAuthority_written (special : schemeKind scheme = .special) {u : Url}
    (h : readAuthority scheme cs = .ok u) :
    ∃ a rest, a.Written scheme ∧ u = (site scheme a).behind rest := by
  rw [readAuthority_eq special] at h
  obtain ⟨⟨user, pass, rest⟩, hinfo, h⟩ := of_bind h
  obtain ⟨huser, hpass⟩ := readUserinfo_written hinfo
  dsimp only at h
  split_ifs at h
  obtain ⟨host, hhost, h⟩ := of_bind h
  obtain ⟨⟨port, rest⟩, hport, h⟩ := of_bind h
  obtain rfl := Except.ok.inj h
  refine ⟨_, rest, ⟨huser, hpass, ⟨host, _, rfl, hhost⟩, ?_⟩, rfl⟩
  unfold readPortBehind at hport
  split_ifs at hport
  · exact readPort_written hport
  · obtain ⟨rfl, -⟩ := Prod.mk.inj (Except.ok.inj hport)
    simp

end Written

section Again

variable {scheme : String} {a : Authority}

/-- Whether the labels of a URL's host, if it is a domain name, are short enough to be decoded. -/
def Decodable (u : Url) : Prop := ∀ h ∈ u.host?, h.Decodable

instance (u : Url) : Decidable u.Decodable :=
  inferInstanceAs (Decidable (∀ h ∈ u.host?, h.Decodable))

theorem visible_of_isDigit {c : Char} (h : c.isDigit = true) : 0x20 < c.toNat ∧ c ≠ '\\' := by
  constructor
  · simp only [Char.isDigit, Bool.and_eq_true, decide_eq_true_eq] at h
    have hle : (48 : UInt32).toNat ≤ c.val.toNat := h.1
    exact Nat.lt_of_lt_of_le (by decide) hle
  · rintro rfl
    cases h

theorem exists_name_of_parseHost {cs : List Char} {name : String}
    (h : parseHost cs = .ok (.domain name)) : ∃ bytes, domainToAscii bytes = some name.toList := by
  unfold parseHost at h
  split at h
  · unfold parseBracketed at h
    split_ifs at h
    cases hpieces : parseIpv6 (List.dropLast _) <;> rw [hpieces] at h <;> cases h
  split at h
  · cases h
  · cases h
  · rename_i found _ hfound
    split_ifs at h
    · cases haddress : parseIpv4 found <;> rw [haddress] at h <;> cases h
    · obtain rfl := Host.domain.inj (Except.ok.inj h)
      exact ⟨_, by rw [hfound, String.toList_ofList]⟩

/-- The text of a host that was read has no blanks, no control characters and no backslashes. -/
theorem parseHost_visible {cs : List Char} {h : Host} (hparse : parseHost cs = .ok h) {c : Char}
    (hc : c ∈ h.text.toList) : 0x20 < c.toNat ∧ c ≠ '\\' := by
  cases h with
  | domain name =>
    obtain ⟨bytes, hname⟩ := exists_name_of_parseHost hparse
    simp only [domainToAscii, Option.bind_eq_bind, Option.bind_eq_some_iff] at hname
    obtain ⟨_, _, _, _, _, _, hname⟩ := hname
    split_ifs at hname with _ hforbidden
    rw [Option.some.inj hname] at hforbidden
    have hclear : ¬forbiddenInDomain c.toNat = true :=
      fun hc' => hforbidden (List.any_eq_true.mpr ⟨c, hc, hc'⟩)
    constructor
    · by_contra hle
      exact hclear (by simp [forbiddenInDomain, Nat.le_of_not_lt hle])
    · rintro rfl
      exact hclear (by decide)
  | ipv4 n =>
    rcases Host.ipv4Text_chars hc with hdigit | rfl
    · exact visible_of_isDigit hdigit
    · decide
  | ipv6 pieces =>
    rw [Host.toList_text_ipv6] at hc
    simp only [List.mem_cons, List.mem_append, List.not_mem_nil, or_false] at hc
    rcases hc with rfl | hc | rfl
    · decide
    · rcases Host.ipv6Text_chars hc with rfl | ⟨n, hn⟩
      · decide
      · obtain ⟨d, hd, rfl⟩ := mem_toDigits (by decide) hn
        have hall : ∀ d < 16, 0x20 < (Nat.digitChar d).toNat ∧ Nat.digitChar d ≠ '\\' := by decide
        exact hall d hd
    · decide

/-- The text of a host that was read keeps clear of what divides or ends an authority. -/
theorem parseHost_clear {cs : List Char} {h : Host} (hparse : parseHost cs = .ok h) :
    '@' ∉ h.text.toList ∧ Bare h.text.toList := by
  have hkind : SchemeKind.special ≠ .other := by simp
  have hclear := (parseHost_sound hkind hparse).text_chars
  refine ⟨fun hmem => hclear _ hmem (by simp), fun c hc => ?_⟩
  have hc' := hclear c hc
  have hne : c ≠ '\\' := (parseHost_visible hparse hc).2
  simp only [List.mem_cons, List.not_mem_nil, or_false, not_or] at hc'
  simp [endsAuthority, hc'.1, hc'.2.1, hc'.2.2.1, hne]

/-- The text of a host without colons and brackets is read up to a colon. -/
theorem readHostText_plain {cs more : List Char} (bare : Bare cs)
    (plain : ∀ c ∈ cs, c ≠ ':' ∧ c ≠ '[') (shape : more = [] ∨ ∃ rest, more = ':' :: rest) :
    readHostText .special false (cs ++ more) = (cs, more) := by
  induction cs with
  | nil =>
    rcases shape with rfl | ⟨rest, rfl⟩
    · rfl
    · simp [readHostText]
  | cons c cs ih =>
    obtain ⟨hcolon, hbracket⟩ := plain c (by simp)
    have hrest := ih (fun d hd => bare d (by simp [hd])) fun d hd => plain d (by simp [hd])
    simp [readHostText, hcolon, hbracket, bare c (by simp), hrest]

theorem readHostText_bracketed {cs more : List Char} (bare : Bare cs) (inner : ']' ∉ cs)
    (shape : more = [] ∨ ∃ rest, more = ':' :: rest) :
    readHostText .special true (cs ++ ']' :: more) = (cs ++ [']'], more) := by
  induction cs with
  | nil =>
    have hmore := readHostText_plain bare_nil (by simp) shape
    rw [List.nil_append] at hmore
    have hends : endsAuthority .special ']' = false := by decide
    simp [readHostText, hmore, hends]
  | cons c cs ih =>
    have hne : c ≠ ']' := fun he => inner (he ▸ List.mem_cons_self)
    have hrest := ih (fun d hd => bare d (by simp [hd])) fun hmem => inner (by simp [hmem])
    simp [readHostText, hne, bare c (by simp), hrest]

/-- The text of a host is read up to a colon behind it. -/
theorem readHostText_text {cs more : List Char} {h : Host} (hparse : parseHost cs = .ok h)
    (shape : more = [] ∨ ∃ rest, more = ':' :: rest) :
    readHostText .special false (h.text.toList ++ more) = (h.text.toList, more) := by
  have hkind : SchemeKind.special ≠ .other := by simp
  have hsound := parseHost_sound hkind hparse
  have hbare := (parseHost_clear hparse).2
  by_cases hv6 : ∃ pieces, h = .ipv6 pieces
  · obtain ⟨pieces, rfl⟩ := hv6
    rw [Host.toList_text_ipv6] at hbare ⊢
    have hinner : ']' ∉ (Host.ipv6Text pieces).toList := by
      intro hmem
      rcases Host.ipv6Text_chars hmem with hmem | ⟨n, hn⟩
      · revert hmem
        decide
      · exact (hexDigit_ne hn).2 rfl
    have hinside := readHostText_bracketed (fun c hc => hbare c (by simp [hc])) hinner shape
    have hopen : endsAuthority .special '[' = false := by decide
    simp [readHostText, hopen, hinside]
  · have hclear := hsound.text_clear fun pieces he => hv6 ⟨pieces, he⟩
    refine readHostText_plain hbare (fun c hc => ?_) shape
    have hc' := hclear c hc
    simp only [List.mem_cons, List.not_mem_nil, or_false, not_or] at hc'
    exact ⟨hc'.2.2.1, hc'.2.2.2.2.2⟩

theorem portValue_decimalText (p : Nat) : portValue (Number.decimalText p).toList = p := by
  have hvalue : Nat.ofDigitChars 10 (Nat.toDigits 10 p) 0 = p := Nat.ofDigitChars_ten_toDigits
  rw [Nat.ofDigitChars] at hvalue
  rw [toList_decimalText, portValue]
  simpa [Nat.mul_comm] using hvalue

theorem readPortBehind_text {port : Option Nat}
    (written : ∀ p ∈ port, p ≤ 65535 ∧ defaultPort scheme ≠ some p) :
    readPortBehind scheme (Authority.portText port) = .ok (port, []) := by
  cases port with
  | none => rfl
  | some p =>
    obtain ⟨hle, hdefault⟩ := written p rfl
    have hdigits : ∀ c ∈ (Number.decimalText p).toList, c.isDigit = true :=
      fun c hc => isDigit_of_mem_decimalText hc
    have hport := readPort_digits (defaultPort scheme) hdigits closes_nil
    rw [List.append_nil, portValue_decimalText, if_neg (by omega), if_neg] at hport
    · exact hport
    · simp [hdefault]

/-- What is escaped in user names ends no authority and does not divide it. -/
theorem info_clear {part : List Char} (clear : ∀ c ∈ part, inUserinfo c = false) :
    '@' ∉ part ∧ ':' ∉ part ∧ Bare part := by
  have hset : ∀ c, endsAuthority .special c = true → inUserinfo c = true := by
    intro c hc
    simp only [endsAuthority, Bool.or_eq_true, Bool.and_eq_true, beq_iff_eq] at hc
    rcases hc with ((rfl | rfl) | rfl) | ⟨rfl, -⟩ <;> decide
  have hmarks : inUserinfo '@' = true ∧ inUserinfo ':' = true := by decide
  refine ⟨fun hmem => ?_, fun hmem => ?_, fun c hc => ?_⟩
  · rw [clear _ hmem] at hmarks
    cases hmarks.1
  · rw [clear _ hmem] at hmarks
    cases hmarks.2
  by_contra hends
  have hc' := hset c (by simpa using hends)
  rw [clear c hc] at hc'
  cases hc'

theorem portText_clear (port : Option Nat) :
    '@' ∉ Authority.portText port ∧ Bare (Authority.portText port) := by
  cases port with
  | none => exact ⟨by simp [Authority.portText, markedText], bare_nil⟩
  | some p =>
    have hdigit : ∀ c ∈ (Number.decimalText p).toList, c.isDigit = true :=
      fun c hc => isDigit_of_mem_decimalText hc
    constructor
    · intro hmem
      rcases List.mem_cons.mp hmem with hmem | hmem
      · cases hmem
      · exact absurd (hdigit _ hmem) (by decide)
    · intro c hc
      rcases List.mem_cons.mp hc with rfl | hc
      · decide
      · by_contra hends
        have hc' := isDigit_of_endsAuthority (c := c) (by simpa using hends)
        rw [hdigit c hc] at hc'
        cases hc'

theorem hostPort_clear (written : a.Written scheme) :
    '@' ∉ Authority.hostPort a.host a.port ∧ Bare (Authority.hostPort a.host a.port) := by
  obtain ⟨h, cs, hhost, hparse⟩ := written.host
  obtain ⟨hat, hbare⟩ := parseHost_clear hparse
  obtain ⟨hportAt, hportBare⟩ := portText_clear a.port
  have hhostPort : Authority.hostPort a.host a.port =
      h.text.toList ++ Authority.portText a.port := by
    rw [hhost]
    rfl
  rw [hhostPort]
  refine ⟨by simp [hat, hportAt], fun c hc => ?_⟩
  rcases List.mem_append.mp hc with hc | hc
  · exact hbare c hc
  · exact hportBare c hc

theorem infoText_bare (written : a.Written scheme) : Bare a.infoText := by
  obtain ⟨-, -, huserBare⟩ := info_clear written.username
  obtain ⟨-, -, hpassBare⟩ := info_clear written.password
  intro c hc
  rcases List.mem_append.mp hc with hc | hc
  · exact huserBare c hc
  · split_ifs at hc
    · cases hc
    · rcases List.mem_cons.mp hc with rfl | hc
      · decide
      · exact hpassBare c hc

theorem infoText_cut (written : a.Written scheme) :
    a.infoText.takeWhile (· != ':') = a.username.toList ∧
      (a.infoText.dropWhile (· != ':')).drop 1 = a.password.toList := by
  obtain ⟨-, huserColon, -⟩ := info_clear written.username
  have hclear : ∀ c ∈ a.username.toList, (c != ':') = true := by
    intro c hc
    have hne : c ≠ ':' := fun he => huserColon (he ▸ hc)
    simpa using hne
  rw [Authority.infoText, List.takeWhile_append_of_pos hclear,
    List.dropWhile_append_of_pos hclear]
  split_ifs with hpassword
  · simp [String.isEmpty_iff.mp hpassword]
  · simp

/-- User name and password are read from their text. -/
theorem readUserinfo_text (written : a.Written scheme) :
    Bare a.text.toList ∧ readUserinfo .special a.text.toList =
      .ok (a.username, a.password, Authority.hostPort a.host a.port) := by
  obtain ⟨hrestAt, hrestBare⟩ := hostPort_clear written
  rw [Authority.toList_text]
  by_cases hnamed : (a.username.isEmpty && a.password.isEmpty) = true
  · have hread := readUserinfo_bare hrestBare closes_nil hrestAt
    rw [List.append_nil] at hread
    simp only [Bool.and_eq_true, String.isEmpty_iff] at hnamed
    rw [hnamed.1, hnamed.2]
    exact ⟨hrestBare, hread⟩
  · have hbareAll : Bare (a.infoText ++ '@' :: Authority.hostPort a.host a.port) := by
      intro c hc
      rcases List.mem_append.mp hc with hc | hc
      · exact infoText_bare written c hc
      · rcases List.mem_cons.mp hc with rfl | hc
        · decide
        · exact hrestBare c hc
    have hsome : a.infoText ≠ [] := by
      intro hnil
      obtain ⟨huser, hpass⟩ := List.append_eq_nil_iff.mp hnil
      have huser : a.username.isEmpty = true := by simpa using huser
      by_cases hpassword : a.password.isEmpty = true
      · exact hnamed (by rw [huser, hpassword]; rfl)
      · rw [if_neg hpassword] at hpass
        cases hpass
    have hread := readUserinfo_named hbareAll closes_nil hrestAt (.inl hsome)
    obtain ⟨huser, hpass⟩ := infoText_cut written
    rw [if_neg hnamed, List.append_assoc, List.singleton_append]
    rw [List.append_nil, List.append_nil, huser, hpass, encodedInfo, encodedInfo,
      percentEncode_of_clear written.username, percentEncode_of_clear written.password,
      String.ofList_toList, String.ofList_toList] at hread
    exact ⟨hbareAll, hread⟩

theorem visible_of_inPath {c : Char} (h : inPath c = false) : 0x20 < c.toNat := by
  have hblank : c ≠ ' ' := by
    rintro rfl
    cases h
  have hne : c.toNat ≠ 0x20 := fun he => hblank (by rw [← Char.ofNat_toNat c, he])
  simp only [inPath, inFragment, controls, Bool.or_eq_false_iff, decide_eq_false_iff_not] at h
  omega

/-- The text of an authority that was read has no blanks and no control characters. -/
theorem written_visible (written : a.Written scheme) :
    a.text.toList ≠ [] ∧ ∀ c ∈ a.text.toList, 0x20 < c.toNat := by
  obtain ⟨h, cs, hhost, hparse⟩ := written.host
  have hkind : SchemeKind.special ≠ .other := by simp
  have hsome : h.text.toList ≠ [] := (parseHost_sound hkind hparse).text_ne_nil
  have huser : ∀ c, inUserinfo c = false → 0x20 < c.toNat := by
    intro c hc
    rw [inUserinfo, Bool.or_eq_false_iff] at hc
    exact visible_of_inPath hc.1
  have hport : ∀ c ∈ Authority.portText a.port, 0x20 < c.toNat := by
    intro c hc
    cases hp : a.port with
    | none =>
      rw [hp] at hc
      cases hc
    | some p =>
      rw [hp] at hc
      rcases List.mem_cons.mp hc with rfl | hc
      · decide
      · exact (visible_of_isDigit (isDigit_of_mem_decimalText hc)).1
  have hinfo : ∀ c ∈ a.infoText, 0x20 < c.toNat := by
    intro c hc
    rcases List.mem_append.mp hc with hc | hc
    · exact huser c (written.username c hc)
    · split_ifs at hc
      · cases hc
      · rcases List.mem_cons.mp hc with rfl | hc
        · decide
        · exact huser c (written.password c hc)
  have hhostPort : Authority.hostPort a.host a.port =
      h.text.toList ++ Authority.portText a.port := by
    rw [hhost]
    rfl
  rw [Authority.toList_text, hhostPort]
  refine ⟨by simp [hsome], fun c hc => ?_⟩
  rcases List.mem_append.mp hc with hc | hc
  · split_ifs at hc
    · cases hc
    · rcases List.mem_append.mp hc with hc | hc
      · exact hinfo c hc
      · rw [List.mem_singleton.mp hc]
        decide
  · rcases List.mem_append.mp hc with hc | hc
    · exact (parseHost_visible hparse hc).1
    · exact hport c hc

/-- An authority that was read is read from its own text, if its host can be. -/
theorem readAuthority_text (special : schemeKind scheme = .special) (written : a.Written scheme) :
    readAuthority scheme a.text.toList =
      if ∀ h ∈ a.host, h.Decodable then .ok (site scheme a) else .error .invalidDomain := by
  obtain ⟨h, cs, hhost, hparse⟩ := written.host
  have hshape : Authority.portText a.port = [] ∨
      ∃ rest, Authority.portText a.port = ':' :: rest := by
    cases a.port with
    | none => exact .inl rfl
    | some p => exact .inr ⟨_, rfl⟩
  have hhostPort : Authority.hostPort a.host a.port =
      h.text.toList ++ Authority.portText a.port := by
    rw [hhost]
    rfl
  have hdecodable : (∀ x ∈ a.host, x.Decodable) ↔ h.Decodable := by simp [hhost]
  have hkind : SchemeKind.special ≠ .other := by simp
  have hsome : h.text.toList.isEmpty = false := by
    simpa using (parseHost_sound hkind hparse).text_ne_nil
  rw [readAuthority_eq special, (readUserinfo_text written).2]
  simp only [Except.bind, hhostPort, readHostText_text hparse hshape, hsome, Bool.false_eq_true,
    if_false, parseHost_text hparse, hdecodable]
  by_cases hshort : h.Decodable
  · simp only [hshort, if_true, readPortBehind_text written.port]
    rw [← hhost, behind_nil]
  · simp only [hshort, if_false]

end Again

end SiteSpiders.Url
