import Mathlib.Data.List.Dedup
import SiteSpiders.Proofs.Dictionary.Readings
import SiteSpiders.Proofs.Url.Reading

/-!
# The territory of a dictionary crawl

What a dictionary crawl can ask for is fixed before it runs, by the pages of the site:
the start, the leads of the pages that may be read, their leads, and so on through the
four stages. A territory is coherent if no address is asked for in two roles and no
name at two addresses. Then a request of the territory is known by its address.
-/
namespace SiteSpiders.Dictionary

/-- What determines a dictionary crawl: where it starts, the status and body of every address,
which statuses are read, and the names that are stored at first. -/
structure Territory where
  start : Url
  parsed : start.Parsed
  page : String → Nat × String
  accepts : Nat → Bool
  known : List String

/-- The character's name that a request carries. -/
def carried (r : Request) : Option String := r.note.bind fun note => (readName note).toOption

@[simp] theorem carried_characterRequest (depth : Nat) (link : CharacterLink) :
    carried (characterRequest depth link) = some link.name := by
  simp [carried, characterRequest, readName_nameNote, Except.toOption]

namespace Territory

variable (T : Territory)

/-- The text of the page of a request. -/
def body (q : Request) : String := (T.page q.url.text).2

/-- Whether the page of a request has a status that is read. -/
def opens (q : Request) : Bool := T.accepts (T.page q.url.text).1

/-- Whether a request stays in the domain of the start. -/
def inside (q : Request) : Bool :=
  (domainsOf T.start).all fun domains => domainAllowed q.url domains

/-- The page of a request, as a crawl reads it. -/
def response (q : Request) : Response where
  url := q.url
  status := (T.page q.url.text).1
  body := T.body q
  request := q

/-- The characters listed on the page of a request whose names are not known at first. -/
def newLinks (q : Request) : List CharacterLink :=
  (characterLinks (Html.parse (T.body q)) q.url).filter fun link => !T.known.contains link.name

/-- What the page of a request leads to, but for characters known at first. -/
def leads (q : Request) : List Request :=
  match q.stage with
  | .characterList => (T.newLinks q).map (characterRequest (q.depth + 1))
  | _ => Dictionary.leads (T.response q) (q.depth + 1)

/-- The requests that so many steps lead to, through pages inside the domain that are read. -/
def wave : Nat → List Request
  | 0 => [Request.start T.start]
  | n + 1 => ((wave n).filter fun q => T.inside q && T.opens q).flatMap T.leads

/-- The requests that come up through the four stages. -/
def emitted : List Request := (List.range 4).flatMap T.wave

/-- Those of them that stay inside the domain. -/
def wanted : List Request := T.emitted.filter T.inside

/-- The addresses to be fetched, each once. -/
def reach : List String := (T.wanted.map (·.url.text)).dedup

/-- Whether no address is wanted in two roles, and no name at two addresses. A role is a stage and
the name carried. -/
structure Coherent : Prop where
  role : ∀ q ∈ T.wanted, ∀ r ∈ T.wanted, q.url.text = r.url.text →
    q.stage = r.stage ∧ carried q = carried r
  place : ∀ q ∈ T.wanted, ∀ r ∈ T.wanted, ∀ name, carried q = some name → carried r = some name →
    q.url.text = r.url.text

instance : Decidable T.Coherent :=
  decidable_of_iff ((∀ q ∈ T.wanted, ∀ r ∈ T.wanted, q.url.text = r.url.text →
      q.stage = r.stage ∧ carried q = carried r) ∧
    ∀ q ∈ T.wanted, ∀ r ∈ T.wanted, carried q = carried r → carried q ≠ none →
      q.url.text = r.url.text)
    ⟨fun h => ⟨h.1, fun q hq r hr name hname hname' =>
      h.2 q hq r hr (hname.trans hname'.symm) (by simp [hname])⟩,
    fun h => ⟨h.role, fun q hq r hr same some =>
      let ⟨name, hname⟩ := Option.ne_none_iff_exists'.mp some
      h.place q hq r hr name hname (same ▸ hname)⟩⟩

/-- The shape of the requests of a territory, stage by stage. -/
inductive Proper : Request → Prop
  | bootstrap (url : Url) : Proper { url }
  | pinyinIndex (url : Url) : Proper { url, stage := .pinyinIndex, depth := 1 }
  | characterList (url : Url) : Proper { url, stage := .characterList, depth := 2 }
  | character (link : CharacterLink) (new : link.name ∉ T.known) :
      Proper (characterRequest 3 link)

variable {T} {q r : Request}

theorem leads_proper (hq : T.Proper q) (hr : r ∈ T.leads q) :
    T.Proper r ∧ r.depth = q.depth + 1 := by
  cases hq with
  | bootstrap url =>
    obtain ⟨link, _, rfl⟩ := List.mem_map.mp hr
    exact ⟨.pinyinIndex link, rfl⟩
  | pinyinIndex url =>
    obtain ⟨link, _, rfl⟩ := List.mem_map.mp hr
    exact ⟨.characterList link, rfl⟩
  | characterList url =>
    obtain ⟨link, hlink, rfl⟩ := List.mem_map.mp hr
    have hnew := (List.mem_filter.mp hlink).2
    exact ⟨.character link (by simpa using hnew), rfl⟩
  | character link new => cases hr

theorem wave_proper {n : Nat} (h : q ∈ T.wave n) : T.Proper q ∧ q.depth = n := by
  induction n generalizing q with
  | zero =>
    rw [wave, List.mem_singleton] at h
    exact h ▸ ⟨.bootstrap T.start, rfl⟩
  | succ n ih =>
    obtain ⟨p, hp, hq⟩ := List.mem_flatMap.mp h
    obtain ⟨hproper, hdepth⟩ := ih (List.mem_filter.mp hp).1
    obtain ⟨hproper', hdepth'⟩ := leads_proper hproper hq
    exact ⟨hproper', by rw [hdepth', hdepth]⟩

theorem emitted_proper (h : q ∈ T.emitted) : T.Proper q := by
  obtain ⟨n, _, hq⟩ := List.mem_flatMap.mp h
  exact (wave_proper hq).1

theorem Proper.of_carried (h : T.Proper q) {name : String} (carries : carried q = some name) :
    q.stage = .character ∧ name ∉ T.known := by
  cases h with
  | character link new =>
    rw [carried_characterRequest] at carries
    exact ⟨rfl, Option.some.inj carries ▸ new⟩
  | _ => cases carries

lemma start_emitted (T : Territory) : Request.start T.start ∈ T.emitted :=
  List.mem_flatMap.mpr ⟨0, by simp, List.mem_singleton.mpr rfl⟩

/-- A page of the territory leads into the territory. -/
theorem leads_emitted (hq : q ∈ T.wanted) (opens : T.opens q = true) (hr : r ∈ T.leads q) :
    r ∈ T.emitted := by
  obtain ⟨hemitted, inside⟩ := List.mem_filter.mp hq
  obtain ⟨n, hn, hwave⟩ := List.mem_flatMap.mp hemitted
  obtain ⟨hproper, hdepth⟩ := wave_proper hwave
  have hlive : q ∈ (T.wave n).filter fun q => T.inside q && T.opens q :=
    List.mem_filter.mpr ⟨hwave, by simp [inside, opens]⟩
  refine List.mem_flatMap.mpr ⟨n + 1, ?_, List.mem_flatMap.mpr ⟨q, hlive, hr⟩⟩
  -- the pages of the last stage lead nowhere
  have hlast : n ≠ 3 := by
    rintro rfl
    cases hproper with
    | character link new => cases hr
    | _ => simp at hdepth
  rw [List.mem_range] at hn ⊢
  omega

lemma wanted_of_emitted (h : q ∈ T.emitted) (inside : T.inside q = true) : q ∈ T.wanted :=
  List.mem_filter.mpr ⟨h, inside⟩

/-- What holds of the start and passes from pages that are read to their leads holds throughout the
territory. -/
theorem emitted_induction {P : Request → Prop} (start : P (Request.start T.start))
    (lead : ∀ q ∈ T.wanted, T.opens q = true → P q → ∀ r ∈ T.leads q, P r) (h : q ∈ T.emitted) :
    P q := by
  obtain ⟨n, hn, hwave⟩ := List.mem_flatMap.mp h
  rw [List.mem_range] at hn
  induction n generalizing q with
  | zero =>
    rw [wave, List.mem_singleton] at hwave
    exact hwave ▸ start
  | succ n ih =>
    obtain ⟨p, hp, hq⟩ := List.mem_flatMap.mp hwave
    obtain ⟨hpwave, hlive⟩ := List.mem_filter.mp hp
    rw [Bool.and_eq_true] at hlive
    have hpemitted : p ∈ T.emitted := List.mem_flatMap.mpr ⟨n, by simp; omega, hpwave⟩
    exact lead p (wanted_of_emitted hpemitted hlive.1) hlive.2 (ih hpemitted (by omega) hpwave) q hq

theorem groupUrl?_parsed {u v : Url} (h : groupUrl? u = some v) : v.Parsed := by
  unfold groupUrl? at h
  dsimp only at h
  split at h
  · cases h
  · rename_i found _
    cases hparse : Url.parse (String.ofList (found.text u.text.toList)) with
    | error e =>
      rw [hparse] at h
      cases h
    | ok w =>
      rw [hparse] at h
      obtain rfl := Option.some.inj h
      exact .own hparse

theorem leads_parsed (hq : T.Proper q) (parsed : q.url.Parsed) (hr : r ∈ T.leads q) :
    r.url.Parsed := by
  cases hq with
  | bootstrap url =>
    obtain ⟨link, hlink, rfl⟩ := List.mem_map.mp hr
    obtain ⟨href, _, hfollow⟩ := List.mem_filterMap.mp hlink
    exact parsed.of_follow hfollow
  | pinyinIndex url =>
    obtain ⟨link, hlink, rfl⟩ := List.mem_map.mp hr
    obtain ⟨href, _, hgroup⟩ := List.mem_filterMap.mp hlink
    obtain ⟨_, _, hgroup⟩ := Option.bind_eq_some_iff.mp hgroup
    exact groupUrl?_parsed hgroup
  | characterList url =>
    obtain ⟨link, hlink, rfl⟩ := List.mem_map.mp hr
    obtain ⟨anchor, _, hanchor⟩ := List.mem_filterMap.mp (List.mem_filter.mp hlink).1
    simp only [characterLink?, Option.bind_eq_bind, Option.bind_eq_some_iff, Option.pure_def,
      Option.some.injEq] at hanchor
    obtain ⟨href, _, name, _, target, hfollow, rfl⟩ := hanchor
    exact parsed.of_follow hfollow
  | character link new => cases hr

theorem emitted_parsed (h : q ∈ T.emitted) : q.url.Parsed := by
  refine emitted_induction (P := fun q => q.url.Parsed) T.parsed ?_ h
  intro q hq _ parsed r hr
  exact leads_parsed (emitted_proper (List.mem_filter.mp hq).1) parsed hr

/-- In a coherent territory a request is known by the text of its address. -/
theorem Coherent.eq_of_text (coherent : T.Coherent) (hq : q ∈ T.wanted) (hr : r ∈ T.wanted)
    (same : q.url.text = r.url.text) : q = r := by
  have hurl := (emitted_parsed (List.mem_filter.mp hq).1).eq_of_text
    (emitted_parsed (List.mem_filter.mp hr).1) same
  obtain ⟨hstage, hname⟩ := coherent.role q hq r hr same
  have hq' := emitted_proper (List.mem_filter.mp hq).1
  have hr' := emitted_proper (List.mem_filter.mp hr).1
  clear hq hr same
  cases hq' with
  | character link new =>
    cases hr' with
    | character link' new' =>
      rw [carried_characterRequest, carried_characterRequest] at hname
      obtain ⟨url, name⟩ := link
      obtain ⟨url', name'⟩ := link'
      obtain rfl : url = url' := hurl
      obtain rfl : name = name' := Option.some.inj hname
      rfl
    | _ => cases hstage
  | bootstrap url =>
    cases hr' with
    | bootstrap url' =>
      obtain rfl : url = url' := hurl
      rfl
    | _ => cases hstage
  | pinyinIndex url =>
    cases hr' with
    | pinyinIndex url' =>
      obtain rfl : url = url' := hurl
      rfl
    | _ => cases hstage
  | characterList url =>
    cases hr' with
    | characterList url' =>
      obtain rfl : url = url' := hurl
      rfl
    | _ => cases hstage

end Territory

end SiteSpiders.Dictionary
