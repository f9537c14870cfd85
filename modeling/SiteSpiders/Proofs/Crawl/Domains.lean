import SiteSpiders.Crawl.Engine
import SiteSpiders.Dictionary.Spider
import SiteSpiders.Movies.Spider
import SiteSpiders.Proofs.Url.HostText
import SiteSpiders.Sounds.Spider

/-!
# Domains by labels

Dots divide a host into labels, and a host lies in a domain exactly if the labels of the domain
are the last ones of the host. A spider that stays at the host of its start takes the labels of
that host for its domain, less the leading `www` ones, so neither the start nor any host below
it is kept out.
-/
namespace SiteSpiders

namespace Text

variable {α : Type} {divider : α}

theorem joinWith_append {front back : List (List α)} (hfront : front ≠ []) (hback : back ≠ []) :
    joinWith divider (front ++ back) =
      joinWith divider front ++ divider :: joinWith divider back := by
  induction front with
  | nil => exact absurd rfl hfront
  | cons part rest ih =>
    cases rest with
    | nil =>
      obtain ⟨next, more, rfl⟩ := List.exists_cons_of_ne_nil hback
      rfl
    | cons next more =>
      show part ++ divider :: joinWith divider (next :: more ++ back) = _
      rw [ih (List.cons_ne_nil _ _)]
      simp [joinWith]

lemma divide_ne_nil [DecidableEq α] (xs : List α) : divide divider xs ≠ [] := List.cons_ne_nil _ _

/-- The last parts of a list are those of what follows one of its dividers, or all of them. -/
theorem divide_suffix_iff [DecidableEq α] {xs ys : List α} :
    divide divider ys <:+ divide divider xs ↔ xs = ys ∨ ∃ front, xs = front ++ divider :: ys := by
  constructor
  · rintro ⟨front, hfront⟩
    have hxs := congrArg (joinWith divider) hfront.symm
    rw [joinWith_divide] at hxs
    cases front with
    | nil =>
      rw [List.nil_append, joinWith_divide] at hxs
      exact .inl hxs
    | cons part rest =>
      rw [joinWith_append (List.cons_ne_nil _ _) (divide_ne_nil ys), joinWith_divide] at hxs
      exact .inr ⟨_, hxs⟩
  · rintro (rfl | ⟨front, rfl⟩)
    · exact List.suffix_rfl
    · rw [divide_append_cons]
      exact List.suffix_append _ _

end Text

/-- The labels of a host or of a domain. -/
def labels (name : String) : List String := Text.divideText '.' name

theorem labels_suffix_iff {domain host : String} :
    labels domain <:+ labels host ↔
      host.toList = domain.toList ∨ ∃ front, host.toList = front ++ '.' :: domain.toList := by
  rw [← Text.divide_suffix_iff]
  refine ⟨fun h => ?_, fun h => h.map String.ofList⟩
  obtain ⟨parts, hparts, heq⟩ := List.suffix_map_iff.mp h
  have hinj : Function.Injective String.ofList := fun _ _ => String.ofList_injective
  rwa [List.map_injective_iff.mpr hinj heq]

/-- A host lies in a domain exactly if it ends in the labels of the domain. -/
theorem hostInDomain_iff {host domain : String} :
    hostInDomain host.toList domain.toList = true ↔ labels domain <:+ labels host := by
  rw [labels_suffix_iff, hostInDomain, Bool.or_eq_true, beq_iff_eq]
  refine or_congr_right ?_
  rw [Bool.and_eq_true, List.isPrefixOf_iff_prefix, beq_iff_eq, List.reverse_prefix]
  constructor
  · rintro ⟨⟨front, hfront⟩, hdot⟩
    have hlast : front.getLast? = some '.' := by simpa [← hfront] using hdot
    obtain ⟨before, rfl⟩ := List.getLast?_eq_some_iff.mp hlast
    exact ⟨before, by simp [← hfront]⟩
  · rintro ⟨front, hfront⟩
    rw [hfront]
    refine ⟨⟨front ++ ['.'], by simp⟩, ?_⟩
    simp

theorem domainAllowed_iff {url : Url} {domains : List String} :
    domainAllowed url domains = true ↔
      ∃ host, url.hostText? = some host ∧ ∃ domain ∈ domains, labels domain <:+ labels host := by
  unfold domainAllowed
  split
  · simp [*]
  · rename_i host hhost
    simp [*, List.any_eq_true, hostInDomain_iff]

/-- The labels of a host without its `www.` labels in front are those that follow them. -/
theorem labels_withoutWww (host : List Char) :
    ∃ n, labels (String.ofList host) =
      List.replicate n "www" ++ labels (String.ofList (withoutWww host)) := by
  fun_induction withoutWww host with
  | case1 rest ih =>
    obtain ⟨n, hn⟩ := ih
    refine ⟨n + 1, ?_⟩
    rw [List.replicate_succ, List.cons_append, ← hn]
    have hdot : '.' ∉ ['w', 'w', 'w'] := by decide
    have hfirst := Text.divide_append rest hdot
    simp only [List.cons_append, List.nil_append] at hfirst
    simp [labels, Text.divideText, hfirst]
  | case2 host hnot => exact ⟨0, rfl⟩

theorem labels_withoutWww_head (host : List Char) {rest : List String}
    (h : labels (String.ofList (withoutWww host)) = "www" :: rest) : rest = [] := by
  fun_induction withoutWww host with
  | case1 rest ih => exact ih h
  | case2 host hnot =>
    rw [labels, Text.divideText, String.toList_ofList] at h
    obtain ⟨first, parts, hparts, hfirst, rfl⟩ := List.map_eq_cons_iff.mp h
    by_contra hrest
    -- with a part behind it, the first label would have its dot
    have hhost := congrArg (Text.joinWith '.') hparts
    rw [Text.joinWith_divide, ← List.singleton_append, Text.joinWith_append (List.cons_ne_nil _ _)
      (fun hnil => hrest (by rw [hnil, List.map_nil]))] at hhost
    have hwww : first = ['w', 'w', 'w'] := by rw [← String.toList_ofList (l := first), hfirst]; rfl
    exact hnot _ (by rw [hhost, hwww]; rfl)

/-- The domain of an address lets pass whatever has a host that ends in the labels of its own. -/
theorem domainAllowed_below {start url : Url} {host below : String} {domains : List String}
    (h : domainsOf start = some domains) (hosted : start.hostText? = some host)
    (hbelow : url.hostText? = some below) (ends : labels host <:+ labels below) :
    domainAllowed url domains = true := by
  obtain ⟨n, hlabels⟩ := labels_withoutWww host.toList
  rw [String.ofList_toList] at hlabels
  rw [domainsOf, hosted, Option.map_some, Option.some.injEq] at h
  have hsuffix : labels (String.ofList (withoutWww host.toList)) <:+ labels host := by
    rw [hlabels]
    exact List.suffix_append _ _
  exact domainAllowed_iff.mpr ⟨below, hbelow, _, h ▸ List.mem_singleton_self _,
    hsuffix.trans ends⟩

theorem domainAllowed_domainsOf {start : Url} {domains : List String}
    (h : domainsOf start = some domains) : domainAllowed start domains = true := by
  obtain ⟨host, hosted, -⟩ := Option.map_eq_some_iff.mp h
  exact domainAllowed_below h hosted hosted List.suffix_rfl

/-- What the filter is of a spider that stays at the host of its start: one domain, whose labels
are those of the host less the `www` ones in front. Its start and every request for a host that
ends in the labels of the start's are let in as if there were no filter. -/
structure StaysHome {σ : Type} (spider : Spider σ) (start : Url) (host : String) : Prop where
  domain : ∃ n domain, spider.domains = some [domain] ∧
    labels host = List.replicate n "www" ++ labels domain ∧
    ∀ rest, labels domain = "www" :: rest → rest = []
  starts : spider.startRequests = [Request.start start]
  passes : ∀ r : Request, r ∈ spider.startRequests ∨
      (∃ below, r.url.hostText? = some below ∧ labels host <:+ labels below) →
    ∀ f : Frontier, f.admits spider.config spider.domains r = f.admits spider.config none r

theorem staysHome {σ : Type} {spider : Spider σ} {start : Url} {host : String}
    (domains : spider.domains = domainsOf start)
    (starts : spider.startRequests = [Request.start start])
    (hosted : start.hostText? = some host) : StaysHome spider start host := by
  obtain ⟨n, hlabels⟩ := labels_withoutWww host.toList
  rw [String.ofList_toList] at hlabels
  have hdomains : domainsOf start = some [String.ofList (withoutWww host.toList)] := by
    rw [domainsOf, hosted, Option.map_some]
  refine ⟨⟨n, _, domains.trans hdomains, hlabels, fun rest => labels_withoutWww_head host.toList⟩,
    starts, fun r hr f => ?_⟩
  have hallowed : domainAllowed r.url [String.ofList (withoutWww host.toList)] = true := by
    rcases hr with hr | ⟨below, hbelow, ends⟩
    · rw [starts, List.mem_singleton] at hr
      rw [hr]
      exact domainAllowed_domainsOf hdomains
    · exact domainAllowed_below hdomains hosted hbelow ends
  simp only [Frontier.admits, domains, hdomains, Option.all_some, Option.all_none, hallowed]

/-- An address lies in one of some domains exactly if it has a host that ends in the labels of one
of them. So the domain that the dictionary, movies and sounds spiders take from their start keeps
out neither the start nor any host below it. -/
theorem domains_by_labels :
    (∀ (url : Url) (domains : List String), domainAllowed url domains = true ↔
      ∃ host, url.hostText? = some host ∧ ∃ domain ∈ domains, labels domain <:+ labels host) ∧
    ∀ (start : Url) (host : String), start.hostText? = some host →
      (∀ config, StaysHome (Dictionary.spider start config) start host) ∧
      (∀ rules config, StaysHome (Movies.spider rules start config) start host) ∧
      ∀ config, StaysHome (Sounds.spider start config) start host :=
  ⟨fun _ _ => domainAllowed_iff, fun _ _ hosted =>
    ⟨fun _ => staysHome rfl rfl hosted, fun _ _ => staysHome rfl rfl hosted,
      fun _ => staysHome rfl rfl hosted⟩⟩

def siteAt (host : String) : Url where
  scheme := "https"
  authority := some { host := some (.domain host) }
  path := .rooted [""]

/-- A host with two `www` labels in front and an empty one behind, a host below it, and one that
only ends in the same letters. -/
theorem domains_by_labels_sample :
    (Sounds.spider (siteAt "www.www.b.org.") {}).domains = some ["b.org."] ∧
      ({} : Frontier).admits {} (some ["b.org."]) { url := siteAt "m.www.www.b.org." } = true ∧
      ¬domainAllowed (siteAt "ab.org.") ["b.org."] = true := by
  obtain ⟨hlabels, hhome⟩ := domains_by_labels
  obtain ⟨-, -, hsounds⟩ := hhome (siteAt "www.www.b.org.") "www.www.b.org." rfl
  have hdomains : (Sounds.spider (siteAt "www.www.b.org.") {}).domains = some ["b.org."] := by
    decide +kernel
  refine ⟨hdomains, ?_, ?_⟩
  · have hpasses := (hsounds {}).passes { url := siteAt "m.www.www.b.org." }
      (.inr ⟨"m.www.www.b.org.", rfl, by decide +kernel⟩) {}
    rw [hdomains] at hpasses
    exact hpasses
  · rw [hlabels]
    rintro ⟨host, hhost, domain, hdomain, hsuffix⟩
    obtain rfl := Option.some.inj hhost
    rw [List.mem_singleton.mp hdomain] at hsuffix
    revert hsuffix
    decide +kernel

end SiteSpiders
