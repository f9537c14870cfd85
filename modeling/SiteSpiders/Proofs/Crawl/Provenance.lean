import SiteSpiders.Proofs.Crawl.Pages

/-!
# Where requests come from

A request that the engine is offered is one of the start or was found on a page that was
fetched, read to the end and settled. So what holds of the start requests and passes from
the request of a page to the requests found on the page, holds of every request of a run.
-/
namespace SiteSpiders

variable {σ : Type}

/-- Whether a page led to a request: it was fetched with an accepted status and handed to the
spider, and its task left with the request among others. -/
structure Journal.LedTo (j : Journal) (spider : Spider σ) (site : Site) (p : Response)
    (r : Request) : Prop where
  read : p ∈ j.pages
  fetched : p.FetchedFor spider site
  left : ∃ requests, (p.request, .proceed requests) ∈ j.settled ∧ r ∈ requests

theorem Journal.LedTo.mono {j j' : Journal} {spider : Spider σ} {site : Site} {p : Response}
    {r : Request} (pages : j.pages ⊆ j'.pages) (settled : j.settled ⊆ j'.settled)
    (h : j.LedTo spider site p r) : j'.LedTo spider site p r := by
  obtain ⟨requests, hleft, hr⟩ := h.left
  exact ⟨pages h.read, h.fetched, requests, settled hleft, hr⟩

namespace Crawl.Moves

variable {spider : Spider σ} {visited : List String} {world : World σ} {c : Crawl σ}
  {hand : List Request} {j : Journal}

/-- What holds of the start requests, and of the requests that a page leads to if it holds of the
request of the page, holds of every request that the engine was offered or holds. -/
theorem forall_offered {P : (Response → Request → Prop) → Request → Prop}
    (mono : ∀ {led led' : Response → Request → Prop} {r}, (∀ p r, led p r → led' p r) →
      P led r → P led' r)
    (first : ∀ led, ∀ r ∈ spider.startRequests, P led r)
    (next : ∀ {led : Response → Request → Prop} {p requests r}, P led p.request →
      (spider.read p).Rest (.done (.proceed requests)) → r ∈ requests → led p r → P led r)
    (h : Moves spider visited world c hand j) :
    ∀ r ∈ j.offers.map (·.request) ++ hand, P (j.LedTo spider world.site) r := by
  have grow : ∀ {j j' : Journal} {r}, P (j.LedTo spider world.site) r → j.pages ⊆ j'.pages →
      j.settled ⊆ j'.settled → P (j'.LedTo spider world.site) r :=
    fun h pages settled => mono (fun _ _ => Journal.LedTo.mono pages settled) h
  induction h with
  | begin_ => exact fun r hr => first _ r (by simpa using hr)
  | offer _ ih =>
    exact fun r hr => grow (ih r (by simpa using hr)) (List.Subset.refl _) (List.Subset.refl _)
  | start _ _ _ ih => exact ih
  | advance _ _ _ ih =>
    exact fun r hr => grow (ih r hr) (List.subset_append_left _ _) (List.Subset.refl _)
  | @settle c j before after t outcome requests moves at_ ended goes ih =>
    rw [List.append_nil] at ih
    have grown : ∀ r ∈ j.offers.map (·.request),
        P ((j.left t.request outcome).LedTo spider world.site) r :=
      fun r hr => grow (ih r hr) (List.Subset.refl _) (List.subset_append_left _ _)
    intro r hr
    rcases List.mem_append.mp hr with hold | hnew
    · exact grown r hold
    · -- the page of the task that leaves was dispatched, so the engine was offered its request
      have source := moves.sourced.2.1 t (by simp [at_])
      rw [ended] at source
      cases outcome with
      | proceed requests' =>
        obtain rfl := Option.some.inj goes
        obtain ⟨p, hp, hreq, hrest⟩ := source
        obtain ⟨hfetched, hdispatched⟩ := moves.sourced.2.2.2 p hp
        have hpage := grown _ (moves.dispatched_offered hdispatched)
        exact next hpage hrest hnew ⟨hp, hfetched, requests', by simp [hreq], hnew⟩
      | stop => cases goes
      | _ =>
        obtain rfl := Option.some.inj goes
        cases hnew

end Crawl.Moves

end SiteSpiders
