import SiteSpiders.Dictionary.Spider
import SiteSpiders.Proofs.Crawl.Pages

/-!
# How dictionary pages are read

The reading of a dictionary page stands at one of a few points: at a link of a list, at
the store call for a character, at a count, or at its end. What a page leads to is read
off the links of the page.
-/
namespace SiteSpiders.Dictionary

/-- How far the links of a list page were checked: those passed, those left, and the requests
found among the passed ones. -/
structure Listed (p : Response) (depth : Nat) (passed links : List CharacterLink)
    (found : List Request) : Prop where
  stage : p.request.stage = .characterList
  deep : p.nextDepth = .ok depth
  all : characterLinks (Html.parse p.body) p.url = passed ++ links
  found : found.Sublist (passed.map (characterRequest depth))

/-- Whether a page is that of a character and describes an entry. -/
structure Describes (p : Response) (e : Entry) : Prop where
  stage : p.request.stage = .character
  entry : entryOf p = .ok e

/-- Where the reading of a page can stand. -/
inductive Reads (p : Response) : Reading GuardedStore → Prop
  | finished {outcome : Outcome} (whole : read p = .done outcome) : Reads p (.done outcome)
  | check {depth : Nat} {passed links : List CharacterLink} {found : List Request}
      (listed : Listed p depth passed links found) : Reads p (checkLinks depth links found)
  | passing {depth : Nat} {passed links : List CharacterLink} {found : List Request} {what : Count}
      (listed : Listed p depth passed links found) (other : what ≠ .item) :
      Reads p (.count what (checkLinks depth links found))
  | store {e : Entry} (described : Describes p e) : Reads p (storeEntry e)
  | stored {e : Entry} {what : Count} (described : Describes p e) :
      Reads p (.count what (.done .skip))
  | kept {e : Entry} (described : Describes p e) : Reads p (.done .skip)

variable {p : Response}

/-- A link is passed, with a request for it or without. -/
theorem Listed.pass {depth : Nat} {passed rest : List CharacterLink} {link : CharacterLink}
    {found : List Request} (h : Listed p depth passed (link :: rest) found) :
    Listed p depth (passed ++ [link]) rest found ∧
      Listed p depth (passed ++ [link]) rest (found ++ [characterRequest depth link]) := by
  have all : characterLinks (Html.parse p.body) p.url = (passed ++ [link]) ++ rest := by
    rw [h.all, List.append_assoc, List.singleton_append]
  refine ⟨⟨h.stage, h.deep, all, ?_⟩, ⟨h.stage, h.deep, all, ?_⟩⟩
  · rw [List.map_append]
    exact h.found.trans (List.sublist_append_left _ _)
  · rw [List.map_append]
    exact h.found.append (List.Sublist.refl _)

/-- A page is read from the point that its stage names. -/
theorem reads_read (p : Response) : Reads p (read p) := by
  have finished : ∀ outcome, read p = .done outcome → Reads p (read p) :=
    fun outcome h => h.symm ▸ .finished h
  cases hstage : p.request.stage with
  | characterList =>
    cases hdeep : p.nextDepth with
    | error crash => exact finished (.crashed crash) (by simp only [read, hstage, hdeep])
    | ok depth =>
      have hread : read p = checkLinks depth (characterLinks (Html.parse p.body) p.url) [] := by
        simp only [read, hstage, hdeep]
      rw [hread]
      exact .check ⟨hstage, hdeep, (List.nil_append _).symm, List.nil_sublist _⟩
  | character =>
    cases hentry : entryOf p with
    | error fault => exact finished (.failed fault) (by simp only [read, hstage, hentry])
    | ok e =>
      have hread : read p = storeEntry e := by simp only [read, hstage, hentry]
      rw [hread]
      exact .store ⟨hstage, hentry⟩
  | bootstrap => exact finished (proceedAt p (pinyinRequests p)) (by simp only [read, hstage])
  | pinyinIndex => exact finished (proceedAt p (groupRequests p)) (by simp only [read, hstage])
  | item => exact finished .skip (by simp only [read, hstage])
  | custom name => exact finished .skip (by simp only [read, hstage])

/-- After an access to the desk a reading stands at a point of its page again. -/
theorem Reads.act {reading : Reading GuardedStore} (h : Reads p reading)
    {effect : DictionaryDesk → DictionaryDesk} {next : DictionaryDesk → Reading GuardedStore}
    (at_ : reading = .act effect next) (d : DictionaryDesk) : Reads p (next d) := by
  cases h with
  | finished => cases at_
  | passing => cases at_
  | stored => cases at_
  | kept => cases at_
  | @check depth passed links found listed =>
    cases links with
    | nil => cases at_
    | cons link rest =>
      cases at_
      dsimp only
      split
      · exact .check listed.pass.2
      · exact .passing listed.pass.1 (by simp)
      · exact .passing listed.pass.1 (by simp)
  | store described =>
    cases at_
    dsimp only
    split <;> exact .stored described

theorem Reads.count {reading rest : Reading GuardedStore} {what : Count} (h : Reads p reading)
    (at_ : reading = .count what rest) : Reads p rest := by
  cases h with
  | finished => cases at_
  | check _ => rename_i links _ _; cases links <;> cases at_
  | passing listed => cases at_; exact .check listed
  | store => cases at_
  | stored described => cases at_; exact .kept described
  | kept => cases at_

/-- What is left of the reading of a page stands at a point of the page. -/
theorem reads_of_rest {rest : Reading GuardedStore} (h : (read p).Rest rest) : Reads p rest := by
  induction h with
  | refl => exact reads_read p
  | act d _ ih => exact ih.act rfl d
  | count _ ih => exact ih.count rfl

/-- The requests that a page of a stage can lead to, at a depth. -/
def leads (p : Response) (depth : Nat) : List Request :=
  match p.request.stage with
  | .bootstrap => pinyinRequests p depth
  | .pinyinIndex => groupRequests p depth
  | .characterList =>
    (characterLinks (Html.parse p.body) p.url).map (characterRequest depth)
  | _ => []

/-- Where a reading ends with requests, they are some of the page's leads. -/
theorem proceed_sublist_leads {reading : Reading GuardedStore} {requests : List Request}
    (h : Reads p reading) (at_ : reading = .done (.proceed requests)) :
    ∃ depth, p.nextDepth = .ok depth ∧ requests.Sublist (leads p depth) := by
  cases h with
  | passing => cases at_
  | store => cases at_
  | stored => cases at_
  | kept => cases at_
  | @check depth passed links found listed =>
    cases links with
    | cons link rest => cases at_
    | nil =>
      cases at_
      refine ⟨depth, listed.deep, ?_⟩
      have hall := listed.all
      rw [List.append_nil] at hall
      simp only [leads, listed.stage, hall]
      exact listed.found
  | finished whole =>
    cases at_
    have hproceed : ∀ links : Nat → List Request, proceedAt p links = .proceed requests →
        ∃ depth, p.nextDepth = .ok depth ∧ links depth = requests := by
      intro links h
      unfold proceedAt at h
      split at h
      · cases h
      · rename_i depth hdeep
        exact ⟨depth, hdeep, Outcome.proceed.inj h⟩
    cases hstage : p.request.stage with
    | bootstrap =>
      simp only [read, hstage, Reading.done.injEq] at whole
      obtain ⟨depth, hdeep, rfl⟩ := hproceed _ whole
      exact ⟨depth, hdeep, by simp only [leads, hstage, List.Sublist.refl]⟩
    | pinyinIndex =>
      simp only [read, hstage, Reading.done.injEq] at whole
      obtain ⟨depth, hdeep, rfl⟩ := hproceed _ whole
      exact ⟨depth, hdeep, by simp only [leads, hstage, List.Sublist.refl]⟩
    | characterList =>
      simp only [read, hstage] at whole
      split at whole
      · cases whole
      · rename_i depth hdeep
        generalize characterLinks (Html.parse p.body) p.url = links at whole
        cases links with
        | nil =>
          cases whole
          exact ⟨depth, hdeep, List.nil_sublist _⟩
        | cons link rest => cases whole
    | character =>
      simp only [read, hstage] at whole
      split at whole <;> cases whole
    | item => simp [read, hstage] at whole
    | custom name => simp [read, hstage] at whole

end SiteSpiders.Dictionary
