import SiteSpiders.Proofs.Dictionary.Calls

/-!
# Reading a list page

Every link of a list page is checked once, in page order. A link whose name is absent becomes
a request, one whose name is stored is counted as a duplicate, and one whose check fails as a
failure of the store, so that nothing is lost and nothing counted twice. The links are those
of the anchors with a target that resolves and a title, and an anchor that lacks one of them
does not disturb the others.
-/
namespace SiteSpiders.Dictionary

open Html Storage

/-! ## Links and anchors -/

/-- Whether a link is that of an anchor: its target, resolved, and its title. -/
structure LinkOf (base : Url) (anchor : Node) (link : CharacterLink) : Prop where
  titled : anchor.attribute? "title" = some link.name
  leads : ∃ href, anchor.attribute? "href" = some href ∧ base.follow href = some link.url

/-- Whether an anchor has a title, and a target that resolves. -/
def complete (base : Url) (anchor : Node) : Bool :=
  (anchor.attribute? "title").isSome && ((anchor.attribute? "href").bind base.follow).isSome

variable {base : Url} {anchor : Node} {link : CharacterLink}

theorem characterLink?_eq_some_iff :
    characterLink? base anchor = some link ↔ LinkOf base anchor link := by
  constructor
  · intro h
    simp only [characterLink?, Option.bind_eq_bind, Option.pure_def, Option.bind_eq_some_iff,
      Option.some.injEq] at h
    obtain ⟨href, hhref, name, htitle, url, hurl, rfl⟩ := h
    exact ⟨htitle, href, hhref, hurl⟩
  · rintro ⟨htitle, href, hhref, hurl⟩
    simp [characterLink?, htitle, hhref, hurl]

theorem isSome_characterLink? : (characterLink? base anchor).isSome = complete base anchor := by
  unfold characterLink? complete
  cases anchor.attribute? "href" with
  | none => simp
  | some href =>
    cases anchor.attribute? "title" with
    | none => rfl
    | some name => cases h : base.follow href <;> simp [h]

/-- The links of a page are those of its complete anchors, one by one. -/
theorem forall₂_characterLinks (page : Document) (base : Url) :
    List.Forall₂ (LinkOf base) ((page.select characterItems).filter (complete base))
      (characterLinks page base) := by
  unfold characterLinks
  induction page.select characterItems with
  | nil => exact .nil
  | cons anchor rest ih =>
    cases hlink : characterLink? base anchor with
    | none =>
      have hcomplete : complete base anchor = false := by
        rw [← isSome_characterLink?, hlink]
        rfl
      rwa [List.filterMap_cons_none hlink, List.filter_cons_of_neg (by simp [hcomplete])]
    | some link =>
      have hcomplete : complete base anchor = true := by
        rw [← isSome_characterLink?, hlink]
        rfl
      rw [List.filterMap_cons_some hlink, List.filter_cons_of_pos hcomplete]
      exact .cons (characterLink?_eq_some_iff.mp hlink) ih

/-! ## Checks in turn -/

/-- Whether a name was answered to be stored. -/
def Called.finds : Called → Bool
  | .check _ (.ok true) => true
  | _ => false

/-- A store after some calls that left it as it was. -/
def GuardedStore.after (g : GuardedStore) (calls : Nat) : GuardedStore :=
  { g with calls := g.calls + calls }

theorem GuardedStore.after_after (g : GuardedStore) (calls later : Nat) :
    (g.after calls).after later = g.after (later + calls) := by
  rw [after, after, after, Nat.add_assoc, Nat.add_comm calls]

theorem GuardedStore.knows_snd (g : GuardedStore) (name : String) :
    (g.knows name).2 = g.after 1 := by
  unfold knows
  split_ifs <;> rfl

/-- The checks of some links in turn, with the answers of the store. -/
def checks (g : GuardedStore) (links : List CharacterLink) : List Called :=
  links.mapIdx fun earlier link => .check link ((g.after earlier).knows link.name).1

theorem checks_cons (g : GuardedStore) (link : CharacterLink) (rest : List CharacterLink) :
    checks g (link :: rest) =
      .check link (g.knows link.name).1 :: checks (g.after 1) rest := by
  simp only [checks, List.mapIdx_cons, GuardedStore.after_after]
  rfl

@[simp] theorem length_checks (g : GuardedStore) (links : List CharacterLink) :
    (checks g links).length = links.length := by
  rw [checks, List.length_mapIdx]

/-- A check finds its name absent, finds it stored, or fails. -/
theorem length_absent_add_finds_add_fails (g : GuardedStore) (links : List CharacterLink) :
    ((checks g links).filterMap Called.absent?).length + (checks g links).countP Called.finds +
      (checks g links).countP Called.fails = links.length := by
  induction links generalizing g with
  | nil => rfl
  | cons link rest ih =>
    have ih := ih (g.after 1)
    rw [checks_cons, List.filterMap_cons, List.countP_cons, List.countP_cons, List.length_cons]
    -- the three answers add to one of the three numbers each
    rcases (g.knows link.name).1 with fault | known
    · simp only [Called.absent?, Called.finds, Called.fails, Bool.false_eq_true, if_true, if_false]
      omega
    · cases known
      · simp only [Called.absent?, Called.finds, Called.fails, Bool.false_eq_true, if_false,
          List.length_cons]
        omega
      · simp only [Called.absent?, Called.finds, Called.fails, Bool.false_eq_true, if_true,
          if_false]
        omega

def afterChecks (desk : DictionaryDesk) (calls : List Called) : DictionaryDesk where
  stats :=
    { desk.stats with
      duplicatesSkipped := desk.stats.duplicatesSkipped + calls.countP Called.finds
      storageErrors := desk.stats.storageErrors + calls.countP Called.fails }
  store := desk.store.after calls.length

theorem afterChecks_cons (desk : DictionaryDesk) (call : Called) (calls : List Called) :
    afterChecks desk (call :: calls) = afterChecks (afterChecks desk [call]) calls := by
  simp only [afterChecks, GuardedStore.after_after, List.countP_cons, List.countP_nil,
    List.length_cons, List.length_nil, Nat.zero_add, Nat.add_comm, Nat.add_left_comm]

/-- Checking links leads to a request for each that is absent, after those found before. -/
theorem run_checkLinks (depth : Nat) (links : List CharacterLink) (found : List Request)
    (desk : DictionaryDesk) :
    (checkLinks depth links found).run desk =
      (.proceed (found ++ ((checks desk.store links).filterMap Called.absent?).map
        (characterRequest depth)), afterChecks desk (checks desk.store links)) := by
  induction links generalizing found desk with
  | nil => simp [checkLinks, Reading.run, checks, afterChecks, GuardedStore.after]
  | cons link rest ih =>
    simp only [checkLinks, Reading.ask, Reading.run, GuardedStore.knows_snd, checks_cons]
    rw [afterChecks_cons]
    -- each answer goes on from the desk after its own check
    rcases (desk.store.knows link.name).1 with fault | known
    · exact ih found (afterChecks desk [.check link (.error fault)])
    · cases known with
      | false =>
        have hrest := ih (found ++ [characterRequest depth link])
          (afterChecks desk [.check link (.ok false)])
        rw [List.append_assoc] at hrest
        exact hrest
      | true => exact ih found (afterChecks desk [.check link (.ok true)])

/-! ## The account of a page -/

/-- Whether a request asks for the page of a link at a depth, and sends its name along. -/
structure LinkRequest (depth : Nat) (link : CharacterLink) (r : Request) : Prop where
  url : r.url = link.url
  stage : r.stage = .character
  depth : r.depth = depth
  headers : r.headers = []
  recovered : r.readNote readName = .ok (some link.name)

/-- What becomes of the links of a list page: which anchors they belong to, which of them are
requested, and what is counted of the others. -/
structure ListAccount (p : Response) (links : List CharacterLink) (desk : DictionaryDesk)
    (requests : List Request) (desk' : DictionaryDesk) : Prop where
  anchors : List.Forall₂ (LinkOf p.url)
    (((Html.parse p.body).select characterItems).filter (complete p.url)) links
  requested : List.Forall₂ (LinkRequest (p.request.depth + 1))
    ((checks desk.store links).filterMap Called.absent?) requests
  counted : desk' = afterChecks desk (checks desk.store links)
  total : requests.length + desk'.stats.duplicatesSkipped + desk'.stats.storageErrors =
    links.length + desk.stats.duplicatesSkipped + desk.stats.storageErrors

/-- A list page is read to the end whatever the store answers, and no link of it is lost. -/
theorem read_list_accounts {p : Response} (desk : DictionaryDesk)
    (stage : p.request.stage = .characterList) (room : p.request.depth + 1 < wordBound) :
    ∃ requests desk', (read p).run desk = (.proceed requests, desk') ∧
      ListAccount p (characterLinks (Html.parse p.body) p.url) desk requests desk' := by
  simp only [read, stage, Response.nextDepth_of_lt room]
  generalize hlinks : characterLinks (Html.parse p.body) p.url = links
  have hsum := length_absent_add_finds_add_fails desk.store links
  refine ⟨_, _, run_checkLinks _ links [] desk, ?_, ?_, rfl, ?_⟩
  · rw [← hlinks]
    exact forall₂_characterLinks _ _
  · rw [List.nil_append, List.forall₂_map_right_iff]
    refine List.forall₂_same.mpr fun link _ => ?_
    exact ⟨rfl, rfl, rfl, rfl, readNote_characterRequest _ link⟩
  · rw [List.nil_append, List.length_map]
    simp only [afterChecks]
    omega

/-- A list page on which one anchor lacks a title, one a target and one a target that resolves. -/
def patchyListed : String :=
  "<div class=box_content><div><a href=/v></a><a href=/w title=啊></a><a title=吖></a>" ++
    "<a href=' /x ' title=吖></a><a href=http:// title=阿></a><a href=/y title=阿></a>" ++
    "<a href=/z title=啊>"

/-- A store that holds one of the names of that page and refuses the check of another. -/
def patchyDesk : DictionaryDesk where
  store := { store := .ofNames ["吖"], fails := fun _ what => what = .knows "阿" }

def patchyPage : Response where
  url := sampleHome
  status := 200
  body := patchyListed
  request := { url := sampleHome, stage := .characterList, depth := 2 }

def patchyLinks : List CharacterLink :=
  characterLinks (Html.parse patchyPage.body) patchyPage.url

/-- Of seven anchors four are complete: two of them are requested, one is known, and one cannot be
checked. -/
theorem read_list_accounts_sample :
    ((Html.parse patchyPage.body).select characterItems).length = 7 ∧ patchyLinks.length = 4 ∧
      ∃ requests desk', (read patchyPage).run patchyDesk = (.proceed requests, desk') ∧
        ListAccount patchyPage patchyLinks patchyDesk requests desk' ∧ requests.length = 2 ∧
        desk'.stats.duplicatesSkipped = 1 ∧ desk'.stats.storageErrors = 1 := by
  obtain ⟨requests, desk', hread, account⟩ :=
    read_list_accounts (p := patchyPage) patchyDesk rfl (by decide)
  have account : ListAccount patchyPage patchyLinks patchyDesk requests desk' := account
  obtain ⟨hanchors, hlinks, habsent, hfinds, hfails⟩ :
      ((Html.parse patchyPage.body).select characterItems).length = 7 ∧ patchyLinks.length = 4 ∧
        ((checks patchyDesk.store patchyLinks).filterMap Called.absent?).length = 2 ∧
        (checks patchyDesk.store patchyLinks).countP Called.finds = 1 ∧
        (checks patchyDesk.store patchyLinks).countP Called.fails = 1 := by
    decide +kernel
  refine ⟨hanchors, hlinks, requests, desk', hread, account,
    account.requested.length_eq.symm.trans habsent, ?_, ?_⟩
  · rw [account.counted]
    simp only [afterChecks, hfinds]
    rfl
  · rw [account.counted]
    simp only [afterChecks, hfails]
    rfl

end SiteSpiders.Dictionary
