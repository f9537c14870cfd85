import Mathlib.Data.List.Forall2
import SiteSpiders.Dictionary.Entry
import SiteSpiders.Proofs.Text.Cleaning

/-!
# The fields of a character

A page is a tree of any shape. What is counted in it are the children of an element that pass a
test, so that all numbers of blocks, paragraphs and labels mean one thing. The label of the first
hidden blocks decides by how much the general text is shifted, and the general text is put together
from one contribution of each container. Containers come in the order in which they were made, which
is not the order of the page where an element was moved in front of an older one.
-/
namespace SiteSpiders.Dictionary

open Html Text

lemma normalize_blank : Text.normalize "" = "" :=
  normalize_of_clean ⟨by simp, by simp [lineBreakMarker]⟩

section Numbered

variable {α : Type} {test : α → Bool} {xs : List α} {x y : α} {n : Nat}

/-- Whether an element is the one of a number, from one on, among those of a list that pass a
test. -/
def Numbered (test : α → Bool) (xs : List α) (n : Nat) (x : α) : Prop :=
  ∃ before after, xs = before ++ x :: after ∧ test x = true ∧ before.countP test + 1 = n

theorem numbered_cons {a : α} :
    Numbered test (a :: xs) n x ↔
      (x = a ∧ test a = true ∧ n = 1) ∨ Numbered test xs (n - [a].countP test) x := by
  constructor
  · rintro ⟨before, after, heq, hx, hcount⟩
    cases before with
    | nil =>
      obtain ⟨rfl, rfl⟩ := List.cons.inj heq
      exact Or.inl ⟨rfl, hx, hcount.symm⟩
    | cons b before =>
      obtain ⟨rfl, rfl⟩ := List.cons.inj heq
      refine Or.inr ⟨before, after, rfl, hx, ?_⟩
      rw [← List.singleton_append, List.countP_append] at hcount
      omega
  · rintro (⟨rfl, hx, rfl⟩ | ⟨before, after, rfl, hx, hcount⟩)
    · exact ⟨[], xs, rfl, hx, rfl⟩
    · refine ⟨a :: before, after, rfl, hx, ?_⟩
      rw [← List.singleton_append, List.countP_append]
      omega

lemma not_numbered_zero : ¬Numbered test xs 0 x := fun ⟨_, _, _, _, hcount⟩ => nomatch hcount

theorem getElem?_filter_eq_some_iff :
    (xs.filter test)[n]? = some x ↔ Numbered test xs (n + 1) x := by
  induction xs generalizing n with
  | nil => simp [Numbered]
  | cons a xs ih =>
    rw [numbered_cons]
    by_cases ha : test a = true
    · cases n with
      | zero => simp [ha, not_numbered_zero, eq_comm]
      | succ n => simp [ha, ih]
    · simp [ha, ih]

theorem Numbered.unique (hx : Numbered test xs n x) (hy : Numbered test xs n y) : x = y := by
  obtain ⟨n, rfl⟩ : ∃ k, n = k + 1 := by
    obtain ⟨before, -, -, -, hcount⟩ := hx
    exact ⟨_, hcount.symm⟩
  rw [← getElem?_filter_eq_some_iff] at hx hy
  exact Option.some.inj (hx.symm.trans hy)

end Numbered

/-- Whether a node is an element with a tag name. -/
def isNamed (name : String) (n : Node) : Bool := n.name? == some name

/-- Whether a node is a hidden block: its class is the hidden one and nothing else. -/
def isHidden (n : Node) : Bool := isNamed "div" n && n.attribute? "class" == some hiddenClass

/-- Whether a node is a container of a character's texts. -/
def isContainer (n : Node) : Bool := isNamed "div" n && n.attribute? "class" == some "cont_hzcx"

/-- The elements of a page that have a parent, in page order. -/
def elementsOf (page : Document) : List Node :=
  page.paths.filterMap fun path => path.head?.map (·.node)

/-- The containers of a page in page order. -/
def containersOf (page : Document) : List Node := (elementsOf page).filter isContainer

/-- The containers of a page in the order in which they were made. -/
def containersMade (page : Document) : List Node :=
  (containersOf page).mergeSort fun a b => a.order ≤ b.order

/-- Whether some paragraph right in the first hidden block of a container has a `b` child of a
number with a text right in it. -/
def Labelled (page : Document) (k : Nat) : Prop :=
  ∃ container ∈ containersOf page, ∃ block p b text,
    Numbered isHidden container.children 1 block ∧ p ∈ block.children ∧ isNamed "p" p = true ∧
      Numbered (isNamed "b") p.children k b ∧ Node.text text ∈ b.children

/-- Whether an element is the first paragraph of the hidden block of a number in a container. -/
def Leads (k : Nat) (container p : Node) : Prop :=
  ∃ block, Numbered isHidden container.children k block ∧
    Numbered (isNamed "p") block.children 1 p

/-- What a container contributes to the general text in the hidden blocks of a number. -/
inductive Contributes (k : Nat) (container : Node) : String → Prop
  | text {p : Node} (leads : Leads k container p) :
    Contributes k container (String.join p.directTexts)
  | nothing (none_ : ∀ p, ¬Leads k container p) : Contributes k container ""

theorem hiddenBlocksIn_eq (container : Node) :
    hiddenBlocksIn container = container.children.filter isHidden := by
  simp only [hiddenBlocksIn, Node.childrenNamed, List.filter_filter]
  exact List.filter_congr fun n _ => Bool.and_comm _ _

theorem mem_directTexts {n : Node} {text : String} :
    text ∈ n.directTexts ↔ Node.text text ∈ n.children := by
  simp only [Node.directTexts, List.mem_filterMap]
  constructor
  · rintro ⟨m, hm, htext⟩
    cases m with
    | text content =>
      obtain rfl := Option.some.inj htext
      exact hm
    | element => cases htext
    | comment => cases htext
  · intro htext
    exact ⟨_, htext, rfl⟩

section Selection

/-- A selection of one step filters the elements. -/
theorem filterMap_stepsAccept (step : SelectorStep) (paths : List (List Spot)) (test : Node → Bool)
    (h : ∀ spot, step.all (·.accepts spot) = test spot.node) :
    (paths.filter (stepsAccept [step])).filterMap (fun path => path.head?.map (·.node)) =
      (paths.filterMap fun path => path.head?.map (·.node)).filter test := by
  induction paths with
  | nil => rfl
  | cons path paths ih =>
    cases path with
    | nil => exact ih
    | cons spot above =>
      by_cases hspot : test spot.node = true
      · simp [stepsAccept, h, hspot, ih]
      · simp [stepsAccept, h, hspot, ih]

theorem select_containers (page : Document) : page.select containers = containersMade page := by
  have hstep : ∀ spot : Spot, (divOfClass "cont_hzcx").all (·.accepts spot) =
      isContainer spot.node := fun spot => by
    simp [divOfClass, Test.accepts, isContainer, isNamed]
  have hfilter := filterMap_stepsAccept _ page.paths isContainer hstep
  rw [containersMade, containersOf, elementsOf, ← hfilter, ← Sorting.sortBy_eq_mergeSort]
  rfl

theorem mem_select_containers {page : Document} {container : Node} :
    container ∈ page.select containers ↔ container ∈ containersOf page := by
  rw [select_containers, containersMade, List.mem_mergeSort]

end Selection

theorem mem_hiddenBlocks {page : Document} {n : Nat} {block : Node} :
    block ∈ hiddenBlocks page (n + 1) ↔
      ∃ container ∈ containersOf page, Numbered isHidden container.children (n + 1) block := by
  simp only [hiddenBlocks, List.mem_filterMap, mem_select_containers, hiddenBlocksIn_eq,
    getElem?_filter_eq_some_iff]

theorem hasLabel_iff {page : Document} {k : Nat} :
    hasLabel (detailParagraphs page) k = true ↔ Labelled page (k + 1) := by
  have hb : ∀ p : Node, ((p.childrenNamed "b")[k]?).any (fun b => !b.directTexts.isEmpty) = true ↔
      ∃ b text, Numbered (isNamed "b") p.children (k + 1) b ∧ Node.text text ∈ b.children := by
    intro p
    simp only [Option.any_eq_true, ← mem_directTexts, ← getElem?_filter_eq_some_iff]
    refine exists_congr fun b => ?_
    rw [exists_and_left]
    refine and_congr_right fun _ => ?_
    rw [Bool.not_eq_true', List.isEmpty_eq_false_iff_exists_mem]
  simp only [hasLabel, detailParagraphs, List.any_eq_true, List.mem_flatMap, mem_hiddenBlocks, hb]
  constructor
  · rintro ⟨p, ⟨block, ⟨container, hcontainer, hblock⟩, hp⟩, b, text, hb, htext⟩
    obtain ⟨hchild, hname⟩ := List.mem_filter.mp hp
    exact ⟨container, hcontainer, block, p, b, text, hblock, hchild, hname, hb, htext⟩
  · rintro ⟨container, hcontainer, block, p, b, text, hblock, hchild, hname, hb, htext⟩
    exact ⟨p, ⟨block, ⟨container, hcontainer, hblock⟩, List.mem_filter.mpr ⟨hchild, hname⟩⟩, b,
      text, hb, htext⟩

section Contributions

variable {k : Nat} {container p q : Node} {part other : String}

theorem Leads.unique (hp : Leads k container p) (hq : Leads k container q) : p = q := by
  obtain ⟨block, hblock, hp⟩ := hp
  obtain ⟨block', hblock', hq⟩ := hq
  obtain rfl := hblock.unique hblock'
  exact hp.unique hq

theorem Contributes.unique (h : Contributes k container part) (h' : Contributes k container other) :
    part = other := by
  cases h with
  | text hp =>
    cases h' with
    | text hq => rw [hp.unique hq]
    | nothing hnone => exact absurd hp (hnone _)
  | nothing hnone =>
    cases h' with
    | text hq => exact absurd hq (hnone _)
    | nothing => rfl

/-- The first paragraph of a hidden block, for a number of blocks counted from zero. -/
def lead? (n : Nat) (container : Node) : Option Node :=
  (hiddenBlocksIn container)[n]?.bind fun block => (block.childrenNamed "p").head?

/-- What a container contributes, for a number of blocks counted from zero. -/
def contribution (n : Nat) (container : Node) : String :=
  ((lead? n container).map fun p => String.join p.directTexts).getD ""

theorem lead?_eq_some_iff {n : Nat} : lead? n container = some p ↔ Leads (n + 1) container p := by
  simp only [lead?, Leads, Option.bind_eq_some_iff, hiddenBlocksIn_eq, getElem?_filter_eq_some_iff]
  refine exists_congr fun block => and_congr_right fun _ => ?_
  rw [List.head?_eq_getElem?]
  exact getElem?_filter_eq_some_iff

theorem contributes_iff {n : Nat} :
    Contributes (n + 1) container part ↔ part = contribution n container := by
  have hspec : Contributes (n + 1) container (contribution n container) := by
    unfold contribution
    cases hlead : lead? n container with
    | some p => exact .text (lead?_eq_some_iff.mp hlead)
    | none =>
      refine .nothing fun p hp => ?_
      rw [← lead?_eq_some_iff, hlead] at hp
      cases hp
  constructor
  · intro h
    exact h.unique hspec
  · rintro rfl
    exact hspec

theorem forall₂_contributes_iff {n : Nat} {found : List Node} {parts : List String} :
    List.Forall₂ (Contributes (n + 1)) found parts ↔ parts = found.map (contribution n) := by
  induction found generalizing parts with
  | nil => simp
  | cons container found ih => cases parts <;> simp [contributes_iff, ih]

theorem generalText_eq (page : Document) (n : Nat) :
    generalText page (n + 1) =
      Text.normalize (String.join ((containersMade page).map (contribution n))) := by
  have hleads : ((hiddenBlocks page (n + 1)).filterMap fun b => (b.childrenNamed "p").head?) =
      (containersMade page).filterMap (lead? n) := by
    rw [hiddenBlocks, List.filterMap_filterMap, select_containers]
    rfl
  have hjoin : ∀ found : List Node, String.join ((found.filterMap (lead? n)).flatMap
      Node.directTexts) = String.join (found.map (contribution n)) := by
    intro found
    induction found with
    | nil => rfl
    | cons container found ih =>
      rw [List.map_cons, String.join_cons, ← ih, contribution]
      cases hlead : lead? n container with
      | none => simp [hlead]
      | some p => simp [hlead]
  rw [generalText, hleads, joined, hjoin]

theorem generalText_of_missing {page : Document} {n : Nat}
    (h : ∀ container ∈ containersOf page, ∀ p, ¬Leads (n + 1) container p) :
    generalText page (n + 1) = "" := by
  have hcontribution : ∀ container ∈ containersMade page, contribution n container = "" := by
    intro container hmade
    have hmem : container ∈ containersOf page := List.mem_mergeSort.mp hmade
    exact (contributes_iff.mp (.nothing (h container hmem))).symm
  have hjoin : ∀ found : List Node, String.join (found.map fun _ => "") = "" := by
    intro found
    induction found with
    | nil => rfl
    | cons _ found ih => rw [List.map_cons, String.join_cons, ih, String.append_empty]
  rw [generalText_eq, List.map_congr_left hcontribution, hjoin, normalize_blank]

end Contributions

section Missing

variable {page : Document}

theorem shift_eq_zero_iff : (detailed page).shift = 0 ↔ Labelled page 1 := by
  rw [← hasLabel_iff, detailed, detailedOf]
  by_cases h : hasLabel (detailParagraphs page) 0 = true <;> simp [h]

/-- A meaning without its label is empty, and so is a change of word class. -/
theorem meaning_of_not_labelled (h : ¬Labelled page 1) : (detailed page).meaning = "" := by
  rw [← hasLabel_iff] at h
  exact if_neg h

theorem wordClass_of_not_labelled (h : ¬Labelled page 3) : (detailed page).wordClass = "" := by
  rw [← hasLabel_iff] at h
  exact if_neg h

theorem directTextsOf_of_forall {selector : Selector}
    (h : ∀ n ∈ page.select selector, n.directTexts = []) : directTextsOf page selector = [] := by
  rw [directTextsOf, List.flatMap_eq_nil_iff]
  exact h

theorem basicDefinition_cases (page : Document) :
    basicDefinition page = "" ∨ ∃ layout text, Layout.extract page layout = some text ∧
      basicDefinition page = Text.normalize text := by
  unfold basicDefinition
  split
  · rename_i text hfound
    obtain ⟨layout, -, hlayout⟩ := List.exists_of_findSome?_eq_some hfound
    exact Or.inr ⟨layout, text, hlayout, rfl⟩
  · exact Or.inl rfl

/-- The basic definition is empty if each layout lacks its heading or its paragraphs. -/
theorem basicDefinition_of_missing
    (hheading : page.select headingItems = [] ∨ page.select firstParagraph = [])
    (hnavigation : page.select navigationItems = [] ∨ page.select laterParagraphs = []) :
    basicDefinition page = "" := by
  rcases basicDefinition_cases page with hempty | ⟨layout, text, hlayout, heq⟩
  · exact hempty
  suffices htext : text = "" by rw [heq, htext, normalize_blank]
  cases layout with
  | heading =>
    simp only [Layout.extract, Option.ite_none_right_eq_some, Option.some.injEq] at hlayout
    obtain ⟨hlabel, rfl⟩ := hlayout
    rcases hheading with hnone | hnone
    · simp [directTextsOf, hnone, firstMeaningful] at hlabel
    · simp [hnone, joined]
  | navigation =>
    simp only [Layout.extract, Option.ite_none_right_eq_some, Option.some.injEq] at hlayout
    obtain ⟨hlabel, rfl⟩ := hlayout
    rcases hnavigation with hnone | hnone
    · simp [hnone, firstMeaningful] at hlabel
    · simp [directTextsOf, hnone, joined]

end Missing

/-- The texts of an entry but its name. -/
def Entry.fields (e : Entry) : List String :=
  [e.pinyin, e.strokes, e.radical, e.basicDefinition, e.detailedMeaning, e.wordClassChange,
    e.homophones, e.general]

/-- How the fields of a character follow from the tree of its page. -/
structure ReadFrom (page : Document) (d : CharacterDetail) : Prop where
  /-- The general text is shifted by one block at most, and by none just if the first label is
  there. -/
  shift_le : d.detailed.shift = 0 ∨ d.detailed.shift = 1
  shift_eq_zero_iff : d.detailed.shift = 0 ↔ Labelled page 1
  /-- The number of the block with the general text is defined. -/
  block : generalBlock? d.detailed.shift = some (if d.detailed.shift = 0 then 2 else 1)
  /-- The general text is put together from one contribution of each container. -/
  general : ∃ parts, List.Forall₂ (Contributes (2 - d.detailed.shift)) (containersMade page) parts ∧
    d.general = Text.normalize (String.join parts)
  clean : ∀ name, ∀ text ∈ (Entry.ofDetail name d).fields, Text.normalize text = text
  no_pinyin : (∀ item ∈ page.select (factItem 1), item.directTexts = []) → d.pinyin = ""
  no_strokes : (∀ item ∈ page.select (factItem 4), item.directTexts = []) → d.strokes = ""
  no_radical : (∀ item ∈ page.select (factItem 7), item.directTexts = []) → d.radical = ""
  no_basicDefinition : page.select headingItems = [] ∨ page.select firstParagraph = [] →
    page.select navigationItems = [] ∨ page.select laterParagraphs = [] → d.basicDefinition = ""
  no_meaning : ¬Labelled page 1 → d.detailed.meaning = ""
  no_wordClass : ¬Labelled page 3 → d.detailed.wordClass = ""
  no_homophones : (∀ link ∈ page.select homophoneLinks, link.directTexts = []) → d.homophones = ""
  no_general : (∀ container ∈ containersOf page, ∀ p, ¬Leads (2 - d.detailed.shift) container p) →
    d.general = ""

/-- Every field of an entry is cleaned, or has been left empty. -/
theorem normalize_of_mem_fields {page : Document} {name text : String}
    (h : text ∈ (Entry.ofDetail name (CharacterDetail.ofPage page)).fields) :
    Text.normalize text = text := by
  have hbasic : Text.normalize (basicDefinition page) = basicDefinition page := by
    rcases basicDefinition_cases page with hempty | ⟨layout, text, -, heq⟩
    · rw [hempty, normalize_blank]
    · rw [heq, normalize_normalize]
  have hmeaning : Text.normalize (detailed page).meaning = (detailed page).meaning := by
    simp only [detailed, detailedOf, meaningOf]
    split_ifs
    · exact normalize_normalize _
    · exact normalize_blank
  have hwordClass : Text.normalize (detailed page).wordClass = (detailed page).wordClass := by
    simp only [detailed, detailedOf, wordClassOf]
    split_ifs
    · exact normalize_normalize _
    · exact normalize_blank
  simp only [Entry.fields, Entry.ofDetail, CharacterDetail.ofPage, generalText, List.mem_cons,
    List.not_mem_nil, or_false] at h
  rcases h with rfl | rfl | rfl | rfl | rfl | rfl | rfl | rfl
  · exact normalize_normalize _
  · exact normalize_normalize _
  · exact normalize_normalize _
  · exact hbasic
  · exact hmeaning
  · exact hwordClass
  · exact normalize_normalize _
  · exact normalize_normalize _

/-- On every page, the general text is shifted just if the first label is missing, is put together
from the first paragraphs of the hidden blocks of one number, and every field is clean, and empty
if its markup is missing. Containers come in the order in which they were made, which is page order
where no container stands in front of an older one. -/
theorem fields_read (page : Document) :
    ReadFrom page (CharacterDetail.ofPage page) ∧
      ((containersOf page).Pairwise (fun a b => a.order ≤ b.order) →
        containersMade page = containersOf page) := by
  have hshift : (detailed page).shift = 0 ∨ (detailed page).shift = 1 := by
    simp only [detailed, detailedOf]
    split_ifs
    · exact Or.inl rfl
    · exact Or.inr rfl
  have hfirst : ∀ n, (∀ item ∈ page.select (factItem n), item.directTexts = []) →
      Text.normalize (firstDirectText page (factItem n)) = "" := by
    intro n hnone
    rw [firstDirectText, directTextsOf_of_forall hnone]
    exact normalize_blank
  obtain ⟨n, hn⟩ : ∃ n, 2 - (detailed page).shift = n + 1 := ⟨1 - (detailed page).shift, by omega⟩
  have htext : (CharacterDetail.ofPage page).general = generalText page (n + 1) := by
    rw [← hn]
    rfl
  refine ⟨⟨hshift, shift_eq_zero_iff, ?_, ?_, fun name text => normalize_of_mem_fields, hfirst 1,
    hfirst 4, hfirst 7, basicDefinition_of_missing, meaning_of_not_labelled,
    wordClass_of_not_labelled, ?_, ?_⟩, fun hsorted => ?_⟩
  · have hblock : ∀ shift : Nat, shift = 0 ∨ shift = 1 →
        generalBlock? shift = some (if shift = 0 then 2 else 1) := by
      rintro shift (rfl | rfl) <;> rfl
    exact hblock _ hshift
  · exact ⟨_, hn ▸ forall₂_contributes_iff.mpr rfl, htext.trans (generalText_eq page n)⟩
  · intro hnone
    have hempty : joined (directTextsOf page homophoneLinks) = "" := by
      rw [directTextsOf_of_forall hnone]
      rfl
    exact (congrArg Text.normalize hempty).trans normalize_blank
  · intro hnone
    have hleads : ∀ container ∈ containersOf page, ∀ p, ¬Leads (n + 1) container p := hn ▸ hnone
    exact htext.trans (generalText_of_missing hleads)
  · exact List.mergeSort_of_pairwise (hsorted.imp fun h => by simpa using h)

/-- A page whose second container is moved in front of the table in which it stands. -/
def movedPage : String :=
  "<table><tr><td><div class=\"cont_hzcx\"><div class=\"zi_text_content hide\"><p>甲</p></div>" ++
    "</div></td></tr><div class=\"cont_hzcx\"><div class=\"zi_text_content hide\"><p>乙</p></div>" ++
    "</div></table>"

/-- The general text does not always come in page order. -/
theorem general_not_in_page_order :
    (CharacterDetail.ofText movedPage).detailed.shift = 1 ∧
      (CharacterDetail.ofText movedPage).general = "甲乙" ∧
      ∀ parts, List.Forall₂ (Contributes 1) (containersOf (parse movedPage)) parts →
        (CharacterDetail.ofText movedPage).general ≠ Text.normalize (String.join parts) := by
  have computed : (CharacterDetail.ofText movedPage).detailed.shift = 1 ∧
      (CharacterDetail.ofText movedPage).general = "甲乙" ∧
      Text.normalize (String.join ((containersOf (parse movedPage)).map (contribution 0))) =
        "乙甲" := by
    decide +kernel
  obtain ⟨hshift, hgeneral, horder⟩ := computed
  refine ⟨hshift, hgeneral, fun parts hparts => ?_⟩
  rw [forall₂_contributes_iff.mp hparts, horder, hgeneral]
  decide

end SiteSpiders.Dictionary
