import Mathlib.Data.List.Forall2
import Mathlib.Data.Nat.Digits.Defs
import SiteSpiders.Proofs.Text.Blank
import SiteSpiders.Settings

/-!
# Which settings are accepted

Every setting is read from the value of its own key. A key without a value and one with a blank
value both leave the default, so which of the two it is makes no difference, and neither do the
values of other keys. Settings are refused exactly if the spider, the number of pages or the start
has a value that means nothing, because of the first of these three.
-/
namespace SiteSpiders

/-! ## Numerals -/

/-- The number that a digit stands for. -/
def digitValue (c : Char) : Nat := c.toNat - '0'.toNat

/-- Whether a text is one or more digits, which spell a number. -/
structure Spells (digits : List Char) (n : Nat) : Prop where
  nonempty : digits ≠ []
  digit : ∀ c ∈ digits, c.isDigit = true
  value : n = Nat.ofDigits 10 (digits.reverse.map digitValue)

/-- Whether a text is a numeral of a number: digits that spell it after an optional plus sign. -/
def Denotes (text : List Char) (n : Nat) : Prop :=
  ∃ digits, Spells digits n ∧ (text = digits ∨ text = '+' :: digits)

theorem denotes_signed {digits : List Char} {n : Nat} :
    Denotes ('+' :: digits) n ↔ Spells digits n := by
  refine ⟨?_, fun spells => ⟨digits, spells, .inr rfl⟩⟩
  rintro ⟨digits', spells, rfl | hsigned⟩
  · exact absurd (spells.digit '+' List.mem_cons_self) (by decide)
  · rwa [(List.cons.inj hsigned).2]

theorem denotes_unsigned {text : List Char} {n : Nat} (unsigned : ∀ rest, text ≠ '+' :: rest) :
    Denotes text n ↔ Spells text n := by
  refine ⟨?_, fun spells => ⟨text, spells, .inl rfl⟩⟩
  rintro ⟨digits, spells, rfl | hsigned⟩
  · exact spells
  · exact absurd hsigned (unsigned digits)

theorem foldl_digits (digits : List Char) :
    digits.foldl (fun n c => n * 10 + (c.toNat - '0'.toNat)) 0 =
      Nat.ofDigits 10 (digits.reverse.map digitValue) := by
  rw [Nat.ofDigits_eq_foldr, List.foldr_map, List.foldr_reverse]
  refine congrArg (fun step => digits.foldl step 0) ?_
  funext n c
  simp only [digitValue, Nat.cast_id]
  omega

/-- Exactly the numerals of numbers that fit into a word are read, each as its number. -/
theorem readWord_eq_some_iff {text : List Char} {n : Nat} :
    readWord text = some n ↔ Denotes text n ∧ n < 2 ^ 64 := by
  have hdigits (digits : List Char) : (if !digits.isEmpty && digits.all Char.isDigit then
      let m := digits.foldl (fun n c => n * 10 + (c.toNat - '0'.toNat)) 0
      if m < Nat.pow 2 64 then some m else none
    else none) = some n ↔ Spells digits n ∧ n < 2 ^ 64 := by
    rw [foldl_digits]
    split_ifs with hshape
    · simp only [Bool.and_eq_true, Bool.not_eq_true', List.isEmpty_eq_false_iff,
        List.all_eq_true] at hshape
      dsimp only
      split_ifs with hfits
      · rw [Option.some.injEq]
        constructor
        · rintro rfl
          exact ⟨⟨hshape.1, hshape.2, rfl⟩, hfits⟩
        · rintro ⟨spells, -⟩
          exact spells.value.symm
      · refine ⟨nofun, ?_⟩
        rintro ⟨spells, hn⟩
        exact absurd (spells.value ▸ hn) hfits
    · refine ⟨nofun, ?_⟩
      rintro ⟨spells, -⟩
      refine absurd ?_ hshape
      simp only [Bool.and_eq_true, Bool.not_eq_true', List.isEmpty_eq_false_iff, List.all_eq_true]
      exact ⟨spells.nonempty, spells.digit⟩
  unfold readWord
  split
  · rw [denotes_signed]
    exact hdigits _
  · rename_i unsigned
    rw [denotes_unsigned unsigned]
    exact hdigits _

/-! ## Lower case -/

/-- Whether a character becomes another in lower case as far as ASCII goes: a capital letter becomes
the small one, and any other character stays. -/
inductive Lowers : Char → Char → Prop
  | capital {c d : Char} (first : 'A' ≤ c) (last : c ≤ 'Z') (small : d.toNat = c.toNat + 32) :
      Lowers c d
  | other {c : Char} (none : c < 'A' ∨ 'Z' < c) : Lowers c c

theorem lowers_toLower (c : Char) : Lowers c c.toLower := by
  by_cases capital : 'A' ≤ c ∧ c ≤ 'Z'
  · have small : ∀ n < 0x80, 'A' ≤ Char.ofNat n ∧ Char.ofNat n ≤ 'Z' →
        (Char.ofNat n).toLower.toNat = n + 32 := by decide
    have hascii : c.toNat < 0x80 := Nat.lt_of_le_of_lt (Char.le_def.mp capital.2) (by decide)
    have hsmall := small c.toNat hascii
    rw [Char.ofNat_toNat] at hsmall
    exact .capital capital.1 capital.2 (hsmall capital)
  · have stays : c.toLower = c := dif_neg capital
    rw [stays]
    simp only [not_and_or, Char.not_le] at capital
    exact .other capital

theorem Lowers.unique {c d e : Char} (hd : Lowers c d) (he : Lowers c e) : d = e := by
  cases hd with
  | capital first last small =>
    cases he with
    | capital _ _ small' => exact Char.toNat_inj.mp (small.trans small'.symm)
    | other none => exact absurd none (by simp [first, last])
  | other none =>
    cases he with
    | capital first last _ => exact absurd none (by simp [first, last])
    | other => rfl

theorem forall₂_lowers_iff {cs ds : List Char} :
    List.Forall₂ Lowers cs ds ↔ ds = cs.map Char.toLower := by
  have hchar : Lowers = fun c d => d = c.toLower := by
    funext c d
    refine propext ⟨fun h => h.unique (lowers_toLower c), ?_⟩
    rintro rfl
    exact lowers_toLower c
  rw [hchar]
  induction cs generalizing ds with
  | nil => simp [List.forall₂_nil_left_iff]
  | cons c cs ih => cases ds <;> simp [List.forall₂_nil_right_iff, ih]

namespace Settings

/-! ## What a setting is read from -/

variable {lookup lookup' : String → Option String} {key : String}

/-- Whether a text has blanks only. -/
def Blank (text : String) : Prop := ∀ c ∈ text.toList, Text.IsSpace c

/-- Whether a key has no value that is not blank. -/
def Unset (lookup : String → Option String) (key : String) : Prop :=
  ∀ value, lookup key = some value → Blank value

/-- Whether a key has a value that is not blank. -/
def Given (lookup : String → Option String) (key value : String) : Prop :=
  lookup key = some value ∧ ¬Blank value

/-- Whether a setting that is read from a key may be so: the default if the key is unset, and what
the value of the key means if one is given. -/
def Holds {α : Type} (lookup : String → Option String) (key : String) (default : α)
    (means : String → α → Prop) (setting : α) : Prop :=
  (Unset lookup key ∧ setting = default) ∨ ∃ value, Given lookup key value ∧ means value setting

/-- Whether a key is unset or has a value that means something. -/
def Readable {α : Type} (lookup : String → Option String) (key : String)
    (means : String → α → Prop) : Prop :=
  Unset lookup key ∨ ∃ value, Given lookup key value ∧ ∃ setting, means value setting

theorem not_blank {text : String} {c : Char} (hmem : c ∈ text.toList) (hc : ¬Text.IsSpace c) :
    ¬Blank text := fun blank => hc (blank c hmem)

lemma isBlankText_iff {text : String} : Text.isBlankText text = true ↔ Blank text := by
  simp only [Text.isBlankText, List.all_eq_true, Blank, Text.isBlank_iff]

theorem value?_eq_some_iff {value : String} :
    value? lookup key = some value ↔ Given lookup key value := by
  rw [value?, Option.filter_eq_some_iff, Given, Bool.not_eq_true', ← isBlankText_iff,
    Bool.not_eq_true]

theorem value?_eq_none_iff : value? lookup key = none ↔ Unset lookup key := by
  rw [value?, Option.filter_eq_none_iff]
  simp only [Bool.not_eq_true', Bool.not_eq_false, isBlankText_iff, Unset]

theorem value?_congr (same : lookup' key = lookup key ∨ Unset lookup key ∧ Unset lookup' key) :
    value? lookup' key = value? lookup key := by
  rcases same with same | ⟨unset, unset'⟩
  · rw [value?, value?, same]
  · rw [value?_eq_none_iff.mpr unset, value?_eq_none_iff.mpr unset']

/-- Whether a reader gives a default where there is no value, takes a value for what it means, and
refuses others for a cause. -/
structure Reads {α : Type} (read : Option String → Except SettingsError α) (default : α)
    (means : String → α → Prop) (blames : String → SettingsError → Prop) : Prop where
  absent : read none = .ok default
  present : ∀ value setting, read (some value) = .ok setting ↔ means value setting
  refused : ∀ value error, read (some value) = .error error ↔ blames value error

namespace Reads

variable {α : Type} {read : Option String → Except SettingsError α} {default : α}
  {means : String → α → Prop} {blames : String → SettingsError → Prop}

theorem ok_iff (reads : Reads read default means blames) {setting : α} :
    read (value? lookup key) = .ok setting ↔ Holds lookup key default means setting := by
  cases hvalue : value? lookup key with
  | none =>
    have unset := value?_eq_none_iff.mp hvalue
    have notGiven : ∀ value, ¬Given lookup key value := fun value given => given.2 (unset _ given.1)
    simp [Holds, unset, notGiven, reads.absent, eq_comm]
  | some value =>
    have given := value?_eq_some_iff.mp hvalue
    have notUnset : ¬Unset lookup key := fun unset => given.2 (unset _ given.1)
    have only : ∀ value', Given lookup key value' ↔ value' = value := fun value' =>
      value?_eq_some_iff.symm.trans (by rw [hvalue, Option.some.injEq, eq_comm])
    simp [Holds, notUnset, only, reads.present]

theorem error_iff (reads : Reads read default means blames) {error : SettingsError} :
    read (value? lookup key) = .error error ↔
      ∃ value, Given lookup key value ∧ blames value error := by
  simp only [← value?_eq_some_iff, ← reads.refused]
  cases value? lookup key with
  | none => simp [reads.absent]
  | some value => simp

theorem readable_iff (reads : Reads read default means blames) :
    (∃ setting, read (value? lookup key) = .ok setting) ↔ Readable lookup key means := by
  simp only [reads.ok_iff, Holds, Readable]
  constructor
  · rintro ⟨setting, ⟨unset, -⟩ | ⟨value, given, hmeans⟩⟩
    · exact .inl unset
    · exact .inr ⟨value, given, setting, hmeans⟩
  · rintro (unset | ⟨value, given, setting, hmeans⟩)
    · exact ⟨default, .inl ⟨unset, rfl⟩⟩
    · exact ⟨setting, .inr ⟨value, given, hmeans⟩⟩

end Reads

/-- A value that means nothing is one that makes its key unreadable. -/
theorem exists_refused_iff {α : Type} {means : String → α → Prop} {error : SettingsError}
    {cause : String → SettingsError} :
    (∃ value, Given lookup key value ∧ (∀ setting, ¬means value setting) ∧ error = cause value) ↔
      ¬Readable lookup key means ∧ ∃ value, Given lookup key value ∧ error = cause value := by
  constructor
  · rintro ⟨value, given, meansNothing, herror⟩
    refine ⟨?_, value, given, herror⟩
    rintro (unset | ⟨value', given', setting, hmeans⟩)
    · exact given.2 (unset value given.1)
    · rw [Option.some.inj (given'.1.symm.trans given.1)] at hmeans
      exact meansNothing setting hmeans
  · rintro ⟨unreadable, value, given, herror⟩
    exact ⟨value, given, fun setting hmeans => unreadable (.inr ⟨value, given, setting, hmeans⟩),
      herror⟩

/-! ## The three settings that can be refused -/

def spiderNames : List (String × SpiderKind) :=
  [("dictionary", .dictionary), ("words", .dictionary), ("jobs", .jobs), ("movies", .movies),
    ("sounds", .sounds)]

/-- Whether a text is a value trimmed. -/
def Trims (value core : String) : Prop := Text.Trimmed value.toList core.toList

/-- Whether a text is a value trimmed and in lower case. -/
def Lowered (value name : String) : Prop :=
  ∃ core, Trims value core ∧ List.Forall₂ Lowers core.toList name.toList

/-- Whether a value, blanks around it and the case of ASCII letters aside, is the name of a
spider. -/
def NamesSpider (value : String) (kind : SpiderKind) : Prop :=
  ∃ name, Lowered value name ∧ (name, kind) ∈ spiderNames

/-- Whether a value, blanks around it aside, is the numeral of a number from 1 up to the largest
word. -/
def Counts (value : String) (pages : Option Nat) : Prop :=
  ∃ core n, Trims value core ∧ Denotes core.toList n ∧ 1 ≤ n ∧ n ≤ 2 ^ 64 - 1 ∧ pages = some n

/-- Whether a value, blanks around it aside, is the text of an address. -/
def Leads (value : String) (url : Option Url) : Prop :=
  ∃ core u, Trims value core ∧ Url.parse core = .ok u ∧ url = some u

theorem trims_iff {value core : String} : Trims value core ↔ core = Text.trim value := by
  rw [Trims, Text.trimmed_iff, Text.trim, ← String.toList_inj, String.toList_ofList]

theorem lowered_iff {value name : String} :
    Lowered value name ↔ name = asciiLower (Text.trim value) := by
  simp only [Lowered, trims_iff, exists_eq_left, forall₂_lowers_iff, asciiLower]
  rw [← String.toList_inj, String.toList_ofList]

theorem namesSpider_iff {value : String} {kind : SpiderKind} :
    NamesSpider value kind ↔ (asciiLower (Text.trim value), kind) ∈ spiderNames := by
  simp only [NamesSpider, lowered_iff, exists_eq_left]

theorem leads_iff {value : String} {url : Option Url} :
    Leads value url ↔ ∃ u, Url.parse (Text.trim value) = .ok u ∧ url = some u := by
  simp only [Leads, trims_iff, exists_and_left, exists_eq_left]

theorem ofName_eq_ok_iff {value : String} {kind : SpiderKind} :
    SpiderKind.ofName value = .ok kind ↔ NamesSpider value kind := by
  rw [SpiderKind.ofName, namesSpider_iff]
  generalize asciiLower (Text.trim value) = name
  split
  case h_6 =>
    refine ⟨nofun, fun hmem => ?_⟩
    simp_all [spiderNames]
  all_goals simp [spiderNames, eq_comm]

theorem ofName_eq_error {value : String} {error : SettingsError}
    (h : SpiderKind.ofName value = .error error) :
    error = .unknownSpider (asciiLower (Text.trim value)) := by
  rw [SpiderKind.ofName] at h
  split at h <;> simp_all

theorem reads_spider : Reads readSpider .dictionary NamesSpider fun value error =>
    (∀ kind, ¬NamesSpider value kind) ∧
      error = .unknownSpider (asciiLower (Text.trim value)) where
  absent := rfl
  present value kind := by rw [readSpider, ofName_eq_ok_iff]
  refused value error := by
    simp only [readSpider, ← ofName_eq_ok_iff]
    cases hread : SpiderKind.ofName value with
    | ok kind => simp
    | error found => simp [ofName_eq_error hread, eq_comm]

theorem counts_iff {value : String} {pages : Option Nat} : Counts value pages ↔
    ∃ n, readWord (Text.trimList value.toList) = some n ∧ 0 < n ∧ pages = some n := by
  simp only [Counts, trims_iff, exists_and_left, exists_eq_left, readWord_eq_some_iff, Text.trim,
    String.toList_ofList]
  refine exists_congr fun n => ?_
  have hword : 1 ≤ n ∧ n ≤ 2 ^ 64 - 1 ↔ n < 2 ^ 64 ∧ 0 < n := by omega
  rw [and_assoc, ← and_assoc (a := 1 ≤ n), hword, and_assoc]

theorem reads_concurrency : Reads readConcurrency none Counts fun value error =>
    (∀ pages, ¬Counts value pages) ∧ error = .invalidNumber concurrencyKey value where
  absent := rfl
  present value pages := by
    rw [readConcurrency, counts_iff]
    cases readWord (Text.trimList value.toList) with
    | none => simp
    | some n => by_cases hn : 0 < n <;> simp [hn, eq_comm]
  refused value error := by
    simp only [readConcurrency, counts_iff]
    cases readWord (Text.trimList value.toList) with
    | none => simp [eq_comm]
    | some n => by_cases hn : 0 < n <;> simp [hn, eq_comm]

theorem reads_startUrl : Reads readStartUrl none Leads fun value error =>
    ∃ cause, Url.parse (Text.trim value) = .error cause ∧ error = .invalidUrl cause where
  absent := rfl
  present value url := by
    simp only [readStartUrl, leads_iff]
    cases Url.parse (Text.trim value) <;> simp [eq_comm]
  refused value error := by
    simp only [readStartUrl]
    cases Url.parse (Text.trim value) <;> simp [eq_comm]

/-! ## All settings -/

/-- The keys that settings are read from. -/
def keys : List String := [spiderKey, databaseKey, outputKey, concurrencyKey, startUrlKey]

/-- What is made of a look-up: when there are settings and which, what they are refused for if
there are none, and what makes no difference. -/
structure ReadExactly (lookup : String → Option String) : Prop where
  succeeds_iff : (∃ settings, ofLookup lookup = .ok settings) ↔
    Readable lookup spiderKey NamesSpider ∧ Readable lookup concurrencyKey Counts ∧
      Readable lookup startUrlKey Leads
  ok_iff : ∀ settings, ofLookup lookup = .ok settings ↔
    Holds lookup spiderKey .dictionary NamesSpider settings.spider ∧
      Holds lookup databaseKey none (fun value url => url = some value) settings.databaseUrl ∧
      Holds lookup outputKey "data" (fun value directory => directory = value) settings.output ∧
      Holds lookup concurrencyKey none Counts settings.concurrency ∧
      Holds lookup startUrlKey none Leads settings.startUrl
  error_iff : ∀ error, ofLookup lookup = .error error ↔
    (¬Readable lookup spiderKey NamesSpider ∧
      ∃ value name, Given lookup spiderKey value ∧ Lowered value name ∧
        error = .unknownSpider name) ∨
    (Readable lookup spiderKey NamesSpider ∧ ¬Readable lookup concurrencyKey Counts ∧
      ∃ value, Given lookup concurrencyKey value ∧
        error = .invalidNumber concurrencyKey value) ∨
    (Readable lookup spiderKey NamesSpider ∧ Readable lookup concurrencyKey Counts ∧
      ∃ value core cause, Given lookup startUrlKey value ∧ Trims value core ∧
        Url.parse core = .error cause ∧ error = .invalidUrl cause)
  ofLookup_congr : ∀ lookup', (∀ key ∈ keys, lookup' key = lookup key ∨
      Unset lookup key ∧ Unset lookup' key) → ofLookup lookup' = ofLookup lookup

theorem reads_databaseUrl : Reads (fun value => .ok value) none
    (fun value url => url = some value) fun _ _ => False where
  absent := rfl
  present value url := by simp [eq_comm]
  refused value error := by simp

theorem reads_output : Reads (fun value => .ok (value.getD "data")) "data"
    (fun value directory => directory = value) fun _ _ => False where
  absent := rfl
  present value directory := by simp [eq_comm]
  refused value error := by simp

/-- There are settings exactly if the three that can be refused are read, and they are what is
read. -/
theorem ofLookup_eq_ok_iff {settings : Settings} : ofLookup lookup = .ok settings ↔
    readSpider (value? lookup spiderKey) = .ok settings.spider ∧
      value? lookup databaseKey = settings.databaseUrl ∧
      (value? lookup outputKey).getD "data" = settings.output ∧
      readConcurrency (value? lookup concurrencyKey) = .ok settings.concurrency ∧
      readStartUrl (value? lookup startUrlKey) = .ok settings.startUrl := by
  rw [ofLookup]
  cases readSpider (value? lookup spiderKey) with
  | error error => simp [bind, Except.bind]
  | ok spider =>
    cases readConcurrency (value? lookup concurrencyKey) with
    | error error => simp [bind, Except.bind]
    | ok concurrency =>
      cases readStartUrl (value? lookup startUrlKey) with
      | error error => simp [bind, Except.bind]
      | ok startUrl =>
        obtain ⟨spider', databaseUrl', output', concurrency', startUrl'⟩ := settings
        simp only [bind, Except.bind, pure, Except.pure, Except.ok.injEq, Settings.mk.injEq]

/-- The error is that of the first setting that is refused. -/
theorem ofLookup_eq_error_iff {error : SettingsError} : ofLookup lookup = .error error ↔
    readSpider (value? lookup spiderKey) = .error error ∨
      ((∃ spider, readSpider (value? lookup spiderKey) = .ok spider) ∧
        (readConcurrency (value? lookup concurrencyKey) = .error error ∨
          (∃ pages, readConcurrency (value? lookup concurrencyKey) = .ok pages) ∧
            readStartUrl (value? lookup startUrlKey) = .error error)) := by
  rw [ofLookup]
  cases readSpider (value? lookup spiderKey) with
  | error error => simp [bind, Except.bind]
  | ok spider =>
    cases readConcurrency (value? lookup concurrencyKey) with
    | error error => simp [bind, Except.bind]
    | ok concurrency =>
      cases readStartUrl (value? lookup startUrlKey) with
      | error error => simp [bind, Except.bind]
      | ok startUrl => simp [bind, Except.bind, pure, Except.pure]

/-- Every look-up is read exactly: what makes the settings and what makes them fail is said by the
values of their keys alone. -/
theorem lookup_read_exactly (lookup : String → Option String) : ReadExactly lookup := by
  refine ⟨⟨?_, ?_⟩, fun settings => ?_, fun error => ?_, fun lookup' same => ?_⟩
  · rintro ⟨settings, hsettings⟩
    obtain ⟨hspider, -, -, hpages, hstart⟩ := ofLookup_eq_ok_iff.mp hsettings
    exact ⟨reads_spider.readable_iff.mp ⟨_, hspider⟩,
      reads_concurrency.readable_iff.mp ⟨_, hpages⟩, reads_startUrl.readable_iff.mp ⟨_, hstart⟩⟩
  · rintro ⟨hspider, hpages, hstart⟩
    obtain ⟨spider, hspider⟩ := reads_spider.readable_iff.mpr hspider
    obtain ⟨concurrency, hpages⟩ := reads_concurrency.readable_iff.mpr hpages
    obtain ⟨startUrl, hstart⟩ := reads_startUrl.readable_iff.mpr hstart
    exact ⟨⟨spider, _, _, concurrency, startUrl⟩,
      ofLookup_eq_ok_iff.mpr ⟨hspider, rfl, rfl, hpages, hstart⟩⟩
  · rw [ofLookup_eq_ok_iff, reads_spider.ok_iff, reads_concurrency.ok_iff, reads_startUrl.ok_iff,
      ← reads_databaseUrl.ok_iff, ← reads_output.ok_iff, Except.ok.injEq, Except.ok.injEq]
  · rw [ofLookup_eq_error_iff, reads_spider.error_iff, reads_spider.readable_iff,
      reads_concurrency.error_iff, reads_concurrency.readable_iff, reads_startUrl.error_iff,
      exists_refused_iff, exists_refused_iff]
    simp only [and_or_left, exists_and_left, lowered_iff, trims_iff, exists_eq_left]
  · have hsame := fun key hkey => value?_congr (same key hkey)
    simp only [keys, List.forall_mem_cons, List.not_mem_nil, false_imp_iff, implies_true,
      and_true] at hsame
    obtain ⟨hspider, hdatabase, houtput, hpages, hstart⟩ := hsame
    rw [ofLookup, ofLookup, hspider, hdatabase, houtput, hpages, hstart]

/-- Variables that name a spider and seven pages at a time. -/
def sampleVariables (spider : String) (key : String) : Option String :=
  if key = spiderKey then some spider else if key = concurrencyKey then some "+007" else none

theorem sampleVariables_given {spider : String} (h : ¬Blank spider) :
    Given (sampleVariables spider) spiderKey spider ∧
      Given (sampleVariables spider) concurrencyKey "+007" ∧
      ∀ key ∈ [databaseKey, outputKey, startUrlKey], Unset (sampleVariables spider) key := by
  refine ⟨⟨rfl, h⟩, ⟨rfl, ?_⟩, ?_⟩
  · exact not_blank (c := '+') (by decide +kernel) (by decide +kernel)
  · simp [sampleVariables, Unset, spiderKey, concurrencyKey, databaseKey, outputKey, startUrlKey]

/-- Capitals and blanks around a name make no difference, and a name that is not known is reported
in lower case. -/
theorem lookup_read_exactly_sample :
    (∃ settings, ofLookup (sampleVariables "\tJoBs ") = .ok settings ∧
        settings.spider = .jobs ∧ settings.concurrency = some 7 ∧ settings.output = "data") ∧
      ofLookup (sampleVariables "Poems") = .error (.unknownSpider "poems") := by
  have jobs : ¬Blank "\tJoBs " := not_blank (c := 'J') (by decide +kernel) (by decide +kernel)
  have poems : ¬Blank "Poems" := not_blank (c := 'P') (by decide +kernel) (by decide +kernel)
  have digits : Spells ['0', '0', '7'] 7 := ⟨by simp, by simp, by decide +kernel⟩
  have seven : Counts "+007" (some 7) :=
    ⟨"+007", 7, trims_iff.mpr (by decide +kernel), ⟨_, digits, .inr rfl⟩, by decide, by decide,
      rfl⟩
  obtain ⟨spider, pages, unset⟩ := sampleVariables_given jobs
  obtain ⟨unknown, -, -⟩ := sampleVariables_given poems
  refine ⟨⟨{ spider := .jobs, concurrency := some 7 }, ?_, rfl, rfl, rfl⟩, ?_⟩
  · refine ((lookup_read_exactly _).ok_iff _).mpr
      ⟨.inr ⟨_, spider, "jobs", lowered_iff.mpr (by decide +kernel), by decide⟩,
        .inl ⟨unset _ (by simp), rfl⟩, .inl ⟨unset _ (by simp), rfl⟩,
        .inr ⟨_, pages, seven⟩, .inl ⟨unset _ (by simp), rfl⟩⟩
  · refine ((lookup_read_exactly _).error_iff _).mpr
      (.inl ⟨?_, _, "poems", unknown, lowered_iff.mpr (by decide +kernel), rfl⟩)
    rintro (none | ⟨value, given, kind, names⟩)
    · exact unknown.2 (none _ unknown.1)
    · obtain rfl : "Poems" = value := Option.some.inj (unknown.1.symm.trans given.1)
      rw [namesSpider_iff] at names
      revert names
      cases kind <;> decide +kernel

end Settings

end SiteSpiders
