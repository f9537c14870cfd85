import Mathlib.Data.List.Basic
import Mathlib.Data.List.TakeWhile
import SiteSpiders.Url.Punycode

/-!
# Punycode is read back

The reader follows the writer. While the writer passes over a label for one code point, the reader
holds the characters the writer has dealt with: all smaller ones, and of the equal ones those that
were passed. The difference the writer has counted up leads from where the reader stands to the
place the writer has reached, so that the next number makes the reader put the code point there.
-/
namespace SiteSpiders.Url.Punycode

/-- The largest number a reader counts to. -/
def mostCount : Nat := 0xffffffff

/-- A length of labels up to which no reader has to count further than it can. -/
def longest : Nat := 3000

lemma digitValue?_digitChar : ∀ d < 36, digitValue? (digitChar d) = some d := by decide

/-- Whether a character is a digit that the writer uses. -/
def IsDigit (c : Char) : Prop := ∃ d < 36, c = digitChar d

theorem isDigit_of_mem_writeNumber {q k bias : Nat} {c : Char} (h : c ∈ writeNumber q k bias) :
    IsDigit c := by
  induction q, k using writeNumber.induct bias with
  | case1 q k t hlt =>
    have hpos := threshold_pos k bias
    rw [writeNumber, if_pos hlt, List.mem_singleton] at h
    exact ⟨q, by omega, h⟩
  | case2 q k t hle ih =>
    have hpos := threshold_pos k bias
    rw [writeNumber, if_neg hle] at h
    rcases List.mem_cons.mp h with rfl | h
    · have hmod : (q - t) % (36 - t) < 36 - t := Nat.mod_lt _ (by omega)
      exact ⟨t + (q - t) % (36 - t), by omega, rfl⟩
    · exact ih h

/-- A number is read back, whatever comes after its digits. -/
theorem readNumber_writeNumber {q k bias : Nat} (i weight : Nat) (rest : List Char)
    (fits : i + q * weight ≤ mostCount) :
    readNumber bias (writeNumber q k bias ++ rest) i weight k = some (i + q * weight, rest) := by
  induction q, k using writeNumber.induct bias generalizing i weight with
  | case1 q k t hlt =>
    have hpos := threshold_pos k bias
    have hsmall : ¬0xffffffff < i + q * weight := Nat.not_lt.mpr fits
    rw [writeNumber, if_pos hlt, List.singleton_append, readNumber,
      digitValue?_digitChar q (by omega)]
    simp only [Option.bind_eq_bind, Option.bind_some, if_neg hsmall]
    exact if_pos hlt
  | case2 q k t hle ih =>
    have hpos := threshold_pos k bias
    have hmod : (q - t) % (36 - t) < 36 - t := Nat.mod_lt _ (by omega)
    have hvalue : t + (q - t) % (36 - t) + (q - t) / (36 - t) * (36 - t) = q := by
      have hdiv := Nat.mod_add_div' (q - t) (36 - t)
      omega
    have hweight : i + (t + (q - t) % (36 - t)) * weight +
        (q - t) / (36 - t) * (weight * (36 - t)) = i + q * weight := by
      have hmul := congrArg (· * weight) hvalue
      simp only [Nat.add_mul] at hmul ⊢
      rw [Nat.mul_comm weight, ← Nat.mul_assoc]
      omega
    have hsmall : ¬0xffffffff < i + (t + (q - t) % (36 - t)) * weight := by
      unfold mostCount at fits
      omega
    have hdigit : ¬t + (q - t) % (36 - t) < t := by omega
    have hrest := ih (i + (t + (q - t) % (36 - t)) * weight) (weight * (36 - t))
      (hweight ▸ fits)
    rw [writeNumber, if_neg hle, List.cons_append, readNumber,
      digitValue?_digitChar (t + (q - t) % (36 - t)) (by omega)]
    simp only [Option.bind_eq_bind, Option.bind_some, if_neg hsmall]
    rw [if_neg hdigit, hrest, hweight]

theorem length_readNumber {bias i weight k j : Nat} {cs rest : List Char}
    (h : readNumber bias cs i weight k = some (j, rest)) : rest.length < cs.length := by
  induction cs generalizing i weight k with
  | nil => cases h
  | cons c cs ih =>
    rw [readNumber] at h
    simp only [Option.bind_eq_bind, Option.bind_eq_some_iff] at h
    obtain ⟨d, -, h⟩ := h
    split_ifs at h
    · obtain ⟨-, rfl⟩ := Prod.mk.inj (Option.some.inj h)
      exact Nat.lt_succ_self _
    · exact Nat.lt_succ_of_lt (ih h)

/-- More fuel than characters changes nothing. -/
theorem readAll_fuel {fuel fuel' i n bias : Nat} {cs : List Char} {out : List Nat}
    (h : cs.length < fuel) (h' : cs.length < fuel') :
    readAll fuel cs i n bias out = readAll fuel' cs i n bias out := by
  induction fuel generalizing fuel' cs i n bias out with
  | zero => cases h
  | succ fuel ih =>
    cases fuel' with
    | zero => cases h'
    | succ fuel' =>
      cases cs with
      | nil => rfl
      | cons c cs =>
        simp only [readAll]
        cases hnumber : readNumber bias (c :: cs) i 1 36 with
        | none => rfl
        | some found =>
          have hlength := length_readNumber hnumber
          simp only [Option.bind_eq_bind, Option.bind_some, List.length_cons] at hlength h h' ⊢
          split_ifs
          · rfl
          · exact ih (by omega) (by omega)

/-- Reads differences to the end of a text. -/
def readRest (cs : List Char) (i n bias : Nat) (out : List Nat) : Option (List Nat) :=
  readAll (cs.length + 1) cs i n bias out

/-- One difference makes the reader put one code point in its place. -/
theorem readRest_writeNumber {delta i n m pos : Nat} {out : List Nat} (bias : Nat)
    (rest : List Char) (valid : m.isValidChar) (le : n ≤ m) (inside : pos ≤ out.length)
    (reach : i + delta = (m - n) * (out.length + 1) + pos) (fits : i + delta ≤ mostCount) :
    readRest (writeNumber delta 36 bias ++ rest) i n bias out =
      readRest rest (pos + 1) m (adapt delta (out.length + 1) (i == 0))
        (out.take pos ++ m :: out.drop pos) := by
  have hnumber : readNumber bias (writeNumber delta 36 bias ++ rest) i 1 36 =
      some (i + delta, rest) := by
    rw [readNumber_writeNumber i 1 rest (by rwa [Nat.mul_one]), Nat.mul_one]
  have hlength := length_readNumber hnumber
  have hdiv : n + (i + delta) / (out.length + 1) = m := by
    rw [reach, Nat.add_comm (_ * _) pos, Nat.add_mul_div_right _ _ (Nat.succ_pos _),
      Nat.div_eq_of_lt (Nat.lt_succ_of_le inside)]
    omega
  have hmod : (i + delta) % (out.length + 1) = pos := by
    rw [reach, Nat.add_comm, Nat.add_mul_mod_self_right,
      Nat.mod_eq_of_lt (Nat.lt_succ_of_le inside)]
  have hvalid : ¬(0x10ffff < m ∨ (0xd800 ≤ m ∧ m ≤ 0xdfff)) := by
    unfold Nat.isValidChar at valid
    omega
  obtain ⟨c, cs, hcs⟩ : ∃ c cs, writeNumber delta 36 bias ++ rest = c :: cs := by
    cases hcs : writeNumber delta 36 bias ++ rest with
    | nil =>
      rw [hcs] at hlength
      cases hlength
    | cons c cs => exact ⟨c, cs, rfl⟩
  rw [hcs] at hnumber hlength ⊢
  rw [readRest, readAll, hnumber]
  · simp only [Option.bind_eq_bind, Option.bind_some, hdiv, hmod, if_neg hvalid,
      Nat.add_sub_cancel_left]
    exact readAll_fuel hlength (Nat.lt_succ_self _)
  · simp

structure Reader where
  index : Nat
  point : Nat
  out : List Nat

/-- How writer and reader stand to each other while the writer passes for `m`, with `done` passed
and `left` still before it. -/
structure InStep (basic m : Nat) (done left : List Nat) (w : Writer) (r : Reader) : Prop where
  le : r.point ≤ m
  out : r.out = done.filter (· ≤ m) ++ left.filter (· < m)
  written : w.written = r.out.length
  reach : r.index + w.delta =
    (m - r.point) * (r.out.length + 1) + (done.filter (· ≤ m)).length
  first : (w.written == basic) = (r.index == 0)
  basic_le : basic ≤ w.written

/-- What one step of a pass does to the writer. -/
def writePoint (m basic : Nat) (w : Writer) (c : Nat) : Writer :=
  if c < m then { w with delta := w.delta + 1 }
  else if c = m then
    { delta := 0, written := w.written + 1
      bias := adapt w.delta (w.written + 1) (w.written == basic)
      out := w.out ++ writeNumber w.delta 36 w.bias }
  else w

lemma writePass_cons (m basic c : Nat) (left : List Nat) (w : Writer) :
    writePass m basic (c :: left) w = writePass m basic left (writePoint m basic w c) := rfl

/-- Whether digits lead a reader from one place to another while the writer goes on. -/
structure Leads (w w' : Writer) (r r' : Reader) : Prop where
  leads : ∃ digits : List Char, w'.out = w.out ++ digits ∧ (∀ c ∈ digits, IsDigit c) ∧
    ∀ rest, readRest (digits ++ rest) r.index r.point w.bias r.out =
      readRest rest r'.index r'.point w'.bias r'.out

theorem Leads.delta (w : Writer) (r : Reader) (delta : Nat) :
    Leads w { w with delta := delta } r r :=
  ⟨[], by simp, by simp, fun _ => rfl⟩

lemma Leads.refl (w : Writer) (r : Reader) : Leads w w r r := .delta w r w.delta

theorem Leads.trans {w w' w'' : Writer} {r r' r'' : Reader} (h : Leads w w' r r')
    (h' : Leads w' w'' r' r'') : Leads w w'' r r'' := by
  obtain ⟨digits, hout, hall, hread⟩ := h.leads
  obtain ⟨digits', hout', hall', hread'⟩ := h'.leads
  refine ⟨digits ++ digits', ?_, fun c hc => ?_, fun rest => ?_⟩
  · rw [hout', hout, List.append_assoc]
  · rcases List.mem_append.mp hc with hc | hc
    · exact hall c hc
    · exact hall' c hc
  · rw [List.append_assoc, hread, hread']

section Pass

variable {basic m : Nat} {done left : List Nat} {w : Writer} {r : Reader}

/-- A number that is written keeps writer and reader in step. -/
theorem InStep.emit (h : InStep basic m done (m :: left) w r) (valid : m.isValidChar)
    (short : (done ++ m :: left).length ≤ longest) :
    ∃ r', InStep basic m (done ++ [m]) left (writePoint m basic w m) r' ∧
      Leads w (writePoint m basic w m) r r' := by
  have hout : r.out = done.filter (· ≤ m) ++ left.filter (· < m) := by
    rw [h.out, List.filter_cons_of_neg (by simp)]
  have hpos : (done.filter (· ≤ m)).length ≤ r.out.length := by
    rw [hout, List.length_append]
    omega
  have hlength : r.out.length < longest := by
    have hdone := List.length_filter_le (· ≤ m) done
    have hleft := List.length_filter_le (· < m) left
    rw [hout, List.length_append]
    rw [List.length_append, List.length_cons] at short
    omega
  have hfits : r.index + w.delta ≤ mostCount := by
    have hm : m - r.point ≤ 0x10ffff := by
      unfold Nat.isValidChar at valid
      omega
    have hlength' : r.out.length + 1 ≤ longest := hlength
    have hmul := Nat.mul_le_mul hm hlength'
    have hbound : 0x10ffff * longest + longest ≤ mostCount := by decide
    rw [h.reach]
    omega
  have hstep : writePoint m basic w m =
      { delta := 0, written := w.written + 1
        bias := adapt w.delta (w.written + 1) (w.written == basic)
        out := w.out ++ writeNumber w.delta 36 w.bias } := by
    simp [writePoint]
  have hdone : (done ++ [m]).filter (· ≤ m) = done.filter (· ≤ m) ++ [m] := by simp
  have hleads := fun rest : List Char =>
    readRest_writeNumber w.bias rest valid h.le hpos h.reach hfits
  refine ⟨⟨(done.filter (· ≤ m)).length + 1, m,
    (done ++ [m]).filter (· ≤ m) ++ left.filter (· < m)⟩, ?_, ?_⟩
  · rw [hstep]
    refine ⟨Nat.le_refl m, rfl, ?_, ?_, ?_, Nat.le_succ_of_le h.basic_le⟩
    · simp only [h.written, hout, hdone, List.length_append, List.length_singleton]
      omega
    · simp [hdone]
    · have hne : w.written + 1 ≠ basic := by
        have hle := h.basic_le
        omega
      simp [hne]
  · refine ⟨writeNumber w.delta 36 w.bias, ?_, fun c hc => isDigit_of_mem_writeNumber hc,
      fun rest => ?_⟩
    · rw [hstep]
    · rw [hleads rest, hstep, hdone, ← h.first, ← h.written]
      congr 1
      rw [hout, List.take_left, List.drop_left, List.append_assoc, List.singleton_append]

/-- One character of the label keeps writer and reader in step. -/
theorem InStep.point {c : Nat} (h : InStep basic m done (c :: left) w r) (valid : m.isValidChar)
    (short : (done ++ c :: left).length ≤ longest) :
    ∃ r', InStep basic m (done ++ [c]) left (writePoint m basic w c) r' ∧
      Leads w (writePoint m basic w c) r r' := by
  rcases Nat.lt_trichotomy c m with hlt | rfl | hgt
  · have hle : c ≤ m := Nat.le_of_lt hlt
    refine ⟨r, ?_, ?_⟩
    · rw [writePoint, if_pos hlt]
      refine ⟨h.le, ?_, h.written, ?_, h.first, h.basic_le⟩
      · rw [h.out]
        simp [hlt, hle]
      · have hreach := h.reach
        simp only [List.filter_append, List.length_append, hle, List.filter_cons, List.filter_nil,
          decide_true, if_true, List.length_singleton]
        omega
    · rw [writePoint, if_pos hlt]
      exact .delta w r _
  · exact h.emit valid short
  · have hstep : writePoint m basic w c = w := by
      rw [writePoint, if_neg (by omega), if_neg (by omega)]
    refine ⟨r, ?_, ?_⟩
    · rw [hstep]
      refine ⟨h.le, ?_, h.written, ?_, h.first, h.basic_le⟩
      · rw [h.out]
        simp [Nat.le_of_lt hgt, hgt]
      · rw [h.reach]
        simp [hgt]
    · rw [hstep]
      exact .refl w r

/-- A pass over the label keeps writer and reader in step. -/
theorem InStep.pass (h : InStep basic m done left w r) (valid : m.isValidChar)
    (short : (done ++ left).length ≤ longest) :
    ∃ r', InStep basic m (done ++ left) [] (writePass m basic left w) r' ∧
      Leads w (writePass m basic left w) r r' := by
  induction left generalizing done w r with
  | nil =>
    have hpass : writePass m basic [] w = w := rfl
    rw [hpass, List.append_nil]
    exact ⟨r, h, .refl w r⟩
  | cons c left ih =>
    obtain ⟨r', hstep, hleads⟩ := h.point valid short
    obtain ⟨r'', hpass, hleads'⟩ := ih hstep (by simpa using short)
    rw [writePass_cons, List.append_cons]
    exact ⟨r'', hpass, hleads.trans hleads'⟩

end Pass

/-- Passes for all code points from some point on make the reader hold the whole label. -/
theorem writeAll_leads {basic n : Nat} {input others : List Nat} {w : Writer} {r : Reader}
    (sorted : others.Pairwise (· < ·)) (le : ∀ m ∈ others, n ≤ m)
    (all : ∀ c ∈ input, n ≤ c → c ∈ others) (valid : ∀ m ∈ others, m.isValidChar)
    (short : input.length ≤ longest) (h : InStep basic n [] input w r) :
    ∃ r', Leads w (writeAll basic input others n w) r r' ∧ r'.out = input := by
  induction others generalizing n w r with
  | nil =>
    refine ⟨r, .refl w r, ?_⟩
    rw [h.out, List.filter_nil, List.nil_append, List.filter_eq_self]
    intro c hc
    have hlt : ¬n ≤ c := fun hle => nomatch all c hc hle
    simpa using hlt
  | cons m others ih =>
    obtain ⟨hlater, hsorted⟩ := List.pairwise_cons.mp sorted
    have hnm : n ≤ m := le m (by simp)
    -- Nothing in the label lies between the last code point and this one.
    have hfilter : input.filter (· < m) = input.filter (· < n) := by
      refine List.filter_congr fun c hc => ?_
      by_cases hcn : c < n
      · simp [hcn, Nat.lt_of_lt_of_le hcn hnm]
      · have hcm : m ≤ c := by
          rcases List.mem_cons.mp (all c hc (Nat.not_lt.mp hcn)) with rfl | hmem
          · exact Nat.le_refl c
          · exact Nat.le_of_lt (hlater c hmem)
        simp [hcn, Nat.not_lt.mpr hcm]
    have hcount : InStep basic m [] input
        { w with delta := w.delta + (m - n) * (w.written + 1) } r := by
      refine ⟨Nat.le_trans h.le hnm, ?_, h.written, ?_, h.first, h.basic_le⟩
      · rw [h.out, hfilter]
        rfl
      · have hle := h.le
        have hsplit : m - r.point = n - r.point + (m - n) := by omega
        have hreach := h.reach
        simp only [h.written, hsplit, Nat.add_mul]
        simp only [List.filter_nil, List.length_nil] at hreach ⊢
        omega
    obtain ⟨r', hpass, hleads⟩ := hcount.pass (valid m (by simp)) short
    have hnext : InStep basic (m + 1) [] input
        { writePass m basic input { w with delta := w.delta + (m - n) * (w.written + 1) } with
          delta := (writePass m basic input
            { w with delta := w.delta + (m - n) * (w.written + 1) }).delta + 1 } r' := by
      have hout : r'.out = input.filter (· ≤ m) := by simpa using hpass.out
      refine ⟨Nat.le_succ_of_le hpass.le, ?_, hpass.written, ?_, hpass.first, hpass.basic_le⟩
      · rw [hout]
        simp only [Nat.lt_succ_iff, List.filter_nil, List.nil_append]
      · have hle := hpass.le
        have hsplit : m + 1 - r'.point = m - r'.point + 1 := by omega
        have hreach := hpass.reach
        rw [List.nil_append, ← hout] at hreach
        simp only [hsplit, Nat.add_mul, Nat.one_mul, List.filter_nil, List.length_nil]
        omega
    have hothers : ∀ c ∈ input, m + 1 ≤ c → c ∈ others := by
      intro c hc hle
      exact List.mem_of_ne_of_mem (by omega) (all c hc (by omega))
    obtain ⟨r'', hrest, hfull⟩ := ih hsorted (fun c hc => hlater c hc) hothers
      (fun c hc => valid c (by simp [hc])) hnext
    exact ⟨r'', (Leads.delta w r _).trans (hleads.trans ((Leads.delta _ r' _).trans hrest)), hfull⟩

/-- The distinct members of a sorted list rise. -/
theorem pairwise_eraseDups {l : List Nat} (sorted : l.Pairwise (· ≤ ·)) :
    l.eraseDups.Pairwise (· < ·) := by
  induction hlength : l.length using Nat.strongRecOn generalizing l with
  | ind k ih =>
    cases l with
    | nil => simp
    | cons a l =>
      obtain ⟨ha, hl⟩ := List.pairwise_cons.mp sorted
      rw [List.eraseDups_cons, List.pairwise_cons]
      constructor
      · intro b hb
        obtain ⟨hb, hne⟩ := List.mem_filter.mp (List.mem_eraseDups.mp hb)
        have hle := ha b hb
        have hba : b ≠ a := by simpa using hne
        omega
      · have hshorter := List.length_filter_le (fun b => !b == a) l
        exact ih _ (by rw [← hlength, List.length_cons]; omega) (hl.filter _) rfl

/-- The code points beyond ASCII of a label, each once and in rising order. -/
def pointsOf (label : List Nat) : List Nat :=
  (Sorting.sortBy (fun a b => a ≤ b) (label.filter (0x80 ≤ ·))).eraseDups

theorem mem_pointsOf {label : List Nat} {c : Nat} : c ∈ pointsOf label ↔ c ∈ label ∧ 0x80 ≤ c := by
  rw [pointsOf, List.mem_eraseDups, Sorting.sortBy_eq_mergeSort, List.mem_mergeSort,
    List.mem_filter, decide_eq_true_iff]

/-- What is written of a label: its ASCII characters, with a hyphen if there are any, and digits
from which the rest is read. -/
theorem encode_eq {label : List Nat} (valid : ∀ n ∈ label, n.isValidChar)
    (short : label.length ≤ longest) :
    ∃ digits, (∀ c ∈ digits, IsDigit c) ∧
      encode label = (if (label.filter (· < 0x80)).isEmpty then []
        else (label.filter (· < 0x80)).map Char.ofNat ++ ['-']) ++ digits ∧
      readRest digits 0 0x80 72 (label.filter (· < 0x80)) = some label := by
  have hsorted : (pointsOf label).Pairwise (· < ·) := by
    refine pairwise_eraseDups ?_
    rw [Sorting.sortBy_eq_mergeSort]
    have htrans : ∀ a b c : Nat, decide (a ≤ b) = true → decide (b ≤ c) = true →
        decide (a ≤ c) = true := fun a b c => by simpa using Nat.le_trans
    have hpairwise := List.pairwise_mergeSort htrans
      (fun a b => by simpa using Nat.le_total a b) (label.filter (0x80 ≤ ·))
    exact hpairwise.imp fun h => by simpa using h
  have hstart : InStep (label.filter (· < 0x80)).length 0x80 [] label
      ⟨0, (label.filter (· < 0x80)).length, 72, if (label.filter (· < 0x80)).isEmpty then []
        else (label.filter (· < 0x80)).map Char.ofNat ++ ['-']⟩
      ⟨0, 0x80, label.filter (· < 0x80)⟩ :=
    ⟨Nat.le_refl _, rfl, rfl, by simp, by simp, Nat.le_refl _⟩
  obtain ⟨r, ⟨digits, hout, hall, hread⟩, hfull⟩ := writeAll_leads hsorted
    (fun m hm => (mem_pointsOf.mp hm).2) (fun c hc hle => mem_pointsOf.mpr ⟨hc, hle⟩)
    (fun m hm => valid m (mem_pointsOf.mp hm).1) short hstart
  refine ⟨digits, hall, hout, ?_⟩
  have hend := hread []
  rw [List.append_nil] at hend
  rw [hend, hfull]
  rfl

theorem IsDigit.ne_hyphen {c : Char} (h : IsDigit c) : c ≠ '-' := by
  obtain ⟨d, hd, rfl⟩ := h
  have hall : ∀ d < 36, digitChar d ≠ '-' := by decide
  exact hall d hd

theorem reverse_takeWhile_hyphen {digits : List Char} (h : ∀ c ∈ digits, c ≠ '-') :
    (digits.reverse.takeWhile (· != '-')).reverse = digits ∧
      ∀ front, ((front ++ '-' :: digits).reverse.takeWhile (· != '-')).reverse = digits := by
  have hall : ∀ c ∈ digits.reverse, (c != '-') = true := by
    intro c hc
    simpa using h c (List.mem_reverse.mp hc)
  constructor
  · rw [List.takeWhile_eq_self_iff.mpr hall, List.reverse_reverse]
  · intro front
    rw [List.reverse_append, List.reverse_cons, List.append_assoc,
      List.takeWhile_append_of_pos hall]
    simp

theorem toNat_ofNat {n : Nat} (h : n.isValidChar) : (Char.ofNat n).toNat = n := by
  rw [Char.ofNat, dif_pos h]
  rfl

theorem map_ofNat_ascii {basic : List Nat} (h : ∀ n ∈ basic, n < 0x80) :
    (basic.map Char.ofNat).map Char.toNat = basic := by
  rw [List.map_map]
  refine (List.map_congr_left fun n hn => ?_).trans (List.map_id basic)
  exact toNat_ofNat (.inl (Nat.lt_trans (h n hn) (by decide)))

/-- The ASCII form of a label stands for the label. -/
theorem decode?_encode {label : List Nat} (valid : ∀ n ∈ label, n.isValidChar)
    (short : label.length ≤ longest) : decode? (encode label) = some label := by
  obtain ⟨digits, hdigits, hencode, hread⟩ := encode_eq valid short
  obtain ⟨hbare, hbehind⟩ := reverse_takeWhile_hyphen fun c hc => (hdigits c hc).ne_hyphen
  have hascii : ∀ n ∈ label.filter (· < 0x80), n < 0x80 := fun n hn => by
    simpa using (List.mem_filter.mp hn).2
  generalize label.filter (· < 0x80) = basic at hencode hread hascii
  cases basic with
  | nil =>
    have hcode : encode label = digits := hencode
    rw [hcode, decode?]
    simp only [hbare, if_true]
    exact hread
  | cons n basic =>
    have hcode : encode label = (n :: basic).map Char.ofNat ++ '-' :: digits := by
      rw [hencode]
      simp
    have hlength : ¬digits.length = ((n :: basic).map Char.ofNat ++ '-' :: digits).length := by
      simp
      omega
    have htake : ((n :: basic).map Char.ofNat ++ '-' :: digits).take
        (((n :: basic).map Char.ofNat ++ '-' :: digits).length - digits.length - 1) =
          (n :: basic).map Char.ofNat := by
      refine List.take_left' ?_
      simp
      omega
    have hbasic := map_ofNat_ascii hascii
    have hnone : ((n :: basic).map Char.ofNat).any (fun c => decide (0x80 ≤ c.toNat)) = false := by
      rw [List.any_eq_false]
      intro c hc
      have hmem := List.mem_map_of_mem (f := Char.toNat) hc
      rw [hbasic] at hmem
      simpa using hascii _ hmem
    rw [hcode, decode?]
    simp only [hbehind, if_neg hlength, htake, hnone, hbasic]
    exact hread

end SiteSpiders.Url.Punycode
