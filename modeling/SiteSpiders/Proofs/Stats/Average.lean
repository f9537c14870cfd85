import Mathlib.Algebra.BigOperators.Group.List.Basic
import Mathlib.Algebra.Order.Field.Rat
import Mathlib.Data.List.Induction
import Mathlib.Data.List.ReduceOption
import Mathlib.Tactic.NormNum
import Mathlib.Tactic.Positivity
import Mathlib.Tactic.Ring
import SiteSpiders.Stats.Basic

/-!
# The average response time

The average is kept up with each response from the number of all requests, and requests that
were never answered are among these. So each of them weighs in as if it had been answered in
the average time so far, and a later response counts for less than its share. In exact
arithmetic the average is that of the response times for all times that responses may take
exactly if no response comes after a request that was never answered.
-/
namespace SiteSpiders.Stats

/-! ## Histories -/

def rationals : Arithmetic ℚ := ⟨Int.cast, (· + ·), (· * ·), (· / ·)⟩

/-- What the statistics are told of a request: that it was answered, or that it never was. -/
inductive Recorded where
  | response (status size : Nat) (millis : Int)
  | failure

namespace Recorded

def lasting (millis : Int) : Recorded → Recorded
  | .response status size _ => .response status size millis
  | .failure => .failure

theorem lasting_lasting (what : Recorded) (millis millis' : Int) :
    (what.lasting millis).lasting millis' = what.lasting millis' := by
  cases what <;> rfl

def millis? : Recorded → Option Int
  | .response _ _ millis => some millis
  | .failure => none

def size : Recorded → Nat
  | .response _ size _ => size
  | .failure => 0

end Recorded

def Tally.record (t : Tally ℚ) : Recorded → Except Crash Unit × Tally ℚ
  | .response status size millis => t.recordRequest rationals status size millis
  | .failure => (.ok (), t.recordFailure)

/-- The time by which the average is kept up when statistics are told of a request: that of a
response, unless its size breaks off the count. -/
def Tally.time? (t : Tally ℚ) (what : Recorded) : Option Int :=
  match (t.record what).1 with
  | .ok () => what.millis?
  | .error _ => none

/-- Statistics after a history of requests. -/
def Tally.after (t : Tally ℚ) (history : List Recorded) : Tally ℚ :=
  history.foldl (fun t what => (t.record what).2) t

/-- The times by which the average is kept up in a history, `none` for a request without. -/
def Tally.times (t : Tally ℚ) : List Recorded → List (Option Int)
  | [] => []
  | what :: rest => t.time? what :: times (t.record what).2 rest

def blank : Tally ℚ := { average := 0 }

/-- The times of the responses in a history. -/
def durations (history : List Recorded) : List ℚ :=
  (blank.times history).reduceOption.map Int.cast

/-- The mean of some values, zero if there are none. -/
def mean (values : List ℚ) : ℚ := values.sum / values.length

/-- Times of which each that is missing is taken to be the mean of those before. -/
def filled (times : List (Option Int)) : List ℚ :=
  times.foldl (fun before time => before ++ [time.elim (mean before) Int.cast]) []

/-- Whether no time comes after one that is missing. -/
def Unbroken (times : List (Option Int)) : Prop :=
  times.Pairwise fun earlier later => later.isSome → earlier.isSome

/-- Whether two histories differ only in the times that responses took. -/
def Alike (history history' : List Recorded) : Prop :=
  history'.map (·.lasting 0) = history.map (·.lasting 0)

variable {t t' : Tally ℚ} {history history' : List Recorded} {what : Recorded}
  {times : List (Option Int)}

theorem Tally.after_snoc (t : Tally ℚ) (history : List Recorded) (what : Recorded) :
    t.after (history ++ [what]) = ((t.after history).record what).2 := by
  simp only [after, List.foldl_append, List.foldl_cons, List.foldl_nil]

theorem Tally.times_snoc (t : Tally ℚ) (history : List Recorded) (what : Recorded) :
    t.times (history ++ [what]) = t.times history ++ [(t.after history).time? what] := by
  induction history generalizing t with
  | nil => rfl
  | cons first rest ih =>
    simp only [List.cons_append, times, ih]
    rfl

/-! ## Means -/

lemma mean_nil : mean [] = 0 := zero_div _

theorem mean_mul_length (values : List ℚ) : mean values * values.length = values.sum := by
  cases values with
  | nil => simp
  | cons value rest =>
    have hlength : ((value :: rest).length : ℚ) ≠ 0 := Nat.cast_ne_zero.mpr (Nat.succ_ne_zero _)
    rw [mean, div_mul_cancel₀ _ hlength]

theorem mean_snoc (values : List ℚ) (value : ℚ) :
    mean (values ++ [value]) = (mean values * values.length + value) / (values.length + 1) := by
  rw [mean_mul_length, mean]
  simp

theorem mean_snoc_mean (values : List ℚ) : mean (values ++ [mean values]) = mean values := by
  have hlength : (values.length : ℚ) + 1 ≠ 0 := by positivity
  rw [mean_snoc, div_eq_iff hlength]
  ring

theorem filled_snoc (times : List (Option Int)) (time : Option Int) :
    filled (times ++ [time]) = filled times ++ [time.elim (mean (filled times)) Int.cast] := by
  simp only [filled, List.foldl_append, List.foldl_cons, List.foldl_nil]

@[simp] theorem length_filled (times : List (Option Int)) :
    (filled times).length = times.length := by
  induction times using List.reverseRecOn with
  | nil => rfl
  | append_singleton times time ih => simp [filled_snoc, ih]

theorem unbroken_snoc {time : Option Int} : Unbroken (times ++ [time]) ↔
    Unbroken times ∧ (time.isSome → ∀ earlier ∈ times, earlier.isSome) := by
  simp only [Unbroken, List.pairwise_append, List.pairwise_singleton, List.mem_singleton,
    forall_eq, true_and]
  exact and_congr_right fun _ => ⟨fun h hsome earlier hearlier => h earlier hearlier hsome,
    fun h earlier hearlier hsome => h hsome earlier hearlier⟩

lemma unbroken_map {f : Int → Int} : Unbroken (times.map (Option.map f)) ↔ Unbroken times := by
  simp only [Unbroken, List.pairwise_map, Option.isSome_map]

/-- Where no time is missing before another, filling in leaves the mean. -/
theorem Unbroken.mean_filled (unbroken : Unbroken times) :
    mean (filled times) = mean (times.reduceOption.map Int.cast) := by
  induction times using List.reverseRecOn with
  | nil => rfl
  | append_singleton times time ih =>
    obtain ⟨hrest, hlast⟩ := unbroken_snoc.mp unbroken
    rw [filled_snoc, List.reduceOption_append]
    cases time with
    | none =>
      simpa [mean_snoc_mean] using ih hrest
    | some time =>
      -- every time before the last one is there, so both means are over as many
      have hall : times.reduceOption.length = times.length :=
        List.reduceOption_length_eq_iff.mpr (hlast rfl)
      rw [List.reduceOption_singleton, List.map_append, Option.toList_some, List.map_singleton,
        mean_snoc, mean_snoc, ← ih hrest, length_filled, List.length_map, hall]
      rfl

/-- Times that are zero where they are not missing have the mean zero when they are filled in. -/
theorem mean_filled_eq_zero (zeros : ∀ time ∈ times, ∀ millis, time = some millis → millis = 0) :
    mean (filled times) = 0 := by
  induction times using List.reverseRecOn with
  | nil => exact mean_nil
  | append_singleton times time ih =>
    have hrest := ih fun time htime => zeros time (List.mem_append_left _ htime)
    rw [filled_snoc]
    cases time with
    | none => rw [Option.elim_none, mean_snoc_mean, hrest]
    | some millis =>
      have hzero : millis = 0 := zeros (some millis) (by simp) millis rfl
      rw [Option.elim_some, mean_snoc, hrest, hzero]
      simp

/-! ## What a request does to the average -/

namespace Tally

/-- A response whose size fits into the byte count is recorded with its time. -/
theorem record_response (status : Nat) {size : Nat} (millis : Int)
    (fits : t.bytesDownloaded + size < wordBound) :
    t.record (.response status size millis) = (.ok (), { t.countResponse status with
      bytesDownloaded := t.bytesDownloaded + size
      average := rationals.nextAverage t.average (t.totalRequests + 1) millis }) := by
  have hsum : addWord (t.countResponse status).bytesDownloaded size =
      .ok (t.bytesDownloaded + size) := if_pos fits
  simp only [record, recordRequest, hsum]
  rfl

theorem record_oversized (status : Nat) {size : Nat} (millis : Int)
    (large : ¬t.bytesDownloaded + size < wordBound) :
    t.record (.response status size millis) = (.error .addOverflow, t.countResponse status) := by
  have hsum : addWord (t.countResponse status).bytesDownloaded size = .error .addOverflow :=
    if_neg large
  simp only [record, recordRequest, hsum]

theorem time?_response (t : Tally ℚ) (status size : Nat) (millis : Int) :
    t.time? (.response status size millis) =
      if t.bytesDownloaded + size < wordBound then some millis else none := by
  split_ifs with fits
  · rw [time?, record_response status millis fits]
    rfl
  · rw [time?, record_oversized status millis fits]

/-- Every request adds one to the total, its size to the bytes if it has a time, and its time to
what the average is over. -/
theorem record_spec (t : Tally ℚ) (what : Recorded) :
    (t.record what).2.totalRequests = t.totalRequests + 1 ∧
      (t.record what).2.bytesDownloaded =
        t.bytesDownloaded + (if (t.time? what).isSome then what.size else 0) ∧
      (t.record what).2.average = (t.time? what).elim t.average fun time =>
        (t.average * t.totalRequests + time) / (t.totalRequests + 1) := by
  cases what with
  | failure => exact ⟨rfl, rfl, rfl⟩
  | response status size millis =>
    by_cases fits : t.bytesDownloaded + size < wordBound
    · rw [time?_response, if_pos fits, record_response status millis fits]
      refine ⟨rfl, rfl, ?_⟩
      simp [Arithmetic.nextAverage, rationals]
    · rw [time?_response, if_neg fits, record_oversized status millis fits]
      exact ⟨rfl, rfl, rfl⟩

theorem time?_lasting (same : t'.bytesDownloaded = t.bytesDownloaded) (millis : Int) :
    t'.time? (what.lasting millis) = (t.time? what).map fun _ => millis := by
  cases what with
  | failure => rfl
  | response status size before =>
    rw [Recorded.lasting, time?_response, time?_response, same]
    split_ifs <;> rfl

theorem record_lasting (what : Recorded) (millis : Int)
    (same : t'.bytesDownloaded = t.bytesDownloaded) :
    (t'.record (what.lasting millis)).2.bytesDownloaded = (t.record what).2.bytesDownloaded := by
  have hsize : (what.lasting millis).size = what.size := by cases what <;> rfl
  obtain ⟨-, hbytes, -⟩ := t.record_spec what
  obtain ⟨-, hbytes', -⟩ := t'.record_spec (what.lasting millis)
  rw [hbytes, hbytes', time?_lasting same, same, hsize, Option.isSome_map]

/-- Which requests of a history have a time does not depend on their times, nor do the bytes. -/
theorem times_lasting (history : List Recorded) (millis : Int)
    (same : t'.bytesDownloaded = t.bytesDownloaded) :
    t'.times (history.map (·.lasting millis)) =
        (t.times history).map (Option.map fun _ => millis) ∧
      (t'.after (history.map (·.lasting millis))).bytesDownloaded =
        (t.after history).bytesDownloaded := by
  induction history generalizing t t' with
  | nil => exact ⟨rfl, same⟩
  | cons what rest ih =>
    obtain ⟨htimes, hbytes⟩ := ih (record_lasting what millis same)
    refine ⟨?_, hbytes⟩
    simp only [List.map_cons, times, htimes, time?_lasting same]

/-- If all sizes fit into the byte count, every response has its time. -/
theorem times_of_fits (fits : t.bytesDownloaded + (history.map Recorded.size).sum < wordBound) :
    t.times history = history.map Recorded.millis? := by
  induction history generalizing t with
  | nil => rfl
  | cons what rest ih =>
    rw [List.map_cons, List.sum_cons] at fits
    have htime : t.time? what = what.millis? := by
      cases what with
      | failure => rfl
      | response status size millis =>
        have hsize : t.bytesDownloaded + size < wordBound := by
          simp only [Recorded.size] at fits
          omega
        rw [time?_response, if_pos hsize, Recorded.millis?]
    have hrest : (t.record what).2.bytesDownloaded + (rest.map Recorded.size).sum < wordBound := by
      obtain ⟨-, hbytes, -⟩ := t.record_spec what
      rw [hbytes]
      split_ifs <;> omega
    rw [times, htime, ih hrest, List.map_cons]

theorem length_times (t : Tally ℚ) (history : List Recorded) :
    (t.times history).length = history.length := by
  induction history generalizing t with
  | nil => rfl
  | cons what rest ih => rw [times, List.length_cons, ih, List.length_cons]

end Tally

theorem after_totalRequests (history : List Recorded) :
    (blank.after history).totalRequests = history.length := by
  induction history using List.reverseRecOn with
  | nil => rfl
  | append_singleton history what ih =>
    obtain ⟨htotal, -, -⟩ := (blank.after history).record_spec what
    rw [Tally.after_snoc, htotal, ih, List.length_append, List.length_singleton]

theorem after_average (history : List Recorded) :
    (blank.after history).average = mean (filled (blank.times history)) := by
  induction history using List.reverseRecOn with
  | nil => exact mean_nil.symm
  | append_singleton history what ih =>
    obtain ⟨-, -, haverage⟩ := (blank.after history).record_spec what
    rw [Tally.after_snoc, haverage, Tally.times_snoc, filled_snoc, ih, after_totalRequests]
    cases (blank.after history).time? what with
    | none => rw [Option.elim_none, Option.elim_none, mean_snoc_mean]
    | some time =>
      rw [Option.elim_some, Option.elim_some, mean_snoc, length_filled, Tally.length_times]

/-! ## When the average is exact -/

/-- Whether the average after a history is the mean of the times of its responses. -/
def Exact (history : List Recorded) : Prop :=
  (blank.after history).average = mean (durations history)

/-- Histories that differ in the times of responses have them at the same places, and load the same
bytes. -/
theorem Alike.same (alike : Alike history history') :
    (blank.times history').map (Option.map fun _ => (0 : Int)) =
        (blank.times history).map (Option.map fun _ => 0) ∧
      (blank.after history').bytesDownloaded = (blank.after history).bytesDownloaded := by
  obtain ⟨htimes, hbytes⟩ := Tally.times_lasting history 0 (t := blank) rfl
  obtain ⟨htimes', hbytes'⟩ := Tally.times_lasting history' 0 (t := blank) rfl
  rw [← htimes, ← htimes', ← hbytes, ← hbytes', alike]
  exact ⟨rfl, rfl⟩

theorem Alike.snoc (alike : Alike history history') (what : Recorded) (millis : Int) :
    Alike (history ++ [what]) (history' ++ [what.lasting millis]) := by
  rw [Alike, List.map_append, List.map_append, alike, List.map_singleton, List.map_singleton,
    Recorded.lasting_lasting]

/-- If no request without a time comes before one that has one, the average is exact, whatever the
responses take. -/
theorem Unbroken.exact (unbroken : Unbroken (blank.times history))
    (alike : Alike history history') :
    Exact history' := by
  rw [← unbroken_map, ← alike.same.1, unbroken_map] at unbroken
  rw [Exact, after_average, unbroken.mean_filled, durations]

theorem exact_snoc_of_none (missing : (blank.after history).time? what = none) :
    Exact (history ++ [what]) ↔ Exact history := by
  rw [Exact, Exact, after_average, after_average, durations, durations, Tally.times_snoc, missing,
    filled_snoc, Option.elim_none, mean_snoc_mean, List.reduceOption_append]
  simp

/-- If all responses take no time but the last one, which takes one millisecond, the average is
exact only if every request has a time. -/
theorem isSome_of_exact_snoc (exact : Exact (history.map (·.lasting 0) ++ [what.lasting 1]))
    (timed : ((blank.after history).time? what).isSome) :
    ∀ time ∈ blank.times history, time.isSome := by
  obtain ⟨htimes, hbytes⟩ := Tally.times_lasting history 0 (t := blank) rfl
  obtain ⟨time, htime⟩ := Option.isSome_iff_exists.mp timed
  have hfilled : mean (filled ((blank.times history).map (Option.map fun _ => 0))) = 0 := by
    refine mean_filled_eq_zero fun time htime millis hmillis => ?_
    obtain ⟨before, -, rfl⟩ := List.mem_map.mp htime
    obtain ⟨_, -, rfl⟩ := Option.map_eq_some_iff.mp hmillis
    rfl
  have hmean :
      mean (((blank.times history).reduceOption.map fun _ => (0 : Int)).map Int.cast) = 0 := by
    simp [mean]
  -- the two means are those of one millisecond over all requests and over those with a time
  rw [Exact, after_average, durations, Tally.times_snoc, htimes, Tally.time?_lasting hbytes, htime,
    Option.map_some, filled_snoc, Option.elim_some, mean_snoc, hfilled, List.reduceOption_append,
    List.reduceOption_map, List.reduceOption_singleton, Option.toList_some, List.map_append,
    List.map_singleton, mean_snoc, hmean] at exact
  refine List.reduceOption_length_eq_iff.mp ?_
  simpa using exact.symm

/-- If the average is exact whatever the responses take, none of them comes after a request without
a time. -/
theorem unbroken_of_forall_exact (exact : ∀ history', Alike history history' → Exact history') :
    Unbroken (blank.times history) := by
  induction history using List.reverseRecOn with
  | nil => exact .nil
  | append_singleton history what ih =>
    rw [Tally.times_snoc, unbroken_snoc]
    cases htime : (blank.after history).time? what with
    | none =>
      refine ⟨ih fun history' alike => ?_, fun hsome => by cases hsome⟩
      have missing : (blank.after history').time? (what.lasting 0) = none := by
        rw [Tally.time?_lasting alike.same.2, htime, Option.map_none]
      exact (exact_snoc_of_none missing).mp (exact _ (alike.snoc what 0))
    | some time =>
      have hzeros : Alike history (history.map (·.lasting 0)) := by
        simp [Alike, Recorded.lasting_lasting]
      have hall := isSome_of_exact_snoc (exact _ (hzeros.snoc what 1)) (htime ▸ rfl)
      exact ⟨List.pairwise_of_forall_mem_list fun earlier hearlier _ _ _ => hall earlier hearlier,
        fun _ => hall⟩

/-- What the average after a history is, and when it is the mean of the response times. -/
structure AverageAfter (history : List Recorded) : Prop where
  value : (blank.after history).average = mean (filled (blank.times history))
  exact_iff : (∀ history', Alike history history' →
    (blank.after history').average = mean (durations history')) ↔ Unbroken (blank.times history)
  whole : (history.map Recorded.size).sum < wordBound →
    blank.times history = history.map Recorded.millis?

/-- After any history the average is the mean over all requests, those without a time taken to have
lasted the average so far; it is the mean of the response times for all times that responses may
take just if no response comes after a request without a time. -/
theorem average_after_history (history : List Recorded) : AverageAfter history := by
  refine ⟨after_average history, ?_, fun fits => Tally.times_of_fits ?_⟩
  · exact ⟨unbroken_of_forall_exact, fun unbroken _ alike => unbroken.exact alike⟩
  · rwa [show blank.bytesDownloaded = 0 from rfl, Nat.zero_add]

/-- After a request that was never answered and a response in ten milliseconds the average is five
milliseconds. -/
theorem average_after_failure :
    ¬∀ history : List Recorded, (∃ what ∈ history, what ≠ .failure) →
      (blank.after history).average =
        mean ((history.filterMap Recorded.millis?).map Int.cast) := by
  intro average
  have hten := average [.failure, .response 200 0 10] ⟨.response 200 0 10, by simp, by simp⟩
  have htimes : blank.times [.failure, .response 200 0 10] = [none, some 10] :=
    Tally.times_of_fits (by decide)
  have hfive : mean (filled [none, some 10]) = 5 := by norm_num [filled, mean]
  have hdurations : [Recorded.failure, .response 200 0 10].filterMap Recorded.millis? = [10] := rfl
  have hmean : mean ([10].map Int.cast) = 10 := by norm_num [mean]
  rw [after_average, htimes, hfive, hdurations, hmean] at hten
  norm_num at hten

end SiteSpiders.Stats
