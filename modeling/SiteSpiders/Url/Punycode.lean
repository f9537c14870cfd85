import SiteSpiders.Sorting

/-!
# Punycode

Labels with characters beyond ASCII as ASCII text: the ASCII characters first,
then the others as differences in a number system with changing digit weights.
-/
namespace SiteSpiders.Url.Punycode

/-- Weight threshold of the digit at position `k` under a bias. -/
def threshold (k bias : Nat) : Nat :=
  if k ≤ bias + 1 then 1 else if bias + 26 ≤ k then 26 else k - bias

/-- Halves a difference until it is small; counts the digits passed. -/
def reduce (delta k : Nat) : Nat × Nat :=
  if 455 < delta then reduce (delta / 35) (k + 36) else (delta, k)
termination_by delta

/-- The next bias after a difference. -/
def adapt (delta points : Nat) (first : Bool) : Nat :=
  let delta := if first then delta / 700 else delta / 2
  let delta := delta + delta / points
  let (delta, k) := reduce delta 0
  k + 36 * delta / (delta + 38)

/-- A digit: letters stand for 0 to 25, digits for 26 to 35. -/
def digitChar (d : Nat) : Char :=
  if d < 26 then Char.ofNat (d + 97) else Char.ofNat (d + 22)

def digitValue? (c : Char) : Option Nat :=
  if 'a' ≤ c ∧ c ≤ 'z' then some (c.toNat - 97)
  else if 'A' ≤ c ∧ c ≤ 'Z' then some (c.toNat - 65)
  else if '0' ≤ c ∧ c ≤ '9' then some (c.toNat - 22)
  else none

theorem threshold_pos (k bias : Nat) : 1 ≤ threshold k bias ∧ threshold k bias ≤ 26 := by
  unfold threshold; split
  · omega
  · split <;> omega

def writeNumber (q k bias : Nat) : List Char :=
  let t := threshold k bias
  if q < t then [digitChar q]
  else digitChar (t + (q - t) % (36 - t)) :: writeNumber ((q - t) / (36 - t)) (k + 36) bias
termination_by q
decreasing_by
  have := threshold_pos k bias
  exact Nat.lt_of_le_of_lt (Nat.div_le_self _ _) (by omega)

/-- Writer state: the difference in progress, the count of written characters, the bias. -/
structure Writer where
  delta : Nat
  written : Nat
  bias : Nat
  out : List Char

/-- One pass over the input for code point `n`. -/
def writePass (n basic : Nat) (input : List Nat) (w : Writer) : Writer :=
  input.foldl (fun w c =>
    if c < n then { w with delta := w.delta + 1 }
    else if c = n then
      { delta := 0, written := w.written + 1
        bias := adapt w.delta (w.written + 1) (w.written == basic)
        out := w.out ++ writeNumber w.delta 36 w.bias }
    else w) w

/-- The passes for each distinct code point beyond ASCII, in rising order. -/
def writeAll (basic : Nat) (input : List Nat) : List Nat → Nat → Writer → Writer
  | [], _, w => w
  | m :: rest, n, w =>
    let w := { w with delta := w.delta + (m - n) * (w.written + 1) }
    let w := writePass m basic input w
    writeAll basic input rest (m + 1) { w with delta := w.delta + 1 }

/-- The ASCII form of a label. -/
def encode (input : List Nat) : List Char :=
  let basic := input.filter (· < 0x80)
  let others := (Sorting.sortBy (fun a b => a ≤ b) (input.filter (0x80 ≤ ·))).eraseDups
  let start := if basic.isEmpty then [] else basic.map Char.ofNat ++ ['-']
  (writeAll basic.length input others 0x80 ⟨0, basic.length, 72, start⟩).out

/-- Reads one difference onto `i`, with the rest of the digits. -/
def readNumber (bias : Nat) : List Char → Nat → Nat → Nat → Option (Nat × List Char)
  | [], _, _, _ => none
  | c :: rest, i, weight, k => do
    let d ← digitValue? c
    let i := i + d * weight
    let t := threshold k bias
    if 0xffffffff < i then none
    else if d < t then some (i, rest)
    else readNumber bias rest i (weight * (36 - t)) (k + 36)

/-- Reads differences and puts each code point in its place. -/
def readAll : Nat → List Char → Nat → Nat → Nat → List Nat → Option (List Nat)
  | 0, _, _, _, _, _ => none
  | _ + 1, [], _, _, _, out => some out
  | fuel + 1, cs, i, n, bias, out => do
    let (j, rest) ← readNumber bias cs i 1 36
    let count := out.length + 1
    let bias := adapt (j - i) count (i == 0)
    let n := n + j / count
    let at' := j % count
    if 0x10ffff < n ∨ (0xd800 ≤ n ∧ n ≤ 0xdfff) then none
    else readAll fuel rest (at' + 1) n bias (out.take at' ++ n :: out.drop at')

/-- The code points an ASCII form stands for. -/
def decode? (cs : List Char) : Option (List Nat) :=
  let tail := (cs.reverse.takeWhile (· != '-')).reverse
  let basic := if tail.length = cs.length then [] else cs.take (cs.length - tail.length - 1)
  if basic.any (fun c => 0x80 ≤ c.toNat) then none
  else readAll (tail.length + 1) tail 0 0x80 72 (basic.map Char.toNat)

end SiteSpiders.Url.Punycode
