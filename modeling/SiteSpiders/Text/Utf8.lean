/-!
# UTF-8

Characters as bytes and back. Bytes are natural numbers below 256.
-/
namespace SiteSpiders.Text

def utf8Bytes (c : Char) : List Nat :=
  let n := c.toNat
  if n < 0x80 then [n]
  else if n < 0x800 then [0xc0 + n / 64, 0x80 + n % 64]
  else if n < 0x10000 then [0xe0 + n / 4096, 0x80 + n / 64 % 64, 0x80 + n % 64]
  else [0xf0 + n / 262144, 0x80 + n / 4096 % 64, 0x80 + n / 64 % 64, 0x80 + n % 64]

/-- The bytes of a list of characters. -/
def utf8Encode (cs : List Char) : List Nat := cs.flatMap utf8Bytes

/-- The number of bytes of a text. -/
def utf8Length (s : String) : Nat := s.toList.foldl (fun n c => n + (utf8Bytes c).length) 0

/-- Whether a byte continues a character. -/
def isTail (b : Nat) : Bool := 0x80 ≤ b && b ≤ 0xbf

/-- The characters that bytes encode, if they are well formed. -/
def utf8Decode? : List Nat → Option (List Char)
  | [] => some []
  | a :: rest =>
    if a < 0x80 then (utf8Decode? rest).map (Char.ofNat a :: ·)
    else match rest with
      | b :: rest =>
        if 0xc2 ≤ a ∧ a ≤ 0xdf ∧ isTail b then
          (utf8Decode? rest).map (Char.ofNat ((a - 0xc0) * 64 + (b - 0x80)) :: ·)
        else match rest with
          | c :: rest =>
            let n := (a - 0xe0) * 4096 + (b - 0x80) * 64 + (c - 0x80)
            if 0xe0 ≤ a ∧ a ≤ 0xef ∧ isTail b ∧ isTail c ∧ 0x800 ≤ n
                ∧ ¬ (0xd800 ≤ n ∧ n ≤ 0xdfff) then
              (utf8Decode? rest).map (Char.ofNat n :: ·)
            else match rest with
              | d :: rest =>
                let n := (a - 0xf0) * 262144 + (b - 0x80) * 4096 + (c - 0x80) * 64 + (d - 0x80)
                if 0xf0 ≤ a ∧ a ≤ 0xf4 ∧ isTail b ∧ isTail c ∧ isTail d
                    ∧ 0x10000 ≤ n ∧ n ≤ 0x10ffff then
                  (utf8Decode? rest).map (Char.ofNat n :: ·)
                else none
              | [] => none
          | [] => none
      | [] => none

end SiteSpiders.Text
