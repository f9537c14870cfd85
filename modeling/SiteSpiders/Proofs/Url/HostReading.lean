import Mathlib.Algebra.Group.Nat.Defs
import Mathlib.Data.List.Induction
import SiteSpiders.Proofs.Url.DomainText

/-!
# Hosts are read as they are written

Whatever host was read from a text, its own text is read as that host: addresses by their numbers,
domain names because their ASCII form is its own. Only a domain name with a label that is too long
to be decoded is refused.
-/
namespace SiteSpiders

namespace Host

/-- Whether the labels of a host, if it is a domain name, are short enough to be decoded. -/
def Decodable : Host → Prop
  | .domain name => Url.DecodableName name.toList
  | _ => True

instance (h : Host) : Decidable h.Decodable :=
  match h with
  | .domain name => inferInstanceAs (Decidable (Url.DecodableName name.toList))
  | .ipv4 _ => inferInstanceAs (Decidable True)
  | .ipv6 _ => inferInstanceAs (Decidable True)

end Host

namespace Url

open Text (Ascii divide joinWith hexDigit? hexOfList utf8Encode)

lemma hexDigit?_digitChar : ∀ d < 16, hexDigit? (Nat.digitChar d) = some d := by decide

theorem isSome_hexDigit?_of_mem {n : Nat} {c : Char} (h : c ∈ Nat.toDigits 16 n) :
    (hexDigit? c).isSome = true := by
  obtain ⟨d, hd, rfl⟩ := mem_toDigits (by decide) h
  rw [hexDigit?_digitChar d hd]
  rfl

theorem hexOfList_toDigits (n : Nat) : hexOfList (Nat.toDigits 16 n) = n := by
  induction n using Nat.strongRecOn with
  | ind n ih =>
    rw [Nat.toDigits_eq_if (by decide)]
    split_ifs with hn
    · simp [hexOfList, hexDigit?_digitChar n hn]
    · have hrest := ih (n / 16) (Nat.div_lt_self (by omega) (by decide))
      have hlast := hexDigit?_digitChar (n % 16) (Nat.mod_lt _ (by decide))
      rw [hexOfList] at hrest
      rw [hexOfList, List.foldl_append, hrest]
      simp only [List.foldl_cons, List.foldl_nil, hlast]
      omega

section Ipv6

/-- Pieces of an IPv6 address with colons between them. -/
def colons (pieces : List Nat) : List Char := joinWith ':' (pieces.map (Nat.toDigits 16))

theorem colons_cons (n : Nat) {pieces : List Nat} (h : pieces ≠ []) :
    colons (n :: pieces) = Nat.toDigits 16 n ++ ':' :: colons pieces := by
  cases pieces with
  | nil => exact absurd rfl h
  | cons m pieces => rfl

theorem colons_ne_nil {pieces : List Nat} (h : pieces ≠ []) : colons pieces ≠ [] := by
  cases pieces with
  | nil => exact absurd rfl h
  | cons n pieces =>
    cases pieces with
    | nil => exact Nat.toDigits_ne_nil
    | cons m pieces => simp [colons, joinWith]

theorem length_le_colons (pieces : List Nat) : pieces.length ≤ (colons pieces).length := by
  induction pieces with
  | nil => simp
  | cons n pieces ih =>
    have hdigits : 0 < (Nat.toDigits 16 n).length := Nat.length_toDigits_pos
    cases pieces with
    | nil => exact hdigits
    | cons m pieces =>
      rw [colons_cons n (by simp)]
      simp only [List.length_cons, List.length_append] at ih ⊢
      omega

theorem toList_intercalate_colons (pieces : List Nat) :
    (String.intercalate ":" (pieces.map Host.pieceText)).toList = colons pieces := by
  rw [String.toList_intercalate]
  induction pieces with
  | nil => rfl
  | cons n pieces ih =>
    cases pieces with
    | nil => simp [colons, joinWith, Host.pieceText]
    | cons m pieces =>
      rw [colons_cons n (by simp), ← ih]
      simp [Host.pieceText]

variable {n fuel : Nat} {before pieces : List Nat} {gap : Option Nat} {more : List Char}

theorem readPiece_toDigits (fits : n < 65536) (rest : List Char)
    (ends : ∀ c ∈ rest.head?, (hexDigit? c).isSome = false) :
    readPiece (Nat.toDigits 16 n ++ rest) = some (n, (Nat.toDigits 16 n).length, rest) := by
  have hlength : (Nat.toDigits 16 n).length ≤ 4 :=
    (Nat.length_toDigits_le_iff (by decide) (by decide)).mpr fits
  have hdigits : ((Nat.toDigits 16 n ++ rest).take 4).takeWhile (fun c => (hexDigit? c).isSome) =
      Nat.toDigits 16 n := by
    rw [List.take_append, List.take_of_length_le hlength,
      List.takeWhile_append_of_pos fun c hc => isSome_hexDigit?_of_mem hc]
    have hnil : (rest.take (4 - (Nat.toDigits 16 n).length)).takeWhile
        (fun c => (hexDigit? c).isSome) = [] := by
      rw [List.takeWhile_eq_nil_iff]
      intro hpos
      cases rest with
      | nil => simp at hpos
      | cons c rest =>
        rw [List.get_eq_getElem, List.getElem_take]
        simpa using ends c rfl
    rw [hnil, List.append_nil]
  simp only [readPiece, hdigits, hexOfList_toDigits, List.drop_left]

theorem readPieces_colon (fits : n < 65536) (room : before.length < 8) :
    readPieces (fuel + 1) (Nat.toDigits 16 n ++ ':' :: more) before gap =
      if more.isEmpty then none else readPieces fuel more (n :: before) gap := by
  have hpiece := readPiece_toDigits fits (':' :: more) (by simp; decide)
  cases hdigits : Nat.toDigits 16 n with
  | nil => exact absurd hdigits Nat.toDigits_ne_nil
  | cons d digits =>
    have hd : d ≠ ':' := (hexDigit_ne (n := n) (by rw [hdigits]; simp)).1
    rw [hdigits, List.cons_append] at hpiece
    rw [List.cons_append, readPieces]
    · simp only [List.isEmpty_cons, Bool.false_eq_true, if_false, Nat.not_le.mpr room, hpiece]
      rfl
    · intro rest heq
      exact hd (List.cons.inj heq).1

theorem readPieces_last (fits : n < 65536) (room : before.length < 8) :
    readPieces (fuel + 1) (Nat.toDigits 16 n) before gap = some ((n :: before).reverse, gap) := by
  have hpiece := readPiece_toDigits fits [] (by simp)
  cases hdigits : Nat.toDigits 16 n with
  | nil => exact absurd hdigits Nat.toDigits_ne_nil
  | cons d digits =>
    have hd : d ≠ ':' := (hexDigit_ne (n := n) (by rw [hdigits]; simp)).1
    rw [hdigits, List.append_nil] at hpiece
    rw [readPieces]
    · simp only [List.isEmpty_cons, Bool.false_eq_true, if_false, Nat.not_le.mpr room, hpiece]
      rfl
    · intro rest heq
      exact hd (List.cons.inj heq).1

/-- Pieces are read to the end of the text. -/
theorem readPieces_colons (fit : ∀ n ∈ pieces, n < 65536)
    (room : before.length + pieces.length ≤ 8) (enough : pieces.length < fuel) :
    readPieces fuel (colons pieces) before gap = some (before.reverse ++ pieces, gap) := by
  induction pieces generalizing before fuel with
  | nil =>
    cases fuel with
    | zero => cases enough
    | succ fuel => simp [readPieces, colons, joinWith]
  | cons n pieces ih =>
    have hn := fit n (by simp)
    simp only [List.length_cons] at room enough
    cases fuel with
    | zero => cases enough
    | succ fuel =>
      cases pieces with
      | nil =>
        refine (readPieces_last hn (by omega)).trans ?_
        simp
      | cons m pieces =>
        have hne : colons (m :: pieces) ≠ [] := colons_ne_nil (by simp)
        have hsome : (colons (m :: pieces)).isEmpty = false := by simpa using hne
        rw [colons_cons n (by simp), readPieces_colon hn (by omega), hsome,
          ih (fun k hk => fit k (by simp [hk])) (by simp at room ⊢; omega) (by omega)]
        simp

/-- Pieces are read up to the gap behind them. -/
theorem readPieces_gap (some_ : pieces ≠ []) (fit : ∀ n ∈ pieces, n < 65536)
    (room : before.length + pieces.length < 8) :
    readPieces (fuel + pieces.length + 1) (colons pieces ++ ':' :: ':' :: more) before none =
      readPieces fuel more (pieces.reverse ++ before) (some (before.length + pieces.length)) := by
  induction pieces generalizing before with
  | nil => exact absurd rfl some_
  | cons n pieces ih =>
    have hn := fit n (by simp)
    simp only [List.length_cons] at room
    cases pieces with
    | nil =>
      refine (readPieces_colon hn (by omega)).trans ?_
      have hroom : ¬8 ≤ (n :: before).length := by simp; omega
      simp only [List.isEmpty_cons, Bool.false_eq_true, if_false, List.length_singleton,
        readPieces, hroom, Option.isSome_none]
      rfl
    | cons m pieces =>
      have hfuel : fuel + (n :: m :: pieces).length + 1 =
          (fuel + (m :: pieces).length + 1) + 1 := by simp; omega
      have hsome : (colons (m :: pieces) ++ ':' :: ':' :: more).isEmpty = false := by simp
      rw [colons_cons n (by simp), hfuel, List.append_assoc, List.cons_append,
        readPieces_colon hn (by omega), hsome,
        ih (by simp) (fun k hk => fit k (by simp [hk])) (by simp at room ⊢; omega)]
      have hcount : (n :: before).length + (m :: pieces).length =
          before.length + (n :: m :: pieces).length := by simp; omega
      rw [hcount]
      simp

/-- The address of pieces that were read, with the gap filled up. -/
def completed (pieces : List Nat) : Option Nat → Except UrlError (List Nat)
  | none => if pieces.length = 8 then .ok pieces else .error .invalidIpv6
  | some g =>
    if 8 ≤ pieces.length then .error .invalidIpv6
    else .ok (pieces.take g ++ List.replicate (8 - pieces.length) 0 ++ pieces.drop g)

theorem parseIpv6_of_digit {cs : List Char} (digit : ∀ c ∈ cs.head?, c ≠ ':')
    (h : readPieces (cs.length + 1) cs [] none = some (pieces, gap)) :
    parseIpv6 cs = completed pieces gap := by
  cases cs with
  | nil =>
    simp only [parseIpv6, Option.bind_some, h]
    cases gap <;> rfl
  | cons c rest =>
    have hgap : ∀ more, c :: rest = ':' :: ':' :: more → False :=
      fun more heq => digit c rfl (List.cons.inj heq).1
    have hcolon : ∀ more, c :: rest = ':' :: more → False :=
      fun more heq => digit c rfl (List.cons.inj heq).1
    simp only [parseIpv6, Option.bind_some, h]
    cases gap <;> rfl

theorem parseIpv6_of_gap (h : readPieces (more.length + 3) more [] (some 0) = some (pieces, gap)) :
    parseIpv6 (':' :: ':' :: more) = completed pieces gap := by
  have hread : readPieces ((':' :: ':' :: more).length + 1) more [] (some 0) =
      some (pieces, gap) := h
  simp only [parseIpv6, Option.bind_some, hread]
  cases gap <;> rfl

theorem head?_colons (n : Nat) (pieces : List Nat) (cs : List Char) :
    ∀ c ∈ (colons (n :: pieces) ++ cs).head?, c ≠ ':' := by
  have hdigits : ∀ cs, ∀ c ∈ (Nat.toDigits 16 n ++ cs).head?, c ≠ ':' := by
    intro cs c hc
    have hne : Nat.toDigits 16 n ≠ [] := Nat.toDigits_ne_nil
    rw [List.head?_append_of_ne_nil _ hne] at hc
    exact (hexDigit_ne (List.mem_of_mem_head? hc)).1
  cases pieces with
  | nil => exact hdigits cs
  | cons m pieces =>
    rw [colons_cons n (by simp), List.append_assoc]
    exact hdigits _

/-- An IPv6 address is read back from its text. -/
theorem parseIpv6_text (eight : pieces.length = 8) (fit : ∀ n ∈ pieces, n < 65536) :
    parseIpv6 (Host.ipv6Text pieces).toList = .ok pieces := by
  unfold Host.ipv6Text
  dsimp only
  split_ifs with hshort
  · -- All pieces are written out.
    rw [toList_intercalate_colons]
    have hread : readPieces ((colons pieces).length + 1) (colons pieces) [] none =
        some (pieces, none) :=
      readPieces_colons fit (by simp [eight]) (Nat.lt_succ_of_le (length_le_colons pieces))
    have hdigit : ∀ c ∈ (colons pieces).head?, c ≠ ':' := by
      cases pieces with
      | nil => cases eight
      | cons n pieces => simpa using head?_colons n pieces []
    rw [parseIpv6_of_digit hdigit hread]
    exact if_pos eight
  · -- A run of zeros is left out between the pieces `left` and `right`.
    obtain hzero | ⟨-, hsplit⟩ := Host.longestZeros_spec 0 pieces
    · omega
    rw [Nat.sub_zero] at hsplit
    generalize (Host.longestZeros 0 pieces).1 = start at hsplit ⊢
    generalize (Host.longestZeros 0 pieces).2 = zeros at hsplit hshort ⊢
    generalize hleft : pieces.take start = left at hsplit ⊢
    generalize hright : pieces.drop (start + zeros) = right at hsplit ⊢
    have hfitLeft : ∀ n ∈ left, n < 65536 := fun n hn =>
      fit n (List.mem_of_mem_take (hleft ▸ hn))
    have hfitRight : ∀ n ∈ right, n < 65536 := fun n hn =>
      fit n (List.mem_of_mem_drop (hright ▸ hn))
    have hcount : left.length + zeros + right.length = 8 := by
      have hlength := congrArg List.length hsplit
      simp only [List.length_append, List.length_replicate] at hlength
      omega
    have hfilled : completed (left ++ right) (some left.length) = .ok pieces := by
      have hlength : (left ++ right).length = left.length + right.length := List.length_append
      have hzeros : 8 - (left ++ right).length = zeros := by omega
      rw [completed, if_neg (by omega), hzeros, List.take_left, List.drop_left, ← hsplit]
    have henough := length_le_colons right
    rw [String.toList_append, String.toList_append, toList_intercalate_colons,
      toList_intercalate_colons]
    show parseIpv6 (colons left ++ [':', ':'] ++ colons right) = _
    rw [List.append_assoc, ← hfilled]
    cases left with
    | nil =>
      have hread : readPieces ((colons right).length + 3) (colons right) [] (some 0) =
          some (right, some 0) :=
        readPieces_colons hfitRight (by simp at hcount ⊢; omega) (by omega)
      exact parseIpv6_of_gap hread
    | cons n left =>
      refine parseIpv6_of_digit (head?_colons n left _) ?_
      have hlength := length_le_colons (n :: left)
      have hfuel : (colons (n :: left) ++ ([':', ':'] ++ colons right)).length + 1 =
          (colons (n :: left)).length - (n :: left).length + 2 + (colons right).length +
            (n :: left).length + 1 := by
        simp only [List.length_append, List.length_cons, List.length_nil] at hlength ⊢
        omega
      rw [hfuel]
      refine (readPieces_gap (by simp) hfitLeft (by simp at hcount ⊢; omega)).trans ?_
      refine (readPieces_colons hfitRight (by simp at hcount ⊢; omega) (by omega)).trans ?_
      simp

/-- Hexadecimal digits denote a number below the power of their base. -/
theorem hexOfList_lt (cs : List Char) : hexOfList cs < 16 ^ cs.length := by
  have hdigit : ∀ {c : Char} {d : Nat}, hexDigit? c = some d → d < 16 := by
    intro c d h
    unfold hexDigit? at h
    split_ifs at h with h₁ h₂ h₃
    · obtain rfl := Option.some.inj h
      have hle : c.toNat ≤ '9'.toNat := h₁.2
      exact Nat.lt_of_le_of_lt (Nat.sub_le_sub_right hle _) (by decide)
    · obtain rfl := Option.some.inj h
      have hle : c.toNat ≤ 'f'.toNat := h₂.2
      exact Nat.lt_of_le_of_lt (Nat.add_le_add_right (Nat.sub_le_sub_right hle _) _) (by decide)
    · obtain rfl := Option.some.inj h
      have hle : c.toNat ≤ 'F'.toNat := h₃.2
      exact Nat.lt_of_le_of_lt (Nat.add_le_add_right (Nat.sub_le_sub_right hle _) _) (by decide)
  induction cs using List.reverseRecOn with
  | nil => simp [hexOfList]
  | append_singleton cs c ih =>
    rw [hexOfList] at ih
    rw [hexOfList, List.foldl_append, List.length_append, List.length_singleton, Nat.pow_succ]
    simp only [List.foldl_cons, List.foldl_nil]
    split
    · rename_i d hd
      have hlt := hdigit hd
      omega
    · omega

theorem readByte_le {cs rest : List Char} (h : readByte cs = some (n, rest)) : n ≤ 255 := by
  unfold readByte at h
  dsimp only at h
  split at h
  · cases h
  · cases h
  · split_ifs at h with hle
    obtain ⟨rfl, -⟩ := Prod.mk.inj (Option.some.inj h)
    omega

theorem readEmbedded_lt {cs : List Char} (h : readEmbedded cs = some pieces) :
    ∀ n ∈ pieces, n < 65536 := by
  unfold readEmbedded at h
  obtain ⟨⟨a, _⟩, ha, h⟩ := Option.bind_eq_some_iff.mp h
  dsimp only at h
  split at h <;> [rw [Option.bind_eq_bind, Option.bind_some] at h; cases h]
  obtain ⟨⟨b, _⟩, hb, h⟩ := Option.bind_eq_some_iff.mp h
  split at h <;> [rw [Option.bind_eq_bind, Option.bind_some] at h; cases h]
  obtain ⟨⟨c, _⟩, hc, h⟩ := Option.bind_eq_some_iff.mp h
  split at h <;> [rw [Option.bind_some] at h; cases h]
  obtain ⟨⟨d, _⟩, hd, h⟩ := Option.bind_eq_some_iff.mp h
  split_ifs at h
  obtain rfl := Option.some.inj h
  have ha := readByte_le ha
  have hb := readByte_le hb
  have hc := readByte_le hc
  have hd := readByte_le hd
  simp only [List.forall_mem_cons]
  refine ⟨?_, ?_, by simp⟩ <;> omega

/-- Pieces that are read have sixteen bits. -/
theorem readPieces_lt {cs : List Char} {gap' : Option Nat}
    (h : readPieces fuel cs before gap = some (pieces, gap')) (fit : ∀ n ∈ before, n < 65536) :
    ∀ n ∈ pieces, n < 65536 := by
  have hpiece : ∀ {cs : List Char} {value length : Nat} {rest : List Char},
      readPiece cs = some (value, length, rest) → value < 65536 := by
    intro cs value length rest h
    obtain ⟨rfl, -⟩ := Prod.mk.inj (Option.some.inj h)
    refine Nat.lt_of_lt_of_le (hexOfList_lt _) ?_
    refine Nat.pow_le_pow_right (by decide) (?_ : _ ≤ 4)
    have hlength := (List.takeWhile_sublist (l := cs.take 4)
      fun c => (hexDigit? c).isSome).length_le
    simp only [List.length_take] at hlength
    omega
  induction fuel generalizing cs before gap with
  | zero => cases h
  | succ fuel ih =>
    rw [readPieces.eq_def] at h
    dsimp only at h
    by_cases hempty : cs.isEmpty = true
    · rw [if_pos hempty] at h
      obtain ⟨rfl, -⟩ := Prod.mk.inj (Option.some.inj h)
      exact fun n hn => fit n (List.mem_reverse.mp hn)
    by_cases hroom : 8 ≤ before.length
    · rw [if_neg hempty, if_pos hroom] at h
      cases h
    rw [if_neg hempty, if_neg hroom] at h
    split at h
    · split_ifs at h
      exact ih h fit
    · obtain ⟨⟨value, length, rest⟩, hvalue, h⟩ := Option.bind_eq_some_iff.mp h
      have hcons : ∀ n ∈ value :: before, n < 65536 :=
        List.forall_mem_cons.mpr ⟨hpiece hvalue, fit⟩
      dsimp only at h
      split at h
      · split_ifs at h
        obtain ⟨embedded, hembedded, h⟩ := Option.bind_eq_some_iff.mp h
        obtain ⟨rfl, -⟩ := Prod.mk.inj (Option.some.inj h)
        intro n hn
        simp only [List.mem_reverse, List.mem_append] at hn
        rcases hn with hn | hn
        · exact readEmbedded_lt hembedded n hn
        · exact fit n hn
      · split_ifs at h
        exact ih h hcons
      · obtain ⟨rfl, -⟩ := Prod.mk.inj (Option.some.inj h)
        exact fun n hn => hcons n (List.mem_reverse.mp hn)
      · cases h

/-- The pieces of an IPv6 address that is read have sixteen bits. -/
theorem parseIpv6_lt {cs : List Char} (h : parseIpv6 cs = .ok pieces) :
    ∀ n ∈ pieces, n < 65536 := by
  unfold parseIpv6 at h
  dsimp only at h
  have hread : ∀ {start : Option (List Char × Option Nat)} {pieces : List Nat} {gap : Option Nat},
      (start.bind fun x => readPieces (cs.length + 1) x.1 [] x.2) = some (pieces, gap) →
        ∀ n ∈ pieces, n < 65536 := by
    intro start pieces gap hstart
    obtain ⟨x, -, hx⟩ := Option.bind_eq_some_iff.mp hstart
    exact readPieces_lt hx (by simp)
  split at h
  · cases h
  · rename_i hfound
    split_ifs at h
    obtain rfl := Except.ok.inj h
    exact hread hfound
  · rename_i g hfound
    split_ifs at h
    obtain rfl := Except.ok.inj h
    have hall := hread hfound
    intro n hn
    simp only [List.mem_append, List.mem_replicate] at hn
    rcases hn with (hn | ⟨-, rfl⟩) | hn
    · exact hall n (List.mem_of_mem_take hn)
    · decide
    · exact hall n (List.mem_of_mem_drop hn)

end Ipv6

section Ipv4

theorem mapM_eq_some_map {α β : Type} {f : α → Option β} {g : α → β} {l : List α}
    (h : ∀ a ∈ l, f a = some (g a)) : l.mapM f = some (l.map g) := by
  induction l with
  | nil => rfl
  | cons a l ih =>
    rw [List.mapM_cons, h a (by simp), ih fun b hb => h b (by simp [hb])]
    rfl

theorem joinersFit_ascii {before label : List Nat} (ascii : ∀ n ∈ label, n < 0x80) :
    joinersFit before label = true := by
  induction label generalizing before with
  | nil => rfl
  | cons n label ih =>
    have hn := ascii n (by simp)
    have h₁ : ¬n = 0x200c := by omega
    have h₂ : ¬n = 0x200d := by omega
    have hrest : ∀ before, joinersFit before label = true :=
      fun _ => ih fun m hm => ascii m (by simp [hm])
    simp [joinersFit, h₁, h₂, hrest]

theorem isRightToLeft_ascii {n : Nat} (ascii : n < 0x80) : isRightToLeft n = false := by
  have hlt : ¬0x590 ≤ n := by omega
  simp [isRightToLeft, hlt]

/-- A label of digits is a label as it is. -/
theorem processLabel_numeric {label : List Nat} (ascii : ∀ n ∈ label, n < 0x80)
    (plain : ∀ n ∈ label, mapPoint n = some [n] ∧ n ≠ 0x78 ∧ isMark n = false) :
    processLabel label = some (label, label.map Char.ofNat) := by
  have hmark : ¬punycodeMark.isPrefixOf label = true := by
    rw [List.isPrefixOf_iff_prefix]
    intro h
    exact (plain 0x78 (h.subset (by simp [punycodeMark]))).2.1 rfl
  have hascii : label.all (· < 0x80) = true := by simpa using ascii
  have hmapped : isMapped label = true := isMapped_iff.mpr fun n hn => (plain n hn).1
  have hvalid : labelValid label = true := by
    have hcomposed := Unicode.composed_ascii ascii
    have hjoiners : joinersFit [] label = true := joinersFit_ascii ascii
    cases label with
    | nil => simp [labelValid, hcomposed, hmapped, hjoiners]
    | cons n rest =>
      have hfirst := (plain n (by simp)).2.2
      simp only [labelValid, hcomposed, hfirst, hmapped, hjoiners, hascii]
      simp
  rw [processLabel, if_neg hmark, hvalid, hascii]
  rfl

/-- Digits and dots are a domain name as they are. -/
theorem domainToAscii_numeric {cs : List Char} (h : ∀ c ∈ cs, c.isDigit = true ∨ c = '.') :
    domainToAscii (percentDecode (utf8Encode cs)) = some cs := by
  have hcode : ∀ n < 0x80, (Char.ofNat n).isDigit = true ∨ Char.ofNat n = '.' →
      n ≠ 0x25 ∧ forbiddenInDomain n = false ∧
        mapPoint n = some [n] ∧ n ≠ 0x78 ∧ isMark n = false := by decide +kernel
  have hascii : Ascii cs := by
    intro c hc
    rcases h c hc with hdigit | rfl
    · simp only [Char.isDigit, Bool.and_eq_true, decide_eq_true_eq] at hdigit
      exact Nat.lt_of_le_of_lt (UInt32.le_iff_toNat_le.mp hdigit.2) (by decide)
    · decide
  have hpoint : ∀ n ∈ cs.map Char.toNat, n < 0x80 ∧ n ≠ 0x25 ∧ forbiddenInDomain n = false ∧
      mapPoint n = some [n] ∧ n ≠ 0x78 ∧ isMark n = false := by
    intro n hn
    obtain ⟨c, hc, rfl⟩ := List.mem_map.mp hn
    exact ⟨hascii c hc, hcode c.toNat (hascii c hc) (by simpa [Char.ofNat_toNat] using h c hc)⟩
  have hbytes : percentDecode (utf8Encode cs) = cs.map Char.toNat := by
    rw [hascii.utf8Encode, percentDecode_of_not_mem]
    exact fun hpercent => (hpoint _ hpercent).2.1 rfl
  have hmapped : isMapped (cs.map Char.toNat) = true :=
    isMapped_iff.mpr fun n hn => (hpoint n hn).2.2.2.1
  have hlabel : ∀ label ∈ divide 0x2e (cs.map Char.toNat), ∀ n ∈ label, n ∈ cs.map Char.toNat := by
    intro label hlabel n hn
    rw [← Text.joinWith_divide 0x2e (cs.map Char.toNat)]
    exact Text.mem_joinWith_of_mem hlabel hn
  have hlabels : (divide 0x2e (cs.map Char.toNat)).mapM processLabel =
      some ((divide 0x2e (cs.map Char.toNat)).map fun label => (label, label.map Char.ofNat)) := by
    refine mapM_eq_some_map fun label hmem => processLabel_numeric ?_ ?_
    · exact fun n hn => (hpoint n (hlabel label hmem n hn)).1
    · exact fun n hn => (hpoint n (hlabel label hmem n hn)).2.2.2
  have hdirections : ((divide 0x2e (cs.map Char.toNat)).map fun label => label).any
      hasRightToLeft = false := by
    rw [List.map_id', List.any_eq_false]
    intro label hmem
    simp only [hasRightToLeft, List.any_eq_true, not_exists, not_and]
    intro n hn
    simp [isRightToLeft_ascii (hpoint n (hlabel label hmem n hn)).1]
  have hwritten : joinWith '.' ((divide 0x2e (cs.map Char.toNat)).map (·.map Char.ofNat)) = cs := by
    have hmap := Text.map_joinWith Char.ofNat 0x2e (divide 0x2e (cs.map Char.toNat))
    rw [Text.joinWith_divide] at hmap
    refine hmap.symm.trans ?_
    simp [Function.comp_def, Char.ofNat_toNat]
  have hforbidden : cs.any (fun c => forbiddenInDomain c.toNat) = false := by
    rw [List.any_eq_false]
    intro c hc
    simp [(hpoint c.toNat (List.mem_map_of_mem hc)).2.2.1]
  have hcomposed := Unicode.composed_ascii fun n hn => (hpoint n hn).1
  simp only [domainToAscii, hbytes, hascii.utf8Decode?, Option.bind_eq_bind, Option.bind_some,
    mapPoints_of_isMapped hmapped, hcomposed, hlabels, List.map_map, Function.comp_def,
    hdirections, Bool.false_and, Bool.false_eq_true, if_false, hwritten, hforbidden]

/-- An IPv4 address is read back from its text. -/
theorem parseIpv4_text {n : Nat} (fits : n < 4294967296) :
    parseIpv4 (Host.ipv4Text n).toList = .ok n := by
  have hbytes : ∀ b < 256, ipv4Number (Nat.toDigits 10 b) = some b := by decide +kernel
  have hmod : ∀ k, ipv4Number (Nat.toDigits 10 (k % 256)) = some (k % 256) :=
    fun k => hbytes _ (Nat.mod_lt _ (by decide))
  have hlast : (some (Nat.toDigits 10 (n % 256)) : Option (List Char)) ≠ some [] := by
    simp [Nat.toDigits_ne_nil]
  have hnumbers : [Nat.toDigits 10 (n / 16777216 % 256), Nat.toDigits 10 (n / 65536 % 256),
      Nat.toDigits 10 (n / 256 % 256), Nat.toDigits 10 (n % 256)].mapM ipv4Number =
        some [n / 16777216 % 256, n / 65536 % 256, n / 256 % 256, n % 256] := by
    simp [hmod]
  have hrange : ¬(Nat.pow 256 (4 - 3) ≤ n % 256 ∨
      [n / 16777216 % 256, n / 65536 % 256, n / 256 % 256].any (255 < ·) = true) := by
    have hlt : n % 256 < 256 := Nat.mod_lt _ (by decide)
    simp
    omega
  have hvalue : ipv4Bytes [n / 16777216 % 256, n / 65536 % 256, n / 256 % 256] 16777216 +
      n % 256 = n := by
    simp only [ipv4Bytes]
    omega
  simp only [parseIpv4, Host.divide_ipv4Text, List.getLast?_cons_cons, List.getLast?_singleton,
    if_neg hlast, hnumbers]
  show (if _ then _ else if _ then _ else Except.ok _) = _
  rw [if_neg (by simp)]
  exact (if_neg hrange).trans (congrArg Except.ok hvalue)

end Ipv4

/-- A text without a bracket in front is read as a domain name or an IPv4 address. -/
theorem parseHost_of_name {cs name : List Char} (bare : '[' ∉ cs) (some_ : name ≠ [])
    (h : domainToAscii (percentDecode (utf8Encode cs)) = some name) :
    parseHost cs = if endsInNumber name then (parseIpv4 name).map .ipv4
      else .ok (.domain (String.ofList name)) := by
  unfold parseHost
  split
  · exact absurd List.mem_cons_self bare
  · rw [h]
    cases name with
    | nil => exact absurd rfl some_
    | cons c name => rfl

/-- Whatever host is read, its text is read as that host if its labels can be decoded, and refused
otherwise. -/
theorem parseHost_text {cs : List Char} {host : Host} (h : parseHost cs = .ok host) :
    parseHost host.text.toList = if host.Decodable then .ok host else .error .invalidDomain := by
  unfold parseHost at h
  split at h
  · -- A bracketed address.
    rename_i rest
    unfold parseBracketed at h
    split_ifs at h
    cases hpieces : parseIpv6 rest.dropLast with
    | error e =>
      rw [hpieces] at h
      cases h
    | ok pieces =>
      rw [hpieces] at h
      obtain rfl := Except.ok.inj h
      have hagain := parseIpv6_text (parseIpv6_length hpieces) (parseIpv6_lt hpieces)
      rw [if_pos (show (Host.ipv6 pieces).Decodable from trivial), Host.toList_text_ipv6]
      show parseBracketed _ = _
      rw [parseBracketed, if_pos (by simp), List.dropLast_concat, hagain]
      rfl
  split at h
  · cases h
  · cases h
  · rename_i name hne hname
    split_ifs at h with hnumber
    · cases haddress : parseIpv4 name with
      | error e =>
        rw [haddress] at h
        cases h
      | ok address =>
        rw [haddress] at h
        obtain rfl := Except.ok.inj h
        have hdigits := domainToAscii_numeric fun c hc => Host.ipv4Text_chars (n := address) hc
        have hbare : '[' ∉ (Host.ipv4Text address).toList :=
          fun hmem => Host.ipv4Text_clear hmem (by simp)
        have hsome : (Host.ipv4Text address).toList ≠ [] := by simp [Host.toList_ipv4Text]
        rw [if_pos (show (Host.ipv4 address).Decodable from trivial), Host.text,
          parseHost_of_name hbare hsome hdigits, if_pos (Host.endsInNumber_ipv4Text address),
          parseIpv4_text (parseIpv4_lt haddress)]
        rfl
    · obtain rfl := Except.ok.inj h
      have hagain := domainToAscii_again hname
      have hbare : '[' ∉ name := fun hmem => domainToAscii_clear hname _ hmem (by simp)
      have hdecodable : (Host.domain (String.ofList name)).Decodable ↔ DecodableName name := by
        rw [Host.Decodable, String.toList_ofList]
      rw [Host.text, String.toList_ofList]
      by_cases hshort : DecodableName name
      · rw [if_pos hshort] at hagain
        rw [if_pos (hdecodable.mpr hshort), parseHost_of_name hbare (fun he => hne he) hagain,
          if_neg hnumber]
      · rw [if_neg hshort] at hagain
        rw [if_neg fun hd => hshort (hdecodable.mp hd), parseHost]
        · rw [hagain]
        · exact fun rest he => hbare (he ▸ List.mem_cons_self)

end Url

end SiteSpiders
