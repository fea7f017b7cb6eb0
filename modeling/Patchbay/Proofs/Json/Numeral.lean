import Patchbay.Json.Rounding
import Patchbay.Json.Token

/-!
# Numerals are read as they are written

`Numeral.read` takes the text of a numeral apart by its signs: the digits of the whole part end at
the point, at the letter before the exponent or with the text. Each part is read back by a lemma of
its own, and `Numeral.read_text` puts them together. A numeral is a single word that begins with a
digit or a minus sign, so it is not taken for one of the three names.
-/

namespace Patchbay.Json

/-! ## Digits -/

theorem isDigit_toDigits (n : Nat) : ∀ c ∈ Nat.toDigits 10 n, c.isDigit = true :=
  fun _ hmem => Nat.isDigit_of_mem_toDigits (by decide) (by decide) hmem

/-- Every number is written with a first digit. -/
theorem toDigits_eq_cons (n : Nat) :
    ∃ c digits, Nat.toDigits 10 n = c :: digits ∧ c.isDigit = true := by
  cases hdigits : Nat.toDigits 10 n with
  | nil => exact absurd hdigits Nat.toDigits_ne_nil
  | cons c digits => exact ⟨c, digits, rfl, isDigit_toDigits n c (hdigits ▸ List.mem_cons_self)⟩

theorem decimalValue_toDigits {n : Nat} : decimalValue (Nat.toDigits 10 n) = n :=
  Nat.ofDigitChars_toDigits (by decide) (by decide)

/-- No number but zero is written with a zero in front. -/
theorem head?_toDigits {n : Nat} (h : n ≠ 0) : (Nat.toDigits 10 n).head? ≠ some '0' := by
  induction n using Nat.strongRecOn with
  | ind n ih =>
    by_cases hlt : n < 10
    · rw [Nat.toDigits_of_lt_base hlt, List.head?_cons]
      intro hzero
      have hchar := congrArg Char.toNat (Option.some.inj hzero)
      rw [Nat.toNat_digitChar_of_lt_ten hlt] at hchar
      have hvalue : '0'.toNat = 48 := rfl
      omega
    · rw [Nat.toDigits_of_base_le (by decide) (by omega), List.head?_append]
      have hrest := ih (n / 10) (by omega) (by omega)
      cases hhead : (Nat.toDigits 10 (n / 10)).head? with
      | none => exact absurd (List.head?_eq_none_iff.1 hhead) Nat.toDigits_ne_nil
      | some first =>
        rw [hhead] at hrest
        exact hrest

/-- Digits end where something else begins. -/
theorem takeWhile_digits {digits rest : List Char} (hdigits : ∀ c ∈ digits, c.isDigit = true)
    (hrest : ∀ c ∈ rest.head?, c.isDigit = false) :
    (digits ++ rest).takeWhile Char.isDigit = digits ∧
      (digits ++ rest).dropWhile Char.isDigit = rest := by
  have hstop : rest.takeWhile Char.isDigit = [] ∧ rest.dropWhile Char.isDigit = rest := by
    cases rest with
    | nil => exact ⟨rfl, rfl⟩
    | cons c rest =>
      have hc := hrest c rfl
      simp [hc]
  rw [List.takeWhile_append_of_pos hdigits, List.dropWhile_append_of_pos hdigits, hstop.1, hstop.2,
    List.append_nil]
  exact ⟨rfl, rfl⟩

namespace Numeral

/-! ## Parts -/

theorem readWhole_toDigits {n : Nat} : readWhole (Nat.toDigits 10 n) = some n := by
  by_cases hzero : n = 0
  · rw [hzero]
    rfl
  · have hhead := head?_toDigits hzero
    have hvalue := decimalValue_toDigits (n := n)
    have hne := Nat.toDigits_ne_nil (n := n) (b := 10)
    unfold readWhole
    split
    · rename_i hnil
      exact absurd hnil hne
    · rename_i hone
      rw [hone] at hhead
      exact absurd rfl hhead
    · rename_i hmore
      rw [hmore] at hhead
      exact absurd rfl hhead
    · rw [hvalue]

theorem readExponentDigits_toDigits {n : Nat} :
    readExponentDigits (Nat.toDigits 10 n) = some n := by
  unfold readExponentDigits
  have hne : (Nat.toDigits 10 n).isEmpty = false := by
    rw [List.isEmpty_eq_false_iff]
    exact Nat.toDigits_ne_nil
  have hall : (Nat.toDigits 10 n).all Char.isDigit = true := List.all_eq_true.2 (isDigit_toDigits n)
  rw [hne, hall, decimalValue_toDigits]
  rfl

/-- The characters of digits. -/
def digitChars (digits : List (Fin 10)) : List Char :=
  digits.map fun digit => Nat.digitChar digit.val

theorem isDigit_digitChars (digits : List (Fin 10)) :
    ∀ c ∈ digitChars digits, c.isDigit = true := by
  intro c hmem
  obtain ⟨digit, _, rfl⟩ := List.mem_map.1 hmem
  simp [Nat.isDigit_digitChar, digit.isLt]

/-- Digits are what their characters stand for. -/
theorem map_digitValue_digitChars (digits : List (Fin 10)) :
    (digitChars digits).map (fun c => Fin.ofNat 10 (digitValue c)) = digits := by
  have hvalue : ∀ digit : Fin 10,
      Fin.ofNat 10 (digitValue (Nat.digitChar digit.val)) = digit := by decide
  unfold digitChars
  rw [List.map_map]
  exact (List.map_congr_left fun digit _ => hvalue digit).trans (List.map_id _)

/-- The characters of the digits after the point, with the point. -/
def fractionText (fraction : List (Fin 10)) : List Char :=
  if fraction.isEmpty then [] else '.' :: digitChars fraction

/-- The characters of an exponent, with the letter before it. -/
def exponentText : Option Int → List Char
  | none => []
  | some exponent =>
    'e' :: (if exponent < 0 then ['-'] else []) ++ Nat.toDigits 10 exponent.natAbs

/-- The characters of a sign. -/
def signText (negative : Bool) : List Char :=
  if negative then ['-'] else []

theorem text_eq (numeral : Numeral) :
    numeral.text = signText numeral.negative ++ (Nat.toDigits 10 numeral.whole ++
      (fractionText numeral.fraction ++ exponentText numeral.exponent)) := by
  have htext : numeral.text = signText numeral.negative ++ Nat.toDigits 10 numeral.whole ++
      fractionText numeral.fraction ++ exponentText numeral.exponent := rfl
  rw [htext, List.append_assoc, List.append_assoc]

/-- Digits are not signs. -/
theorem splitSign_toDigits (n : Nat) (rest : List Char) {sign : Char}
    (h : sign.isDigit = false) :
    splitSign sign (Nat.toDigits 10 n ++ rest) = (false, Nat.toDigits 10 n ++ rest) := by
  obtain ⟨c, digits, hdigits, hc⟩ := toDigits_eq_cons n
  have hne : c ≠ sign := by
    intro he
    rw [he, h] at hc
    cases hc
  simp [hdigits, splitSign, hne]

theorem splitSign_signText (negative : Bool) (n : Nat) (rest : List Char) :
    splitSign '-' (signText negative ++ (Nat.toDigits 10 n ++ rest)) =
      (negative, Nat.toDigits 10 n ++ rest) := by
  cases negative with
  | true => rfl
  | false => exact splitSign_toDigits n rest (by decide)

theorem readFraction_text {fraction : List (Fin 10)} {rest : List Char}
    (hrest : ∀ c ∈ rest.head?, c.isDigit = false ∧ c ≠ '.') :
    readFraction (fractionText fraction ++ rest) = some (fraction, rest) := by
  cases fraction with
  | nil =>
    show readFraction rest = some ([], rest)
    unfold readFraction
    split
    · exact absurd rfl (hrest _ rfl).2
    · rfl
  | cons first others =>
    generalize hfraction : first :: others = fraction
    have hne : fraction ≠ [] := by simp [← hfraction]
    obtain ⟨htake, hdrop⟩ :=
      takeWhile_digits (isDigit_digitChars fraction) fun c hc => (hrest c hc).1
    unfold fractionText
    rw [if_neg (by simpa using hne), List.cons_append]
    unfold readFraction
    simp only [htake, hdrop]
    split
    · rename_i hnil
      exact absurd (List.map_eq_nil_iff.1 hnil) hne
    · rw [map_digitValue_digitChars]

theorem readExponent_text {exponent : Option Int} :
    readExponent (exponentText exponent) = some exponent := by
  cases exponent with
  | none => rfl
  | some exponent =>
    have hdigits := readExponentDigits_toDigits (n := exponent.natAbs)
    have hsign : ∀ sign : Char, sign.isDigit = false →
        splitSign sign (Nat.toDigits 10 exponent.natAbs) =
          (false, Nat.toDigits 10 exponent.natAbs) := by
      intro sign hsign
      have hsplit := splitSign_toDigits exponent.natAbs [] hsign
      rw [List.append_nil] at hsplit
      exact hsplit
    show readExponent ('e' :: (if exponent < 0 then ['-'] else []) ++
      Nat.toDigits 10 exponent.natAbs) = _
    by_cases hneg : exponent < 0
    · have hread : readExponent ('e' :: '-' :: Nat.toDigits 10 exponent.natAbs) =
          some (some (-(exponent.natAbs : Int))) := by
        simp [readExponent, splitSign, hdigits]
      have hvalue : -(exponent.natAbs : Int) = exponent := by omega
      rw [hvalue] at hread
      rw [if_pos hneg]
      exact hread
    · have hread : readExponent ('e' :: Nat.toDigits 10 exponent.natAbs) =
          some (some (exponent.natAbs : Int)) := by
        simp [readExponent, hsign, hdigits]
      have hvalue : (exponent.natAbs : Int) = exponent := by omega
      rw [hvalue] at hread
      rw [if_neg hneg]
      exact hread

/-! ## Whole numerals -/

theorem head?_exponentText {exponent : Option Int} :
    ∀ c ∈ (exponentText exponent).head?, c = 'e' := by
  cases exponent with
  | none => nofun
  | some exponent =>
    intro c hc
    exact (Option.some.inj hc).symm

/-- What follows the whole part of a numeral is no digit. -/
theorem head?_afterWhole (fraction : List (Fin 10)) (exponent : Option Int) :
    ∀ c ∈ (fractionText fraction ++ exponentText exponent).head?, c.isDigit = false := by
  cases fraction with
  | nil =>
    intro c hc
    rw [head?_exponentText c hc]
    decide
  | cons first others =>
    intro c hc
    cases hc
    decide

/-- A numeral is read as it is written. -/
theorem read_text (numeral : Numeral) : read numeral.text = some numeral := by
  obtain ⟨htake, hdrop⟩ :=
    takeWhile_digits (isDigit_toDigits numeral.whole)
      (head?_afterWhole numeral.fraction numeral.exponent)
  have hfraction : readFraction (fractionText numeral.fraction ++ exponentText numeral.exponent) =
      some (numeral.fraction, exponentText numeral.exponent) := by
    refine readFraction_text fun c hc => ?_
    rw [head?_exponentText c hc]
    decide
  unfold read
  rw [text_eq, splitSign_signText]
  simp only [htake, hdrop, readWhole_toDigits, hfraction, readExponent_text, bind, Option.bind,
    pure]

/-- A numeral consists of characters of a word. -/
theorem isWordChar_text {numeral : Numeral} : ∀ c ∈ numeral.text, isWordChar c = true := by
  have hdigit : ∀ c : Char, c.isDigit = true → isWordChar c = true := by
    intro c hc
    simp [isWordChar, Char.isAlphanum, hc]
  have hdigits : ∀ n, ∀ c ∈ Nat.toDigits 10 n, isWordChar c = true :=
    fun n c hmem => hdigit c (isDigit_toDigits n c hmem)
  rw [text_eq]
  simp only [List.forall_mem_append]
  refine ⟨?_, hdigits _, ?_, ?_⟩
  · cases numeral.negative <;> simp [signText, isWordChar]
  · unfold fractionText
    split
    · nofun
    · rw [List.forall_mem_cons]
      exact ⟨by decide, fun c hmem => hdigit c (isDigit_digitChars _ c hmem)⟩
  · cases numeral.exponent with
    | none => nofun
    | some exponent =>
      simp only [exponentText, List.cons_append, List.forall_mem_cons, List.forall_mem_append]
      refine ⟨by decide, ?_, hdigits _⟩
      split <;> simp [isWordChar]

/-- A numeral begins with a minus sign or a digit. -/
theorem head_text (numeral : Numeral) :
    ∃ c rest, numeral.text = c :: rest ∧ (c = '-' ∨ c.isDigit = true) := by
  rw [text_eq]
  cases numeral.negative with
  | true => exact ⟨'-', _, rfl, .inl rfl⟩
  | false =>
    obtain ⟨c, digits, hdigits, hc⟩ := toDigits_eq_cons numeral.whole
    rw [hdigits]
    exact ⟨c, _, rfl, .inr hc⟩

/-- A numeral is not taken for a name. -/
theorem ofWord?_text (numeral : Numeral) : Token.ofWord? numeral.text = some (.number numeral) := by
  obtain ⟨c, rest, htext, hfirst⟩ := head_text numeral
  have hne : ∀ first others, first = 'n' ∨ first = 't' ∨ first = 'f' →
      numeral.text ≠ first :: others := by
    intro first others hname he
    rw [htext] at he
    cases he
    rcases hname with rfl | rfl | rfl <;> rcases hfirst with hfirst | hfirst <;> cases hfirst
  unfold Token.ofWord? Token.chars
  rw [if_neg (hne _ _ (by simp)), if_neg (hne _ _ (by simp)), if_neg (hne _ _ (by simp)), read_text]
  rfl

/-! ## Integers -/

theorem int?_ofInt (n : Int) : (ofInt n).int? = some n := by
  unfold int? ofInt
  rw [if_pos ⟨rfl, rfl⟩]
  by_cases hneg : n < 0
  · have hne : n.natAbs ≠ 0 := by omega
    have hvalue : -(n.natAbs : Int) = n := by omega
    rw [if_pos (decide_eq_true hneg), if_neg hne, hvalue]
  · have hvalue : (n.natAbs : Int) = n := by omega
    rw [if_neg (by simpa using hneg), hvalue]

/-- A word of 64 bits is finite, with or without a sign. -/
theorem isFinite_ofInt {n : Int} (hlow : -0x8000000000000000 ≤ n)
    (hhigh : n ≤ 0xffffffffffffffff) : (ofInt n).isFinite = true := by
  have hword : (ofInt n).word? = some n := by
    unfold word?
    rw [int?_ofInt]
    simp [hlow, hhigh]
  unfold isFinite
  rw [hword]
  rfl

theorem text_ofInt (n : Int) : (ofInt n).text = (toString n).toList := by
  rw [text_eq]
  cases n with
  | ofNat n => simp [ofInt, signText, fractionText, exponentText, toString, Int.repr, Nat.repr]
  | negSucc n =>
    simp [ofInt, signText, fractionText, exponentText, toString, Int.repr, Nat.repr,
      Int.negSucc_lt_zero]

end Numeral

end Patchbay.Json
