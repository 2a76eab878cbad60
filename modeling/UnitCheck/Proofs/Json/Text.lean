import UnitCheck.Json.Render
import UnitCheck.Json.Token
import UnitCheck.Proofs.Number.Numeral

/-!
# Written strings and integers

The leaves of a written value are read back: a string with all its characters, whether they are
escaped or not, and an integer of 64 bits exactly. What follows the leaf is left over. A string ends
with its quote, but an integer would go on with a digit, a point or an exponent, so its text has to
be followed by something else.
-/

namespace UnitCheck

namespace StringUnit

/-- The unit stands for the character by itself. A code unit does so unless it is a surrogate. -/
inductive Spells : StringUnit → Char → Prop
  | char (c : Char) : Spells (.char c) c
  | code {unit : Nat} {c : Char} : unit < 0xD800 → c = Char.ofNat unit → Spells (.code unit) c

theorem decode?_cons {unit : StringUnit} {c : Char} (spells : Spells unit c)
    (rest : List StringUnit) : decode? (unit :: rest) = (decode? rest).map (c :: ·) := by
  cases spells with
  | char => rfl
  | @code unit c below same =>
      have notHigh : isHigh unit = false := by
        simp [isHigh]
        omega
      have notLow : isLow unit = false := by
        simp [isLow]
        omega
      subst same
      rcases rest with _ | ⟨next | low, rest⟩ <;> simp [decode?, notHigh, notLow]

theorem hex4?_control : ∀ n < 0x20,
    hex4? '0' '0' (n / 16).digitChar (n % 16).digitChar = some n := by
  decide

theorem lex?_code {a b c d : Char} {unit : Nat} (code : hex4? a b c d = some unit)
    (rest : List Char) :
    lex? ('\\' :: 'u' :: a :: b :: c :: d :: rest) =
      (lex? rest).map (Prod.map (.code unit :: ·) id) := by
  rw [lex?, code]
  cases lex? rest <;> rfl

theorem lex?_escape {letter c : Char} (escape : escape? letter = some c) (rest : List Char) :
    lex? ('\\' :: letter :: rest) = (lex? rest).map (Prod.map (.char c :: ·) id) := by
  have noCode : letter ≠ 'u' := by
    rintro rfl
    cases escape
  rw [lex?.eq_4 letter rest fun _ _ _ _ _ same => absurd same noCode, escape]
  cases lex? rest <;> rfl

theorem lex?_plain {c : Char} (noQuote : c ≠ '"') (noBackslash : c ≠ '\\')
    (printable : ¬c.toNat < 0x20) (rest : List Char) :
    lex? (c :: rest) = (lex? rest).map (Prod.map (.char c :: ·) id) := by
  rw [lex?.eq_5 c rest noQuote (fun _ _ _ _ _ same => absurd same noBackslash)
    fun _ _ same => absurd same noBackslash, if_neg printable]
  cases lex? rest <;> rfl

/-- A written character is one unit of the string. -/
theorem exists_unit_of_escapeChar (c : Char) :
    ∃ unit, Spells unit c ∧ ∀ rest,
      lex? (Json.escapeChar c ++ rest) = (lex? rest).map (Prod.map (unit :: ·) id) := by
  unfold Json.escapeChar
  split
  case h_8 noQuote noBackslash _ _ _ _ _ =>
    split
    · rename_i control
      exact ⟨.code c.toNat, .code (by omega) c.ofNat_toNat.symm,
        lex?_code (hex4?_control c.toNat control)⟩
    · rename_i printable
      exact ⟨.char c, .char c, lex?_plain noQuote noBackslash printable⟩
  all_goals exact ⟨_, .char _, lex?_escape rfl⟩

theorem lex?_escaped (text rest : List Char) :
    ∃ units, lex? (text.flatMap Json.escapeChar ++ '"' :: rest) = some (units, rest) ∧
      decode? units = some text := by
  induction text with
  | nil => exact ⟨[], rfl, rfl⟩
  | cons c text ih =>
      obtain ⟨units, read, decoded⟩ := ih
      obtain ⟨unit, spells, lexed⟩ := exists_unit_of_escapeChar c
      refine ⟨unit :: units, ?_, ?_⟩
      · rw [List.flatMap_cons, List.append_assoc, lexed, read]
        rfl
      · rw [decode?_cons spells, decoded]
        rfl

end StringUnit

namespace Numeral

/-! ## Integers -/

/-- A numeral that is followed by this text does not go on in it. -/
def Ends (rest : List Char) : Prop :=
  ∀ c ∈ rest.head?, c.isDigit = false ∧ c ≠ '.' ∧ c ≠ 'e' ∧ c ≠ 'E'

/-- The digits of a number start with zero only if the number is zero. -/
theorem exists_toDigits_eq_cons (n : Nat) :
    ∃ c digits, Nat.toDigits 10 n = c :: digits ∧ c.isDigit = true ∧ (n ≠ 0 → c ≠ '0') := by
  induction n using Nat.strongRecOn with
  | ind n ih =>
      by_cases small : n < 10
      · refine ⟨n.digitChar, [], Nat.toDigits_of_lt_base small, ?_, ?_⟩
        · rw [Nat.isDigit_digitChar, decide_eq_true small]
        · simp
      · obtain ⟨c, digits, start, digit, noZero⟩ := ih (n / 10) (by omega)
        refine ⟨c, digits ++ [(n % 10).digitChar], ?_, digit, fun _ => noZero (by omega)⟩
        rw [Nat.toDigits_of_base_le (by decide) (Nat.le_of_not_lt small), start]
        rfl

theorem lexWhole?_toDigits (n : Nat) {rest : List Char} (ends : Ends rest) :
    lexWhole? (Nat.toDigits 10 n ++ rest) = some (Nat.toDigits 10 n, rest) := by
  by_cases zero : n = 0
  · subst zero
    rfl
  · have split : Decimal.splitDigits (Nat.toDigits 10 n ++ rest) = (Nat.toDigits 10 n, rest) := by
      refine Decimal.splitDigits_append (fun c member => ?_) fun c first => (ends c first).1
      exact Nat.isDigit_of_mem_toDigits (by decide) (by decide) member
    obtain ⟨c, digits, start, -, noZero⟩ := exists_toDigits_eq_cons n
    unfold lexWhole?
    split
    · rename_i same
      rw [start] at same
      exact absurd (List.cons.inj same).1 (noZero zero)
    · rw [lexDigits?, split, start]
      rfl

theorem lexFraction?_of_ends {rest : List Char} (ends : Ends rest) :
    lexFraction? rest = some (none, rest) := by
  unfold lexFraction?
  split
  · exact absurd rfl (ends '.' rfl).2.1
  · rfl

theorem lexExponent?_of_ends {rest : List Char} (ends : Ends rest) :
    lexExponent? rest = some (none, rest) := by
  cases rest with
  | nil => rfl
  | cons c rest =>
      obtain ⟨-, -, lower, upper⟩ := ends c rfl
      simp [lexExponent?, lower, upper]

/-- The numeral that an integer is written as. -/
def ofInt (z : Int) : Numeral :=
  ⟨decide (z < 0), Nat.toDigits 10 z.natAbs, none, none⟩

theorem lexSign_toDigits (n : Nat) (rest : List Char) :
    lexSign (Nat.toDigits 10 n ++ rest) = (false, Nat.toDigits 10 n ++ rest) := by
  obtain ⟨c, digits, start, digit, -⟩ := exists_toDigits_eq_cons n
  rw [start]
  unfold lexSign
  split
  · rename_i same
    rw [(List.cons.inj same).1] at digit
    exact absurd digit (by decide)
  · rfl

theorem lex?_toString (z : Int) {rest : List Char} (ends : Ends rest) :
    lex? ((toString z).toList ++ rest) = some (ofInt z, rest) := by
  have signed : lexSign ((toString z).toList ++ rest) =
      (decide (z < 0), Nat.toDigits 10 z.natAbs ++ rest) := by
    rw [toList_toString_int]
    split
    · rename_i negative
      rw [decide_eq_true negative]
      rfl
    · rename_i nonnegative
      rw [decide_eq_false nonnegative, lexSign_toDigits]
  rw [lex?, signed]
  simp [lexWhole?_toDigits _ ends, lexFraction?_of_ends ends, lexExponent?_of_ends ends, ofInt]

theorem le_ofDigitChars (digits : List Char) (n : Nat) : n ≤ Nat.ofDigitChars 10 digits n := by
  induction digits generalizing n with
  | nil => exact Nat.le_refl n
  | cons c digits ih =>
      rw [Nat.ofDigitChars_cons]
      refine Nat.le_trans ?_ (ih _)
      omega

theorem foldl_push {digits : List Char} {n : Nat}
    (small : Nat.ofDigitChars 10 digits n < UInt64.size) :
    digits.foldl Significand.push ⟨n, 0⟩ = ⟨Nat.ofDigitChars 10 digits n, 0⟩ := by
  induction digits generalizing n with
  | nil => rfl
  | cons c digits ih =>
      rw [Nat.ofDigitChars_cons] at small ⊢
      have fits : n * 10 + (c.toNat - '0'.toNat) < UInt64.size := by
        have := le_ofDigitChars digits (10 * n + (c.toNat - '0'.toNat))
        omega
      have pushed : Significand.push ⟨n, 0⟩ c = ⟨10 * n + (c.toNat - '0'.toNat), 0⟩ := by
        unfold Significand.push
        rw [if_pos (by simpa using fits), Nat.mul_comm]
      rw [List.foldl_cons, pushed, ih small]

/-- Integers of 64 bit words, signed or unsigned, are exact. -/
theorem value?_ofInt {z : Int} (lower : Int64.minValue.toInt ≤ z) (upper : z < UInt64.size) :
    (ofInt z).value? = some (.int z) := by
  have size : UInt64.size = 18446744073709551616 := rfl
  have least : Int64.minValue.toInt = -9223372036854775808 := rfl
  have digits : (ofInt z).wholeSignificand = ⟨z.natAbs, 0⟩ := by
    have value : Nat.ofDigitChars 10 (Nat.toDigits 10 z.natAbs) 0 = z.natAbs :=
      Nat.ofDigitChars_ten_toDigits
    have small : Nat.ofDigitChars 10 (Nat.toDigits 10 z.natAbs) 0 < UInt64.size := by omega
    rw [wholeSignificand, ofInt, foldl_push small, value]
  unfold value?
  rw [digits]
  by_cases negative : z < 0
  · have nonzero : z.natAbs ≠ 0 := by omega
    have bounded : z.natAbs ≤ Int64.minValue.toInt.natAbs := by omega
    have value : -(z.natAbs : Int) = z := by omega
    simp only [ofInt, negative, decide_true, Option.isNone_none, nonzero, bounded, ne_eq,
      not_false_eq_true, Bool.and_self, Bool.or_true, ↓reduceIte, value]
  · have value : (z.natAbs : Int) = z := by omega
    simp only [ofInt, negative, decide_false, decide_true, Option.isNone_none, Bool.and_self,
      Bool.not_false, Bool.true_or, Bool.false_eq_true, ↓reduceIte, value]

end Numeral

end UnitCheck
