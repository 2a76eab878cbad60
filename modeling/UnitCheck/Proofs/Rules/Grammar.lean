import UnitCheck.Proofs.Number.Numeral
import UnitCheck.Proofs.Number.Written
import UnitCheck.Proofs.Rules.Sequence
import UnitCheck.Proofs.Text.Trim
import UnitCheck.Proofs.Unit.Grammar

/-!
# The grammar of rule texts

```text
clause    ::= shorthand | chain
shorthand ::= white space name white space ':' words       every word an SI prefix, no other ':'
chain     ::= term ('=' term)*                             no ':'
term      ::= white space name white space
            | white space numeral white space name white space
```

The white space between a numeral and a name is not empty, and the value of the numeral is in the
range of binary64.
-/

namespace UnitCheck

namespace RuleGrammar

/-- The texts between two `=`. -/
inductive TermText : List Char → Term → Prop
  | bare {before name after : List Char} : Text.Blank before → isName name = true →
      Text.Blank after → TermText (before ++ (name ++ after)) ⟨none, String.ofList name⟩
  | numbered {before numeral gap name after : List Char} {number : Decimal} : Text.Blank before →
      DecimalText numeral number → InRange |number.toRat| → Text.Blank gap → gap ≠ [] →
      isName name = true → Text.Blank after →
      TermText (before ++ (numeral ++ (gap ++ (name ++ after))))
        ⟨some number, String.ofList name⟩

/-- The texts between two `;`. -/
inductive ClauseText : List Char → Clause → Prop
  | shorthand {before name after words : List Char} {prefixes : List SiPrefix} :
      Text.Blank before → isName name = true → Text.Blank after → ':' ∉ words →
      List.Forall₂ (fun word p => String.ofList word = p.symbol) (Text.words words) prefixes →
      ClauseText (before ++ (name ++ after) ++ ':' :: words)
        (.shorthand (String.ofList name) prefixes)
  | chain {text : List Char} {terms : List Term} : ':' ∉ text →
      List.Forall₂ TermText (text.splitOn '=') terms → ClauseText text (.chain terms)

/-- The clauses that a rule text writes, one for each text between two `;` that is not blank. -/
def RulesText (rules : String) (clauses : List Clause) : Prop :=
  List.Forall₂ ClauseText
    ((rules.toList.splitOn ';').filter fun text => !text.all Text.isBlank) clauses

end RuleGrammar

open RuleGrammar

/-! ## Names and numerals -/

theorem visible_of_isName {name : List Char} (valid : isName name = true) :
    ∀ c ∈ name, Text.isBlank c = false :=
  fun c member => not_isBlank_of_isNameChar ((isName_iff.mp valid).2 c member)

theorem exists_cons_of_isName {name : List Char} (valid : isName name = true) :
    ∃ c rest, name = c :: rest ∧ isNameChar c = true := by
  obtain ⟨nonempty, chars⟩ := isName_iff.mp valid
  obtain ⟨c, rest, rfl⟩ := List.exists_cons_of_ne_nil nonempty
  exact ⟨c, rest, rfl, chars c List.mem_cons_self⟩

theorem exists_append_of_isName {name : List Char} (valid : isName name = true) :
    ∃ front d, name = front ++ [d] ∧ Text.isBlank d = false := by
  obtain ⟨front, d, rfl⟩ := (List.eq_nil_or_concat' name).resolve_left (isName_iff.mp valid).1
  exact ⟨front, d, rfl, visible_of_isName valid d (by simp)⟩

theorem not_mem_of_isName {name : List Char} (valid : isName name = true) {c : Char}
    (excluded : isNameChar c = false) : c ∉ name := by
  intro member
  rw [(isName_iff.mp valid).2 c member] at excluded
  cases excluded

/-- The characters that numerals are made of. -/
def NumeralChar (c : Char) : Prop :=
  c.isDigit = true ∨ c ∈ ['+', '-', '.', 'e', 'E']

theorem NumeralChar.visible {c : Char} (char : NumeralChar c) : Text.isBlank c = false := by
  rcases char with digit | other
  · exact (UnitGrammar.solid_of_isDigit digit).1
  · have all : (['+', '-', '.', 'e', 'E'].all fun c => !Text.isBlank c) = true := rfl
    simpa using List.all_eq_true.mp all c other

theorem NumeralChar.ne_colon {c : Char} (char : NumeralChar c) : c ≠ ':' := by
  rintro rfl
  rcases char with digit | other
  · cases digit
  · revert other
    decide

theorem DecimalText.Sign.chars {text : List Char} {negative : Bool} (sign : Sign text negative) :
    ∀ c ∈ text, NumeralChar c := by
  unfold NumeralChar
  cases sign <;> simp

theorem DecimalText.chars {text : List Char} {d : Decimal} (numeral : DecimalText text d) :
    ∀ c ∈ text, NumeralChar c := by
  obtain ⟨sign, mantissa, power⟩ := numeral
  simp only [List.forall_mem_append]
  refine ⟨sign.chars, ?_, ?_⟩
  · cases mantissa with
    | whole _ all => exact fun c member => Or.inl (all c member)
    | pointed _ before after =>
        simp only [List.forall_mem_append, List.forall_mem_cons]
        exact ⟨fun c member => Or.inl (before c member), Or.inr (by simp),
          fun c member => Or.inl (after c member)⟩
  · cases power with
    | absent => simp
    | written marked sign _ all =>
        simp only [List.forall_mem_append, List.forall_mem_cons]
        refine ⟨Or.inr ?_, sign.chars, fun c member => Or.inl (all c member)⟩
        rcases marked with rfl | rfl <;> simp

theorem DecimalText.looksNumeric {text : List Char} {d : Decimal} (numeral : DecimalText text d) :
    Term.looksNumeric text = true := by
  obtain ⟨sign, mantissa, power⟩ := numeral
  rename_i mantissaText powerText _ _ _ _
  cases sign with
  | absent =>
      have unsigned := mantissa.unsigned powerText
      cases text : mantissaText ++ powerText with
      | nil => cases mantissa <;> simp_all
      | cons c rest =>
          rw [text] at unsigned
          rcases unsigned c rfl with digit | rfl
          · simp [Term.looksNumeric, digit]
          · rfl
  | plus => rfl
  | minus => rfl

theorem DecimalText.ne_nil {text : List Char} {d : Decimal} (numeral : DecimalText text d) :
    text ≠ [] := by
  rintro rfl
  cases numeral.looksNumeric

theorem isNameChar_of_isDigit {c : Char} (digit : c.isDigit = true) : isNameChar c = false := by
  have range : 48 ≤ c.toNat ∧ c.toNat ≤ 57 := by
    simpa [Char.isDigit, UInt32.le_iff_toNat_le] using digit
  have digits : ∀ n ∈ List.range' 48 10, isNameChar (Char.ofNat n) = false := by decide
  rw [← Char.ofNat_toNat c]
  exact digits c.toNat (List.mem_range'_1.mpr (by omega))

theorem looksNumeric_of_isName {name : List Char} (valid : isName name = true) :
    Term.looksNumeric name = false := by
  obtain ⟨c, rest, rfl, char⟩ := exists_cons_of_isName valid
  have excluded : ∀ d, isNameChar d = false → c ≠ d := by
    rintro d fails rfl
    rw [char] at fails
    cases fails
  have digit : c.isDigit = false := by
    by_contra digit
    rw [isNameChar_of_isDigit (Bool.eq_true_of_not_eq_false digit)] at char
    cases char
  simp [Term.looksNumeric, digit, excluded '.' (by decide), excluded '+' (by decide),
    excluded '-' (by decide)]

/-! ## Terms -/

theorem trim_of_isName {before name after : List Char} (valid : isName name = true)
    (leading : Text.Blank before) (trailing : Text.Blank after) :
    Text.trim (before ++ (name ++ after)) = name := by
  obtain ⟨c, rest, same, char⟩ := exists_cons_of_isName valid
  exact Text.trim_padded leading ⟨c, rest, same, not_isBlank_of_isNameChar char⟩
    (exists_append_of_isName valid) trailing

namespace Term

theorem named_eq_ok_iff {number : Option Decimal} {unit : List Char} {term : Term} :
    named number unit = .ok term ↔ isName unit = true ∧ term = ⟨number, String.ofList unit⟩ := by
  unfold named
  split
  · rename_i valid
    simp only [Except.ok.injEq, valid, true_and, eq_comm]
  · rename_i invalid
    simp only [reduceCtorEq, invalid, false_and]

theorem of_readTrimmed {text : List Char} {term : Term} (spelled : readTrimmed text = .ok term) :
    (isName text = true ∧ term = ⟨none, String.ofList text⟩) ∨
      ∃ numeral c rest number, text = numeral ++ c :: rest ∧ Text.isBlank c = true ∧
        DecimalText numeral number ∧ InRange |number.toRat| ∧ isName (Text.trim rest) = true ∧
        term = ⟨some number, String.ofList (Text.trim rest)⟩ := by
  unfold readTrimmed at spelled
  cases cut : Text.cutAt? Text.isBlank text with
  | none =>
      simp only [cut, Option.getD_none, Text.trim_nil, List.isEmpty_nil] at spelled
      split at spelled
      · cases spelled
      · split at spelled
        · exact Or.inl (named_eq_ok_iff.mp spelled)
        · split at spelled <;> simp at spelled
  | some parts =>
      obtain ⟨head, rest⟩ := parts
      obtain ⟨c, blank, rfl⟩ := Text.append_of_cutAt? cut
      simp only [cut, Option.getD_some] at spelled
      split at spelled
      · cases spelled
      · split at spelled
        · exact Or.inl (named_eq_ok_iff.mp spelled)
        · split at spelled
          · rename_i number read
            split at spelled
            · rename_i usable
              rw [Bool.and_eq_true, Decimal.isRegular_iff] at usable
              obtain ⟨valid, rfl⟩ := named_eq_ok_iff.mp spelled
              exact Or.inr ⟨head, c, rest, number, rfl, blank,
                Decimal.read?_eq_some_iff.mp read, usable.1, valid, rfl⟩
            · cases spelled
          · cases spelled

theorem readTrimmed_of_name {name : List Char} (valid : isName name = true) :
    readTrimmed name = .ok ⟨none, String.ofList name⟩ := by
  have whole : Text.cutAt? Text.isBlank name = none :=
    Text.cutAt?_of_clean (visible_of_isName valid)
  have nonempty : name.isEmpty = false := List.isEmpty_eq_false_iff.mpr (isName_iff.mp valid).1
  simp [readTrimmed, whole, nonempty, looksNumeric_of_isName valid, named, valid]

theorem readTrimmed_of_numeral {numeral gap name : List Char} {number : Decimal}
    (spelled : DecimalText numeral number) (inRange : InRange |number.toRat|)
    (blank : Text.Blank gap) (apart : gap ≠ []) (valid : isName name = true) :
    readTrimmed (numeral ++ (gap ++ name)) = .ok ⟨some number, String.ofList name⟩ := by
  obtain ⟨c, more, rfl⟩ := List.exists_cons_of_ne_nil apart
  have cut : Text.cutAt? Text.isBlank (numeral ++ (c :: more ++ name)) =
      some (numeral, more ++ name) :=
    Text.cutAt?_append_cons (fun d member => (spelled.chars d member).visible)
      (blank c List.mem_cons_self) _
  have unit : Text.trim (more ++ name) = name := by
    simpa using trim_of_isName valid blank.tail Text.blank_nil
  have regular : number.isRegular = true := (Decimal.isRegular_iff number).mpr inRange
  have read : Decimal.read? numeral = some number := Decimal.read?_eq_some_iff.mpr spelled
  have nonempty : name.isEmpty = false := List.isEmpty_eq_false_iff.mpr (isName_iff.mp valid).1
  have present : (numeral ++ (c :: more ++ name)).isEmpty = false := by simp
  simp only [readTrimmed, cut, Option.getD_some, unit, present, spelled.looksNumeric, read, regular,
    nonempty, named, valid, Bool.not_true, Bool.not_false, Bool.and_self, if_true,
    Bool.false_eq_true, if_false]

theorem read_eq_ok_iff {text : List Char} {term : Term} :
    read text = .ok term ↔ TermText text term := by
  constructor
  · intro spelled
    obtain ⟨before, after, leading, trailing, padded⟩ := Text.exists_trim text
    unfold read at spelled
    generalize Text.trim text = core at spelled padded
    subst padded
    rw [List.append_assoc]
    rcases of_readTrimmed spelled with
      ⟨valid, rfl⟩ | ⟨numeral, c, rest, number, rfl, blank, numeralText, inRange, valid, rfl⟩
    · exact .bare leading valid trailing
    · obtain ⟨gap, tail, gapBlank, tailBlank, inner⟩ := Text.exists_trim rest
      generalize Text.trim rest = unit at valid inner
      subst inner
      have derived := TermText.numbered leading numeralText inRange (gapBlank.cons blank)
        (List.cons_ne_nil c gap) valid (tailBlank.append trailing)
      simpa using derived
  · intro derived
    cases derived with
    | bare leading valid trailing =>
        rw [read, trim_of_isName valid leading trailing]
        exact readTrimmed_of_name valid
    | @numbered before numeral gap name after number leading spelled inRange blank apart valid
        trailing =>
        have core : Text.trim (before ++ (numeral ++ (gap ++ (name ++ after)))) =
            numeral ++ (gap ++ name) := by
          obtain ⟨c, rest, rfl⟩ := List.exists_cons_of_ne_nil spelled.ne_nil
          obtain ⟨front, d, rfl, last⟩ := exists_append_of_isName valid
          have regroup : before ++ (c :: rest ++ (gap ++ (front ++ [d] ++ after))) =
              before ++ ((c :: rest ++ (gap ++ (front ++ [d]))) ++ after) := by simp
          rw [regroup]
          exact Text.trim_padded leading ⟨c, _, rfl, (spelled.chars c List.mem_cons_self).visible⟩
            ⟨c :: rest ++ (gap ++ front), d, by simp, last⟩ trailing
        rw [read, core]
        exact readTrimmed_of_numeral spelled inRange blank apart valid

end Term

theorem colon_not_mem_of_isName {before name after : List Char} (leading : Text.Blank before)
    (valid : isName name = true) (trailing : Text.Blank after) :
    ':' ∉ before ++ (name ++ after) := by
  simp only [List.mem_append, not_or]
  exact ⟨leading.not_mem rfl, not_mem_of_isName valid (by decide), trailing.not_mem rfl⟩

theorem RuleGrammar.TermText.colon_not_mem {text : List Char} {term : Term}
    (derived : TermText text term) : ':' ∉ text := by
  cases derived with
  | bare leading valid trailing => exact colon_not_mem_of_isName leading valid trailing
  | numbered leading numeral _ blank _ valid trailing =>
      have unit := colon_not_mem_of_isName blank valid trailing
      rw [List.mem_append, List.mem_append]
      rintro (member | member | member)
      · exact leading.not_mem rfl member
      · exact (numeral.chars ':' member).ne_colon rfl
      · exact unit member

/-! ## Clauses -/

theorem splitOn_eq_pair_iff {c : Char} {text first second : List Char} :
    text.splitOn c = [first, second] ↔ text = first ++ c :: second ∧ c ∉ first ∧ c ∉ second := by
  constructor
  · intro split
    by_cases member : c ∈ text
    · obtain ⟨before, after, rfl, absent⟩ := List.eq_append_cons_of_mem member
      rw [List.splitOn_append_cons_self_of_not_mem absent] at split
      obtain ⟨rfl, rest⟩ := List.cons.inj split
      by_cases again : c ∈ after
      · obtain ⟨between, last, rfl, clean⟩ := List.eq_append_cons_of_mem again
        rw [List.splitOn_append_cons_self_of_not_mem clean] at rest
        exact absurd (List.cons.inj rest).2 (List.splitOn_ne_nil _ _)
      · rw [List.splitOn_eq_singleton again] at rest
        obtain ⟨rfl, -⟩ := List.cons.inj rest
        exact ⟨rfl, absent, again⟩
    · rw [List.splitOn_eq_singleton member] at split
      cases (List.cons.inj split).2
  · rintro ⟨rfl, before, after⟩
    rw [List.splitOn_append_cons_self_of_not_mem before, List.splitOn_eq_singleton after]

theorem not_mem_of_splitOn {c separator : Char} (other : c ≠ separator) (text : List Char)
    (absent : ∀ piece ∈ text.splitOn separator, c ∉ piece) : c ∉ text := by
  induction text using Text.cut_induction separator with
  | clean text clean =>
      rw [List.splitOn_eq_singleton clean] at absent
      exact absent text List.mem_cons_self
  | cut before after clean ih =>
      rw [List.splitOn_append_cons_self_of_not_mem clean] at absent
      obtain ⟨first, rest⟩ := List.forall_mem_cons.mp absent
      simp only [List.mem_append, List.mem_cons, not_or]
      exact ⟨first, other, ih rest⟩

namespace Clause

theorem readPrefix_eq_ok_iff {word : List Char} {p : SiPrefix} :
    readPrefix word = .ok p ↔ String.ofList word = p.symbol := by
  unfold readPrefix
  constructor
  · intro spelled
    split at spelled
    · rename_i found
      obtain rfl := Except.ok.inj spelled
      exact (SiPrefix.symbol_of_ofSymbol? found).symm
    · cases spelled
  · intro spelled
    rw [spelled, SiPrefix.ofSymbol?_symbol]

theorem readShorthand_eq_ok_iff {unit words : List Char} {clause : Clause} :
    readShorthand unit words = .ok clause ↔ isName (Text.trim unit) = true ∧
      ∃ prefixes, List.Forall₂ (fun word p => String.ofList word = SiPrefix.symbol p)
        (Text.words words) prefixes ∧
        clause = .shorthand (String.ofList (Text.trim unit)) prefixes := by
  unfold readShorthand
  dsimp only
  split
  · rename_i valid
    rw [map_eq_ok_iff]
    simp only [valid, true_and, mapM_eq_ok_iff, readPrefix_eq_ok_iff]
  · rename_i invalid
    simp only [reduceCtorEq, invalid, false_and]

theorem read_eq_ok_iff {text : List Char} {clause : Clause} :
    read text = .ok clause ↔ ClauseText text clause := by
  constructor
  · intro spelled
    unfold read at spelled
    split at spelled
    · rename_i unit words pair
      obtain ⟨rfl, -, absent⟩ := splitOn_eq_pair_iff.mp pair
      obtain ⟨valid, prefixes, words, rfl⟩ := readShorthand_eq_ok_iff.mp spelled
      obtain ⟨before, after, leading, trailing, padded⟩ := Text.exists_trim unit
      generalize Text.trim unit = name at valid padded
      subst padded
      rw [List.append_assoc before]
      exact .shorthand leading valid trailing absent words
    · split at spelled
      · cases spelled
      · obtain ⟨terms, read, rfl⟩ := map_eq_ok_iff.mp spelled
        simp only [mapM_eq_ok_iff, Term.read_eq_ok_iff] at read
        have other : ':' ≠ '=' := by decide
        have pieces : ∀ piece ∈ text.splitOn '=', ':' ∉ piece :=
          ((List.forall₂_and_left _ _).mp
            (read.imp fun piece term derived => ⟨derived.colon_not_mem, derived⟩)).1
        exact .chain (not_mem_of_splitOn other text pieces) read
  · intro derived
    cases derived with
    | @shorthand before name after words prefixes leading valid trailing absent spelled =>
        have pair : (before ++ (name ++ after) ++ ':' :: words).splitOn ':' =
            [before ++ (name ++ after), words] :=
          splitOn_eq_pair_iff.mpr ⟨rfl, colon_not_mem_of_isName leading valid trailing, absent⟩
        simp only [read, pair]
        refine readShorthand_eq_ok_iff.mpr ?_
        rw [trim_of_isName valid leading trailing]
        exact ⟨valid, prefixes, spelled, rfl⟩
    | chain absent spelled =>
        simp only [read, List.splitOn_eq_singleton absent]
        refine map_eq_ok_iff.mpr ⟨_, mapM_eq_ok_iff.mpr ?_, rfl⟩
        exact spelled.imp fun piece term => Term.read_eq_ok_iff.mpr

end Clause

theorem RuleGrammar.ClauseText.count_colon_le {text : List Char} {clause : Clause}
    (derived : ClauseText text clause) : text.count ':' ≤ 1 := by
  cases derived with
  | shorthand leading valid trailing absent _ =>
      rw [List.count_append, List.count_cons_self, List.count_eq_zero_of_not_mem absent,
        List.count_eq_zero_of_not_mem (colon_not_mem_of_isName leading valid trailing)]
  | chain absent _ =>
      rw [List.count_eq_zero_of_not_mem absent]
      exact Nat.zero_le _

/-! ## Rule texts -/

theorem mem_split_iff {rules : String} {text : List Char} :
    text ∈ Clause.split rules ↔ text ∈ rules.toList.splitOn ';' ∧ ¬ Text.Blank text := by
  simp [Clause.split, Text.Blank]

theorem Clause.rulesText_iff {rules : String} {clauses : List Clause} :
    RulesText rules clauses ↔ (Clause.split rules).mapM Clause.read = .ok clauses := by
  rw [mapM_eq_ok_iff, RulesText, Clause.split]
  simp only [Clause.read_eq_ok_iff]

theorem isOk_extend_iff {α : Type} [Magnitude α] {book : RuleBook α} {rules : String} :
    (book.extend rules).isOk = true ↔
      ∀ text ∈ rules.toList.splitOn ';', Text.Blank text ∨ ∃ clause, ClauseText text clause := by
  have outcome : (book.extend rules).isOk = ((Clause.split rules).mapM Clause.read).isOk := by
    rw [RuleBook.extend_eq]
    cases (Clause.split rules).mapM Clause.read <;> rfl
  rw [outcome, isOk_mapM_iff]
  simp only [mem_split_iff, isOk_iff, Clause.read_eq_ok_iff]
  exact forall_congr' fun text => by rw [and_imp, or_iff_not_imp_left]

/-- The texts that are folded in are those of the grammar, whatever the book is. -/
theorem extend_isOk_iff {α : Type} [Magnitude α] (book : RuleBook α) (rules : String) :
    ((book.extend rules).isOk = true ↔
      ∀ text ∈ rules.toList.splitOn ';', Text.Blank text ∨ ∃ clause, ClauseText text clause) ∧
    ((book.extend rules).isOk = true → ∀ text ∈ rules.toList.splitOn ';', text.count ':' ≤ 1) ∧
    (∀ text first second, TermText text first → TermText text second → first = second) := by
  refine ⟨isOk_extend_iff, ?_, ?_⟩
  · intro accepted text member
    rcases isOk_extend_iff.mp accepted text member with blank | ⟨clause, derived⟩
    · rw [List.count_eq_zero_of_not_mem (blank.not_mem rfl)]
      exact Nat.zero_le _
    · exact derived.count_colon_le
  · intro text first second derived other
    rw [← Term.read_eq_ok_iff] at derived other
    exact Except.ok.inj (derived.symm.trans other)

end UnitCheck
