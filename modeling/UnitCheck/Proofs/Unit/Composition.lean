import Mathlib.Data.List.Find
import UnitCheck.Proofs.Unit.Targets

/-!
# Composed unit expressions

What a product of two texts and a quotient of two texts stand for, and with which error they are
refused, is settled by what the two texts stand for alone.

* `tokens_append_space`: away from a caret, a space between two texts keeps their tokens apart.
* `foldlM_pushOr` is a run of powers that are added one by one: the first unit which is there
  already is the error. `foldlM_addToken_append` is a run of tokens that fails by itself.
* `parse_append_space` and `parse_quotient` are the two compositions, `parseUnit_composes` states
  them of texts.
-/

namespace UnitCheck

namespace UnitVector

/-- The powers of both vectors. -/
def append (v w : UnitVector) : UnitVector := ⟨v.powers ++ w.powers⟩

/-- The first unit of `w` that is in `v` too. -/
def firstShared? (v w : UnitVector) : Option String := w.units.find? v.contains

end UnitVector

namespace UnitGrammar

open UnitExpression

/-! ## Tokens of two texts -/

theorem pieces_append (first second : List Char) :
    pieces (first ++ ' ' :: second) = pieces first ++ pieces second := by
  unfold pieces
  rw [List.splitOn_append_cons_self, List.filter_append]

/-- What precedes a solid character is squeezed whatever follows it. -/
theorem exists_squeeze_append (before : List Char) {c : Char} (solid : Solid c) :
    ∃ kept, ∀ rest, squeeze (before ++ c :: rest) = kept ++ c :: squeeze rest := by
  induction before with
  | nil => exact ⟨[], squeeze_cons_of_solid solid⟩
  | cons d before ih =>
      obtain ⟨kept, squeezed⟩ := ih
      by_cases caret : d = '^'
      · subst caret
        refine ⟨'^' :: Text.trimStart kept, fun rest => ?_⟩
        rw [List.cons_append, squeeze_caret, squeezed, Text.trimStart_append_cons _ _ solid.1,
          List.cons_append]
      · have edge : ∀ rest, atCaret (kept ++ c :: rest) = kept.head?.any (· = '^') := by
          intro rest
          cases kept with
          | nil => simp [atCaret, solid.2.1]
          | cons e kept => simp [atCaret]
        refine ⟨if Text.isBlank d && kept.head?.any (· = '^') then kept else d :: kept,
          fun rest => ?_⟩
        rw [List.cons_append, squeeze_cons caret, squeezed, edge]
        split <;> rfl

/-- A text that can stand in a product: it is not blank at its ends and holds no slash. -/
structure Factor (text : List Char) : Prop where
  nonempty : text ≠ []
  slashless : '/' ∉ text
  trimmed : Text.trim text = text

theorem Factor.exists_cons {text : List Char} (factor : Factor text)
    (noCaret : text.head? ≠ some '^') : ∃ c rest, text = c :: rest ∧ Solid c := by
  obtain ⟨c, rest, rfl⟩ := List.exists_cons_of_ne_nil factor.nonempty
  refine ⟨c, rest, rfl, Text.visible_of_mem_head? factor.trimmed c rfl, ?_, ?_⟩
  · rintro rfl
    exact noCaret rfl
  · rintro rfl
    exact factor.slashless List.mem_cons_self

theorem Factor.exists_append {text : List Char} (factor : Factor text)
    (noCaret : text.getLast? ≠ some '^') : ∃ front c, text = front ++ [c] ∧ Solid c := by
  obtain ⟨front, c, rfl⟩ := (List.eq_nil_or_concat' text).resolve_left factor.nonempty
  have last : (front ++ [c]).getLast? = some c := List.getLast?_concat
  refine ⟨front, c, rfl, Text.visible_of_mem_getLast? factor.trimmed c last, ?_, ?_⟩
  · rintro rfl
    exact noCaret last
  · rintro rfl
    exact factor.slashless (List.mem_append_right front List.mem_cons_self)

theorem joinCarets_append_space {first second : List Char} (left : Factor first)
    (right : Factor second) (noCaretLeft : first.getLast? ≠ some '^')
    (noCaretRight : second.head? ≠ some '^') :
    joinCarets (first ++ ' ' :: second) = joinCarets first ++ ' ' :: joinCarets second := by
  obtain ⟨front, c, rfl, solidLast⟩ := left.exists_append noCaretLeft
  obtain ⟨d, rest, rfl, solidFirst⟩ := right.exists_cons noCaretRight
  obtain ⟨kept, squeezed⟩ := exists_squeeze_append front solidLast
  have blank : Text.Blank [' '] := blank_of_spaces (by simp)
  have space : squeeze (' ' :: d :: rest) = ' ' :: d :: squeeze rest :=
    squeeze_spaces blank solidFirst rest
  have visible : Text.trimStart (d :: squeeze rest) = d :: squeeze rest :=
    Text.trimStart_cons_of_not_blank solidFirst.1
  rw [← trimStart_squeeze, ← trimStart_squeeze, ← trimStart_squeeze, List.append_assoc,
    List.singleton_append, squeezed, squeezed, space, squeeze_cons_of_solid solidFirst, visible,
    Text.trimStart_append_cons _ _ solidLast.1, Text.trimStart_append_cons _ _ solidLast.1]
  simp

theorem tokens_append_space {first second : List Char} (left : Factor first)
    (right : Factor second) (noCaretLeft : first.getLast? ≠ some '^')
    (noCaretRight : second.head? ≠ some '^') :
    tokens (first ++ ' ' :: second) = tokens first ++ tokens second := by
  rw [tokens_eq, tokens_eq, tokens_eq,
    joinCarets_append_space left right noCaretLeft noCaretRight, pieces_append]

/-! ## Powers on top of others -/

/-- The vector with one more power. If its unit occurs already, this is the given kind of error. -/
def pushOr (fault : String → UnitError) (v : UnitVector) (power : UnitPower) :
    Except UnitError UnitVector :=
  match v.push? power with
  | some larger => .ok larger
  | none => .error (fault power.unit)

theorem addToken_eq (v : UnitVector) (token : List Char) :
    addToken v token = (readToken token).bind (pushOr .duplicateUnit v) := rfl

theorem pushOr_of_mem {fault : String → UnitError} {v : UnitVector} {power : UnitPower}
    (member : power.unit ∈ v.units) : pushOr fault v power = .error (fault power.unit) := by
  simp [pushOr, UnitVector.push?, UnitVector.contains_iff.mpr member]

theorem pushOr_of_not_mem {fault : String → UnitError} {v : UnitVector} {power : UnitPower}
    (fresh : power.unit ∉ v.units) : pushOr fault v power = .ok ⟨v.powers ++ [power]⟩ := by
  rw [pushOr, UnitVector.push?_eq_some_iff.mpr ⟨fresh, rfl⟩]

/-- On top of two vectors a power comes to what it comes to on top of the second one, unless its
unit is one of the first. -/
theorem pushOr_append (fault : String → UnitError) (v w : UnitVector) (power : UnitPower) :
    pushOr fault (v.append w) power = (pushOr fault w power).map v.append ∨
      power.unit ∈ v.units ∧ pushOr fault (v.append w) power = .error (fault power.unit) := by
  have units : (v.append w).units = v.units ++ w.units := List.map_append
  by_cases before : power.unit ∈ v.units
  · exact Or.inr ⟨before, pushOr_of_mem (units ▸ List.mem_append_left _ before)⟩
  · apply Or.inl
    by_cases inside : power.unit ∈ w.units
    · rw [pushOr_of_mem inside, pushOr_of_mem (units ▸ List.mem_append_right _ inside)]
      rfl
    · have fresh : power.unit ∉ (v.append w).units := by
        rw [units, List.mem_append]
        exact not_or.mpr ⟨before, inside⟩
      rw [pushOr_of_not_mem inside, pushOr_of_not_mem fresh]
      simp [UnitVector.append, Except.map]

theorem foldlM_pushOr {fault : String → UnitError} {w : UnitVector} (distinct : w.units.Nodup)
    (v : UnitVector) :
    w.powers.foldlM (pushOr fault) v =
      match v.firstShared? w with
      | some unit => .error (fault unit)
      | none => .ok (v.append w) := by
  obtain ⟨powers⟩ := w
  induction powers generalizing v with
  | nil => simp [UnitVector.firstShared?, UnitVector.units, UnitVector.append]; rfl
  | cons power rest ih =>
      obtain ⟨apart, distinctRest⟩ := List.nodup_cons.mp distinct
      have shared : v.firstShared? ⟨power :: rest⟩ =
          if v.contains power.unit then some power.unit else v.firstShared? ⟨rest⟩ := by
        cases here : v.contains power.unit <;>
          simp [UnitVector.firstShared?, UnitVector.units, here]
      rw [List.foldlM_cons, shared]
      by_cases member : power.unit ∈ v.units
      · rw [pushOr_of_mem member, if_pos (UnitVector.contains_iff.mpr member)]
        rfl
      · -- The units after `power` are other ones, so none of them is shared for its sake.
        have others : UnitVector.firstShared? ⟨v.powers ++ [power]⟩ ⟨rest⟩ =
            v.firstShared? ⟨rest⟩ := by
          apply List.find?_congr
          intro unit later
          have other : power.unit ≠ unit := by
            rintro rfl
            exact apart later
          simp [UnitVector.contains, other]
        rw [pushOr_of_not_mem member, if_neg (by rwa [UnitVector.contains_iff])]
        change rest.foldlM (pushOr fault) ⟨v.powers ++ [power]⟩ = _
        rw [ih _ distinctRest, others]
        simp [UnitVector.append]

theorem foldlM_addToken_of_read {tokens : List (List Char)} {powers : List UnitPower}
    (read : List.Forall₂ (fun token power => readToken token = .ok power) tokens powers)
    (v : UnitVector) : tokens.foldlM addToken v = powers.foldlM (pushOr .duplicateUnit) v := by
  induction read generalizing v with
  | nil => rfl
  | @cons token power tokens powers here _ ih =>
      rw [List.foldlM_cons, List.foldlM_cons, addToken_eq, here]
      apply bind_congr
      exact ih

theorem foldlM_addToken_of_parsed {text : List Char} {w : UnitVector}
    (parsed : parseProduct text = .ok w) (v : UnitVector) :
    (tokens text).foldlM addToken v =
      match v.firstShared? w with
      | some unit => .error (.duplicateUnit unit)
      | none => .ok (v.append w) := by
  obtain ⟨powers, read, rfl, distinct⟩ :=
    (foldlM_push_eq_ok_iff addToken_eq_ok_iff (v := .empty) List.nodup_nil).mp parsed
  rw [foldlM_addToken_of_read read]
  exact foldlM_pushOr distinct v

/-- Tokens that fail by themselves fail on top of a vector too, with the same error or with a unit
of the vector. -/
theorem foldlM_addToken_append {tokens : List (List Char)} {w : UnitVector} {failure : UnitError}
    (failed : tokens.foldlM addToken w = .error failure) (v : UnitVector) :
    tokens.foldlM addToken (v.append w) = .error failure ∨
      ∃ unit ∈ v.units, tokens.foldlM addToken (v.append w) = .error (.duplicateUnit unit) := by
  induction tokens generalizing w with
  | nil => cases failed
  | cons token rest ih =>
      rw [List.foldlM_cons] at failed ⊢
      rw [addToken_eq] at failed ⊢
      cases read : readToken token with
      | error cause =>
          rw [read] at failed
          cases failed
          exact Or.inl rfl
      | ok power =>
          rw [read] at failed
          change (pushOr .duplicateUnit w power).bind _ = _ at failed
          change (pushOr .duplicateUnit (v.append w) power).bind _ = _ ∨
            ∃ unit ∈ v.units, (pushOr .duplicateUnit (v.append w) power).bind _ = _
          rcases pushOr_append .duplicateUnit v w power with same | ⟨before, refused⟩
          · rw [same]
            cases pushed : pushOr .duplicateUnit w power with
            | error cause =>
                rw [pushed] at failed
                cases failed
                exact Or.inl rfl
            | ok larger =>
                rw [pushed] at failed
                exact ih failed
          · rw [refused]
            exact Or.inr ⟨power.unit, before, rfl⟩

/-! ## Products and quotients of texts -/

theorem parse_of_slashless {text : List Char} (slashless : '/' ∉ text) :
    parse text = parseProduct text := by
  rw [parse, Text.cutAt?_of_not_mem slashless]

theorem parseSide_of_slashless {text : List Char} (slashless : '/' ∉ text) :
    parseSide text = parse text := by
  rw [parse_of_slashless slashless, parseSide, if_neg (by simpa using slashless)]

theorem parseSide_of_slash {text : List Char} (slash : '/' ∈ text) :
    parseSide text = .error .multipleDivisors := by
  rw [parseSide, if_pos (by simpa using slash)]

theorem parse_append_space {first second : List Char} (left : Factor first)
    (right : Factor second) (noCaretLeft : first.getLast? ≠ some '^')
    (noCaretRight : second.head? ≠ some '^') :
    parse (first ++ ' ' :: second) =
      (parse first).bind fun v => (tokens second).foldlM addToken v := by
  have slashless : '/' ∉ first ++ ' ' :: second := by
    simp [left.slashless, right.slashless]
  rw [parse_of_slashless slashless, parse_of_slashless left.slashless, parseProduct,
    tokens_append_space left right noCaretLeft noCaretRight, List.foldlM_append]
  rfl

theorem isEmpty_of_parse {text : List Char} {v : UnitVector} (parsed : parse text = .ok v) :
    v.isEmpty = text.all Text.isBlank := by
  rw [Bool.eq_iff_iff, List.all_eq_true, ← not_iff_not, Bool.not_eq_true,
    UnitVector.isEmpty_eq_false_iff]
  change v ≠ .empty ↔ ¬Text.Blank text
  rw [← parse_eq_ok_empty_iff, parsed, Except.ok.injEq]

theorem foldlM_divideBy {divisor : UnitVector} (distinct : divisor.units.Nodup)
    (v : UnitVector) :
    divisor.powers.foldlM divideBy v =
      match v.firstShared? divisor with
      | some unit => .error (.sharedUnit unit)
      | none => .ok (v.append divisor.inverse) := by
  have units : divisor.inverse.units = divisor.units := by
    simp [UnitVector.units, UnitVector.inverse]
  have inverse : divisor.inverse.powers.foldlM (pushOr .sharedUnit) v =
      divisor.powers.foldlM divideBy v := List.foldlM_map
  rw [← inverse, foldlM_pushOr (units ▸ distinct), UnitVector.firstShared?, units]
  rfl

theorem parse_quotient {left right : List Char} (slashless : '/' ∉ left) :
    parse (left ++ '/' :: right) =
      if left.isEmpty || right.isEmpty then .error .misplacedDivisor
      else match parse left with
        | .error failure => .error failure
        | .ok above =>
            if '/' ∈ denominator right then .error .multipleDivisors
            else match parse (denominator right) with
              | .error failure => .error failure
              | .ok below =>
                  if left.all Text.isBlank || (denominator right).all Text.isBlank then
                    .error .misplacedDivisor
                  else match above.firstShared? below with
                    | some unit => .error (.sharedUnit unit)
                    | none => .ok (above.append below.inverse) := by
  rw [parse, Text.cutAt?_first slashless]
  by_cases empty : (left.isEmpty || right.isEmpty) = true
  · rw [if_pos empty]
    simp only [parseQuotient, if_pos empty]
    rfl
  · obtain ⟨someLeft, someRight⟩ : left ≠ [] ∧ right ≠ [] := by simpa using empty
    rw [if_neg empty]
    simp only [parseQuotient_eq someLeft someRight]
    rw [parseSide_of_slashless slashless]
    cases above : parse left with
    | error failure => rfl
    | ok quotient =>
        by_cases slash : '/' ∈ denominator right
        · simp only [Except.bind, parseSide_of_slash slash, if_pos slash]
        · simp only [Except.bind, parseSide_of_slashless slash, if_neg slash]
          cases below : parse (denominator right) with
          | error failure => rfl
          | ok divisor =>
              have distinct := (parse_eq_ok_iff.mp below).2
              simp only [isEmpty_of_parse above, isEmpty_of_parse below, foldlM_divideBy distinct]

/-- The text without the white space at its ends and without one pair of parentheses around the
rest. -/
inductive Unwraps (text : String) : String → Prop
  | bare : (∀ inside, Text.trimString text ≠ "(" ++ inside ++ ")") →
      Unwraps text (Text.trimString text)
  | wrapped {inside : String} : Text.trimString text = "(" ++ inside ++ ")" → Unwraps text inside

theorem trimString_eq_wrapped_iff {text inside : String} :
    Text.trimString text = "(" ++ inside ++ ")" ↔
      Text.unparenthesize? (Text.trim text.toList) = some inside.toList := by
  rw [Text.unparenthesize?_eq_some_iff, ← String.toList_inj]
  simp [Text.trimString]

theorem unwraps_iff {text divisor : String} :
    Unwraps text divisor ↔ divisor = String.ofList (denominator text.toList) := by
  rw [denominator_eq]
  constructor
  · intro unwraps
    cases unwraps with
    | bare plain =>
        cases found : Text.unparenthesize? (Text.trim text.toList) with
        | none => rfl
        | some inside =>
            rw [← String.toList_ofList (l := inside)] at found
            exact absurd (trimString_eq_wrapped_iff.mpr found) (plain _)
    | wrapped same =>
        rw [trimString_eq_wrapped_iff.mp same]
        exact String.ofList_toList.symm
  · rintro rfl
    cases found : Text.unparenthesize? (Text.trim text.toList) with
    | none =>
        refine .bare fun inside wrapped => ?_
        rw [trimString_eq_wrapped_iff.mp wrapped] at found
        cases found
    | some inside =>
        apply Unwraps.wrapped
        rw [trimString_eq_wrapped_iff, found]
        exact congrArg some String.toList_ofList.symm

end UnitGrammar

open UnitGrammar

/-- Away from a caret, a space between two texts joins what they stand for: the first text that is
refused decides the error, and a unit that both have is a duplicate. A slash divides what they stand
for, and of several errors the one is reported that comes first in this order: an empty side, the
left side, a slash on the right, the right side, a blank side, a unit on both sides. -/
theorem parseUnit_composes :
    (∀ first second : String, Factor first.toList → Factor second.toList →
      first.toList.getLast? ≠ some '^' → second.toList.head? ≠ some '^' →
      (∀ failure, parseUnit first = .error failure →
        parseUnit (first ++ " " ++ second) = .error failure) ∧
      (∀ v w, parseUnit first = .ok v → parseUnit second = .ok w →
        parseUnit (first ++ " " ++ second) =
          match v.firstShared? w with
          | some unit => .error (.duplicateUnit unit)
          | none => .ok (v.append w)) ∧
      ∀ v failure, parseUnit first = .ok v → parseUnit second = .error failure →
        parseUnit (first ++ " " ++ second) = .error failure ∨
          ∃ unit ∈ v.units, parseUnit (first ++ " " ++ second) = .error (.duplicateUnit unit)) ∧
    ∀ left right : String, '/' ∉ left.toList →
      ∃ divisor, (∀ text, Unwraps right text ↔ text = divisor) ∧
      parseUnit (left ++ "/" ++ right) =
        if left = "" ∨ right = "" then .error .misplacedDivisor
        else match parseUnit left with
          | .error failure => .error failure
          | .ok above =>
              if '/' ∈ divisor.toList then .error .multipleDivisors
              else match parseUnit divisor with
                | .error failure => .error failure
                | .ok below =>
                    if Text.isBlankString left || Text.isBlankString divisor then
                      .error .misplacedDivisor
                    else match above.firstShared? below with
                      | some unit => .error (.sharedUnit unit)
                      | none => .ok (above.append below.inverse) := by
  refine ⟨?_, ?_⟩
  · intro first second left right noCaretLeft noCaretRight
    have text : (first ++ " " ++ second).toList = first.toList ++ ' ' :: second.toList := by simp
    have composed : parseUnit (first ++ " " ++ second) = (parseUnit first).bind fun v =>
        (UnitExpression.tokens second.toList).foldlM UnitExpression.addToken v := by
      rw [parseUnit, text]
      exact parse_append_space left right noCaretLeft noCaretRight
    have alone : parseUnit second = UnitExpression.parseProduct second.toList :=
      parse_of_slashless right.slashless
    rw [composed, alone]
    refine ⟨?_, ?_, ?_⟩
    · intro failure refused
      rw [refused]
      rfl
    · intro v w parsed parsedSecond
      rw [parsed]
      exact foldlM_addToken_of_parsed parsedSecond v
    · intro v failure parsed refused
      rw [parsed]
      have top : v.append .empty = v := by simp [UnitVector.append, UnitVector.empty]
      have outcome := foldlM_addToken_append refused v
      rwa [top] at outcome
  · intro left right slashless
    refine ⟨_, fun text => unwraps_iff, ?_⟩
    have text : (left ++ "/" ++ right).toList = left.toList ++ '/' :: right.toList := by simp
    have empty : (left.toList.isEmpty || right.toList.isEmpty) = true ↔ left = "" ∨ right = "" := by
      simp
    rw [parseUnit, text, parse_quotient slashless]
    simp only [empty, parseUnit, Text.isBlankString, String.toList_ofList]

/-- A unit of both texts is named by the second one, and the parentheses and the white space around
them do not count. -/
theorem parseUnit_composes_joule :
    (Factor "N m".toList ∧ Factor "s m^2".toList ∧ Factor "m K^0".toList) ∧
    parseUnit ("N m" ++ " " ++ "s m^2") = .error (.duplicateUnit "m") ∧
    (parseUnit ("N m" ++ " " ++ "m K^0") = .error (.invalidExponent "0") ∨
      ∃ unit ∈ ["N", "m"], parseUnit ("N m" ++ " " ++ "m K^0") = .error (.duplicateUnit unit)) ∧
    '/' ∉ "J ".toList ∧
    parseUnit ("J " ++ "/" ++ " (mol K^-2) ") =
      .ok ⟨[⟨"J", 1⟩, ⟨"mol", -1⟩, ⟨"K", 2⟩]⟩ := by
  have left : Factor "N m".toList := by constructor <;> decide
  have shared : Factor "s m^2".toList := by constructor <;> decide
  have faulty : Factor "m K^0".toList := by constructor <;> decide
  obtain ⟨products, quotients⟩ := parseUnit_composes
  obtain ⟨-, both, -⟩ := products "N m" "s m^2" left shared (by decide) (by decide)
  obtain ⟨-, -, second⟩ := products "N m" "m K^0" left faulty (by decide) (by decide)
  obtain ⟨divisor, unwraps, quotient⟩ := quotients "J " " (mol K^-2) " (by decide)
  refine ⟨⟨left, shared, faulty⟩, both _ _ rfl rfl, second _ _ rfl rfl, by decide, ?_⟩
  have inside : Unwraps " (mol K^-2) " "mol K^-2" := .wrapped rfl
  rw [quotient, ← (unwraps "mol K^-2").mp inside]
  rfl

end UnitCheck
