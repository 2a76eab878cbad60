import UnitCheck.Text.Pieces

/-!
# What trimming, cutting and unwrapping leave

`exists_trim` says what trimming removes, and `trim_append_cons` what it keeps: everything up to the
last visible character. `trim_padded` is the case of a text with white space around it.
`cutAt?_of_clean` and `cutAt?_append_cons` say which texts are left whole and where the others are
cut, and `cut_induction` goes from one cut to the next.
`unparenthesize?_eq_some_iff` says which texts stand in parentheses.
-/

namespace UnitCheck.Text

/-- White space only. -/
def Blank (text : List Char) : Prop :=
  ∀ c ∈ text, isBlank c = true

theorem isBlankString_iff {text : String} : isBlankString text = true ↔ Blank text.toList :=
  List.all_eq_true

theorem blank_nil : Blank [] :=
  fun _ member => absurd member List.not_mem_nil

theorem Blank.cons {c : Char} {text : List Char} (here : isBlank c = true) (blank : Blank text) :
    Blank (c :: text) :=
  List.forall_mem_cons.mpr ⟨here, blank⟩

theorem Blank.tail {c : Char} {text : List Char} (blank : Blank (c :: text)) : Blank text :=
  fun d member => blank d (List.mem_cons_of_mem c member)

theorem Blank.append {first second : List Char} (left : Blank first) (right : Blank second) :
    Blank (first ++ second) := by
  intro c member
  rcases List.mem_append.mp member with member | member
  · exact left c member
  · exact right c member

theorem Blank.not_mem {text : List Char} (blank : Blank text) {c : Char}
    (visible : isBlank c = false) : c ∉ text := by
  intro member
  rw [blank c member] at visible
  cases visible

theorem trimStart_of_blank {text : List Char} (blank : Blank text) : trimStart text = [] := by
  induction text with
  | nil => rfl
  | cons c rest ih =>
      rw [trimStart_cons_of_blank (blank c List.mem_cons_self)]
      exact ih blank.tail

theorem trimStart_append_cons (before rest : List Char) {c : Char} (visible : isBlank c = false) :
    trimStart (before ++ c :: rest) = trimStart before ++ c :: rest := by
  induction before with
  | nil => exact trimStart_cons_of_not_blank visible
  | cons d before ih =>
      cases blank : isBlank d with
      | true => rw [List.cons_append, trimStart_cons_of_blank blank, trimStart_cons_of_blank blank, ih]
      | false =>
          rw [List.cons_append, trimStart_cons_of_not_blank blank, trimStart_cons_of_not_blank blank,
            List.cons_append]

theorem trimEnd_append_cons (before : List Char) {c : Char} (visible : isBlank c = false)
    {after : List Char} (blank : Blank after) : trimEnd (before ++ c :: after) = before ++ [c] := by
  have backwards : trimStart (after.reverse ++ c :: before.reverse) = c :: before.reverse := by
    rw [trimStart_append_cons _ _ visible, trimStart_of_blank, List.nil_append]
    intro d member
    exact blank d (List.mem_reverse.mp member)
  have reversed : (before ++ c :: after).reverse = after.reverse ++ c :: before.reverse := by simp
  change (trimStart (before ++ c :: after).reverse).reverse = _
  rw [reversed, backwards]
  simp

theorem trim_append_cons (before : List Char) {c : Char} (visible : isBlank c = false)
    {after : List Char} (blank : Blank after) :
    trim (before ++ c :: after) = trimStart before ++ [c] := by
  rw [trim, trimStart_append_cons _ _ visible, trimEnd_append_cons _ visible blank]

theorem trim_enclosed {before inside after : List Char} {c d : Char} (leading : Blank before)
    (opening : isBlank c = false) (closing : isBlank d = false) (trailing : Blank after) :
    trim (before ++ c :: (inside ++ d :: after)) = c :: (inside ++ [d]) := by
  have regroup : before ++ c :: (inside ++ d :: after) = (before ++ c :: inside) ++ d :: after := by
    simp
  rw [regroup, trim_append_cons _ closing trailing, trimStart_append_cons _ _ opening,
    trimStart_of_blank leading]
  rfl

theorem trim_of_blank {text : List Char} (blank : Blank text) : trim text = [] := by
  rw [trim, trimStart_of_blank blank]
  rfl

theorem mem_of_mem_trimEnd {text : List Char} {c : Char} (member : c ∈ trimEnd text) : c ∈ text :=
  List.mem_reverse.mp
    ((List.dropWhile_sublist isBlank).subset (List.mem_reverse.mp member))

theorem trimEnd_cons (c : Char) (rest : List Char) :
    trimEnd (c :: rest) = if isBlank c && (trimEnd rest).isEmpty then [] else c :: trimEnd rest := by
  unfold trimEnd
  rw [List.reverse_cons, List.dropWhile_append]
  cases dropped : rest.reverse.dropWhile isBlank with
  | nil => cases blank : isBlank c <;> simp [blank]
  | cons d kept => simp

theorem trimStart_trimEnd (text : List Char) : trimStart (trimEnd text) = trim text := by
  induction text with
  | nil => rfl
  | cons c rest ih =>
      cases blank : isBlank c with
      | true =>
          have skipped : trim (c :: rest) = trim rest := by
            rw [trim, trimStart_cons_of_blank blank, trim]
          rw [skipped, ← ih, trimEnd_cons, blank]
          cases kept : trimEnd rest with
          | nil => rfl
          | cons d more => exact trimStart_cons_of_blank blank
      | false =>
          rw [trim, trimStart_cons_of_not_blank blank, trimEnd_cons, blank]
          exact trimStart_cons_of_not_blank blank

/-- Trimming removes white space at both ends. -/
theorem exists_trim (text : List Char) :
    ∃ before after, Blank before ∧ Blank after ∧ text = before ++ trim text ++ after := by
  have inner := List.takeWhile_append_dropWhile (p := isBlank) (l := (trimStart text).reverse)
  refine ⟨text.takeWhile isBlank, ((trimStart text).reverse.takeWhile isBlank).reverse, ?_, ?_, ?_⟩
  · intro c member
    exact List.all_eq_true.mp List.all_takeWhile c member
  · intro c member
    exact List.all_eq_true.mp List.all_takeWhile c (List.mem_reverse.mp member)
  · have split : trimStart text =
        trim text ++ ((trimStart text).reverse.takeWhile isBlank).reverse := by
      rw [trim, trimEnd, ← List.reverse_append, inner, List.reverse_reverse]
    rw [List.append_assoc, ← split]
    exact List.takeWhile_append_dropWhile.symm

theorem trim_padded {before core after : List Char} (leading : Blank before)
    (opening : ∃ c rest, core = c :: rest ∧ isBlank c = false)
    (closing : ∃ front d, core = front ++ [d] ∧ isBlank d = false)
    (trailing : Blank after) : trim (before ++ (core ++ after)) = core := by
  obtain ⟨front, d, rfl, last⟩ := closing
  have regroup : before ++ (front ++ [d] ++ after) = (before ++ front) ++ d :: after := by simp
  rw [regroup, trim_append_cons _ last trailing]
  cases front with
  | nil => rw [List.append_nil, trimStart_of_blank leading]
  | cons e more =>
      obtain ⟨c, rest, same, first⟩ := opening
      obtain ⟨rfl, -⟩ := List.cons.inj same
      rw [trimStart_append_cons _ _ first, trimStart_of_blank leading, List.nil_append]

theorem visible_of_mem_head? {text : List Char} (trimmed : trim text = text) :
    ∀ c ∈ text.head?, isBlank c = false := by
  intro c first
  have start := List.head?_dropWhile_not isBlank (trimEnd text)
  rw [← trimStart_trimEnd, trimStart] at trimmed
  rw [trimmed, Option.mem_def.mp first] at start
  simpa using start

theorem visible_of_mem_getLast? {text : List Char} (trimmed : trim text = text) :
    ∀ c ∈ text.getLast?, isBlank c = false := by
  intro c last
  have start := List.head?_dropWhile_not isBlank (trimStart text).reverse
  have reversed : (trimStart text).reverse.dropWhile isBlank = text.reverse :=
    List.reverse_eq_iff.mp trimmed
  rw [reversed, List.head?_reverse, Option.mem_def.mp last] at start
  simpa using start

/-! ## Cuts -/

theorem cutAt?_append_cons {p : Char → Bool} {before : List Char}
    (clean : ∀ c ∈ before, p c = false) {c : Char} (cut : p c = true) (after : List Char) :
    cutAt? p (before ++ c :: after) = some (before, after) := by
  have stays : ∀ d ∈ before, (!p d) = true := by
    intro d member
    rw [clean d member]
    rfl
  have stops : (!p c) = false := by
    rw [cut]
    rfl
  unfold cutAt?
  rw [List.dropWhile_append_of_pos stays, List.takeWhile_append_of_pos stays,
    List.dropWhile_cons_of_neg (by simp [stops]), List.takeWhile_cons_of_neg (by simp [stops])]
  simp

theorem cutAt?_of_clean {p : Char → Bool} {text : List Char} (clean : ∀ c ∈ text, p c = false) :
    cutAt? p text = none := by
  have dropped : text.dropWhile (fun c => !p c) = [] := by
    induction text with
    | nil => rfl
    | cons c rest ih =>
        rw [List.dropWhile_cons_of_pos (by simp [clean c List.mem_cons_self])]
        exact ih fun d member => clean d (List.mem_cons_of_mem c member)
  rw [cutAt?, dropped]

theorem cutAt?_of_not_mem {c : Char} {text : List Char} (absent : c ∉ text) :
    cutAt? (· = c) text = none := by
  refine cutAt?_of_clean fun d member => decide_eq_false ?_
  rintro rfl
  exact absent member

theorem cutAt?_first {c : Char} {before : List Char} (absent : c ∉ before) (after : List Char) :
    cutAt? (· = c) (before ++ c :: after) = some (before, after) := by
  have others : ∀ d ∈ before, decide (d = c) = false := by
    intro d member
    refine decide_eq_false ?_
    rintro rfl
    exact absent member
  exact cutAt?_append_cons (p := (· = c)) others (decide_eq_true rfl) after

/-- Induction on the occurrences of a symbol. -/
@[elab_as_elim]
theorem cut_induction {β : Type} [DecidableEq β] (c : β) {motive : List β → Prop}
    (clean : ∀ text, c ∉ text → motive text)
    (cut : ∀ before after, c ∉ before → motive after → motive (before ++ c :: after))
    (text : List β) : motive text := by
  induction length : text.length using Nat.strongRecOn generalizing text with
  | ind n ih =>
      by_cases member : c ∈ text
      · obtain ⟨before, after, rfl, absent⟩ := List.eq_append_cons_of_mem member
        have shorter : after.length < n := by
          rw [← length, List.length_append, List.length_cons]
          omega
        exact cut before after absent (ih after.length shorter after rfl)
      · exact clean text member

theorem not_mem_of_mem_splitOn {β : Type} [DecidableEq β] {c : β} {text piece : List β}
    (member : piece ∈ text.splitOn c) : c ∉ piece := by
  induction text using cut_induction c with
  | clean text clean =>
      rw [List.splitOn_eq_singleton clean, List.mem_singleton] at member
      rw [member]
      exact clean
  | cut before after clean ih =>
      rw [List.splitOn_append_cons_self_of_not_mem clean] at member
      rcases List.mem_cons.mp member with rfl | later
      · exact clean
      · exact ih later

/-! ## Parentheses -/

theorem unparenthesize?_eq_some_iff {text inside : List Char} :
    unparenthesize? text = some inside ↔ text = '(' :: (inside ++ [')']) := by
  constructor
  · intro found
    unfold unparenthesize? at found
    split at found
    · split at found
      · rename_i closed
        obtain ⟨kept, rfl⟩ := List.getLast?_eq_some_iff.mp closed
        rw [← Option.some.inj found, List.dropLast_concat]
      · cases found
    · cases found
  · rintro rfl
    simp [unparenthesize?]

end UnitCheck.Text
