import UnitCheck.Text.Blank

/-!
# The pieces of a text

Texts are taken apart as lists of characters.

* `trim` removes white space at both ends and nothing else.
* `words` are the longest runs without white space.
* `cutAt?` cuts a text at its first character of a kind; `append_of_cutAt?` says that only this
  character is lost.
-/

namespace UnitCheck.Text

/-- The text without its leading white space. -/
def trimStart (text : List Char) : List Char :=
  text.dropWhile isBlank

/-- The text without its trailing white space. -/
def trimEnd (text : List Char) : List Char :=
  (text.reverse.dropWhile isBlank).reverse

/-- The text without the white space at its ends. -/
def trim (text : List Char) : List Char :=
  trimEnd (trimStart text)

/-- The string without the white space at its ends. -/
def trimString (text : String) : String :=
  String.ofList (trim text.toList)

/-- The maximal runs of characters that are not white space. -/
def words (text : List Char) : List (List Char) :=
  (text.splitOnP isBlank).filter fun word => !word.isEmpty

/-- The parts of the text before and after its first character that satisfies `p`. -/
def cutAt? (p : Char → Bool) (text : List Char) : Option (List Char × List Char) :=
  match text.dropWhile fun c => !p c with
  | [] => none
  | _ :: after => some (text.takeWhile fun c => !p c, after)

/-- The text between an opening parenthesis at its start and a closing one at its end. -/
def unparenthesize? : List Char → Option (List Char)
  | '(' :: rest => if rest.getLast? = some ')' then some rest.dropLast else none
  | _ => none

@[simp] theorem trim_nil : trim [] = [] := rfl

theorem trimStart_cons_of_blank {c : Char} {text : List Char} (blank : isBlank c = true) :
    trimStart (c :: text) = trimStart text := by
  simp [trimStart, blank]

theorem trimStart_cons_of_not_blank {c : Char} {text : List Char} (visible : isBlank c = false) :
    trimStart (c :: text) = c :: text := by
  simp [trimStart, visible]

theorem append_of_cutAt? {p : Char → Bool} {text before after : List Char}
    (cut : cutAt? p text = some (before, after)) :
    ∃ c, p c = true ∧ text = before ++ c :: after := by
  unfold cutAt? at cut
  split at cut
  · cases cut
  · rename_i c rest dropped
    obtain ⟨rfl, rfl⟩ := Prod.mk.inj (Option.some.inj cut)
    refine ⟨c, ?_, ?_⟩
    · have member := List.head?_dropWhile_not (fun c => !p c) text
      simpa [dropped] using member
    · rw [← dropped, List.takeWhile_append_dropWhile]

end UnitCheck.Text
