/-!
# Documents

A document is a body of statements between a fixed opening line and a closing brace. The body is
taken as it is: nothing is checked, and no line end follows the brace.

* `Document.wrap` makes a document of a body.
* `Document.body?` takes the body out again.
* `Document.renumber` moves the number of every identifier in a text by the same amount: every
  numeral that directly follows a mark. Two trees that one builder makes differ by no more.
-/

namespace DotScribe.Document

def header : String := "strict digraph X \x7b\n"

def footer : String := "\x7d"

def wrap (body : String) : String :=
  header ++ body ++ footer

def wrapTimes : (times : Nat) → String → String
  | 0, body => body
  | times + 1, body => wrapTimes times (wrap body)

/-- Removes `front` from the start of a text that begins with it. -/
def dropFront? : (front text : List Char) → Option (List Char)
  | [], text => some text
  | _ :: _, [] => none
  | c :: front, d :: text => if c = d then dropFront? front text else none

/-- Removes `back` from the end of a text that ends with it. -/
def dropBack? (back text : List Char) : Option (List Char) :=
  (dropFront? back.reverse text.reverse).map List.reverse

/-- The characters between header and footer; `none` if one of the two is missing. -/
def body? (document : String) : Option (List Char) :=
  (dropFront? header.toList document.toList).bind (dropBack? footer.toList)

/-! ## First facts -/

theorem dropFront?_append (front text : List Char) : dropFront? front (front ++ text) = some text := by
  induction front with
  | nil => rfl
  | cons c front inductionHypothesis => simp [dropFront?, inductionHypothesis]

theorem eq_append_of_dropFront? {front text rest : List Char}
    (dropped : dropFront? front text = some rest) : text = front ++ rest := by
  induction front generalizing text with
  | nil => simpa [dropFront?] using dropped
  | cons c front inductionHypothesis =>
    cases text with
    | nil => simp [dropFront?] at dropped
    | cons d text =>
      by_cases same : c = d
      · simp only [dropFront?, same, if_pos] at dropped
        simp [same, inductionHypothesis dropped]
      · simp [dropFront?, same] at dropped

theorem dropBack?_append (back text : List Char) : dropBack? back (text ++ back) = some text := by
  simp [dropBack?, dropFront?_append]

@[simp] theorem toList_wrap (body : String) :
    (wrap body).toList = header.toList ++ body.toList ++ footer.toList := by
  simp [wrap]

theorem body?_wrap (body : String) : body? (wrap body) = some body.toList := by
  simp [body?, List.append_assoc, dropFront?_append, dropBack?_append]

/-! ## Renumbering -/

def leadingDigits (text : List Char) : List Char :=
  text.takeWhile Char.isDigit

def afterDigits (text : List Char) : List Char :=
  text.dropWhile Char.isDigit

/-- The decimal numeral moved by `offset`; nothing if there are no digits. -/
def moveNumeral (offset : Nat) (digits : List Char) : List Char :=
  if digits.isEmpty then [] else Nat.toDigits 10 (Nat.ofDigitChars 10 digits 0 + offset)

/-- Moves by `offset` every number that directly follows the character `mark`, and keeps all
    else. -/
def renumber (mark : Char) (offset : Nat) : List Char → List Char
  | [] => []
  | c :: rest =>
    if c = mark then
      c :: (moveNumeral offset (leadingDigits rest) ++ renumber mark offset (afterDigits rest))
    else c :: renumber mark offset rest
termination_by text => text.length
decreasing_by
  · have shorter := (List.dropWhile_sublist (l := rest) Char.isDigit).length_le
    simp only [afterDigits, List.length_cons]
    omega
  · simp

end DotScribe.Document
