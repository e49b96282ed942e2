import DotScribe.Text.Classes
import DotScribe.Text.Hex

/-!
# Quoted text

A text between double quotes on one line, in which every character can be told: quotes and
backslashes are escaped, and characters that leave no mark of their own are written by a
one-letter escape or by their code point.

* `Text.isHidden` tests for the characters that leave no mark of their own.
* `Text.quoted` writes a text.
* `Text.readQuoted?` reads a quoted text off the front and gives what follows it.
* `Text.readQuoted?_quoted` says that a quoted text is read back whatever follows it.
-/

namespace DotScribe.Text

/-! ## Writing -/

/-- A character that leaves no mark of its own: it is not drawn at all, or only as a part of the
    character before it. -/
def isHidden (c : Char) : Bool :=
  isUnprintable c || isDefaultIgnorable c || (isGraphemeExtend c && !isHalfwidthSoundMark c)

/-- A backslash, `u`, and the code point between braces. -/
def codeEscape (c : Char) : List Char :=
  ['\\', 'u', '\x7b'] ++ hex c.toNat ++ ['\x7d']

/-- What one character is written as between the quotes. -/
def quotedChar (c : Char) : List Char :=
  if c = '\x00' then ['\\', '0']
  else if c = '\t' then ['\\', 't']
  else if c = '\r' then ['\\', 'r']
  else if c = '\n' then ['\\', 'n']
  else if c = '"' then ['\\', '"']
  else if c = '\\' then ['\\', '\\']
  else if isHidden c then codeEscape c
  else [c]

/-- The characters of the quoted text, quotes included. -/
def quotedChars (text : List Char) : List Char :=
  '"' :: text.flatMap quotedChar ++ ['"']

def quoted (text : String) : String :=
  String.ofList (quotedChars text.toList)

/-! ## Reading -/

/-- The character that a backslash followed by `mark` stands for. -/
def unmark? (mark : Char) : Option Char :=
  if mark = '0' then some '\x00'
  else if mark = 't' then some '\t'
  else if mark = 'r' then some '\r'
  else if mark = 'n' then some '\n'
  else if mark = '"' then some '"'
  else if mark = '\\' then some '\\'
  else none

def charOfCode? (code : Nat) : Option Char :=
  if valid : code.isValidChar then some (Char.ofNatAux code valid) else none

/-- Reads a code point and the brace that closes it, and gives what follows. -/
def readCode? (text : List Char) : Option (Char × List Char) :=
  match text.dropWhile (· != '\x7d') with
  | [] => none
  | _ :: rest =>
    ((ofHex? (text.takeWhile (· != '\x7d'))).bind charOfCode?).map fun c => (c, rest)

/-- Reads one character as `quotedChar` writes it, and gives what follows. -/
def readUnit? : List Char → Option (Char × List Char)
  | [] => none
  | '\\' :: 'u' :: '\x7b' :: rest => readCode? rest
  | '\\' :: mark :: rest => (unmark? mark).map fun c => (c, rest)
  | c :: rest => if c = '"' ∨ c = '\\' then none else some (c, rest)

theorem readCode?_shortens {text rest : List Char} {c : Char}
    (read : readCode? text = some (c, rest)) : rest.length < text.length := by
  unfold readCode? at read
  split at read
  · cases read
  · next d tail dropped =>
    obtain ⟨_, _, same⟩ := Option.map_eq_some_iff.1 read
    cases same
    have shorter := (List.dropWhile_sublist (l := text) (· != '\x7d')).length_le
    rw [dropped, List.length_cons] at shorter
    omega

theorem readUnit?_shortens {text rest : List Char} {c : Char}
    (read : readUnit? text = some (c, rest)) : rest.length < text.length := by
  unfold readUnit? at read
  split at read
  · cases read
  · have shorter := readCode?_shortens read
    simp only [List.length_cons]
    omega
  · obtain ⟨_, _, same⟩ := Option.map_eq_some_iff.1 read
    cases same
    simp only [List.length_cons]
    omega
  · split at read
    · cases read
    · cases read
      simp

/-- Reads characters up to the closing quote, and gives what follows it. -/
def readUnits? (text : List Char) : Option (List Char × List Char) :=
  match text with
  | '"' :: rest => some ([], rest)
  | text =>
    match read : readUnit? text with
    | none => none
    | some (c, rest) =>
      have := readUnit?_shortens read
      (readUnits? rest).map fun found => (c :: found.1, found.2)
termination_by text.length

def readQuoted? : List Char → Option (List Char × List Char)
  | '"' :: rest => readUnits? rest
  | _ => none

/-! ## A quoted text is read back -/

theorem charOfCode?_toNat (c : Char) : charOfCode? c.toNat = some c := by
  have valid : c.toNat.isValidChar := c.valid
  exact (dif_pos valid).trans (congrArg some (Char.ext rfl))

theorem closing_not_mem_hex (n : Nat) : '\x7d' ∉ hex n := fun mem => by
  have digit := hexValue?_isSome_of_mem_hex mem
  revert digit
  decide

theorem readCode?_hex (c : Char) (rest : List Char) :
    readCode? (hex c.toNat ++ '\x7d' :: rest) = some (c, rest) := by
  have plain : ∀ d ∈ hex c.toNat, (d != '\x7d') = true := by
    intro d mem
    rw [bne_iff_ne]
    rintro rfl
    exact closing_not_mem_hex c.toNat mem
  simp [readCode?, List.dropWhile_append_of_pos plain, List.takeWhile_append_of_pos plain,
    ofHex?_hex, charOfCode?_toNat]

theorem readUnit?_quotedChar (c : Char) (rest : List Char) :
    readUnit? (quotedChar c ++ rest) = some (c, rest) := by
  unfold quotedChar
  split
  · subst c; rfl
  split
  · subst c; rfl
  split
  · subst c; rfl
  split
  · subst c; rfl
  split
  · subst c; rfl
  split
  · subst c; rfl
  next noQuote noBackslash =>
    split
    · simp only [codeEscape, List.append_assoc, List.cons_append, List.nil_append]
      exact readCode?_hex c rest
    · simp [readUnit?, noQuote, noBackslash]

theorem quotedChar_head_ne_quote (c : Char) (rest tail : List Char) :
    quotedChar c ++ rest ≠ '"' :: tail := fun same => by
  have read := readUnit?_quotedChar c rest
  rw [same] at read
  simp [readUnit?] at read

theorem readUnits?_quotedChars (text rest : List Char) :
    readUnits? (text.flatMap quotedChar ++ '"' :: rest) = some (text, rest) := by
  induction text with
  | nil => simp [readUnits?]
  | cons c text inductionHypothesis =>
    rw [List.flatMap_cons, List.append_assoc, readUnits?]
    · split
      · next missing => simp [readUnit?_quotedChar] at missing
      · next d tail found =>
        rw [readUnit?_quotedChar] at found
        cases found
        simp [inductionHypothesis]
    · exact fun tail => quotedChar_head_ne_quote c _ tail

/-- A quoted text is read back, whatever follows it. -/
theorem readQuoted?_quoted (text rest : List Char) :
    readQuoted? (quotedChars text ++ rest) = some (text, rest) := by
  simp [quotedChars, readQuoted?, readUnits?_quotedChars]

@[simp] theorem toList_quoted (text : String) : (quoted text).toList = quotedChars text.toList := by
  simp [quoted]

end DotScribe.Text
