/-!
# Label text

A label stands between double quotes in a node declaration, so a quote, a backslash, a line feed
or an angle bracket in it has to be escaped before it is written there. A carriage return is
dropped.

* `Label.escape` runs one substitution after the other over the whole text.
* `Label.encode` is the simultaneous substitution, one character at a time.
* `Label.IsEncoded` says which texts are made of escape units, without reference to either.
* `Label.decode?` reads such a text back and refuses every other.
* `Label.scan?` finds the quote that closes a label.
-/

namespace DotScribe.Label

/-! ## Escaping -/

/-- Puts `replacement` in place of every occurrence of `target`. -/
def substitute (target : Char) (replacement text : List Char) : List Char :=
  text.flatMap fun c => if c = target then replacement else [c]

/-- The substitutions that make up `escape`, in the order in which they run. The backslash comes
    first, so that no backslash that another one introduces is doubled. -/
def passes : List (Char × List Char) :=
  [('\\', ['\\', '\\']),
   ('"', ['\\', '"']),
   ('\n', ['\\', 'n']),
   ('\r', []),
   ('<', ['\\', '<']),
   ('>', ['\\', '>'])]

def escapeChars (text : List Char) : List Char :=
  passes.foldl (fun done pass => substitute pass.1 pass.2 done) text

def escape (label : String) : String :=
  String.ofList (escapeChars label.toList)

def escapeTimes : (times : Nat) → String → String
  | 0, label => label
  | times + 1, label => escapeTimes times (escape label)

/-! ## Escape units -/

/-- What a single character is written as. -/
def encodeChar (c : Char) : List Char :=
  if c = '\\' then ['\\', '\\']
  else if c = '"' then ['\\', '"']
  else if c = '\n' then ['\\', 'n']
  else if c = '\r' then []
  else if c = '<' then ['\\', '<']
  else if c = '>' then ['\\', '>']
  else [c]

def encode (text : List Char) : List Char :=
  text.flatMap encodeChar

/-- The characters that never stand alone in an escaped text. -/
def isReserved (c : Char) : Bool :=
  c == '\\' || c == '"' || c == '\n' || c == '\r' || c == '<' || c == '>'

/-- The character that a backslash followed by `c` stands for. -/
def decodeMark? (c : Char) : Option Char :=
  if c = 'n' then some '\n'
  else if c = '\\' ∨ c = '"' ∨ c = '<' ∨ c = '>' then some c
  else none

/-- A concatenation of units: a character that needs no escape, or a backslash with its mark. -/
inductive IsEncoded : List Char → Prop
  | nil : IsEncoded []
  | plain {c : Char} {rest : List Char} (free : isReserved c = false) (tail : IsEncoded rest) :
      IsEncoded (c :: rest)
  | marked {c d : Char} {rest : List Char} (mark : decodeMark? c = some d)
      (tail : IsEncoded rest) : IsEncoded ('\\' :: c :: rest)

/-- Reads units from left to right; `none` if the text is no concatenation of units. -/
def decode? : List Char → Option (List Char)
  | [] => some []
  | '\\' :: c :: rest =>
    match decodeMark? c with
    | some d => (decode? rest).map (d :: ·)
    | none => none
  | c :: rest => if isReserved c then none else (decode? rest).map (c :: ·)

def withoutReturns (text : List Char) : List Char :=
  text.filter (· != '\r')

/-! ## The closing quote -/

/-- Reads a label up to the quote that closes it, and gives what stands before and behind that
    quote. A backslash takes the character behind it along, so that a quote there closes nothing.
    `none` if no quote closes the label. -/
def scan? : List Char → Option (List Char × List Char)
  | [] => none
  | '"' :: rest => some ([], rest)
  | '\\' :: c :: rest => (scan? rest).map fun found => ('\\' :: c :: found.1, found.2)
  | c :: rest => if c = '\\' then none else (scan? rest).map fun found => (c :: found.1, found.2)

/-- What was scanned is what stands before the quote, the quote, and what stands behind it. -/
theorem eq_append_of_scan? {text before behind : List Char}
    (scanned : scan? text = some (before, behind)) : text = before ++ '"' :: behind := by
  fun_induction scan? text generalizing before behind with
  | case1 => cases scanned
  | case2 rest =>
    cases scanned
    rfl
  | case3 c rest inductionHypothesis =>
    obtain ⟨found, read, same⟩ := Option.map_eq_some_iff.1 scanned
    cases same
    simp [inductionHypothesis read]
  | case4 => cases scanned
  | case5 c rest _ _ _ inductionHypothesis =>
    obtain ⟨found, read, same⟩ := Option.map_eq_some_iff.1 scanned
    cases same
    simp [inductionHypothesis read]

/-! ## First facts -/

@[simp] theorem substitute_append (target : Char) (replacement first second : List Char) :
    substitute target replacement (first ++ second) =
      substitute target replacement first ++ substitute target replacement second := by
  simp [substitute]

@[simp] theorem escapeChars_append (first second : List Char) :
    escapeChars (first ++ second) = escapeChars first ++ escapeChars second := by
  simp [escapeChars, passes]

@[simp] theorem encode_cons (c : Char) (rest : List Char) :
    encode (c :: rest) = encodeChar c ++ encode rest := by
  simp [encode]

@[simp] theorem toList_escape (label : String) :
    (escape label).toList = escapeChars label.toList := by
  simp [escape]

end DotScribe.Label
