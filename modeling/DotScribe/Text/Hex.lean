/-!
# Hexadecimal numerals

Numerals in base sixteen with lowercase letters and without leading zeros.

* `Text.hex` writes a number.
* `Text.ofHex?` reads one, and `Text.ofHex?_hex` says that it reads what was written.
-/

namespace DotScribe.Text

/-- The digits of a number, the most significant first. -/
def hex (n : Nat) : List Char :=
  Nat.toDigits 16 n

def hexValue? (c : Char) : Option Nat :=
  if '0' ≤ c ∧ c ≤ '9' then some (c.toNat - '0'.toNat)
  else if 'a' ≤ c ∧ c ≤ 'f' then some (c.toNat - 'a'.toNat + 10)
  else none

/-- The number that the digits write, after those that gave `sofar`. -/
def ofHexFrom? (sofar : Nat) : List Char → Option Nat
  | [] => some sofar
  | c :: rest => (hexValue? c).bind fun value => ofHexFrom? (16 * sofar + value) rest

/-- The number that the digits write; `none` if one of them is no digit. -/
def ofHex? (digits : List Char) : Option Nat :=
  ofHexFrom? 0 digits

theorem hex_of_lt_sixteen {n : Nat} (small : n < 16) : hex n = [n.digitChar] :=
  Nat.toDigits_of_lt_base small

theorem hex_of_sixteen_le {n : Nat} (large : 16 ≤ n) :
    hex n = hex (n / 16) ++ [(n % 16).digitChar] :=
  Nat.toDigits_of_base_le (by decide) large

theorem hexValue?_digitChar {d : Nat} (small : d < 16) : hexValue? d.digitChar = some d := by
  revert d
  decide

theorem ofHexFrom?_append (sofar : Nat) (first second : List Char) :
    ofHexFrom? sofar (first ++ second) =
      (ofHexFrom? sofar first).bind fun value => ofHexFrom? value second := by
  induction first generalizing sofar with
  | nil => rfl
  | cons c first inductionHypothesis =>
    cases read : hexValue? c <;> simp [ofHexFrom?, read, inductionHypothesis]

theorem ofHex?_hex (n : Nat) : ofHex? (hex n) = some n := by
  induction n using Nat.strongRecOn with
  | ind n inductionHypothesis =>
    by_cases small : n < 16
    · simp [ofHex?, hex_of_lt_sixteen small, ofHexFrom?, hexValue?_digitChar small]
    · have front := inductionHypothesis (n / 16) (by omega)
      simp only [ofHex?] at front ⊢
      rw [hex_of_sixteen_le (by omega), ofHexFrom?_append, front]
      simp [ofHexFrom?, hexValue?_digitChar (Nat.mod_lt n (by decide : 0 < 16))]
      omega

theorem hexValue?_isSome_of_mem_hex {n : Nat} {c : Char} (mem : c ∈ hex n) :
    (hexValue? c).isSome := by
  induction n using Nat.strongRecOn with
  | ind n inductionHypothesis =>
    by_cases small : n < 16
    · simp only [hex_of_lt_sixteen small, List.mem_singleton] at mem
      simp [mem, hexValue?_digitChar small]
    · rw [hex_of_sixteen_le (by omega), List.mem_append, List.mem_singleton] at mem
      rcases mem with front | last
      · exact inductionHypothesis (n / 16) (by omega) front
      · simp [last, hexValue?_digitChar (Nat.mod_lt n (by decide : 0 < 16))]

end DotScribe.Text
