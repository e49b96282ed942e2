import DotScribe.Filter
import Mathlib.Data.List.TakeWhile

/-!
# What a specification says

`Reads` says which directive a piece of a specification stands for, kind by kind: a level, a scope,
a scope without a level behind the equals sign, and a scope with its level. A piece is read exactly
if it is of one of these kinds, and every other piece leaves no directive behind.

Only what stands before the first slash is read as a list of pieces. What stands behind it is the
text that a message has to contain, unless there is a second slash: then the specification says
nothing at all.
-/

namespace DotScribe

/-! ## Levels -/

/-- The name of a verbosity in a specification, in lower case. -/
def Verbosity.name : Verbosity → String
  | off => "off"
  | upTo .error => "error"
  | upTo .warn => "warn"
  | upTo .info => "info"
  | upTo .debug => "debug"
  | upTo .trace => "trace"

/-- A level is known by its name, whatever the case of the letters. -/
theorem Verbosity.ofName?_eq_some_iff {word : List Char} {verbosity : Verbosity} :
    ofName? word = some verbosity ↔ word.map Char.toLower = verbosity.name.toList := by
  have asText : word.map Char.toLower = verbosity.name.toList ↔
      String.ofList (word.map Char.toLower) = verbosity.name := by
    rw [← String.toList_inj, String.toList_ofList]
  rw [asText, ofName?]
  generalize String.ofList (word.map Char.toLower) = name
  constructor
  · grind [Verbosity.name]
  · rintro rfl
    rcases verbosity with _ | (_ | _ | _ | _ | _) <;> rfl

namespace Text

theorem trimEnd_eq_nil_iff {text : List Char} : trimEnd text = [] ↔ ∀ c ∈ text, isBlank c := by
  simp [trimEnd, List.dropWhile_eq_nil_iff]

/-- Nothing is left of a text exactly if it holds blanks only. -/
theorem trim_eq_nil_iff {text : List Char} : trim text = [] ↔ ∀ c ∈ text, isBlank c := by
  rw [trim, trimEnd_eq_nil_iff]
  constructor
  · intro blank c mem
    rw [← List.takeWhile_append_dropWhile (p := isBlank) (l := text), List.mem_append] at mem
    rcases mem with front | rest
    · exact List.mem_takeWhile_imp front
    · exact blank c rest
  · exact fun blank c mem => blank c ((List.dropWhile_suffix isBlank).mem mem)

end Text

namespace Specification

/-! ## Pieces -/

/-- What a piece stands for. A piece that is of none of these kinds stands for nothing. -/
inductive Reads : List Char → Directive → Prop
  | level {word : List Char} {verbosity : Verbosity} (noEquals : '=' ∉ word)
      (named : word.map Char.toLower = verbosity.name.toList) :
      Reads word { scope := none, verbosity }
  | scope {word : List Char} (noEquals : '=' ∉ word)
      (unnamed : ∀ verbosity : Verbosity, word.map Char.toLower ≠ verbosity.name.toList) :
      Reads word { scope := some (String.ofList word), verbosity := .upTo .trace }
  | everything {scope blanks : List Char} (noEquals : '=' ∉ scope)
      (blank : ∀ c ∈ blanks, Text.isBlank c) :
      Reads (scope ++ '=' :: blanks)
        { scope := some (String.ofList scope), verbosity := .upTo .trace }
  | assigned {scope level : List Char} {verbosity : Verbosity} (noEquals : '=' ∉ scope)
      (noMore : '=' ∉ level) (named : (Text.trim level).map Char.toLower = verbosity.name.toList) :
      Reads (scope ++ '=' :: level) { scope := some (String.ofList scope), verbosity }

theorem reads_of_readPiece {piece : List Char} {directive : Directive}
    (read : readPiece piece = .ok directive) : Reads piece directive := by
  unfold readPiece at read
  split at read
  · next word parts =>
    obtain ⟨rfl, noEquals⟩ := Text.fields_eq_singleton_iff.1 parts
    split at read
    · next verbosity found =>
      cases read
      exact .level noEquals (Verbosity.ofName?_eq_some_iff.1 found)
    · next unknown =>
      cases read
      refine .scope noEquals fun verbosity named => ?_
      rw [Verbosity.ofName?_eq_some_iff.2 named] at unknown
      cases unknown
  · next scope level parts =>
    obtain ⟨rfl, noEquals, noMore⟩ := Text.fields_eq_pair_iff.1 parts
    simp only at read
    split at read
    · next empty =>
      cases read
      exact .everything noEquals (Text.trim_eq_nil_iff.1 (List.isEmpty_iff.1 empty))
    · split at read
      · next verbosity found =>
        cases read
        exact .assigned noEquals noMore (Verbosity.ofName?_eq_some_iff.1 found)
      · cases read
  · cases read

theorem readPiece_of_reads {piece : List Char} {directive : Directive}
    (reads : Reads piece directive) : readPiece piece = .ok directive := by
  cases reads with
  | level noEquals named =>
    rw [readPiece, Text.fields_of_not_mem noEquals]
    simp only [Verbosity.ofName?_eq_some_iff.2 named]
  | scope noEquals unnamed =>
    have unknown : Verbosity.ofName? piece = none := by
      rw [Option.eq_none_iff_forall_ne_some]
      exact fun verbosity found => unnamed verbosity (Verbosity.ofName?_eq_some_iff.1 found)
    rw [readPiece, Text.fields_of_not_mem noEquals]
    simp only [unknown]
  | everything noEquals blank =>
    have noMore : '=' ∉ _ := fun mem => absurd (blank '=' mem) (by decide)
    rw [readPiece, Text.fields_append_cons noEquals, Text.fields_of_not_mem noMore]
    simp only [Text.trim_eq_nil_iff.2 blank, List.isEmpty_nil, if_true]
  | assigned noEquals noMore named =>
    rename_i scope level verbosity
    have some : (Text.trim level).isEmpty = false := by
      cases empty : Text.trim level with
      | nil =>
        -- A name of no letters is the name of no level.
        rw [empty] at named
        rcases verbosity with _ | (_ | _ | _ | _ | _) <;> cases named
      | cons c rest => rfl
    rw [readPiece, Text.fields_append_cons noEquals, Text.fields_of_not_mem noMore]
    simp only [some, Verbosity.ofName?_eq_some_iff.2 named, Bool.false_eq_true, if_false]

theorem Reads.unique {piece : List Char} {first second : Directive} (reads : Reads piece first)
    (readsToo : Reads piece second) : first = second :=
  Except.ok.inj ((readPiece_of_reads reads).symm.trans (readPiece_of_reads readsToo))

theorem directive?_readPiece_eq_some_iff {piece : List Char} {directive : Directive} :
    directive? (readPiece piece) = some directive ↔ Reads piece directive := by
  constructor
  · intro read
    cases outcome : readPiece piece with
    | error warning =>
      rw [outcome] at read
      cases read
    | ok found =>
      rw [outcome] at read
      cases read
      exact reads_of_readPiece outcome
  · intro reads
    rw [readPiece_of_reads reads]
    rfl

/-- The directives that the pieces stand for, in their order. -/
def accepted (pieces : List (List Char)) : List Directive :=
  pieces.filterMap fun piece => directive? (readPiece piece)

theorem mem_accepted_iff {pieces : List (List Char)} {directive : Directive} :
    directive ∈ accepted pieces ↔ ∃ piece ∈ pieces, Reads piece directive := by
  simp only [accepted, List.mem_filterMap, directive?_readPiece_eq_some_iff]

/-! ## The slash -/

/-- What stands before the first slash. -/
def list (specification : String) : List Char :=
  specification.toList.takeWhile (· != '/')

/-- The first slash and all that stands behind it. -/
def ending (specification : String) : List Char :=
  specification.toList.dropWhile (· != '/')

/-- The text that stands behind the first slash, if there is one. -/
def sought (specification : String) : List Char :=
  (ending specification).drop 1

/-- All slashes stand in the ending. -/
theorem count_slash_eq (specification : String) :
    specification.toList.count '/' = (ending specification).count '/' := by
  have split : list specification ++ ending specification = specification.toList :=
    List.takeWhile_append_dropWhile
  have free : '/' ∉ list specification := by
    intro mem
    simpa using List.mem_takeWhile_imp mem
  rw [← split, List.count_append, List.count_eq_zero.2 free, Nat.zero_add]

theorem list_eq_and_ending_eq {specification : String} {front rest : List Char}
    (split : specification.toList = front ++ rest) (free : '/' ∉ front)
    (ends : ∀ c ∈ rest.head?, c = '/') :
    list specification = front ∧ ending specification = rest := by
  have inside : ∀ c ∈ front, (c != '/') = true := by
    intro c mem
    rw [bne_iff_ne]
    rintro rfl
    exact free mem
  have stop : rest.takeWhile (· != '/') = [] ∧ rest.dropWhile (· != '/') = rest := by
    cases rest with
    | nil => exact ⟨rfl, rfl⟩
    | cons c rest =>
      obtain rfl := ends c rfl
      exact ⟨rfl, rfl⟩
  rw [list, ending, split, List.takeWhile_append_of_pos inside,
    List.dropWhile_append_of_pos inside, stop.1, stop.2, List.append_nil]
  exact ⟨rfl, rfl⟩

/-- A specification with one slash at most is read as its list and the text behind the slash. -/
theorem parse_of_count_le_one {specification : String}
    (few : specification.toList.count '/' ≤ 1) :
    (parse specification).directives = accepted (pieces (list specification)) ∧
      ∀ message : String, Filter.matchesNeedle (parse specification).needle message = true ↔
        sought specification <:+: message.toList := by
  have length := Text.length_fields '/' specification.toList
  unfold parse
  split
  · next front parts =>
    obtain ⟨whole, free⟩ := Text.fields_eq_singleton_iff.1 parts
    rw [← List.append_nil front] at whole
    obtain ⟨listed, ended⟩ := list_eq_and_ending_eq whole free (by simp)
    rw [listed, sought, ended]
    exact ⟨List.filterMap_map, fun message => by simp [ofPieces, Filter.matchesNeedle]⟩
  · next front needle parts =>
    obtain ⟨whole, free, -⟩ := Text.fields_eq_pair_iff.1 parts
    obtain ⟨listed, ended⟩ := list_eq_and_ending_eq whole free (by simp)
    rw [listed, sought, ended]
    refine ⟨List.filterMap_map, fun message => ?_⟩
    rw [ofPieces, Filter.matchesNeedle, String.toList_ofList, Text.occursIn_iff]
    exact exists_congr fun before => exists_congr fun behind => eq_comm
  · next notOne notTwo =>
    -- With one slash at most there are one or two fields, and both cases are done.
    match parts : Text.fields '/' specification.toList with
    | [] => exact absurd parts (Text.fields_ne_nil _ _)
    | [front] => exact absurd parts (notOne front)
    | [front, needle] => exact absurd parts (notTwo front needle)
    | _ :: _ :: _ :: _ =>
      rw [parts] at length
      simp only [List.length_cons] at length
      omega

/-- A specification with more slashes brings in no directive. -/
theorem directives_parse_of_one_lt_count {specification : String}
    (many : 1 < specification.toList.count '/') : (parse specification).directives = [] := by
  have length := Text.length_fields '/' specification.toList
  unfold parse
  split
  · next parts =>
    rw [parts, List.length_singleton] at length
    omega
  · next parts =>
    rw [parts, List.length_cons, List.length_singleton] at length
    omega
  · rfl

end Specification

end DotScribe
