import DotScribe.Proofs.Filter.Pieces
import DotScribe.Proofs.Filter.Precedence

/-!
# The rule of a specification

`Shows` says of a specification and a record of this program whether the record is shown, in terms
of the pieces of the specification alone: among the pieces whose scope begins with the program's
name and fits the record, the last of those with the longest scope has a level that admits it. No
filter is put together for that, and the program's own setting does not occur in it.

`admits_configure_iff_shows` is the agreement with the filter. Pieces of no use are left out of the
rule (`lastWord_filter`), and the order of pieces with different scopes does not count
(`lastWord_perm`).
-/

namespace DotScribe

namespace Specification

/-- The scope of everything that this program records. -/
def programName : String := "astdot"

/-- The piece sets the verbosity of a scope of this program that the path lies in. -/
structure Sets (path : String) (piece : List Char) (scope : String) (verbosity : Verbosity) :
    Prop where
  reads : Reads piece { scope := some scope, verbosity }
  inside : programName.toList <+: scope.toList
  fits : scope.toList <+: path.toList

/-- The last of the pieces with the longest scope sets this verbosity. -/
def LastWord (path : String) (pieces : List (List Char)) (verbosity : Verbosity) : Prop :=
  ∃ before piece after scope, pieces = before ++ piece :: after ∧ Sets path piece scope verbosity ∧
    (∀ earlier ∈ before, ∀ other level, Sets path earlier other level →
      other.length ≤ scope.length) ∧
    ∀ later ∈ after, ∀ other level, Sets path later other level → other.length < scope.length

/-- The specification asks for the record. -/
structure Shows (specification : String) (record : Record) : Prop where
  fewSlashes : specification.toList.count '/' ≤ 1
  sought : sought specification <:+: record.message.toList
  admitted : ∃ verbosity, LastWord record.origin.path (pieces (list specification)) verbosity ∧
    verbosity.admits record.severity = true

/-! ## Directives and pieces -/

/-- The setting that the program starts from. -/
def initial : Directive :=
  { scope := some programName, verbosity := .upTo .warn }

theorem accepted_append_cons {before after : List (List Char)} {piece : List Char}
    {directive : Directive} (reads : Reads piece directive) :
    accepted (before ++ piece :: after) = accepted before ++ directive :: accepted after := by
  have read : directive? (readPiece piece) = some directive :=
    directive?_readPiece_eq_some_iff.2 reads
  simp only [accepted, List.filterMap_append, List.filterMap_cons, read]

/-- Where a directive stands among those that were read, its piece stands among the pieces. -/
theorem exists_piece_of_accepted_eq {pieces : List (List Char)} {before after : List Directive}
    {directive : Directive} (split : accepted pieces = before ++ directive :: after) :
    ∃ front piece back, pieces = front ++ piece :: back ∧ Reads piece directive ∧
      accepted front = before ∧ accepted back = after := by
  obtain ⟨left, right, rfl, readLeft, readRight⟩ := List.filterMap_eq_append_iff.1 split
  obtain ⟨unread, piece, back, rfl, nothing, read, readBack⟩ :=
    List.filterMap_eq_cons_iff.1 readRight
  refine ⟨left ++ unread, piece, back, by simp, directive?_readPiece_eq_some_iff.1 read, ?_,
    readBack⟩
  rw [accepted, List.filterMap_append, readLeft, List.filterMap_eq_nil_iff.2 nothing,
    List.append_nil]

theorem Sets.length_le {path scope : String} {piece : List Char} {verbosity : Verbosity}
    (sets : Sets path piece scope verbosity) : programName.length ≤ scope.length :=
  sets.inside.length_le

section

variable {path : String} (inside : programName.toList <+: path.toList)

include inside

theorem fits_initial : initial.fits path = true :=
  List.isPrefixOf_iff_prefix.2 inside

/-- A directive that fits and reaches as far as the program's name is set by its piece. -/
theorem exists_sets_of_fits {piece : List Char} {directive : Directive}
    (reads : Reads piece directive) (fits : directive.fits path = true)
    (far : programName.length ≤ directive.reach) :
    ∃ scope, directive.reach = scope.length ∧ Sets path piece scope directive.verbosity := by
  obtain ⟨_ | scope, verbosity⟩ := directive
  · have short : ¬ programName.length ≤ 0 := by decide
    exact absurd far short
  · have fitsScope : scope.toList <+: path.toList := List.isPrefixOf_iff_prefix.1 fits
    exact ⟨scope, rfl, reads, List.prefix_of_prefix_length_le inside fitsScope far, fitsScope⟩

/-- If all scopes that are set stay under a bound, so does all that fits. What does not even reach
    as far as the program's name is set by no piece, but does not come near the bound either. -/
theorem reach_lt_of_forall_sets {pieces : List (List Char)} {bound : Nat}
    (least : programName.length ≤ bound)
    (under : ∀ piece ∈ pieces, ∀ scope level, Sets path piece scope level → scope.length < bound) :
    ∀ directive ∈ accepted pieces, directive.fits path = true → directive.reach < bound := by
  intro directive mem fits
  obtain ⟨piece, among, reads⟩ := mem_accepted_iff.1 mem
  by_cases far : programName.length ≤ directive.reach
  · obtain ⟨scope, reach, sets⟩ := exists_sets_of_fits inside reads fits far
    rw [reach]
    exact under piece among scope _ sets
  · exact Nat.lt_of_lt_of_le (Nat.lt_of_not_le far) least

/-- If another directive speaks than the one that the program starts from, its piece has the last
    word. -/
theorem exists_lastWord_of_speaksFor {pieces : List (List Char)} {severity : Severity}
    {directive : Directive} (fine : initial.verbosity.admits severity = false)
    (speaks : Filter.SpeaksFor path (initial :: accepted pieces) directive)
    (admits : directive.verbosity.admits severity = true) :
    LastWord path pieces directive.verbosity := by
  have far : programName.length ≤ directive.reach :=
    speaks.reach_le List.mem_cons_self (fits_initial inside)
  obtain ⟨before, after, split, fits, atMost, less⟩ := speaks
  cases before with
  | nil =>
    -- The one at the front is the program's own, and that is too coarse.
    obtain ⟨rfl, -⟩ := List.cons.inj split
    rw [fine] at admits
    cases admits
  | cons first before =>
    obtain ⟨front, piece, back, rfl, reads, rfl, rfl⟩ :=
      exists_piece_of_accepted_eq (List.cons.inj split).2
    obtain ⟨scope, reach, sets⟩ := exists_sets_of_fits inside reads fits far
    rw [reach] at atMost less
    refine ⟨front, piece, back, scope, rfl, sets, ?_, ?_⟩
    · intro earlier mem other level setsOther
      exact atMost _ (List.mem_cons_of_mem _ (mem_accepted_iff.2 ⟨earlier, mem, setsOther.reads⟩))
        (List.isPrefixOf_iff_prefix.2 setsOther.fits)
    · intro later mem other level setsOther
      exact less _ (mem_accepted_iff.2 ⟨later, mem, setsOther.reads⟩)
        (List.isPrefixOf_iff_prefix.2 setsOther.fits)

/-- The piece with the last word overrules the setting that the program starts from. -/
theorem exists_speaksFor_of_lastWord {pieces : List (List Char)} {verbosity : Verbosity}
    (word : LastWord path pieces verbosity) :
    ∃ directive, Filter.SpeaksFor path (initial :: accepted pieces) directive ∧
      directive.verbosity = verbosity := by
  obtain ⟨front, piece, back, scope, rfl, sets, atMost, less⟩ := word
  have least := sets.length_le
  refine ⟨{ scope := some scope, verbosity }, ⟨initial :: accepted front, accepted back, ?_,
    List.isPrefixOf_iff_prefix.2 sets.fits, ?_, ?_⟩, rfl⟩
  · rw [accepted_append_cons sets.reads, List.cons_append]
  · rw [List.forall_mem_cons]
    refine ⟨fun _ => least, fun earlier mem fits => Nat.le_of_lt_succ ?_⟩
    exact reach_lt_of_forall_sets inside (Nat.le_succ_of_le least)
      (fun piece among other level setsOther =>
        Nat.lt_succ_of_le (atMost piece among other level setsOther)) earlier mem fits
  · exact reach_lt_of_forall_sets inside least less

theorem speaksFor_iff_lastWord {pieces : List (List Char)} {severity : Severity}
    (fine : initial.verbosity.admits severity = false) :
    (∃ directive, Filter.SpeaksFor path (initial :: accepted pieces) directive ∧
        directive.verbosity.admits severity = true) ↔
      ∃ verbosity, LastWord path pieces verbosity ∧ verbosity.admits severity = true := by
  constructor
  · rintro ⟨directive, speaks, admits⟩
    exact ⟨_, exists_lastWord_of_speaksFor inside fine speaks admits, admits⟩
  · rintro ⟨verbosity, word, admits⟩
    obtain ⟨directive, speaks, rfl⟩ := exists_speaksFor_of_lastWord inside word
    exact ⟨directive, speaks, admits⟩

end

/-! ## The filter follows the rule -/

theorem inside_path (origin : Origin) : programName.toList <+: origin.path.toList := by
  cases origin <;> decide

/-- The program's own setting fits all that it records, and can be replaced in place or overruled
    from behind with the same effect. -/
theorem speaksFor_configure_iff {path : String} (inside : programName.toList <+: path.toList)
    (specification : Specification) (directive : Directive) :
    Filter.SpeaksFor path (Filter.preset.configure specification).directives directive ↔
      Filter.SpeaksFor path (initial :: specification.directives) directive := by
  rw [← Filter.decisive?_eq_some_iff, ← Filter.decisive?_eq_some_iff]
  suffices same : Filter.decisive? (Filter.preset.configure specification).directives path =
      Filter.decisive? (initial :: specification.directives) path by rw [same]
  obtain ⟨best, found⟩ := Filter.exists_decisive?_eq_some
    (List.mem_cons_self : initial ∈ initial :: specification.directives) (fits_initial inside)
  have speaks := Filter.decisive?_eq_some_iff.1 found
  have far : programName.length ≤ best.reach :=
    speaks.reach_le List.mem_cons_self (fits_initial inside)
  have positive : 0 < programName.length := by decide
  rw [found]
  exact Filter.decisive?_putAll (List.nodup_singleton _) speaks (Nat.lt_of_lt_of_le positive far)

/-- The filter lets a fine enough record through exactly if the specification asks for it. -/
theorem admits_configure_iff_shows {record : Record}
    (fine : initial.verbosity.admits record.severity = false) (specification : String) :
    (Filter.preset.configure (parse specification)).admits record = true ↔
      Shows specification record := by
  have inside := inside_path record.origin
  simp only [Filter.admits_iff, speaksFor_configure_iff inside]
  by_cases few : specification.toList.count '/' ≤ 1
  · obtain ⟨directives, needle⟩ := parse_of_count_le_one few
    rw [directives, speaksFor_iff_lastWord inside fine]
    constructor
    · rintro ⟨admitted, found⟩
      exact ⟨few, (needle record.message).1 found, admitted⟩
    · rintro ⟨-, sought, admitted⟩
      exact ⟨admitted, (needle record.message).2 sought⟩
  · -- With two slashes nothing is brought in, and the program's own setting is too coarse.
    rw [directives_parse_of_one_lt_count (Nat.lt_of_not_le few)]
    constructor
    · rintro ⟨⟨directive, speaks, admits⟩, -⟩
      rw [List.mem_singleton.1 speaks.mem, fine] at admits
      cases admits
    · rintro ⟨fewer, -, -⟩
      exact absurd fewer few

/-! ## Pieces of no use -/

/-- A piece that makes no sense, has no scope, or has one that is shorter than the program's
    name. -/
inductive Idle (piece : List Char) : Prop
  | malformed (unread : ∀ directive, ¬ Reads piece directive)
  | unscoped {verbosity : Verbosity} (reads : Reads piece { scope := none, verbosity })
  | short {scope : String} {verbosity : Verbosity}
      (reads : Reads piece { scope := some scope, verbosity })
      (less : scope.length < programName.length)

def isIdle (piece : List Char) : Bool :=
  match directive? (readPiece piece) with
  | none => true
  | some directive => directive.reach < programName.length

theorem isIdle_iff {piece : List Char} : isIdle piece = true ↔ Idle piece := by
  rw [isIdle]
  cases read : directive? (readPiece piece) with
  | none =>
    simp only [true_iff]
    refine .malformed fun directive reads => ?_
    rw [directive?_readPiece_eq_some_iff.2 reads] at read
    cases read
  | some directive =>
    have reads := directive?_readPiece_eq_some_iff.1 read
    rw [decide_eq_true_eq]
    constructor
    · intro less
      obtain ⟨_ | scope, verbosity⟩ := directive
      · exact .unscoped reads
      · exact .short reads less
    · rintro (unread | readsToo | ⟨readsToo, less⟩)
      · exact absurd reads (unread directive)
      · rw [reads.unique readsToo]
        exact (by decide : 0 < programName.length)
      · rw [reads.unique readsToo]
        exact less

instance (piece : List Char) : Decidable (Idle piece) :=
  decidable_of_iff (isIdle piece = true) isIdle_iff

section

variable {path : String} {pieces others : List (List Char)} {verbosity : Verbosity}

theorem Sets.not_idle {scope : String} {piece : List Char}
    (sets : Sets path piece scope verbosity) : ¬ Idle piece := by
  rintro (unread | reads | ⟨reads, less⟩)
  · exact unread _ sets.reads
  · cases reads.unique sets.reads
  · cases reads.unique sets.reads
    exact absurd sets.length_le (Nat.not_le_of_lt less)

theorem not_lastWord_of_idle (idle : ∀ piece ∈ pieces, Idle piece) :
    ¬ LastWord path pieces verbosity := by
  rintro ⟨before, piece, after, scope, rfl, sets, -⟩
  exact sets.not_idle (idle piece (List.mem_append_right before List.mem_cons_self))

/-- The last word does not depend on idle pieces, however many there are and wherever. -/
theorem lastWord_filter_not_idle :
    LastWord path (pieces.filter fun piece => ¬ Idle piece) verbosity ↔
      LastWord path pieces verbosity := by
  constructor
  · rintro ⟨before, piece, after, scope, split, sets, atMost, less⟩
    -- Around the piece stand the kept ones and idle ones, and the idle ones set nothing.
    obtain ⟨front, rest, rfl, rfl, keptRest⟩ := List.filter_eq_append_iff.1 split
    obtain ⟨gap, back, rfl, dropped, -, rfl⟩ := List.filter_eq_cons_iff.1 keptRest
    refine ⟨front ++ gap, piece, back, scope, by simp, sets, ?_, ?_⟩
    · intro earlier mem other level setsOther
      have busy : decide (¬ Idle earlier) = true := decide_eq_true setsOther.not_idle
      rcases List.mem_append.1 mem with mem | mem
      · exact atMost earlier (List.mem_filter.2 ⟨mem, busy⟩) other level setsOther
      · exact absurd busy (dropped earlier mem)
    · intro later mem other level setsOther
      have busy : decide (¬ Idle later) = true := decide_eq_true setsOther.not_idle
      exact less later (List.mem_filter.2 ⟨mem, busy⟩) other level setsOther
  · rintro ⟨before, piece, after, scope, rfl, sets, atMost, less⟩
    have busy : decide (¬ Idle piece) = true := decide_eq_true sets.not_idle
    rw [List.filter_append, List.filter_cons, if_pos busy]
    exact ⟨_, piece, _, scope, rfl, sets,
      fun earlier mem => atMost earlier (List.mem_of_mem_filter mem),
      fun later mem => less later (List.mem_of_mem_filter mem)⟩

/-! ## The order of the pieces -/

/-- No two of the pieces that are read have the same scope. -/
def DistinctScopes (pieces : List (List Char)) : Prop :=
  ((accepted pieces).filterMap Directive.scope).Nodup

instance (pieces : List (List Char)) : Decidable (DistinctScopes pieces) :=
  List.nodupDecidable ((accepted pieces).filterMap Directive.scope)

theorem DistinctScopes.perm (distinct : DistinctScopes pieces) (perm : pieces.Perm others) :
    DistinctScopes others :=
  ((perm.filterMap _).filterMap _).nodup_iff.1 distinct

/-- Of two different pieces only one sets a scope. -/
theorem DistinctScopes.not_mem_after {before after : List (List Char)} {piece later : List Char}
    {scope : String} {level : Verbosity} (distinct : DistinctScopes (before ++ piece :: after))
    (reads : Reads piece { scope := some scope, verbosity })
    (readsLater : Reads later { scope := some scope, verbosity := level }) : later ∉ after := by
  intro mem
  have named : Directive.scope { scope := some scope, verbosity } = some scope := rfl
  rw [DistinctScopes, accepted_append_cons reads, List.filterMap_append,
    List.filterMap_cons_some named, List.nodup_append, List.nodup_cons] at distinct
  exact distinct.2.1.1 (List.mem_filterMap.2 ⟨_, mem_accepted_iff.2 ⟨later, mem, readsLater⟩, rfl⟩)

/-- If the scopes differ, the last word is simply that of the longest scope. -/
theorem lastWord_iff_of_distinct (distinct : DistinctScopes pieces) :
    LastWord path pieces verbosity ↔
      ∃ piece ∈ pieces, ∃ scope, Sets path piece scope verbosity ∧
        ∀ other ∈ pieces, ∀ name level, Sets path other name level →
          name.length ≤ scope.length := by
  constructor
  · rintro ⟨before, piece, after, scope, rfl, sets, atMost, less⟩
    refine ⟨piece, List.mem_append_right before List.mem_cons_self, scope, sets, ?_⟩
    intro other mem name level setsOther
    rcases List.mem_append.1 mem with mem | mem
    · exact atMost other mem name level setsOther
    · rcases List.mem_cons.1 mem with rfl | mem
      · cases sets.reads.unique setsOther.reads
        exact Nat.le_refl _
      · exact Nat.le_of_lt (less other mem name level setsOther)
  · rintro ⟨piece, mem, scope, sets, longest⟩
    obtain ⟨before, after, rfl⟩ := List.append_of_mem mem
    refine ⟨before, piece, after, scope, rfl, sets,
      fun earlier mem => longest earlier (List.mem_append_left _ mem), ?_⟩
    intro later mem name level setsOther
    have atMost : name.length ≤ scope.length :=
      longest later (List.mem_append_right before (List.mem_cons_of_mem piece mem)) name level
        setsOther
    apply Nat.lt_of_le_of_ne atMost
    intro same
    obtain rfl : name = scope :=
      Directive.eq_of_prefix_of_length_eq setsOther.fits sets.fits same
    exact distinct.not_mem_after sets.reads setsOther.reads mem

theorem lastWord_perm (distinct : DistinctScopes pieces) (perm : pieces.Perm others) :
    LastWord path pieces verbosity ↔ LastWord path others verbosity := by
  rw [lastWord_iff_of_distinct distinct, lastWord_iff_of_distinct (distinct.perm perm)]
  simp only [perm.mem_iff]

end

/-! ## What does not count -/

theorem Shows.congr {specification other : String} {record : Record}
    (shown : Shows specification record) (sameEnding : ending other = ending specification)
    (sameWord : ∀ verbosity, LastWord record.origin.path (pieces (list other)) verbosity ↔
      LastWord record.origin.path (pieces (list specification)) verbosity) :
    Shows other record where
  fewSlashes := by
    rw [count_slash_eq, sameEnding, ← count_slash_eq]
    exact shown.fewSlashes
  sought := by
    rw [Specification.sought, sameEnding]
    exact shown.sought
  admitted := by
    obtain ⟨verbosity, word, admits⟩ := shown.admitted
    exact ⟨verbosity, (sameWord verbosity).2 word, admits⟩

/-- Idle pieces do not count, however many there are and wherever they stand. -/
theorem shows_iff_of_busy_eq {specification other : String}
    (sameEnding : ending other = ending specification)
    (sameBusy : (pieces (list other)).filter (fun piece => ¬ Idle piece) =
      (pieces (list specification)).filter fun piece => ¬ Idle piece) (record : Record) :
    Shows other record ↔ Shows specification record := by
  have sameWord (path : String) (verbosity : Verbosity) :
      LastWord path (pieces (list other)) verbosity ↔
        LastWord path (pieces (list specification)) verbosity := by
    rw [← lastWord_filter_not_idle, sameBusy, lastWord_filter_not_idle]
  exact ⟨fun shown => shown.congr sameEnding.symm fun verbosity => (sameWord _ verbosity).symm,
    fun shown => shown.congr sameEnding (sameWord _)⟩

/-- The order of the pieces does not count, if no two of them have the same scope. -/
theorem shows_iff_of_perm {specification other : String}
    (sameEnding : ending other = ending specification)
    (distinct : DistinctScopes (pieces (list specification)))
    (perm : (pieces (list specification)).Perm (pieces (list other))) (record : Record) :
    Shows other record ↔ Shows specification record :=
  ⟨fun shown => shown.congr sameEnding.symm fun _ => lastWord_perm distinct perm,
    fun shown => shown.congr sameEnding fun _ => (lastWord_perm distinct perm).symm⟩

end Specification

end DotScribe
