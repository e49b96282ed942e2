import DotScribe.Filter
import Mathlib.Data.List.Induction
import Mathlib.Data.List.Nodup

/-!
# Which directive speaks

Of the directives that fit a path, the last of those with the longest reach speaks for it
(`SpeaksFor`). A filter keeps one directive for each scope and puts a new one in the place of the
old, so its list is shorter than what it was told and stands in another order. That does not show:
it decides as if everything it was told stood in one list (`decisive?_putAll`).
-/

namespace DotScribe

namespace Directive

/-- Scopes of the same length that one path lies in are the same. -/
theorem eq_of_prefix_of_length_eq {first second path : String}
    (fitsFirst : first.toList <+: path.toList) (fitsSecond : second.toList <+: path.toList)
    (same : first.length = second.length) : first = second := by
  have front : first.toList <+: second.toList :=
    List.prefix_of_prefix_length_le fitsFirst fitsSecond (Nat.le_of_eq same)
  exact String.toList_inj.1 (front.eq_of_length same)

/-- Directives that reach equally far into one path, and name something of it, agree in scope. -/
theorem scope_eq_of_fits {first second : Directive} {path : String}
    (fitsFirst : first.fits path = true) (fitsSecond : second.fits path = true)
    (same : first.reach = second.reach) (far : 0 < first.reach) : first.scope = second.scope := by
  obtain ⟨_ | scope, _⟩ := first
  · exact absurd far (Nat.lt_irrefl 0)
  · obtain ⟨_ | other, _⟩ := second
    · rw [same] at far
      exact absurd far (Nat.lt_irrefl 0)
    · exact congrArg some (eq_of_prefix_of_length_eq (List.isPrefixOf_iff_prefix.1 fitsFirst)
        (List.isPrefixOf_iff_prefix.1 fitsSecond) same)

end Directive

namespace Filter

/-- The directive fits the path, and of all that fit it is the last of those with the longest
    reach. -/
def SpeaksFor (path : String) (directives : List Directive) (directive : Directive) : Prop :=
  ∃ before after, directives = before ++ directive :: after ∧ directive.fits path = true ∧
    (∀ earlier ∈ before, earlier.fits path = true → earlier.reach ≤ directive.reach) ∧
    ∀ later ∈ after, later.fits path = true → later.reach < directive.reach

/-! ## The directive that speaks -/

section

variable {path : String} {directives : List Directive} {directive : Directive}

theorem SpeaksFor.mem (speaks : SpeaksFor path directives directive) : directive ∈ directives := by
  obtain ⟨before, after, rfl, -⟩ := speaks
  exact List.mem_append_right before List.mem_cons_self

theorem SpeaksFor.fits (speaks : SpeaksFor path directives directive) :
    directive.fits path = true := by
  obtain ⟨-, -, -, fits, -⟩ := speaks
  exact fits

theorem SpeaksFor.reach_le (speaks : SpeaksFor path directives directive) {other : Directive}
    (mem : other ∈ directives) (fits : other.fits path = true) :
    other.reach ≤ directive.reach := by
  obtain ⟨before, after, rfl, -, atMost, less⟩ := speaks
  rcases List.mem_append.1 mem with earlier | mem
  · exact atMost other earlier fits
  · rcases List.mem_cons.1 mem with rfl | later
    · exact Nat.le_refl _
    · exact Nat.le_of_lt (less other later fits)

/-- A directive at the end of the list speaks if it fits and no other reaches further, and keeps
    others from speaking if it reaches as far as they do. -/
theorem speaksFor_concat {last : Directive} :
    SpeaksFor path (directives ++ [last]) directive ↔
      (directive = last ∧ last.fits path = true ∧
        ∀ earlier ∈ directives, earlier.fits path = true → earlier.reach ≤ last.reach) ∨
      (SpeaksFor path directives directive ∧
        (last.fits path = true → last.reach < directive.reach)) := by
  constructor
  · rintro ⟨before, after, same, fits, atMost, less⟩
    rcases List.eq_nil_or_concat after with rfl | ⟨front, final, rfl⟩
    · obtain ⟨rfl, ends⟩ := List.append_inj' same rfl
      obtain rfl : last = directive := List.singleton_inj.1 ends
      exact .inl ⟨rfl, fits, atMost⟩
    · rw [List.concat_eq_append] at same less
      rw [← List.cons_append, ← List.append_assoc] at same
      obtain ⟨rfl, ends⟩ := List.append_inj' same rfl
      obtain rfl : last = final := List.singleton_inj.1 ends
      obtain ⟨lessFront, lessLast⟩ := List.forall_mem_append.1 less
      exact .inr ⟨⟨before, front, rfl, fits, atMost, lessFront⟩,
        lessLast last (List.mem_singleton_self last)⟩
  · rintro (⟨rfl, fits, atMost⟩ | ⟨⟨before, after, rfl, fits, atMost, less⟩, lessLast⟩)
    · exact ⟨directives, [], rfl, fits, atMost, by simp⟩
    · refine ⟨before, after ++ [last], by simp, fits, atMost, ?_⟩
      rw [List.forall_mem_append, List.forall_mem_singleton]
      exact ⟨less, lessLast⟩

theorem decisive?_concat (path : String) (directives : List Directive) (last : Directive) :
    decisive? (directives ++ [last]) path =
      if last.fits path = true then some (stronger (decisive? directives path) last)
      else decisive? directives path := by
  cases fits : last.fits path <;> simp [decisive?, List.filter_append, fits]

theorem decisive?_eq_none_iff :
    decisive? directives path = none ↔ ∀ other ∈ directives, other.fits path = false := by
  induction directives using List.reverseRecOn with
  | nil => simp [decisive?]
  | append_singleton directives last inductionHypothesis =>
    rw [decisive?_concat, List.forall_mem_append, List.forall_mem_singleton]
    cases last.fits path <;> simp [inductionHypothesis]

/-- The search finds something if there is a directive that fits. -/
theorem exists_decisive?_eq_some (mem : directive ∈ directives)
    (fits : directive.fits path = true) : ∃ best, decisive? directives path = some best := by
  apply Option.ne_none_iff_exists'.1
  intro nothing
  have silent := decisive?_eq_none_iff.1 nothing directive mem
  rw [fits] at silent
  cases silent

theorem stronger_some_iff {best last : Directive}
    (speaks : SpeaksFor path directives best) (fits : last.fits path = true) :
    stronger (some best) last = directive ↔
      (directive = last ∧
        ∀ earlier ∈ directives, earlier.fits path = true → earlier.reach ≤ last.reach) ∨
      (best = directive ∧ last.reach < directive.reach) := by
  by_cases le : best.reach ≤ last.reach
  · have atMost : ∀ earlier ∈ directives, earlier.fits path = true →
        earlier.reach ≤ last.reach :=
      fun earlier mem fitsEarlier => Nat.le_trans (speaks.reach_le mem fitsEarlier) le
    simp only [stronger, if_pos le]
    constructor
    · rintro rfl
      exact .inl ⟨rfl, atMost⟩
    · rintro (⟨rfl, -⟩ | ⟨rfl, less⟩)
      · rfl
      · exact absurd le (Nat.not_le_of_lt less)
  · simp only [stronger, if_neg le]
    constructor
    · rintro rfl
      exact .inr ⟨rfl, Nat.lt_of_not_le le⟩
    · rintro (⟨-, atMost⟩ | ⟨rfl, -⟩)
      · exact absurd (atMost best speaks.mem speaks.fits) le
      · rfl

/-- The search finds the directive that speaks. -/
theorem decisive?_eq_some_iff :
    decisive? directives path = some directive ↔ SpeaksFor path directives directive := by
  -- From the end of the list, since the search keeps the stronger of what it has and the next.
  induction directives using List.reverseRecOn generalizing directive with
  | nil => simp [decisive?, SpeaksFor]
  | append_singleton directives last inductionHypothesis =>
    rw [decisive?_concat, speaksFor_concat]
    cases fits : last.fits path with
    | false => simp [inductionHypothesis]
    | true =>
      rw [← inductionHypothesis, if_pos rfl, Option.some.injEq]
      cases found : decisive? directives path with
      | none =>
        have silent := decisive?_eq_none_iff.1 found
        simp +contextual [stronger, silent, eq_comm]
      | some best => simp [stronger_some_iff (inductionHypothesis.1 found) fits]

end

/-! ## Directives in place of others -/

theorem mem_put_self (new : Directive) (known : List Directive) : new ∈ put new known := by
  induction known with
  | nil => exact List.mem_singleton_self new
  | cons first others inductionHypothesis =>
    rw [put]
    split
    · exact List.mem_cons_self
    · exact List.mem_cons_of_mem first inductionHypothesis

theorem mem_put_of_scope_ne {new directive : Directive} {known : List Directive}
    (mem : directive ∈ known) (differs : new.scope ≠ directive.scope) :
    directive ∈ put new known := by
  induction known with
  | nil => cases mem
  | cons first others inductionHypothesis =>
    rw [put]
    rcases List.mem_cons.1 mem with rfl | mem
    · rw [if_neg (Ne.symm differs)]
      exact List.mem_cons_self
    · split
      · exact List.mem_cons_of_mem new mem
      · exact List.mem_cons_of_mem first (inductionHypothesis mem)

theorem mem_cons_of_mem_put {new directive : Directive} {known : List Directive}
    (mem : directive ∈ put new known) : directive ∈ new :: known := by
  induction known with
  | nil => exact mem
  | cons first others inductionHypothesis =>
    rw [put] at mem
    split at mem
    · rcases List.mem_cons.1 mem with rfl | mem
      · exact List.mem_cons_self
      · exact List.mem_cons_of_mem new (List.mem_cons_of_mem first mem)
    · rcases List.mem_cons.1 mem with rfl | mem
      · exact List.mem_cons_of_mem new List.mem_cons_self
      · rcases List.mem_cons.1 (inductionHypothesis mem) with rfl | mem
        · exact List.mem_cons_self
        · exact List.mem_cons_of_mem new (List.mem_cons_of_mem first mem)

/-- The directives that a filter keeps after it was told new ones. -/
def putAll (known news : List Directive) : List Directive :=
  news.foldl (fun known new => put new known) known

theorem nodup_map_scope_putAll {known : List Directive} (news : List Directive)
    (distinct : (known.map Directive.scope).Nodup) :
    ((putAll known news).map Directive.scope).Nodup := by
  induction news generalizing known with
  | nil => exact distinct
  | cons new news inductionHypothesis => exact inductionHypothesis (nodup_map_scope_put distinct)

theorem mem_append_of_mem_putAll {known news : List Directive} {directive : Directive}
    (mem : directive ∈ putAll known news) : directive ∈ known ++ news := by
  induction news generalizing known with
  | nil => exact List.mem_append_left [] mem
  | cons new news inductionHypothesis =>
    rcases List.mem_append.1 (inductionHypothesis mem) with mem | mem
    · rcases List.mem_cons.1 (mem_cons_of_mem_put mem) with rfl | mem
      · exact List.mem_append_right known List.mem_cons_self
      · exact List.mem_append_left _ mem
    · exact List.mem_append_right known (List.mem_cons_of_mem new mem)

theorem mem_putAll_of_scope_ne {known news : List Directive} {directive : Directive}
    (mem : directive ∈ known) (differs : ∀ new ∈ news, new.scope ≠ directive.scope) :
    directive ∈ putAll known news := by
  induction news generalizing known with
  | nil => exact mem
  | cons new news inductionHypothesis =>
    obtain ⟨first, others⟩ := List.forall_mem_cons.1 differs
    exact inductionHypothesis (mem_put_of_scope_ne mem first) others

theorem mem_putAll_append_cons {known before after : List Directive} {directive : Directive}
    (last : ∀ later ∈ after, later.scope ≠ directive.scope) :
    directive ∈ putAll known (before ++ directive :: after) := by
  rw [putAll, List.foldl_append, List.foldl_cons]
  exact mem_putAll_of_scope_ne (mem_put_self directive _) last

/-- The last directive of its scope is kept. -/
theorem mem_putAll_of_last {known news before after : List Directive} {directive : Directive}
    (split : known ++ news = before ++ directive :: after)
    (last : ∀ later ∈ after, later.scope ≠ directive.scope) : directive ∈ putAll known news := by
  rcases List.append_eq_append_iff.1 split with ⟨front, rfl, rfl⟩ | ⟨back, rfl, same⟩
  · exact mem_putAll_append_cons last
  · cases back with
    | nil =>
      obtain rfl : directive :: after = news := same
      rw [← List.nil_append (directive :: after)]
      exact mem_putAll_append_cons last
    | cons first back =>
      -- The directive was known before, and no new one takes its place.
      rw [List.cons_append, List.cons.injEq] at same
      obtain ⟨rfl, rfl⟩ := same
      exact mem_putAll_of_scope_ne (List.mem_append_right before List.mem_cons_self)
        fun new mem => last new (List.mem_append_right back mem)

/-- A directive that names something and speaks in the list of all that a filter was told speaks in
    the filter. -/
theorem decisive?_putAll {known news : List Directive} {path : String} {directive : Directive}
    (distinct : (known.map Directive.scope).Nodup)
    (speaks : SpeaksFor path (known ++ news) directive) (far : 0 < directive.reach) :
    decisive? (putAll known news) path = some directive := by
  have kept : directive ∈ putAll known news := by
    obtain ⟨before, after, split, fits, -, less⟩ := speaks
    apply mem_putAll_of_last split
    intro later mem same
    have fitsToo : later.fits path = true := by rwa [Directive.fits, same]
    have shorter : later.reach < directive.reach := less later mem fitsToo
    rw [Directive.reach, same] at shorter
    exact absurd shorter (Nat.lt_irrefl _)
  obtain ⟨best, found⟩ := exists_decisive?_eq_some kept speaks.fits
  have bestSpeaks := decisive?_eq_some_iff.1 found
  -- Both reach equally far, so they agree in scope, and the filter has one of each scope.
  have same : directive.reach = best.reach := Nat.le_antisymm
    (bestSpeaks.reach_le kept speaks.fits)
    (speaks.reach_le (mem_append_of_mem_putAll bestSpeaks.mem) bestSpeaks.fits)
  have scopes : directive.scope = best.scope :=
    Directive.scope_eq_of_fits speaks.fits bestSpeaks.fits same far
  rw [found,
    List.inj_on_of_nodup_map (nodup_map_scope_putAll news distinct) kept bestSpeaks.mem scopes]

/-! ## Admission -/

/-- A record passes if the directive that speaks for its path has a level for it, and if its message
    holds the text that is looked for. -/
theorem admits_iff {filter : Filter} {record : Record} :
    filter.admits record = true ↔
      (∃ directive, SpeaksFor record.origin.path filter.directives directive ∧
        directive.verbosity.admits record.severity = true) ∧
      matchesNeedle filter.needle record.message = true := by
  simp only [admits, Bool.and_eq_true, ← decisive?_eq_some_iff]
  cases decisive? filter.directives record.origin.path <;> simp

end Filter

end DotScribe
