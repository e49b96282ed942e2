import DotScribe.Filter.Specification

/-!
# Filters

A filter decides which records are shown. Of its directives the one with the longest scope that
fits an origin speaks for that origin, and of two equally long ones the later.

* `Filter.preset` is the filter that the program starts from.
* `Filter.configure` brings in the directives of a specification.
* `Filter.admits` says whether a record is shown.
-/

namespace DotScribe

/-- Directives with pairwise different scopes, and the text that a message has to contain. -/
structure Filter where
  directives : List Directive
  needle : Option String

namespace Directive

/-- Whether the directive speaks for the origin with the given path. -/
def fits (directive : Directive) (path : String) : Bool :=
  match directive.scope with
  | none => true
  | some scope => scope.toList.isPrefixOf path.toList

/-- How much of a path the directive names. -/
def reach (directive : Directive) : Nat :=
  (directive.scope.getD "").length

end Directive

namespace Filter

/-- The filter that the program starts from: warnings and errors of this program. -/
def preset : Filter :=
  { directives := [{ scope := some "astdot", verbosity := .upTo .warn }], needle := none }

/-- Puts the directive in the place of the one with the same scope, or else at the end. -/
def put (directive : Directive) : List Directive → List Directive
  | [] => [directive]
  | first :: others =>
    if first.scope = directive.scope then directive :: others else first :: put directive others

/-- The filter after the directives of a specification are brought in one by one. -/
def configure (filter : Filter) (specification : Specification) : Filter :=
  { directives := specification.directives.foldl (fun known new => put new known) filter.directives
    needle := specification.needle }

/-- The one of two directives that speaks for an origin that both fit. -/
def stronger (earlier : Option Directive) (later : Directive) : Directive :=
  match earlier with
  | none => later
  | some directive => if directive.reach ≤ later.reach then later else directive

/-- The directive that speaks for the origin with the given path. -/
def decisive? (directives : List Directive) (path : String) : Option Directive :=
  (directives.filter fun directive => directive.fits path).foldl
    (fun earlier later => some (stronger earlier later)) none

def matchesNeedle (needle : Option String) (message : String) : Bool :=
  match needle with
  | none => true
  | some text => Text.occursIn text.toList message.toList

def admits (filter : Filter) (record : Record) : Bool :=
  (match decisive? filter.directives record.origin.path with
    | none => false
    | some directive => directive.verbosity.admits record.severity)
    && matchesNeedle filter.needle record.message

/-! ## First facts -/

theorem map_scope_put (directive : Directive) (directives : List Directive) :
    (put directive directives).map Directive.scope =
      if directive.scope ∈ directives.map Directive.scope then directives.map Directive.scope
      else directives.map Directive.scope ++ [directive.scope] := by
  induction directives with
  | nil => simp [put]
  | cons first others inductionHypothesis =>
    by_cases same : first.scope = directive.scope
    · simp [put, same]
    · simp only [put, if_neg same, List.map_cons, inductionHypothesis, List.mem_cons,
        Ne.symm same, false_or]
      split <;> simp

theorem nodup_map_scope_put {directive : Directive} {directives : List Directive}
    (distinct : (directives.map Directive.scope).Nodup) :
    ((put directive directives).map Directive.scope).Nodup := by
  rw [map_scope_put]
  split
  · exact distinct
  · next fresh =>
    rw [List.nodup_append]
    refine ⟨distinct, by simp, ?_⟩
    intro scope mem other same
    rw [List.mem_singleton] at same
    subst same
    rintro rfl
    exact fresh mem

end Filter

end DotScribe
