/-!
# The journal

Work on a graph leaves records behind: which node was declared, which edge was drawn, which
document was handed over. A record has a severity, the part of the library it comes from, and a
message. How much is recorded depends on the verbosity that the work runs under.

* `Verbosity.admits` says which severities are recorded, and `Verbosity.kept` which records.
* `Traced α` is work with a result of type `α` that may add to the journal, and `note` adds a
  record to it.
* `Traced.run` runs such work under a verbosity, and gives its result and its records in order.
-/

namespace DotScribe

/-- How much a record matters, from the gravest to the most detailed. -/
inductive Severity
  | error
  | warn
  | info
  | debug
  | trace
deriving DecidableEq

namespace Severity

def rank : Severity → Nat
  | error => 1
  | warn => 2
  | info => 3
  | debug => 4
  | trace => 5

def name : Severity → String
  | error => "ERROR"
  | warn => "WARN"
  | info => "INFO"
  | debug => "DEBUG"
  | trace => "TRACE"

end Severity

/-- How much is recorded: nothing, or everything up to a severity. -/
inductive Verbosity
  | off
  | upTo (severity : Severity)
deriving DecidableEq

namespace Verbosity

def admits : Verbosity → Severity → Bool
  | off, _ => false
  | upTo most, severity => severity.rank ≤ most.rank

def rank : Verbosity → Nat
  | off => 0
  | upTo severity => severity.rank

theorem admits_iff_rank_le (verbosity : Verbosity) (severity : Severity) :
    verbosity.admits severity = true ↔ severity.rank ≤ verbosity.rank := by
  cases verbosity with
  | off => cases severity <;> decide
  | upTo most => simp [admits, rank]

end Verbosity

/-- The part of the library that a record comes from. -/
inductive Origin
  | graph
  | sample
deriving DecidableEq

/-- The path under which a part of the library is known to a filter. -/
def Origin.path : Origin → String
  | graph => "astdot::graph"
  | sample => "astdot::example"

structure Record where
  severity : Severity
  origin : Origin
  message : String
deriving DecidableEq

def Verbosity.kept (verbosity : Verbosity) (records : List Record) : List Record :=
  records.filter fun record => verbosity.admits record.severity

@[simp] theorem Verbosity.kept_append (verbosity : Verbosity) (first second : List Record) :
    verbosity.kept (first ++ second) = verbosity.kept first ++ verbosity.kept second :=
  List.filter_append first second

theorem Verbosity.kept_cons (verbosity : Verbosity) (record : Record) (records : List Record) :
    verbosity.kept (record :: records) = verbosity.kept [record] ++ verbosity.kept records :=
  Verbosity.kept_append verbosity [record] records

@[simp] theorem Verbosity.kept_trace (records : List Record) :
    (Verbosity.upTo .trace).kept records = records := by
  rw [Verbosity.kept, List.filter_eq_self]
  intro record _
  cases record.severity <;> rfl

/-! ## Work that is recorded -/

/-- Work that gives an `α` and leaves records behind, as far as the verbosity admits them. -/
def Traced (α : Type) : Type :=
  Verbosity → α × List Record

namespace Traced

/-- Runs the work under the verbosity: its result, and its records in order. -/
def run {α : Type} (work : Traced α) (verbosity : Verbosity) : α × List Record :=
  work verbosity

def result {α : Type} (work : Traced α) (verbosity : Verbosity) : α :=
  (work.run verbosity).1

def records {α : Type} (work : Traced α) (verbosity : Verbosity) : List Record :=
  (work.run verbosity).2

instance : Monad Traced where
  pure a := fun _ => (a, [])
  bind work next := fun verbosity =>
    let first := work verbosity
    let second := next first.1 verbosity
    (second.1, first.2 ++ second.2)

end Traced

def note (record : Record) : Traced Unit :=
  fun verbosity => ((), verbosity.kept [record])

namespace Traced

variable {α β : Type}

@[simp] theorem result_pure (a : α) (verbosity : Verbosity) :
    (pure a : Traced α).result verbosity = a := rfl

@[simp] theorem records_pure (a : α) (verbosity : Verbosity) :
    (pure a : Traced α).records verbosity = [] := rfl

@[simp] theorem result_bind (work : Traced α) (next : α → Traced β) (verbosity : Verbosity) :
    (work >>= next).result verbosity = (next (work.result verbosity)).result verbosity := rfl

@[simp] theorem records_bind (work : Traced α) (next : α → Traced β) (verbosity : Verbosity) :
    (work >>= next).records verbosity =
      work.records verbosity ++ (next (work.result verbosity)).records verbosity := rfl

@[simp] theorem result_map (f : α → β) (work : Traced α) (verbosity : Verbosity) :
    (f <$> work).result verbosity = f (work.result verbosity) := rfl

@[simp] theorem records_map (f : α → β) (work : Traced α) (verbosity : Verbosity) :
    (f <$> work).records verbosity = work.records verbosity :=
  List.append_nil _

@[simp] theorem result_note (record : Record) (verbosity : Verbosity) :
    (note record).result verbosity = () := rfl

@[simp] theorem records_note (record : Record) (verbosity : Verbosity) :
    (note record).records verbosity = verbosity.kept [record] := rfl

/-- Work is known by its result and its records under every verbosity. -/
theorem ext {first second : Traced α}
    (sameResult : ∀ verbosity, first.result verbosity = second.result verbosity)
    (sameRecords : ∀ verbosity, first.records verbosity = second.records verbosity) :
    first = second :=
  funext fun verbosity => Prod.ext (sameResult verbosity) (sameRecords verbosity)

instance : LawfulMonad Traced :=
  LawfulMonad.mk' Traced
    (fun _ => Traced.ext (fun _ => rfl) (fun _ => List.append_nil _))
    (fun _ _ => Traced.ext (fun _ => rfl) (fun _ => rfl))
    (fun _ _ _ => Traced.ext (fun _ => rfl) (fun _ => List.append_assoc _ _ _))

end Traced

end DotScribe
