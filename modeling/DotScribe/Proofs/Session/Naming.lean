import DotScribe.Proofs.Node.Numeral
import DotScribe.Session
import Mathlib.Algebra.Group.Nat.Defs

/-!
# Names from several builders

Builders whose stems differ and do not end in a digit never hand out one name twice, in whatever
order they are asked. The invariant is that every node carries a number below the counter of a
builder with its stem, so that the next number of any builder is new.
-/

namespace DotScribe.Session

/-- One builder for each stem. -/
def addAll (stems : List String) : List Command :=
  stems.map fun stem => .addBuilder (some stem)

/-- One node for each pair of the handle of a builder and a label. -/
def declareEach (calls : List (Nat × String)) : List Command :=
  calls.map fun call => .declare call.1 call.2 false

/-- How many of the calls go to the builder under the handle. -/
def callsTo (handle : Nat) (calls : List (Nat × String)) : Nat :=
  (calls.map Prod.fst).count handle

theorem callsTo_cons_self (handle : Nat) (label : String) (calls : List (Nat × String)) :
    callsTo handle ((handle, label) :: calls) = callsTo handle calls + 1 :=
  List.count_cons_self

theorem callsTo_cons_of_ne {handle other : Nat} (different : handle ≠ other) (label : String)
    (calls : List (Nat × String)) :
    callsTo other ((handle, label) :: calls) = callsTo other calls :=
  List.count_cons_of_ne different

theorem session_run_append (session : Session) (first second : List Command)
    (verbosity : Verbosity) :
    ((session.run (first ++ second)).result verbosity).2 =
      ((((session.run first).result verbosity).2.run second).result verbosity).2 := by
  induction first generalizing session with
  | nil => rfl
  | cons command first inductionHypothesis =>
    simp only [List.cons_append, run, Traced.result_bind, Traced.result_pure, inductionHypothesis]

/-! ## Adding builders -/

theorem session_run_addAll (session : Session) (stems : List String) (verbosity : Verbosity) :
    ((session.run (addAll stems)).result verbosity).2 =
      { session with builders := session.builders ++ stems.map Builder.ofStem } := by
  induction stems generalizing session with
  | nil => simp [addAll, run]
  | cons stem stems inductionHypothesis =>
    rw [addAll, List.map_cons, ← addAll]
    simp only [run, perform, addBuilder, Traced.result_bind, Traced.result_pure,
      inductionHypothesis, Option.getD_some]
    simp

/-! ## Declaring a node -/

theorem session_declare {session : Session} {handle : Nat} {builder : Builder}
    (found : session.builders[handle]? = some builder) (label : String) (verbosity : Verbosity) :
    ((session.perform (.declare handle label false)).result verbosity).2 =
      (session.setBuilder handle (builder.advance 1)).addNodes
        [Node.declare builder.nextId label] := by
  simp only [perform, withBuilder_of_some found, Traced.result_bind, Traced.result_pure,
    Builder.result_declare]
  rfl

theorem size_addNodes (session : Session) (nodes : List Node) :
    (session.addNodes nodes).nodes.size = session.nodes.size + nodes.length := by
  rw [← Array.length_toList, ← Array.length_toList, addNodes, Array.toList_appendList,
    List.length_append]

/-- The builders have the given stems, every node was numbered by one of them, and no two nodes
    share a name. -/
structure NamesApart (stems : List String) (session : Session) : Prop where
  stemOf : ∀ handle : Nat, session.builders[handle]?.map Builder.stem = stems[handle]?
  numbered : ∀ node ∈ session.nodes, ∃ (handle : Nat) (builder : Builder),
    session.builders[handle]? = some builder ∧
    ∃ index < builder.counter, node.id = NodeId.ofIndex builder.stem index
  distinct : (session.nodes.toList.map fun node => node.id.name).Nodup

section

variable {stems : List String} {session : Session} {handle : Nat} {builder : Builder}

theorem NamesApart.stem (apart : NamesApart stems session)
    (found : session.builders[handle]? = some builder) : stems[handle]? = some builder.stem := by
  rw [← apart.stemOf, found, Option.map_some]

/-- The next name of any of the builders is new. -/
theorem NamesApart.fresh (apart : NamesApart stems session) (different : stems.Nodup)
    (ends : ∀ stem ∈ stems, ¬ NodeId.EndsInDigit stem)
    (found : session.builders[handle]? = some builder) :
    builder.nextId.name ∉ session.nodes.toList.map fun node => node.id.name := by
  intro mem
  obtain ⟨node, mem, same⟩ := List.mem_map.1 mem
  obtain ⟨other, owner, foundOwner, index, below, numbered⟩ :=
    apart.numbered node (Array.mem_toList_iff.1 mem)
  rw [numbered] at same
  have stem := apart.stem found
  have ownerStem := apart.stem foundOwner
  have equal : owner.stem = builder.stem :=
    NodeId.stem_eq_of_name_eq (ends _ (List.mem_of_getElem? ownerStem))
      (ends _ (List.mem_of_getElem? stem)) same
  -- Equal stems belong to one builder, whose numbers so far are all below its counter.
  have handles : other = handle := by
    apply (List.getElem?_inj (List.getElem?_eq_some_iff.1 ownerStem).1 different).1
    rw [ownerStem, stem, equal]
  rw [handles, found] at foundOwner
  cases foundOwner
  have last : index = builder.counter := NodeId.index_eq_of_name_eq same
  rw [last] at below
  exact absurd below (UInt64.lt_irrefl _)

theorem lt_add_one_of_room {index counter : UInt64} (room : counter.toNat + 1 < 2 ^ 64)
    (below : index ≤ counter) : index < counter + 1 := by
  rw [UInt64.lt_iff_toNat_lt, UInt64.toNat_add]
  have bound := UInt64.le_iff_toNat_le.1 below
  have one : (1 : UInt64).toNat = 1 := rfl
  omega

theorem getElem?_setBuilder_self (found : session.builders[handle]? = some builder)
    (next : Builder) : (session.setBuilder handle next).builders[handle]? = some next := by
  have inside := (Array.getElem?_eq_some_iff.1 found).1
  simp [setBuilder, inside]

/-- Declaring a node keeps the names apart, as long as the counter does not run over. -/
theorem NamesApart.declare (apart : NamesApart stems session) (different : stems.Nodup)
    (ends : ∀ stem ∈ stems, ¬ NodeId.EndsInDigit stem)
    (found : session.builders[handle]? = some builder)
    (room : builder.counter.toNat + 1 < 2 ^ 64) (label : String) :
    NamesApart stems ((session.setBuilder handle (builder.advance 1)).addNodes
      [Node.declare builder.nextId label]) where
  stemOf := by
    intro other
    change (session.setBuilder handle (builder.advance 1)).builders[other]?.map Builder.stem = _
    by_cases same : handle = other
    · subst same
      rw [getElem?_setBuilder_self found, apart.stem found]
      rfl
    · rw [getElem?_setBuilder_ne session _ same, apart.stemOf]
  numbered := by
    intro node mem
    change ∃ (other : Nat) (owner : Builder),
      (session.setBuilder handle (builder.advance 1)).builders[other]? = some owner ∧ _
    have self := getElem?_setBuilder_self found (builder.advance 1)
    have cases : node ∈ session.nodes ∨ node = Node.declare builder.nextId label := by
      simpa [addNodes, setBuilder] using mem
    obtain old | rfl := cases
    · -- A node keeps its builder, whose counter has grown if it is the one that was asked.
      obtain ⟨other, owner, foundOwner, index, below, numbered⟩ := apart.numbered node old
      by_cases same : handle = other
      · subst same
        rw [found] at foundOwner
        cases foundOwner
        exact ⟨handle, _, self, index, lt_add_one_of_room room (UInt64.le_of_lt below), numbered⟩
      · rw [← getElem?_setBuilder_ne session (builder.advance 1) same] at foundOwner
        exact ⟨other, owner, foundOwner, index, below, numbered⟩
    · exact ⟨handle, _, self, builder.counter, lt_add_one_of_room room (UInt64.le_refl _), rfl⟩
  distinct := by
    have names : ((session.setBuilder handle (builder.advance 1)).addNodes
        [Node.declare builder.nextId label]).nodes.toList.map (fun node => node.id.name) =
        (session.nodes.toList.map fun node => node.id.name) ++ [builder.nextId.name] := by
      simp [addNodes, setBuilder]
    rw [names, List.nodup_append]
    refine ⟨apart.distinct, List.pairwise_singleton _ _, ?_⟩
    intro first old second new same
    rw [List.mem_singleton.1 new] at same
    exact apart.fresh different ends found (same ▸ old)

/-- No counter runs over while the calls are answered. -/
def HasRoom (session : Session) (calls : List (Nat × String)) : Prop :=
  ∀ (handle : Nat) (builder : Builder), session.builders[handle]? = some builder →
    builder.counter.toNat + callsTo handle calls < 2 ^ 64

theorem HasRoom.declare {calls : List (Nat × String)} {label : String}
    (room : session.HasRoom ((handle, label) :: calls))
    (found : session.builders[handle]? = some builder) (nodes : List Node) :
    ((session.setBuilder handle (builder.advance 1)).addNodes nodes).HasRoom calls := by
  intro other owner foundOwner
  change (session.setBuilder handle (builder.advance 1)).builders[other]? = some owner
    at foundOwner
  by_cases same : handle = other
  · subst same
    have before := room handle builder found
    rw [callsTo_cons_self] at before
    rw [getElem?_setBuilder_self found] at foundOwner
    cases foundOwner
    have one : (1 : UInt64).toNat = 1 := rfl
    rw [Builder.counter_advance, UInt64.toNat_add]
    omega
  · rw [getElem?_setBuilder_ne session _ same] at foundOwner
    have before := room other owner foundOwner
    rwa [callsTo_cons_of_ne same] at before

/-- A run of declarations answers every call with a node, and keeps the names apart. -/
theorem NamesApart.run (different : stems.Nodup)
    (ends : ∀ stem ∈ stems, ¬ NodeId.EndsInDigit stem) (calls : List (Nat × String))
    (known : ∀ call ∈ calls, call.1 < stems.length) (verbosity : Verbosity)
    (apart : NamesApart stems session) (room : session.HasRoom calls) :
    NamesApart stems ((session.run (declareEach calls)).result verbosity).2 ∧
      ((session.run (declareEach calls)).result verbosity).2.nodes.size =
        session.nodes.size + calls.length := by
  -- The session is what the calls so far have left, and the room is for those still to come.
  induction calls generalizing session with
  | nil => exact ⟨apart, rfl⟩
  | cons call calls inductionHypothesis =>
    obtain ⟨handle, label⟩ := call
    obtain ⟨inside, known⟩ := List.forall_mem_cons.1 known
    have stem := apart.stemOf handle
    rw [List.getElem?_eq_getElem inside] at stem
    obtain ⟨builder, found, -⟩ := Option.map_eq_some_iff.1 stem
    have roomHere := room handle builder found
    rw [callsTo_cons_self] at roomHere
    have declared := apart.declare different ends found (by omega) label
    obtain ⟨apartAfter, size⟩ := inductionHypothesis known declared (room.declare found _)
    rw [declareEach, List.map_cons, ← declareEach]
    simp only [Session.run, Traced.result_bind, Traced.result_pure, session_declare found]
    refine ⟨apartAfter, ?_⟩
    rw [size, size_addNodes, List.length_singleton, List.length_cons]
    change session.nodes.size + 1 + calls.length = session.nodes.size + (calls.length + 1)
    omega

end

/-! ## Builders from the start -/

/-- A session in which builders were added and nothing else happened. -/
def withStems (stems : List String) : Session :=
  { Session.empty with builders := (stems.map Builder.ofStem).toArray }

theorem getElem?_withStems (stems : List String) (handle : Nat) :
    (withStems stems).builders[handle]? = stems[handle]?.map Builder.ofStem := by
  rw [withStems, List.getElem?_toArray, List.getElem?_map]

theorem session_run_opening (stems : List String) (verbosity : Verbosity) :
    ((Session.empty.run (addAll stems)).result verbosity).2 = withStems stems := by
  rw [session_run_addAll, withStems]
  congr 1
  exact Array.ext' (by simp [Session.empty])

theorem namesApart_withStems (stems : List String) : NamesApart stems (withStems stems) where
  stemOf := by
    intro handle
    rw [getElem?_withStems]
    cases stems[handle]? <;> rfl
  numbered := by
    intro node mem
    exact absurd mem (Array.not_mem_empty node)
  distinct := List.nodup_nil

theorem hasRoom_withStems {stems : List String} {calls : List (Nat × String)}
    (few : ∀ handle, callsTo handle calls < 2 ^ 64) : (withStems stems).HasRoom calls := by
  intro handle builder found
  rw [getElem?_withStems] at found
  obtain ⟨stem, -, rfl⟩ := Option.map_eq_some_iff.1 found
  have zero : (Builder.ofStem stem).counter.toNat = 0 := rfl
  rw [zero, Nat.zero_add]
  exact few handle

/-- When two names agree, and when they never do. -/
theorem names_agree_only_by_digits :
    (∀ (p q : String) (i j : UInt64),
      (NodeId.ofIndex p i).name = (NodeId.ofIndex q j).name ↔
        (p = q ∧ i = j) ∨ ∃ digits, NodeId.IsDigits digits ∧
          (q = p ++ digits ∧ NodeId.numeral i = digits ++ NodeId.numeral j ∨
            p = q ++ digits ∧ NodeId.numeral j = digits ++ NodeId.numeral i)) ∧
    ∀ (stems : List String) (calls : List (Nat × String)) (verbosity : Verbosity),
      stems.Nodup → (∀ stem ∈ stems, ¬ NodeId.EndsInDigit stem) →
      (∀ call ∈ calls, call.1 < stems.length) → (∀ handle, callsTo handle calls < 2 ^ 64) →
      ((Session.empty.run (addAll stems ++ declareEach calls)).result verbosity).2.nodes.size =
          calls.length ∧
        (((Session.empty.run (addAll stems ++ declareEach calls)).result
          verbosity).2.nodes.toList.map fun node => node.id.name).Nodup := by
  refine ⟨fun p q i j => NodeId.name_eq_iff, ?_⟩
  intro stems calls verbosity different ends known few
  -- Once the builders are there, the calls start from a session without nodes.
  rw [session_run_append, session_run_opening]
  obtain ⟨apart, size⟩ := (namesApart_withStems stems).run different ends calls known verbosity
    (hasRoom_withStems few)
  refine ⟨?_, apart.distinct⟩
  rw [size]
  exact Nat.zero_add calls.length

/-- Calls to three builders in turns, with stems of which each begins with the next. -/
def turns : List (Nat × String) :=
  [(0, "a"), (1, "b"), (0, ""), (2, "c"), (1, "b"), (2, "a")]

theorem names_agree_only_by_digits_turns :
    (NodeId.ofIndex "x" 10).name = (NodeId.ofIndex "x1" 0).name ∧
      ((Session.empty.run (addAll ["x1y", "x", ""] ++ declareEach turns)).result
        .off).2.nodes.size = 6 ∧
      (((Session.empty.run (addAll ["x1y", "x", ""] ++ declareEach turns)).result
        .off).2.nodes.toList.map fun node => node.id.name).Nodup := by
  obtain ⟨agree, apart⟩ := names_agree_only_by_digits
  have moved : NodeId.IsDigits "1" ∧
      ("x1" = "x" ++ "1" ∧ NodeId.numeral 10 = "1" ++ NodeId.numeral 0 ∨
        "x" = "x1" ++ "1" ∧ NodeId.numeral 0 = "1" ++ NodeId.numeral 10) := by decide
  have few : ∀ handle, callsTo handle turns < 2 ^ 64 := by
    intro handle
    apply Nat.lt_of_le_of_lt List.count_le_length
    decide
  refine ⟨(agree "x" "x1" 10 0).2 (.inr ⟨"1", moved⟩), ?_⟩
  exact apart ["x1y", "x", ""] turns .off (by decide) (by decide) (by decide) few

end DotScribe.Session
