import Mathlib.Data.Fintype.EquivFin
import Mathlib.Logic.Relation
import RecordFlow.Pipeline.Graph

/-!
# Dependencies between steps

The direct dependencies of a list of nodes form a graph on their places. A node needs another one
when it depends on it directly or through others. A node is stuck when it lies on a cycle or needs a
node that does: no order can place it behind all that it depends on.

## Main definitions

* `DependsOn` — the direct dependencies, as `predecessors` lists them
* `Needs` — the dependencies through any number of steps
* `OnCycle`, `IsStuck` — the nodes of a cycle, and those that depend on one
* `Search.IsFrom` — what a search for dependents keeps in every turn

## Main results

* `dependsOn_iff` — when a node depends on another one
* `isStuck_of_closed` — nodes each of which depends on one of them are stuck
* `Search.iterate_turn` — the search ends, after one turn for each place that can
  be reached and each that waits
* `mem_dependents_iff` — `dependents` finds what needs a node, however long the way is
* `dependents_transitive` — it does so within one turn for each node and
  one for the start, on cycles, too
-/

namespace RecordFlow

variable {nodes : List Node} {a b c i j : Nat}

/-- The node at the place `b` depends directly on the one at the place `a`. -/
def DependsOn (nodes : List Node) (b a : Nat) : Prop := a ∈ (predecessors nodes).getD b []

/-- The node at the place `b` depends on the one at the place `a` directly or through others. -/
abbrev Needs (nodes : List Node) (b a : Nat) : Prop := Relation.TransGen (DependsOn nodes) b a

/-- The node at a place lies on a cycle. -/
def OnCycle (nodes : List Node) (i : Nat) : Prop := Needs nodes i i

/-- The node at a place lies on a cycle or depends on one that does. -/
def IsStuck (nodes : List Node) (i : Nat) : Prop :=
  ∃ c, OnCycle nodes c ∧ Relation.ReflTransGen (DependsOn nodes) i c

theorem Node.names_iff {node other : Node} :
    node.names other = true ↔ other.id ∈ node.dependsOn := by
  simp [Node.names]

theorem Node.reads_iff {node other : Node} :
    node.reads other = true ↔ ∃ output, other.output = some output ∧ output ∈ node.sources := by
  cases h : other.output <;> simp [Node.reads, h]

@[simp] theorem length_predecessors : (predecessors nodes).length = nodes.length := by
  simp [predecessors]

theorem getElem?_predecessors {node : Node} (h : nodes[b]? = some node) :
    (predecessors nodes)[b]? = some (((nodes.zipIdx.map Prod.swap).filter fun a =>
      dependsDirectly a (b, node)).map Prod.fst) := by
  simp [predecessors, h]

/-- A node depends on one whose id it names, be it its own, and on
another one whose output it reads. -/
theorem dependsOn_iff :
    DependsOn nodes b a ↔ ∃ node other, nodes[b]? = some node ∧ nodes[a]? = some other ∧
      (other.id ∈ node.dependsOn ∨
        (a ≠ b ∧ ∃ output, other.output = some output ∧ output ∈ node.sources)) := by
  rw [DependsOn, List.getD_eq_getElem?_getD]
  cases hb : nodes[b]? with
  | none =>
    have : (predecessors nodes)[b]? = none := by simpa using hb
    simp [this]
  | some node =>
    rw [getElem?_predecessors hb]
    simp [dependsDirectly, Node.names_iff, Node.reads_iff, List.mem_zipIdx_iff_getElem?]

theorem DependsOn.lt_left (h : DependsOn nodes b a) : b < nodes.length := by
  obtain ⟨node, _, hb, -, -⟩ := dependsOn_iff.mp h
  exact (List.getElem?_eq_some_iff.mp hb).1

theorem DependsOn.lt_right (h : DependsOn nodes b a) : a < nodes.length := by
  obtain ⟨_, other, -, ha, -⟩ := dependsOn_iff.mp h
  exact (List.getElem?_eq_some_iff.mp ha).1

theorem Needs.lt_left (h : Needs nodes b a) : b < nodes.length := by
  obtain ⟨_, hstep, -⟩ := Relation.TransGen.head'_iff.mp h
  exact hstep.lt_left

/-- A node that names its own id lies on a cycle. -/
theorem onCycle_of_names_itself {node : Node} (h : nodes[i]? = some node)
    (own : node.id ∈ node.dependsOn) : OnCycle nodes i :=
  .single (dependsOn_iff.mpr ⟨node, node, h, h, .inl own⟩)

theorem OnCycle.isStuck (h : OnCycle nodes i) : IsStuck nodes i := ⟨i, h, .refl⟩

/-- A stuck node depends on a stuck one. -/
theorem IsStuck.exists_dependsOn (h : IsStuck nodes b) :
    ∃ a, DependsOn nodes b a ∧ IsStuck nodes a := by
  obtain ⟨c, hc, hbc⟩ := h
  rcases hbc.cases_head with rfl | ⟨a, hba, hac⟩
  · obtain ⟨a, hba, hac⟩ := Relation.TransGen.head'_iff.mp hc
    exact ⟨a, hba, b, hc, hac⟩
  · exact ⟨a, hba, c, hc, hac⟩

theorem IsStuck.lt (h : IsStuck nodes i) : i < nodes.length := by
  obtain ⟨_, hstep, -⟩ := h.exists_dependsOn
  exact hstep.lt_left

/-- There are only finitely many nodes, so among those off the cycles every
descent along dependencies ends. -/
theorem wellFounded_needs {p : Nat → Prop} (free : ∀ i, p i → ¬ OnCycle nodes i) :
    WellFounded fun x y : {j : Fin nodes.length // p j} => Needs nodes y.1 x.1 := by
  have : IsTrans _ fun x y : {j : Fin nodes.length // p j} => Needs nodes y.1 x.1 :=
    ⟨fun _ _ _ hxy hyz => hyz.trans hxy⟩
  have : Std.Irrefl fun x y : {j : Fin nodes.length // p j} => Needs nodes y.1 x.1 :=
    ⟨fun x => free x.1 x.2⟩
  exact Finite.wellFounded_of_trans_of_irrefl _

/-- Nodes each of which depends on one of them are stuck. -/
theorem isStuck_of_closed {p : Nat → Prop} (closed : ∀ i, p i → ∃ j, DependsOn nodes i j ∧ p j)
    (hi : p i) : IsStuck nodes i := by
  by_contra free
  have wf := wellFounded_needs (p := fun j => p j ∧ Relation.ReflTransGen (DependsOn nodes) i j)
    fun j hj cycle => free ⟨j, cycle, hj.2⟩
  -- The descent from `i` stays among the nodes that `i` reaches, and never ends.
  have endless : ∀ x : {j : Fin nodes.length //
      p j ∧ Relation.ReflTransGen (DependsOn nodes) i j}, False := by
    intro x
    induction x using wf.induction with
    | _ x ih =>
      obtain ⟨next, hstep, hnext⟩ := closed x.1 x.2.1
      exact ih ⟨⟨next, hstep.lt_right⟩, hnext, x.2.2.tail hstep⟩ (.single hstep)
  obtain ⟨k, hik, -⟩ := closed i hi
  exact endless ⟨⟨i, hik.lt_left⟩, hi, .refl⟩

/-! ### Dependents

The search walks against the dependencies. In every turn, what it has reached needs the place that
it started from, and what depends directly on a place that has been looked at has been reached, too.
A cycle through the start puts the start on the frontier once more, where it discovers nothing. -/

namespace Search

variable {search : Search}

/-- What a search from the place `i` keeps in every turn. -/
structure IsFrom (nodes : List Node) (i : Nat) (search : Search) : Prop where
  nodup : search.reached.Nodup
  needs : ∀ j ∈ search.reached, Needs nodes j i
  known : ∀ j ∈ search.frontier, j = i ∨ j ∈ search.reached
  closed : ∀ k, k = i ∨ k ∈ search.reached → k ∉ search.frontier →
    ∀ j, DependsOn nodes j k → j ∈ search.reached

theorem mem_discovered_iff {place : Nat} :
    j ∈ search.discovered (predecessors nodes) place ↔
      DependsOn nodes j place ∧ j ∉ search.reached :=
  mem_discovered ..

theorem isFrom_start (nodes : List Node) (i : Nat) : (start i).IsFrom nodes i where
  nodup := List.nodup_nil
  needs := by simp [start]
  known := by simp [start]
  closed := by
    rintro k (rfl | reached) waits
    · simp [start] at waits
    · simp [start] at reached

theorem IsFrom.turn (from_i : search.IsFrom nodes i) :
    (search.turn (predecessors nodes)).IsFrom nodes i := by
  obtain ⟨reached, frontier⟩ := search
  cases frontier with
  | nil => exact from_i
  | cons place rest =>
    have looked : place = i ∨ place ∈ reached := from_i.known place List.mem_cons_self
    refine ⟨?nodup, ?needs, ?known, ?closed⟩
    case nodup =>
      refine List.nodup_append.mpr ⟨from_i.nodup, List.nodup_range.filter _, ?_⟩
      rintro j old _ found rfl
      exact (mem_discovered_iff.mp found).2 old
    case needs =>
      intro j hj
      rcases List.mem_append.mp hj with old | found
      · exact from_i.needs j old
      · have depends := (mem_discovered_iff.mp found).1
        rcases looked with rfl | behind
        · exact .single depends
        · exact .head depends (from_i.needs place behind)
    case known =>
      intro j hj
      rcases List.mem_append.mp hj with found | waits
      · exact .inr (List.mem_append_right _ (List.mem_reverse.mp found))
      · exact (from_i.known j (List.mem_cons_of_mem _ waits)).imp_right (List.mem_append_left _)
    case closed =>
      intro k hk waits j depends
      by_cases same : k = place
      · subst same
        by_cases old : j ∈ reached
        · exact List.mem_append_left _ old
        · exact List.mem_append_right _ (mem_discovered_iff.mpr ⟨depends, old⟩)
      · -- What the turn discovers waits, so a place that no longer waits has been looked at before.
        have waited : k ∉ place :: rest := fun hmem =>
          waits (List.mem_append_right _ ((List.mem_cons.mp hmem).resolve_left same))
        have before : k = i ∨ k ∈ reached := hk.imp_right fun hmem =>
          (List.mem_append.mp hmem).resolve_right fun found =>
            waits (List.mem_append_left _ (List.mem_reverse.mpr found))
        exact List.mem_append_left _ (from_i.closed k before waited j depends)

theorem IsFrom.iterate (from_i : search.IsFrom nodes i) (n : Nat) :
    ((Search.turn (predecessors nodes))^[n] search).IsFrom nodes i := by
  induction n with
  | zero => exact from_i
  | succ n ih => exact Function.iterate_succ_apply' .. ▸ ih.turn

/-- A search is at its end after as many turns as there can be, and further turns change nothing. -/
theorem iterate_turn (dependencies : List (List Nat)) (search : Search) {n : Nat}
    (enough : search.turnsLeft dependencies ≤ n) :
    (turn dependencies)^[n] search = ⟨run dependencies search, []⟩ := by
  induction search using run.induct dependencies generalizing n with
  | case1 reached => rw [run, Function.iterate_fixed rfl]
  | case2 reached place rest ih =>
    have fewer := turnsLeft_turn dependencies ⟨reached, place :: rest⟩ rfl
    obtain ⟨n, rfl⟩ := Nat.exists_eq_add_one.mpr (Nat.lt_of_lt_of_le (by omega) enough)
    rw [Function.iterate_succ_apply, run]
    exact ih (by omega)

theorem turnsLeft_start (dependencies : List (List Nat)) (i : Nat) :
    (start i).turnsLeft dependencies = dependencies.length + 1 := by
  simp [turnsLeft, unreached, start]

theorem isFrom_run (nodes : List Node) (i : Nat) :
    IsFrom nodes i ⟨run (predecessors nodes) (start i), []⟩ :=
  iterate_turn (predecessors nodes) (start i) le_rfl ▸ (isFrom_start nodes i).iterate _

/-- In the end a search has reached what needs the place that it started from. -/
theorem mem_run_start_iff : j ∈ run (predecessors nodes) (start i) ↔ Needs nodes j i := by
  have ended := isFrom_run nodes i
  refine ⟨ended.needs j, fun needs => ?_⟩
  induction needs using Relation.TransGen.head_induction_on with
  | single depends => exact ended.closed i (.inl rfl) List.not_mem_nil _ depends
  | head depends _ ih => exact ended.closed _ (.inr ih) List.not_mem_nil _ depends

end Search

/-- `dependents` finds what needs a node, the node itself apart. -/
theorem mem_dependents_iff : j ∈ dependents nodes i ↔ j ≠ i ∧ Needs nodes j i := by
  rw [dependents, List.mem_mergeSort, List.mem_filter, bne_iff_ne, and_comm,
    Search.mem_run_start_iff]

theorem pairwise_lt_dependents (nodes : List Node) (i : Nat) :
    (dependents nodes i).Pairwise (· < ·) := by
  have ascending : (dependents nodes i).Pairwise fun a b => decide (a ≤ b) = true :=
    List.pairwise_mergeSort (by simpa using fun a b c => Nat.le_trans)
      (by simpa using Nat.le_total) _
  have nodup : (dependents nodes i).Nodup :=
    (List.mergeSort_perm _ _).nodup_iff.mpr ((Search.isFrom_run nodes i).nodup.filter _)
  exact (ascending.and nodup).imp fun both => Nat.lt_of_le_of_ne (of_decide_eq_true both.1) both.2

/-- **Dependents are the transitive closure** of the direct dependencies, whatever cycles there
are. The search for them reaches no place twice: after one turn for each node and one for the
start it is at its end. What it has reached then are the dependents, and the place that it started
from if that lies on a cycle. -/
theorem dependents_transitive (nodes : List Node) (i : Nat) :
    (∃ reached, (Search.turn (predecessors nodes))^[nodes.length + 1]
      (Search.start i) = ⟨reached, []⟩ ∧
        (dependents nodes i).Perm (reached.filter (· != i)) ∧ (i ∈ reached ↔ OnCycle nodes i)) ∧
      (dependents nodes i).Pairwise (· < ·) ∧
      ∀ j, j ∈ dependents nodes i ↔ j ≠ i ∧ Needs nodes j i := by
  have turns : (Search.start i).turnsLeft (predecessors nodes) ≤ nodes.length + 1 := by
    rw [Search.turnsLeft_start, length_predecessors]
  exact ⟨⟨_, Search.iterate_turn _ _ turns, List.mergeSort_perm .., Search.mem_run_start_iff⟩,
    pairwise_lt_dependents nodes i, fun j => mem_dependents_iff⟩

/-- The first two nodes read what the other one makes, the third one follows them, and the
last one reads its own output. -/
example : dependents
    [⟨"a", 0, ["y"], some "x", []⟩, ⟨"b", 0, ["x"], some "y", []⟩, ⟨"c", 0, [], none, ["b"]⟩,
      ⟨"d", 0, ["w"], some "w", []⟩] 0 = [1, 2] := by cbv

end RecordFlow
