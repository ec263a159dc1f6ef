import RecordFlow.Pipeline.Definition

/-!
# The order of steps

A step depends on another one when it reads what the other makes or names the other's
id. A step that reads its own output reads what is stored, and does not depend on
itself; one that names its own id does.

Steps run in an order in which every step comes after all that it depends on. Among the steps that
could be next it is the one with the least order number, and of several of these the first. There is
no such order when dependencies form a cycle.

## Main definitions

* `Node` — what matters of a step
* `predecessors` — the places of the nodes that each node depends on
* `resolveOrder` — the order, or the nodes that cannot be placed
* `Search` — a search for what depends on a place, one place after the other
* `dependents` — the nodes that depend on a node directly or through others
-/

namespace RecordFlow

/-- What matters of a step for its dependencies. -/
structure Node where
  id : String
  order : Int
  sources : List String
  output : Option String
  dependsOn : List String

namespace Node

/-- The node of a step. -/
def ofStep (step : Step) : Node :=
  ⟨step.id, step.order, step.config.sources, some step.config.output, step.dependsOn⟩

/-- The keys of a configuration that name one source. -/
def sourceKeys : List String := ["source", "left", "right", "from"]

/-- A text in a configuration that has not been read. -/
def textAt? (config : Json) (key : String) : Option String := (config.field? key).bind Json.asStr?

/-- The sources that a configuration names, whatever its kind. -/
def sourcesIn (config : Json) : List String :=
  sourceKeys.filterMap (textAt? config) ++
    (((config.field? "sources").bind Json.asArr?).getD []).filterMap Json.asStr?

/-- The node of a definition at a place; an id that is lacking is made of the place. -/
def ofInput (place : Nat) (input : StepInput) : Node :=
  ⟨input.id.getD ("#" ++ toString place), input.order, sourcesIn input.config,
    textAt? input.config "output", input.dependsOn⟩

/-- Whether a node names the id of another one. -/
def names (node other : Node) : Bool := node.dependsOn.any (· == other.id)

/-- Whether a node reads what another one makes. -/
def reads (node other : Node) : Bool :=
  other.output.any fun output => node.sources.any (· == output)

end Node

/-- Whether the node at the place `b` depends on the one at the place `a`. -/
def dependsDirectly (a b : Nat × Node) : Bool :=
  b.2.names a.2 || (a.1 != b.1 && b.2.reads a.2)

/-- The places that each node depends on, in ascending order. -/
def predecessors (nodes : List Node) : List (List Nat) :=
  let placed := nodes.zipIdx.map Prod.swap
  placed.map fun b => (placed.filter fun a => dependsDirectly a b).map Prod.fst

/-- Whether the node at a place is not placed yet and all that it depends on is. -/
def isReady (predecessors : List (List Nat)) (placed : List Nat) (i : Nat) : Bool :=
  !placed.contains i && (predecessors.getD i []).all placed.contains

/-- The order number of the node at a place. -/
def orderAt (nodes : List Node) (i : Nat) : Int := ((nodes[i]?).map Node.order).getD 0

/-- The place with the least order number, the first one of several. -/
def leastByOrder? (nodes : List Node) : List Nat → Option Nat
  | [] => none
  | i :: rest =>
    match leastByOrder? nodes rest with
    | none => some i
    | some j => if orderAt nodes i ≤ orderAt nodes j then some i else some j

/-- Places the `left` nodes that are not placed. If none of them is ready, they are the error. -/
def schedule (nodes : List Node) (predecessors : List (List Nat)) :
    (left : Nat) → (placed : List Nat) → Except (List Nat) (List Nat)
  | 0, placed => .ok placed
  | left + 1, placed =>
    match leastByOrder? nodes ((List.range nodes.length).filter (isReady predecessors placed)) with
    | some i => schedule nodes predecessors left (placed ++ [i])
    | none => .error ((List.range nodes.length).filter (!placed.contains ·))

/-- The steps that cannot be ordered. -/
structure CyclicDependency where
  stepIds : List String
  deriving DecidableEq

/-- The text of a cycle. -/
def CyclicDependency.message (cycle : CyclicDependency) : String :=
  "Cyclic dependency between steps: " ++ ", ".intercalate cycle.stepIds

/-- The order of the nodes, as places. -/
def resolveOrder (nodes : List Node) : Except CyclicDependency (List Nat) :=
  (schedule nodes (predecessors nodes) nodes.length []).mapError fun stuck =>
    ⟨stuck.filterMap fun i => (nodes[i]?).map Node.id⟩

/-! ### Dependents -/

/-- A search for all that depends on a place: the places that it has reached, and the places whose
dependents it still has to look for, the next one first. -/
structure Search where
  reached : List Nat
  frontier : List Nat

namespace Search

/-- The search from a place. The place itself is not reached unless something leads back to it. -/
def start (i : Nat) : Search := ⟨[], [i]⟩

variable (predecessors : List (List Nat)) (search : Search)

/-- The places that depend directly on a place and have not been reached, in ascending order. -/
def discovered (place : Nat) : List Nat :=
  (List.range predecessors.length).filter fun i =>
    (predecessors.getD i []).contains place && !search.reached.contains i

/-- One turn: what the next place discovers is reached, and is looked at before
the rest, the last one first. -/
def turn : Search :=
  match search.frontier with
  | [] => search
  | place :: rest =>
    let found := search.discovered predecessors place
    ⟨search.reached ++ found, found.reverse ++ rest⟩

/-- How many places have not been reached. -/
def unreached : Nat := (List.range predecessors.length).countP (!search.reached.contains ·)

/-- How many turns the search can still take. -/
def turnsLeft : Nat := search.unreached predecessors + search.frontier.length

theorem mem_discovered {place j : Nat} :
    j ∈ search.discovered predecessors place ↔
      place ∈ predecessors.getD j [] ∧ j ∉ search.reached := by
  have known (depends : place ∈ predecessors.getD j []) : j < predecessors.length :=
    Nat.lt_of_not_le fun past => by simp [List.getElem?_eq_none past] at depends
  constructor
  · intro found
    simpa using (List.mem_filter.mp found).2
  · rintro ⟨depends, new⟩
    exact List.mem_filter.mpr ⟨List.mem_range.mpr (known depends), by simpa using ⟨depends, new⟩⟩

/-- What is discovered has not been reached before, and is reached now. -/
theorem unreached_discovered (place : Nat) (frontier : List Nat) :
    unreached predecessors ⟨search.reached ++ search.discovered predecessors place, frontier⟩ +
      (search.discovered predecessors place).length = search.unreached predecessors := by
  have split := List.countP_eq_countP_filter_add (List.range predecessors.length)
    (!search.reached.contains ·) fun j => (predecessors.getD j []).contains place
  have found : (search.discovered predecessors place).length =
      (List.range predecessors.length).countP fun j =>
      (predecessors.getD j []).contains place && !search.reached.contains j :=
        List.countP_eq_length_filter.symm
  rw [List.countP_filter, List.countP_filter] at split
  rw [unreached, unreached, found, split, Nat.add_comm]
  congr 1
  · exact List.countP_congr fun j _ => by rw [Bool.and_comm]
  · exact List.countP_congr fun j _ => by grind [mem_discovered]

/-- A turn looks at one place, and every place that it adds is one less to be reached. -/
theorem turnsLeft_turn {place : Nat} {rest : List Nat} (next : search.frontier = place :: rest) :
    (search.turn predecessors).turnsLeft predecessors + 1 = search.turnsLeft predecessors := by
  have fewer := search.unreached_discovered predecessors place
    ((search.discovered predecessors place).reverse ++ rest)
  simp only [turn, next, turnsLeft, List.length_append, List.length_reverse, List.length_cons]
  omega

/-- The places that are reached in the end, when there is no place left to look at. -/
def run (predecessors : List (List Nat)) : Search → List Nat
  | ⟨reached, []⟩ => reached
  | ⟨reached, place :: rest⟩ => run predecessors (turn predecessors ⟨reached, place :: rest⟩)
termination_by search => search.turnsLeft predecessors
decreasing_by exact Nat.le_of_eq (turnsLeft_turn predecessors _ rfl)

end Search

/-- The places other than `i` that depend on it directly or through others, in ascending order. -/
def dependents (nodes : List Node) (i : Nat) : List Nat :=
  ((Search.run (predecessors nodes) (Search.start i)).filter (· != i)).mergeSort

end RecordFlow
