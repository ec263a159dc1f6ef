import RecordFlow.Proofs.Pipeline.Dependency

/-!
# The order of steps is a greedy topological order

`resolveOrder` places one node after the other, each time the first of those that are ready. It
comes to its end exactly when the dependencies have no cycle, and otherwise it names the nodes that
lie on a cycle or depend on one.

## Main definitions

* `Ready` — nodes that may be placed next
* `RunsBefore` — which of two ready nodes is placed first
* `Scheduled` — the lists that placing ready nodes in this way can make

## Main results

* `Scheduled.mem_take_of_needs` — what a placed node needs stands before it
* `schedule_ok`, `schedule_error` — what the loop makes, and where it gives up
* `resolveOrder_sound_complete` — when there is an order, what it is like, and which nodes have none
-/

namespace RecordFlow

variable {nodes : List Node} {placed order : List Nat} {i j p s : Nat}

/-- The node at a place is not placed yet, and all that it depends on is. -/
structure Ready (nodes : List Node) (placed : List Nat) (i : Nat) : Prop where
  lt : i < nodes.length
  not_mem : i ∉ placed
  mem_of_dependsOn : ∀ p, DependsOn nodes i p → p ∈ placed

/-- Of two ready nodes the one with the least order number comes first, and
of equals the one in front. -/
def RunsBefore (nodes : List Node) (i j : Nat) : Prop :=
  orderAt nodes i < orderAt nodes j ∨ (orderAt nodes i = orderAt nodes j ∧ i ≤ j)

/-- The ready node that is placed next. -/
structure IsNext (nodes : List Node) (placed : List Nat) (i : Nat) : Prop where
  ready : Ready nodes placed i
  runsBefore : ∀ j, Ready nodes placed j → RunsBefore nodes i j

/-- Lists in which every place is the next one after those in front of it. -/
inductive Scheduled (nodes : List Node) : List Nat → Prop
  | nil : Scheduled nodes []
  | snoc {placed : List Nat} {i : Nat} (front : Scheduled nodes placed)
      (next : IsNext nodes placed i) : Scheduled nodes (placed ++ [i])

theorem RunsBefore.refl (nodes : List Node) (i : Nat) : RunsBefore nodes i i :=
  .inr ⟨rfl, Nat.le_refl i⟩

theorem RunsBefore.trans {k : Nat} (hij : RunsBefore nodes i j) (hjk : RunsBefore nodes j k) :
    RunsBefore nodes i k := by
  unfold RunsBefore at *
  omega

/-! ### Choosing the next node -/

theorem mem_ready_iff :
    i ∈ (List.range nodes.length).filter (isReady (predecessors nodes) placed) ↔
      Ready nodes placed i := by
  simp only [List.mem_filter, List.mem_range, isReady, Bool.and_eq_true, Bool.not_eq_true',
    List.contains_eq_mem, decide_eq_false_iff_not, List.all_eq_true, decide_eq_true_eq]
  constructor
  · rintro ⟨hlt, hnot, hall⟩
    exact ⟨hlt, hnot, hall⟩
  · rintro ⟨hlt, hnot, hall⟩
    exact ⟨hlt, hnot, hall⟩

theorem leastByOrder?_eq_none_iff {places : List Nat} :
    leastByOrder? nodes places = none ↔ places = [] := by
  cases places with
  | nil => simp [leastByOrder?]
  | cons i rest =>
    cases h : leastByOrder? nodes rest with
    | none => simp [leastByOrder?, h]
    | some j => by_cases hij : orderAt nodes i ≤ orderAt nodes j <;> simp [leastByOrder?, h, hij]

/-- The choice from ascending places is one of them and runs before all of them. -/
theorem leastByOrder?_spec {places : List Nat} (ascending : places.Pairwise (· < ·))
    (h : leastByOrder? nodes places = some i) :
    i ∈ places ∧ ∀ j ∈ places, RunsBefore nodes i j := by
  induction places generalizing i with
  | nil => simp [leastByOrder?] at h
  | cons k rest ih =>
    obtain ⟨hk, hrest⟩ := List.pairwise_cons.mp ascending
    cases hleast : leastByOrder? nodes rest with
    | none =>
      obtain rfl := leastByOrder?_eq_none_iff.mp hleast
      obtain rfl : k = i := by simpa [leastByOrder?] using h
      simp [RunsBefore.refl]
    | some least =>
      obtain ⟨hmem, hbefore⟩ := ih hrest hleast
      by_cases hle : orderAt nodes k ≤ orderAt nodes least
      · obtain rfl : k = i := by simpa [leastByOrder?, hleast, hle] using h
        have first : RunsBefore nodes k least := by
          have := hk least hmem
          unfold RunsBefore
          omega
        refine ⟨List.mem_cons_self, List.forall_mem_cons.mpr ⟨.refl nodes k, fun j hj => ?_⟩⟩
        exact first.trans (hbefore j hj)
      · obtain rfl : least = i := by simpa [leastByOrder?, hleast, hle] using h
        refine ⟨List.mem_cons_of_mem k hmem, List.forall_mem_cons.mpr ⟨?_, hbefore⟩⟩
        exact .inl (by omega)

theorem isNext_of_leastByOrder?
    (h : leastByOrder? nodes ((List.range nodes.length).filter
      (isReady (predecessors nodes) placed)) = some i) :
    IsNext nodes placed i := by
  obtain ⟨hmem, hbefore⟩ := leastByOrder?_spec (List.pairwise_lt_range.filter _) h
  exact ⟨mem_ready_iff.mp hmem, fun j hj => hbefore j (mem_ready_iff.mpr hj)⟩

theorem not_ready_of_leastByOrder?
    (h : leastByOrder? nodes ((List.range nodes.length).filter
      (isReady (predecessors nodes) placed)) = none) (i : Nat) :
    ¬ Ready nodes placed i := by
  intro ready
  have := mem_ready_iff.mpr ready
  rw [leastByOrder?_eq_none_iff.mp h] at this
  exact List.not_mem_nil this

/-! ### Scheduled lists -/

namespace Scheduled

theorem isNext_getElem (h : Scheduled nodes placed) (hs : s < placed.length) :
    IsNext nodes (placed.take s) placed[s] := by
  induction h with
  | nil => simp at hs
  | @snoc front i hfront next ih =>
    rcases Nat.lt_or_ge s front.length with hlt | hge
    · rw [List.getElem_append_left hlt, List.take_append_of_le_length hlt.le]
      exact ih hlt
    · obtain rfl : s = front.length := by
        rw [List.length_append, List.length_singleton] at hs
        omega
      simpa using next

theorem lt_length (h : Scheduled nodes placed) (hi : i ∈ placed) : i < nodes.length := by
  obtain ⟨s, hs, rfl⟩ := List.getElem_of_mem hi
  exact (h.isNext_getElem hs).ready.lt

theorem nodup (h : Scheduled nodes placed) : placed.Nodup := by
  induction h with
  | nil => exact List.nodup_nil
  | snoc _ next ih =>
    refine List.nodup_append.mpr ⟨ih, List.nodup_singleton _, ?_⟩
    rintro a ha b hb rfl
    exact next.ready.not_mem (List.mem_singleton.mp hb ▸ ha)

theorem mem_take_of_dependsOn (h : Scheduled nodes placed) (hs : s < placed.length)
    (hp : DependsOn nodes placed[s] p) : p ∈ placed.take s :=
  (h.isNext_getElem hs).ready.mem_of_dependsOn p hp

/-- All that a placed node needs stands before it. -/
theorem mem_take_of_needs (h : Scheduled nodes placed) (hs : s < placed.length)
    (hp : Needs nodes placed[s] p) : p ∈ placed.take s := by
  induction hp with
  | single hstep => exact h.mem_take_of_dependsOn hs hstep
  | tail _ hstep ih =>
    obtain ⟨t, ht, rfl⟩ := List.mem_take_iff_getElem.mp ih
    have := h.mem_take_of_dependsOn (by omega) hstep
    exact (List.take_sublist_take_left (by omega)).mem this

/-- What a placed node needs stands at an earlier position. -/
theorem lt_of_needs {a b t : Nat} (h : Scheduled nodes placed) (hs : placed[s]? = some a)
    (ht : placed[t]? = some b) (needs : Needs nodes a b) : t < s := by
  obtain ⟨hlt, rfl⟩ := List.getElem?_eq_some_iff.mp hs
  obtain ⟨u, hu, same⟩ := List.mem_take_iff_getElem.mp (h.mem_take_of_needs hlt needs)
  have at_u : placed[u]? = some b := by rw [← same, List.getElem?_eq_getElem]
  have := (List.getElem?_inj (List.getElem?_eq_some_iff.mp ht).1 h.nodup).mp (ht.trans at_u.symm)
  omega

/-- A node that is placed is not stuck. -/
theorem not_isStuck (h : Scheduled nodes placed) (hi : i ∈ placed) : ¬ IsStuck nodes i := by
  induction h generalizing i with
  | nil => exact absurd hi List.not_mem_nil
  | snoc _ next ih =>
    intro stuck
    rcases List.mem_append.mp hi with hi | hi
    · exact ih hi stuck
    · obtain rfl := List.mem_singleton.mp hi
      obtain ⟨p, hstep, hp⟩ := stuck.exists_dependsOn
      exact ih (next.ready.mem_of_dependsOn p hstep) hp

theorem length_le (h : Scheduled nodes placed) : placed.length ≤ nodes.length := by
  have := h.nodup.length_le_of_subset fun _ hi => List.mem_range.mpr (h.lt_length hi)
  simpa using this

/-- A list that has as many places as there are nodes has all of them. -/
theorem perm_range (h : Scheduled nodes placed) (full : placed.length = nodes.length) :
    placed.Perm (List.range nodes.length) := by
  refine (h.nodup.subperm fun i hi => List.mem_range.mpr (h.lt_length hi)).perm_of_length_le ?_
  rw [List.length_range, full]

/-- A list with all places is as long as there are nodes. -/
theorem length_eq_of_forall_mem (h : Scheduled nodes placed)
    (all : ∀ i < nodes.length, i ∈ placed) : placed.length = nodes.length := by
  refine Nat.le_antisymm h.length_le ?_
  have subset : List.range nodes.length ⊆ placed := fun i hi => all i (List.mem_range.mp hi)
  simpa using List.nodup_range.length_le_of_subset subset

/-- When no node is ready, those that are not placed are exactly the stuck ones. -/
theorem not_mem_iff_isStuck (h : Scheduled nodes placed) (ended : ∀ i, ¬ Ready nodes placed i)
    (hi : i < nodes.length) : i ∉ placed ↔ IsStuck nodes i := by
  constructor
  · intro hnot
    refine isStuck_of_closed (p := fun i => i < nodes.length ∧ i ∉ placed) ?_ ⟨hi, hnot⟩
    rintro j ⟨hj, hjnot⟩
    by_contra none
    refine ended j ⟨hj, hjnot, fun p hp => ?_⟩
    by_contra hpnot
    exact none ⟨p, hp, hp.lt_right, hpnot⟩
  · exact fun stuck hmem => h.not_isStuck hmem stuck

end Scheduled

/-! ### The loop -/

theorem schedule_ok {left : Nat} (h : Scheduled nodes placed)
    (ended : schedule nodes (predecessors nodes) left placed = .ok order) :
    Scheduled nodes order ∧ order.length = placed.length + left := by
  induction left generalizing placed with
  | zero =>
    obtain rfl : placed = order := by simpa [schedule] using ended
    exact ⟨h, rfl⟩
  | succ left ih =>
    rw [schedule] at ended
    split at ended
    case h_1 i next =>
      obtain ⟨scheduled, length⟩ := ih (h.snoc (isNext_of_leastByOrder? next)) ended
      refine ⟨scheduled, ?_⟩
      rw [length, List.length_append, List.length_singleton]
      omega
    case h_2 => cases ended

theorem schedule_error {left : Nat} {stuck : List Nat} (h : Scheduled nodes placed)
    (ended : schedule nodes (predecessors nodes) left placed = .error stuck) :
    ∃ front, Scheduled nodes front ∧ (∀ i, ¬ Ready nodes front i) ∧
      front.length < placed.length + left ∧
      stuck = (List.range nodes.length).filter (!front.contains ·) := by
  induction left generalizing placed with
  | zero => cases ended
  | succ left ih =>
    rw [schedule] at ended
    split at ended
    case h_1 i next =>
      obtain ⟨front, scheduled, none, length, rfl⟩ :=
        ih (h.snoc (isNext_of_leastByOrder? next)) ended
      refine ⟨front, scheduled, none, ?_, rfl⟩
      rw [List.length_append, List.length_singleton] at length
      omega
    case h_2 none =>
      obtain rfl := Except.error.inj ended
      exact ⟨placed, h, not_ready_of_leastByOrder? none, by omega, rfl⟩

/-- An order places every node once, each as the next one. -/
theorem resolveOrder_ok (h : resolveOrder nodes = .ok order) :
    Scheduled nodes order ∧ order.length = nodes.length := by
  rw [resolveOrder] at h
  cases hs : schedule nodes (predecessors nodes) nodes.length [] with
  | error stuck => rw [hs] at h; cases h
  | ok places =>
    rw [hs] at h
    obtain rfl := Except.ok.inj h
    simpa using schedule_ok .nil hs

/-- Without an order the stuck nodes are told, in the order in which they are declared. -/
theorem resolveOrder_error {cycle : CyclicDependency} (h : resolveOrder nodes = .error cycle) :
    ∃ stuck : List Nat, stuck ≠ [] ∧ stuck.Pairwise (· < ·) ∧ (∀ i, i ∈ stuck ↔ IsStuck nodes i) ∧
      cycle.stepIds.map some = stuck.map fun i => (nodes[i]?).map Node.id := by
  rw [resolveOrder] at h
  cases hs : schedule nodes (predecessors nodes) nodes.length [] with
  | ok places => rw [hs] at h; cases h
  | error stuck =>
    rw [hs] at h
    obtain rfl := Except.error.inj h
    obtain ⟨front, scheduled, none, short, rfl⟩ := schedule_error .nil hs
    have mem_iff : ∀ i, i ∈ (List.range nodes.length).filter (!front.contains ·) ↔
        IsStuck nodes i := by
      intro i
      simp only [List.mem_filter, List.mem_range, Bool.not_eq_true', List.contains_eq_mem,
        decide_eq_false_iff_not]
      constructor
      · rintro ⟨hi, hnot⟩
        exact (scheduled.not_mem_iff_isStuck none hi).mp hnot
      · exact fun hi => ⟨hi.lt, (scheduled.not_mem_iff_isStuck none hi.lt).mpr hi⟩
    refine ⟨_, fun empty => ?_, List.pairwise_lt_range.filter _, mem_iff, ?_⟩
    · rw [List.length_nil, Nat.zero_add] at short
      refine absurd (scheduled.length_eq_of_forall_mem fun i hi => ?_) short.ne
      by_contra hnot
      have := (mem_iff i).mpr ((scheduled.not_mem_iff_isStuck none hi).mp hnot)
      rw [empty] at this
      exact List.not_mem_nil this
    · rw [List.map_filterMap_some_eq_filter_map_isSome, List.filter_eq_self]
      rintro id hid
      obtain ⟨i, hi, rfl⟩ := List.mem_map.mp hid
      simpa using ((mem_iff i).mp hi).lt

/-- Nodes with fewer dependencies than ordered ones have an order, too. -/
theorem exists_order_of_fewer {fewer : List Node} (h : resolveOrder nodes = .ok order)
    (sub : ∀ b a, DependsOn fewer b a → DependsOn nodes b a) :
    ∃ other, resolveOrder fewer = .ok other := by
  cases hfewer : resolveOrder fewer with
  | ok other => exact ⟨other, rfl⟩
  | error cycle =>
    obtain ⟨stuck, nonempty, -, mem_iff, -⟩ := resolveOrder_error hfewer
    obtain ⟨i, hi⟩ := List.exists_mem_of_ne_nil stuck nonempty
    obtain ⟨c, hc, -⟩ := (mem_iff i).mp hi
    -- The cycle that keeps the few from an order would keep the many from one.
    have cyclic : OnCycle nodes c := Relation.TransGen.mono sub c c hc
    obtain ⟨scheduled, full⟩ := resolveOrder_ok h
    have placed : c ∈ order :=
      (scheduled.perm_range full).mem_iff.mpr (List.mem_range.mpr cyclic.isStuck.lt)
    exact absurd cyclic.isStuck (scheduled.not_isStuck placed)

/-- **The order of steps.** There is an order exactly when no node lies on a cycle, and a node
that names its own id lies on one. An order has every place once, behind all places that it
depends on, and each place is the least one, by order number and then by place, of those that were
ready. Without an order the ids are told, in the order of declaration, of exactly the nodes on a
cycle and those that depend on one. -/
theorem resolveOrder_sound_complete (nodes : List Node) :
    ((∃ order, resolveOrder nodes = .ok order) ↔ ∀ i, ¬ OnCycle nodes i) ∧
    (∀ i node, nodes[i]? = some node → node.id ∈ node.dependsOn → OnCycle nodes i) ∧
    (∀ order, resolveOrder nodes = .ok order →
      order.Perm (List.range nodes.length) ∧
      ∀ s (hs : s < order.length),
        (∀ p, DependsOn nodes order[s] p → p ∈ order.take s) ∧
        IsNext nodes (order.take s) order[s]) ∧
    (∀ cycle, resolveOrder nodes = .error cycle →
      ∃ stuck : List Nat, stuck.Pairwise (· < ·) ∧ (∀ i, i ∈ stuck ↔ IsStuck nodes i) ∧
        cycle.stepIds.map some = stuck.map fun i => (nodes[i]?).map Node.id) := by
  refine ⟨⟨?_, ?_⟩, fun i node => onCycle_of_names_itself, ?_, ?_⟩
  · rintro ⟨order, h⟩ i cycle
    obtain ⟨scheduled, full⟩ := resolveOrder_ok h
    have hi : i ∈ order :=
      (scheduled.perm_range full).mem_iff.mpr (List.mem_range.mpr cycle.isStuck.lt)
    exact scheduled.not_isStuck hi cycle.isStuck
  · intro acyclic
    cases h : resolveOrder nodes with
    | ok order => exact ⟨order, rfl⟩
    | error cycle =>
      obtain ⟨stuck, nonempty, -, mem_iff, -⟩ := resolveOrder_error h
      obtain ⟨i, hi⟩ := List.exists_mem_of_ne_nil stuck nonempty
      obtain ⟨c, hc, -⟩ := (mem_iff i).mp hi
      exact absurd hc (acyclic c)
  · intro order h
    obtain ⟨scheduled, full⟩ := resolveOrder_ok h
    refine ⟨scheduled.perm_range full, fun s hs => ⟨?_, scheduled.isNext_getElem hs⟩⟩
    exact fun p hp => scheduled.mem_take_of_dependsOn hs hp
  · intro cycle h
    obtain ⟨stuck, -, ascending, mem_iff, ids⟩ := resolveOrder_error h
    exact ⟨stuck, ascending, mem_iff, ids⟩

end RecordFlow
