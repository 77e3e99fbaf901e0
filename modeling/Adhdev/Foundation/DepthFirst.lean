import Mathlib

/-! # Depth-first walks over an explicit stack

Two loops over finite graphs: a walk that enters and leaves nodes and reports
cycles, and a search that only remembers which keys it has seen. Nodes are
values carrying a key; two nodes of one graph with equal keys are equal.
-/

namespace Adhdev

open List

namespace DepthFirst

variable {Node : Type u} {Key : Type v} {Fault : Type w}

inductive Visit (Node : Type u) where
  | enter (node : Node)
  | leave (node : Node)

inductive Finding (Key : Type v) (Fault : Type w) where
  | cycle (key : Key)
  | fault (fault : Fault)
  | exhausted

section Walk

variable [DecidableEq Key] (key : Node → Key) (expand : Node → Except Fault (List Node))

/-- One walk down the stack. `visiting` holds the keys entered and not yet left,
`done` the keys left; a walk without fuel counts as a finding. -/
def walk : Nat → List (Visit Node) → List Key → List Key →
    Except (Finding Key Fault) (List Key)
  | _, [], _, done => .ok done
  | 0, _ :: _, _, _ => .error .exhausted
  | fuel + 1, .leave node :: stack, visiting, done =>
    walk fuel stack (visiting.filter (· ≠ key node)) (key node :: done)
  | fuel + 1, .enter node :: stack, visiting, done =>
    if key node ∈ visiting then .error (.cycle (key node))
    else if key node ∈ done then walk fuel stack visiting done
    else
      match expand node with
      | .error fault => .error (.fault fault)
      | .ok nodes =>
        walk fuel (nodes.reverse.map .enter ++ .leave node :: stack) (key node :: visiting) done

def walkEach (fuel : Nat) : List Node → List Key → Except (Finding Key Fault) (List Key)
  | [], done => .ok done
  | node :: nodes, done =>
    match walk key expand fuel [.enter node] [] done with
    | .error finding => .error finding
    | .ok done => walkEach fuel nodes done

def degree (node : Node) : Nat :=
  match expand node with
  | .error _ => 0
  | .ok nodes => nodes.length

/-- Enough fuel for a walk from one node of `nodes`. -/
def budget (nodes : List Node) : Nat :=
  (nodes.map fun node => degree expand node + 1).sum + 1

end Walk

section Clean

variable (expand : Node → Except Fault (List Node))

def Edge (dependent source : Node) : Prop :=
  ∃ nodes, expand dependent = .ok nodes ∧ source ∈ nodes

inductive Clean : Node → Prop where
  | intro {node : Node} {nodes : List Node} (expanded : expand node = .ok nodes)
      (below : ∀ child ∈ nodes, Clean child) : Clean node

variable {expand}
variable {node : Node}

section

variable (clean : Clean expand node)
include clean

theorem Clean.expanded : ∃ nodes, expand node = .ok nodes ∧ ∀ child ∈ nodes, Clean expand child :=
    by
  cases clean with
  | intro expanded below => exact ⟨_, expanded, below⟩

theorem Clean.child {child : Node} (edge : Edge expand node child) : Clean expand child := by
  obtain ⟨nodes, expanded, below⟩ := clean.expanded
  obtain ⟨others, same, member⟩ := edge
  rw [expanded, Except.ok.injEq] at same
  exact below child (same ▸ member)

theorem Clean.reachable {other : Node} (path : Relation.ReflTransGen (Edge expand) node other) :
    Clean expand other := by
  induction path with
  | refl => exact clean
  | tail _ edge induction => exact induction.child edge

theorem Clean.no_cycle : ¬ Relation.TransGen (Edge expand) node node := by
  induction clean with
  | @intro node nodes expanded _ induction =>
    intro cycle
    obtain ⟨child, edge, back⟩ := Relation.TransGen.head'_iff.mp cycle
    obtain ⟨others, same, member⟩ := edge
    rw [expanded, Except.ok.injEq] at same
    subst same
    exact induction child member (Relation.TransGen.tail' back ⟨nodes, expanded, member⟩)

end

theorem clean_of_acyclic {nodes : List Node}
    (expands : ∀ node ∈ nodes, ∃ children, expand node = .ok children ∧
      ∀ child ∈ children, child ∈ nodes)
    (acyclic : ∀ node ∈ nodes, ¬ Relation.TransGen (Edge expand) node node)
    (member : node ∈ nodes) : Clean expand node := by
  let reached : {node // node ∈ nodes} → {node // node ∈ nodes} → Prop :=
    fun source dependent => Relation.TransGen (Edge expand) dependent.1 source.1
  have finite : Finite {node // node ∈ nodes} := nodes.finite_toSet
  have transitive : IsTrans {node // node ∈ nodes} reached :=
    ⟨fun _ _ _ first second => second.trans first⟩
  have irreflexive : Std.Irrefl reached := ⟨fun node => acyclic node.1 node.2⟩
  have wellFounded : WellFounded reached := Finite.wellFounded_of_trans_of_irrefl reached
  have all : ∀ node : {node // node ∈ nodes}, Clean expand node.1 := fun node => by
    induction node using wellFounded.induction with
    | _ node induction =>
      obtain ⟨children, expanded, inside⟩ := expands node.1 node.2
      refine .intro expanded fun child member => ?_
      exact induction ⟨child, inside child member⟩ (.single ⟨children, expanded, member⟩)
  exact all ⟨node, member⟩

end Clean

section Sums

theorem sum_filter_split (weight : Node → Nat) {before after : Node → Bool} (nodes : List Node)
    (fewer : ∀ node ∈ nodes, after node = true → before node = true) :
    ((nodes.filter before).map weight).sum = ((nodes.filter after).map weight).sum +
      ((nodes.filter fun node => before node && !after node).map weight).sum := by
  induction nodes with
  | nil => rfl
  | cons node nodes induction =>
    have rest := induction (forall_mem_cons.mp fewer).2
    have here := fewer node mem_cons_self
    cases kept : after node <;> cases counted : before node <;> simp_all <;> omega

theorem sum_filter_le (weight : Node → Nat) (before after : Node → Bool) (nodes : List Node)
    (fewer : ∀ node ∈ nodes, after node = true → before node = true) :
    ((nodes.filter after).map weight).sum ≤ ((nodes.filter before).map weight).sum := by
  rw [sum_filter_split weight nodes fewer]
  exact Nat.le_add_right _ _

theorem sum_filter_drop (weight : Node → Nat) (before after : Node → Bool) {nodes : List Node}
    (fewer : ∀ node ∈ nodes, after node = true → before node = true) {node : Node}
    (member : node ∈ nodes) (counted : before node = true) (dropped : after node = false) :
    ((nodes.filter after).map weight).sum + weight node ≤
      ((nodes.filter before).map weight).sum := by
  have isDropped : node ∈ nodes.filter fun node => before node && !after node :=
    mem_filter.mpr ⟨member, by rw [counted, dropped]; rfl⟩
  rw [sum_filter_split weight nodes fewer]
  exact Nat.add_le_add_left (single_le_sum (fun _ _ => Nat.zero_le _) _
    (mem_map_of_mem isDropped)) _

end Sums

section WalkFacts

variable (key : Node → Key) (expand : Node → Except Fault (List Node))

def Visit.node : Visit Node → Node
  | .enter node => node
  | .leave node => node

/-- A set of nodes that expansion does not leave and keys tell apart. -/
structure Closed (within : Node → Prop) : Prop where
  keyed : ∀ node other, within node → within other → key node = key other → node = other
  closed : ∀ node nodes, within node → expand node = .ok nodes → ∀ child ∈ nodes, within child

def Owes (done : List Key) : List (Visit Node) → List Key → Prop
  | [], _ => True
  | .enter node :: stack, above => Owes done stack (key node :: above)
  | .leave node :: stack, above =>
    (∃ nodes, expand node = .ok nodes ∧
      ∀ child ∈ nodes, key child ∈ done ∨ key child ∈ above) ∧
    Owes done stack (key node :: above)

variable {key expand}

variable {stack : List (Visit Node)}
variable {done : List Key}

theorem Owes.mono {later : List Key} {above higher : List Key}
    (owes : Owes key expand done stack above) (kept : ∀ label ∈ done, label ∈ later)
    (raised : ∀ label ∈ above, label ∈ later ∨ label ∈ higher) :
    Owes key expand later stack higher := by
  have raised_cons : ∀ {above higher : List Key} (node : Node),
      (∀ label ∈ above, label ∈ later ∨ label ∈ higher) →
      ∀ label ∈ key node :: above, label ∈ later ∨ label ∈ key node :: higher := by
    intro above higher node raised label member
    rcases mem_cons.mp member with equal | member
    · exact .inr (equal ▸ mem_cons_self)
    · exact (raised label member).imp_right (mem_cons_of_mem _)
  induction stack generalizing above higher with
  | nil => trivial
  | cons visit stack induction =>
    cases visit with
    | enter node =>
      exact @induction (key node :: above) (key node :: higher) owes (raised_cons node raised)
    | leave node =>
      obtain ⟨⟨nodes, expanded, placed⟩, rest⟩ := owes
      refine ⟨⟨nodes, expanded, fun child member => ?_⟩, induction rest (raised_cons node raised)⟩
      rcases placed child member with finished | above
      · exact .inl (kept _ finished)
      · exact raised _ above

theorem owes_enter {nodes : List Node} {above : List Key}
    (owes : Owes key expand done stack ((nodes.map key).reverse ++ above)) :
    Owes key expand done (nodes.map .enter ++ stack) above := by
  induction nodes generalizing above with
  | nil => exact owes
  | cons node nodes induction =>
    have entered : Owes key expand done (nodes.map .enter ++ stack) (key node :: above) :=
      induction (by simpa using owes)
    exact entered

variable [DecidableEq Key] {within : Node → Prop}

theorem walk_sound (closed : Closed key expand within) {fuel : Nat} {visiting result : List Key}
    (walked : walk key expand fuel stack visiting done = .ok result)
    (inside : ∀ visit ∈ stack, within visit.node) (owes : Owes key expand done stack [])
    (clean : ∀ node, within node → key node ∈ done → Clean expand node) :
    (∀ node, within node → key node ∈ result → Clean expand node) ∧
      (∀ label ∈ done, label ∈ result) ∧ ∀ visit ∈ stack, key visit.node ∈ result := by
  induction fuel generalizing stack visiting done with
  | zero =>
    cases stack with
    | nil =>
      cases walked
      exact ⟨clean, fun _ member => member, fun _ member => (not_mem_nil member).elim⟩
    | cons visit stack => cases walked
  | succ fuel induction =>
    cases stack with
    | nil =>
      cases walked
      exact ⟨clean, fun _ member => member, fun _ member => (not_mem_nil member).elim⟩
    | cons visit stack =>
      have insideRest : ∀ visit ∈ stack, within visit.node := (forall_mem_cons.mp inside).2
      have here : within visit.node := inside visit mem_cons_self
      cases visit with
      | leave node =>
        obtain ⟨⟨nodes, expanded, placed⟩, rest⟩ := owes
        have below : ∀ child ∈ nodes, Clean expand child := fun child member =>
          clean child (closed.closed node nodes here expanded child member)
            ((placed child member).resolve_right not_mem_nil)
        have later := induction walked insideRest
          (rest.mono (fun _ member => .tail _ member)
            (fun label member => .inl (by simp at member; simp [member])))
          (fun other inside member => by
            rcases mem_cons.mp member with same | member
            · exact closed.keyed other node inside here same ▸ .intro expanded below
            · exact clean other inside member)
        refine ⟨later.1, (forall_mem_cons.mp later.2.1).2, fun visit member => ?_⟩
        rcases mem_cons.mp member with equal | member
        · exact equal ▸ later.2.1 _ mem_cons_self
        · exact later.2.2 visit member
      | enter node =>
        rw [walk] at walked
        split at walked
        · cases walked
        split at walked
        next finished =>
          have rest : Owes key expand done stack [key node] := owes
          have later := induction walked insideRest
            (rest.mono (fun _ member => member)
              (fun label member => .inl (mem_singleton.mp member ▸ finished))) clean
          refine ⟨later.1, later.2.1, fun visit member => ?_⟩
          rcases mem_cons.mp member with equal | member
          · exact equal ▸ later.2.1 _ finished
          · exact later.2.2 visit member
        next =>
          cases expanded : expand node with
          | error fault => rw [expanded] at walked; cases walked
          | ok nodes =>
            rw [expanded] at walked
            have rest : Owes key expand done stack [key node] := owes
            have later := induction walked
              (by
                intro visit member
                rcases mem_append.mp member with entered | member
                · obtain ⟨child, listed, rfl⟩ := mem_map.mp entered
                  exact closed.closed node nodes here expanded child (mem_reverse.mp listed)
                rcases mem_cons.mp member with equal | member
                · exact equal ▸ here
                · exact insideRest visit member)
              (owes_enter ⟨⟨nodes, expanded, fun child member =>
                  .inr (by simpa using ⟨child, member, rfl⟩)⟩,
                rest.mono (fun _ member => member)
                  (fun label member => .inr (by simp at member; simp [member]))⟩)
              clean
            refine ⟨later.1, later.2.1, fun visit member => ?_⟩
            rcases mem_cons.mp member with equal | member
            · exact equal ▸ later.2.2 (.leave node) (by simp)
            · exact later.2.2 visit (by simp [member])

theorem walkEach_sound (closed : Closed key expand within) {fuel : Nat} {nodes : List Node}
    {result : List Key} (walked : walkEach key expand fuel nodes done = .ok result)
    (inside : ∀ node ∈ nodes, within node)
    (clean : ∀ node, within node → key node ∈ done → Clean expand node) :
    ∀ node ∈ nodes, Clean expand node := by
  induction nodes generalizing done with
  | nil => exact fun node member => (not_mem_nil member).elim
  | cons node nodes induction =>
    rw [walkEach] at walked
    split at walked
    · cases walked
    next middle first =>
      obtain ⟨cleanAfter, -, entered⟩ := walk_sound closed first
        (by simpa [Visit.node] using inside node mem_cons_self) trivial clean
      intro other member
      rcases mem_cons.mp member with equal | later
      · exact equal ▸ cleanAfter node (inside node mem_cons_self)
          (entered (.enter node) mem_cons_self)
      · exact induction walked (forall_mem_cons.mp inside).2 cleanAfter other later

end WalkFacts

section Progress

variable (key : Node → Key) (expand : Node → Except Fault (List Node))

def innermost : List (Visit Node) → Option Node
  | [] => none
  | .enter _ :: stack => innermost stack
  | .leave node :: _ => some node

def Chained : List (Visit Node) → Prop
  | [] => True
  | visit :: stack =>
    (∀ parent, innermost stack = some parent → Edge expand parent visit.node) ∧ Chained stack

variable {key expand}

variable {stack : List (Visit Node)}
variable {node : Node}

theorem innermost_isSome (opened : .leave node ∈ stack) :
    ∃ parent, innermost stack = some parent := by
  induction stack with
  | nil => cases opened
  | cons visit stack induction =>
    cases visit with
    | leave parent => exact ⟨parent, rfl⟩
    | enter other => exact induction ((mem_cons.mp opened).resolve_left (by simp))

theorem Chained.path (chained : Chained expand stack) {parent : Node} (opened : .leave node ∈ stack)
    (top : innermost stack = some parent) : Relation.ReflTransGen (Edge expand) node parent := by
  induction stack generalizing parent with
  | nil => cases opened
  | cons visit stack induction =>
    cases visit with
    | enter other => exact induction chained.2 ((mem_cons.mp opened).resolve_left (by simp)) top
    | leave other =>
      cases top
      rcases mem_cons.mp opened with equal | later
      · cases equal
        exact .refl
      · obtain ⟨inner, top⟩ := innermost_isSome later
        exact (induction chained.2 later top).tail (chained.1 inner top)

theorem chained_enter {nodes : List Node} (chained : Chained expand stack)
    (below : ∀ parent, innermost stack = some parent → ∀ node ∈ nodes, Edge expand parent node) :
    Chained expand (nodes.map .enter ++ stack) ∧
      innermost (nodes.map .enter ++ stack) = innermost stack := by
  induction nodes with
  | nil => exact ⟨chained, rfl⟩
  | cons node nodes induction =>
    obtain ⟨rest, top⟩ := induction fun parent found node member =>
      below parent found node (.tail _ member)
    refine ⟨⟨fun parent found => ?_, rest⟩, top⟩
    exact below parent (top ▸ found) node mem_cons_self

variable [DecidableEq Key]

/-- How many more turns a walk can take. -/
def potential (key : Node → Key) (expand : Node → Except Fault (List Node)) (nodes : List Node)
    (stack : List (Visit Node)) (visiting done : List Key) : Nat :=
  stack.length + ((nodes.filter fun node => decide (key node ∉ visiting ∧ key node ∉ done)).map
    fun node => degree expand node + 1).sum

theorem potential_leave (nodes : List Node) (node : Node) (stack : List (Visit Node))
    (visiting done : List Key) :
    potential key expand nodes stack (visiting.filter (· ≠ key node)) (key node :: done) + 1 ≤
      potential key expand nodes (.leave node :: stack) visiting done := by
  have fewer := sum_filter_le (fun node => degree expand node + 1)
    (fun node => decide (key node ∉ visiting ∧ key node ∉ done))
    (fun other =>
      decide (key other ∉ visiting.filter (· ≠ key node) ∧ key other ∉ key node :: done)) nodes
    (fun other _ unseen => by
      simp only [decide_eq_true_eq, mem_filter, ne_eq, mem_cons, not_or] at unseen ⊢
      exact ⟨fun entered => unseen.1 ⟨entered, by simpa using unseen.2.1⟩, unseen.2.2⟩)
  simp only [potential, length_cons]
  omega

variable {visiting done : List Key}

theorem potential_enter {nodes : List Node} (member : node ∈ nodes)
    {children : List Node} (expanded : expand node = .ok children) (stack : List (Visit Node))
    (closed : key node ∉ visiting) (unfinished : key node ∉ done) :
    potential key expand nodes (children.reverse.map .enter ++ .leave node :: stack)
        (key node :: visiting) done + 1 ≤
      potential key expand nodes (.enter node :: stack) visiting done := by
  have dropped := sum_filter_drop (fun node => degree expand node + 1)
    (fun node => decide (key node ∉ visiting ∧ key node ∉ done))
    (fun other => decide (key other ∉ key node :: visiting ∧ key other ∉ done))
    (fun other _ unseen => by
      simp only [decide_eq_true_eq, mem_cons, not_or] at unseen ⊢
      exact ⟨unseen.1.2, unseen.2⟩)
    member (by simp [closed, unfinished]) (by simp)
  have size : degree expand node = children.length := by simp [degree, expanded]
  simp only [potential, length_append, length_map, length_reverse, length_cons]
  omega

variable {within : Node → Prop} {nodes : List Node}

theorem walk_complete (closed : Closed key expand within)
    (covered : ∀ node, within node → node ∈ nodes) {fuel : Nat}
    (inside : ∀ visit ∈ stack, within visit.node)
    (clean : ∀ visit ∈ stack, Clean expand visit.node) (chained : Chained expand stack)
    (opened : ∀ label ∈ visiting, ∃ node, .leave node ∈ stack ∧ key node = label)
    (enough : potential key expand nodes stack visiting done ≤ fuel) :
    ∃ result, walk key expand fuel stack visiting done = .ok result := by
  induction fuel generalizing stack visiting done with
  | zero =>
    cases stack with
    | nil => exact ⟨done, rfl⟩
    | cons visit stack => simp [potential] at enough
  | succ fuel induction =>
    cases stack with
    | nil => exact ⟨done, rfl⟩
    | cons visit stack =>
      have insideRest : ∀ visit ∈ stack, within visit.node := (forall_mem_cons.mp inside).2
      have cleanRest : ∀ visit ∈ stack, Clean expand visit.node := (forall_mem_cons.mp clean).2
      have here : within visit.node := inside visit mem_cons_self
      have cleanHere : Clean expand visit.node := clean visit mem_cons_self
      cases visit with
      | leave node =>
        refine induction insideRest cleanRest chained.2 (fun label member => ?_)
          (by have fewer : potential key expand nodes stack _ _ + 1 ≤ _ :=
                potential_leave nodes node stack visiting done
              omega)
        obtain ⟨entered, other⟩ := mem_filter.mp member
        obtain ⟨inner, listed, same⟩ := opened label entered
        rcases mem_cons.mp listed with equal | listed
        · cases equal
          simp [same] at other
        · exact ⟨inner, listed, same⟩
      | enter node =>
        rw [walk]
        split
        next entered =>
          obtain ⟨inner, listed, same⟩ := opened _ entered
          have below : .leave inner ∈ stack := (mem_cons.mp listed).resolve_left (by simp)
          obtain ⟨parent, top⟩ := innermost_isSome below
          have equal : inner = node := closed.keyed inner node (insideRest _ below) here same
          have cycle : Relation.TransGen (Edge expand) node node :=
            .tail' (equal ▸ chained.2.path below top) (chained.1 parent top)
          exact absurd cycle cleanHere.no_cycle
        next fresh =>
          split
          next finished =>
            refine induction insideRest cleanRest chained.2 (fun label member => ?_)
              (by simp only [potential, length_cons] at enough ⊢; omega)
            obtain ⟨inner, listed, same⟩ := opened label member
            exact ⟨inner, (mem_cons.mp listed).resolve_left (by simp), same⟩
          next unfinished =>
            obtain ⟨children, expanded, below⟩ := cleanHere.expanded
            simp only [Visit.node] at expanded
            simp only [expanded]
            have opens : Chained expand (.leave node :: stack) := chained
            refine induction ?_ ?_
              (chained_enter opens fun parent found child member => ?_).1
              (fun label member => ?_)
              (by have := potential_enter (covered node here) expanded stack fresh
                    unfinished
                  omega)
            · intro visit member
              rcases mem_append.mp member with entered | member
              · obtain ⟨child, listed, rfl⟩ := mem_map.mp entered
                exact closed.closed node children here expanded child (mem_reverse.mp listed)
              rcases mem_cons.mp member with equal | member
              · exact equal ▸ here
              · exact insideRest visit member
            · intro visit member
              rcases mem_append.mp member with entered | member
              · obtain ⟨child, listed, rfl⟩ := mem_map.mp entered
                exact below child (mem_reverse.mp listed)
              rcases mem_cons.mp member with equal | member
              · exact equal ▸ cleanHere
              · exact cleanRest visit member
            · cases found
              exact ⟨children, expanded, mem_reverse.mp member⟩
            · rcases mem_cons.mp member with equal | member
              · exact ⟨node, by simp, equal.symm⟩
              obtain ⟨inner, listed, same⟩ := opened label member
              have later := (mem_cons.mp listed).resolve_left (by simp)
              exact ⟨inner, by simp [later], same⟩

theorem potential_start (node : Node) (done : List Key) :
    potential key expand nodes [.enter node] [] done ≤ budget expand nodes := by
  have fewer := sum_filter_le (fun node => degree expand node + 1) (fun _ => true)
    (fun node => decide (key node ∉ ([] : List Key) ∧ key node ∉ done)) nodes
    (fun _ _ _ => rfl)
  simp only [potential, budget, length_singleton, filter_true] at fewer ⊢
  omega

section

variable (covered : ∀ node ∈ nodes, ∀ children, expand node = .ok children → ∀ child ∈ children,
    child ∈ nodes)
include covered

theorem walk_ends {fuel more : Nat} {stack : List (Visit Node)} {visiting done : List Key}
    (inside : ∀ visit ∈ stack, visit.node ∈ nodes) (enough : potential key expand nodes stack
      visiting done ≤ fuel) (least : fuel ≤ more) : walk key expand more stack visiting done = walk
    key expand fuel stack visiting done ∧ walk key expand fuel stack visiting done ≠ .error
    .exhausted := by
  induction fuel generalizing more stack visiting done with
  | zero =>
    cases stack with
    | nil => cases more <;> exact ⟨rfl, nofun⟩
    | cons visit stack => simp [potential] at enough
  | succ fuel induction =>
    obtain ⟨more, rfl⟩ : ∃ rest, more = rest + 1 := ⟨more - 1, by omega⟩
    have least : fuel ≤ more := Nat.le_of_succ_le_succ least
    cases stack with
    | nil => exact ⟨rfl, nofun⟩
    | cons visit stack =>
      have insideRest : ∀ visit ∈ stack, visit.node ∈ nodes := (forall_mem_cons.mp inside).2
      cases visit with
      | leave node =>
        have fewer : potential key expand nodes stack _ _ + 1 ≤ _ :=
          potential_leave nodes node stack visiting done
        exact induction insideRest (by omega) least
      | enter node =>
        have here : node ∈ nodes := inside (.enter node) mem_cons_self
        by_cases entered : key node ∈ visiting
        · simp [walk, entered]
        by_cases finished : key node ∈ done
        · simp only [walk, entered, finished, if_true, if_false]
          exact induction insideRest
            (by simp only [potential, length_cons] at enough ⊢; omega) least
        simp only [walk, entered, finished, if_false]
        cases expanded : expand node with
        | error fault => simp
        | ok children =>
          have fewer := potential_enter here expanded stack entered finished
          refine induction (fun visit member => ?_) (by omega) least
          rcases mem_append.mp member with below | member
          · obtain ⟨child, listed, rfl⟩ := mem_map.mp below
            exact covered node here children expanded child (mem_reverse.mp listed)
          rcases mem_cons.mp member with equal | member
          · exact equal ▸ here
          · exact insideRest visit member

theorem walkEach_ends {roots : List Node} {done : List Key} (inside : ∀ node ∈ roots, node ∈ nodes)
    {more : Nat} (least : budget expand nodes ≤ more) : walkEach key expand more roots done =
    walkEach key expand (budget expand nodes) roots done ∧ walkEach key expand
    (budget expand nodes) roots done ≠ .error .exhausted := by
  induction roots generalizing done with
  | nil => exact ⟨rfl, nofun⟩
  | cons node roots induction =>
    have started : ∀ visit ∈ [Visit.enter node], visit.node ∈ nodes := fun visit member => by
      cases mem_singleton.mp member
      exact inside node mem_cons_self
    obtain ⟨same, ended⟩ := @walk_ends _ _ _ key expand _ nodes covered _ more _ [] done started
      (potential_start node done) least
    simp only [walkEach, same]
    cases first : walk key expand (budget expand nodes) [.enter node] [] done with
    | error finding =>
      refine ⟨rfl, fun exhausted => ended ?_⟩
      cases exhausted
      exact first
    | ok middle => exact induction (forall_mem_cons.mp inside).2

end

theorem walkEach_complete (closed : Closed key expand within)
    (covered : ∀ node, within node → node ∈ nodes) {roots : List Node} {done : List Key}
    (inside : ∀ node ∈ roots, within node) (clean : ∀ node ∈ roots, Clean expand node) :
    ∃ result, walkEach key expand (budget expand nodes) roots done = .ok result := by
  induction roots generalizing done with
  | nil => exact ⟨done, rfl⟩
  | cons node roots induction =>
    have walked : ∃ middle,
        walk key expand (budget expand nodes) [.enter node] [] done = .ok middle :=
      walk_complete closed covered
      (by simpa [Visit.node] using inside node mem_cons_self)
      (by simpa [Visit.node] using clean node mem_cons_self)
      ⟨fun _ found => (Option.some_ne_none _ found.symm).elim, trivial⟩
      (fun _ member => (not_mem_nil member).elim) (potential_start node done)
    obtain ⟨middle, first⟩ := walked
    have others : ∃ result,
        walkEach key expand (budget expand nodes) roots middle = .ok result := induction
      (forall_mem_cons.mp inside).2
      (forall_mem_cons.mp clean).2
    obtain ⟨result, rest⟩ := others
    exact ⟨result, by simp only [walkEach, first, rest]⟩

end Progress

section Search

variable [DecidableEq Key] (next : Key → List Key) (goal : Key)

/-- Whether a search from the stack meets the goal; a search without fuel counts
as having met it. -/
def meets : Nat → List Key → List Key → Bool
  | _, [], _ => false
  | 0, _ :: _, _ => true
  | fuel + 1, current :: stack, seen =>
    if current = goal then true
    else if current ∈ seen then meets fuel stack seen
    else meets fuel ((next current).reverse ++ stack) (current :: seen)

end Search

end DepthFirst

end Adhdev
