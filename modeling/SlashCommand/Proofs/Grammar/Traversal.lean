import Mathlib.Data.List.Nodup
import Mathlib.Logic.Function.Iterate
import SlashCommand.Grammar.Command

/-!
# The order of a command's nodes

The nodes of a command are listed by a loop over a stack.  Each round takes the last node off the
stack, writes it down, and puts its children on the stack, the first one last.  The stack can grow
with every round; what gets less is the number of nodes in the trees that are on it.

What the loop keeps is that the nodes met so far, with those of the trees on the stack behind them,
are all nodes in preorder (`Traversal.Kept`).  So it comes to an end after as many rounds as there
are nodes, and has then listed them in preorder.

Equal nodes may stand at several places of a tree.  To say that each occurs once, and where, nodes
are told apart by their addresses: the list goes through all addresses, each once, from parents to
children and from one sibling to the next (`Node.InOrder`).
-/

namespace SlashCommand.Grammar

namespace Node

/-! ## Forests -/

/-- What holds of a forest if it holds of the children of its first tree and of its other trees
holds of every forest. -/
@[elab_as_elim]
theorem forest_induction {motive : List Node → Prop} (nil : motive [])
    (cons : ∀ node nodes, motive node.children → motive nodes → motive (node :: nodes)) :
    ∀ forest, motive forest
  | [] => nil
  | node :: nodes =>
    cons node nodes (forest_induction nil cons node.children) (forest_induction nil cons nodes)
termination_by forest => sizeAll forest
decreasing_by
  all_goals
    rw [sizeAll, size_eq]
    omega

lemma preorderAll_cons (node : Node) (nodes : List Node) :
    preorderAll (node :: nodes) = node :: (preorderAll node.children ++ preorderAll nodes) := by
  cases node <;> simp [preorderAll, preorder, children]

lemma preorderAll_append (first second : List Node) :
    preorderAll (first ++ second) = preorderAll first ++ preorderAll second := by
  induction first with
  | nil => simp [preorderAll]
  | cons node nodes ih => simp [preorderAll, ih]

/-- Working off a stack from the front lists its trees in preorder. -/
theorem visit_eq_preorderAll (stack : List Node) : visit stack = preorderAll stack := by
  induction stack using visit.induct with
  | case1 => simp [visit, preorderAll]
  | case2 node stack ih => rw [visit, ih, preorderAll_append, preorderAll_cons]

/-! ## The loop -/

/-- The loop between two rounds: what is still to be visited, with what comes next at the end, and
the nodes met so far. -/
@[ext]
structure Traversal where
  stack : List Node
  met : List Node

namespace Traversal

/-- The loop in front of its first round. -/
def start (forest : List Node) : Traversal :=
  ⟨forest.reverse, []⟩

/-- One more round, as long as there is something on the stack. -/
def step (traversal : Traversal) : Traversal :=
  match traversal.stack.getLast? with
  | none => traversal
  | some node => ⟨traversal.stack.dropLast ++ node.children.reverse, traversal.met ++ [node]⟩

/-- What holds after some rounds over a forest. -/
structure Kept (forest : List Node) (rounds : Nat) (traversal : Traversal) : Prop where
  met_append : traversal.met ++ preorderAll traversal.stack.reverse = preorderAll forest
  length_met : traversal.met.length = rounds

variable {forest : List Node} {rounds : Nat} {traversal : Traversal}

lemma kept_start (forest : List Node) : Kept forest 0 (start forest) where
  met_append := by rw [start, List.reverse_reverse, List.nil_append]
  length_met := rfl

/-- There is something on the stack exactly as long as not all nodes are met. -/
lemma Kept.stack_ne_nil_iff (h : Kept forest rounds traversal) :
    traversal.stack ≠ [] ↔ rounds < (preorderAll forest).length := by
  rw [← h.met_append, List.length_append, h.length_met]
  rcases List.eq_nil_or_concat' traversal.stack with hstack | ⟨stack, node, hstack⟩
  · simp [hstack, preorderAll]
  · rw [hstack, List.reverse_append, List.reverse_singleton, List.singleton_append,
      preorderAll_cons]
    simp

/-- A round meets the node that comes next in preorder. -/
lemma Kept.step (h : Kept forest rounds traversal)
    (hrounds : rounds < (preorderAll forest).length) : Kept forest (rounds + 1) traversal.step := by
  obtain ⟨stack, node, hstack⟩ :=
    (List.eq_nil_or_concat' traversal.stack).resolve_left (h.stack_ne_nil_iff.mpr hrounds)
  have hstep : traversal.step = ⟨stack ++ node.children.reverse, traversal.met ++ [node]⟩ := by
    simp [Traversal.step, hstack]
  have hmet := h.met_append
  rw [hstack, List.reverse_append, List.reverse_singleton, List.singleton_append,
    preorderAll_cons] at hmet
  rw [hstep]
  refine ⟨?_, ?_⟩
  · rw [← hmet, List.reverse_append, List.reverse_reverse, preorderAll_append]
    simp
  · simp [h.length_met]

/-- All rounds up to the number of nodes keep it. -/
lemma kept_iterate (forest : List Node) (hrounds : rounds ≤ (preorderAll forest).length) :
    Kept forest rounds (Traversal.step^[rounds] (start forest)) := by
  induction rounds with
  | zero => exact kept_start forest
  | succ rounds ih =>
    rw [Function.iterate_succ_apply']
    exact (ih (by omega)).step (by omega)

/-- After as many rounds as there are nodes, and not before, the stack is empty; the nodes met are
then all nodes in preorder. -/
theorem iterate_step_start (forest : List Node) :
    Traversal.step^[(preorderAll forest).length] (start forest) = ⟨[], preorderAll forest⟩ ∧
      ∀ rounds < (preorderAll forest).length,
        (Traversal.step^[rounds] (start forest)).stack ≠ [] := by
  constructor
  · have hkept := kept_iterate forest (Nat.le_refl _)
    have hstack : (Traversal.step^[(preorderAll forest).length] (start forest)).stack = [] := by
      by_contra hne
      exact Nat.lt_irrefl _ (hkept.stack_ne_nil_iff.mp hne)
    have hmet := hkept.met_append
    rw [hstack, List.reverse_nil, preorderAll, List.append_nil] at hmet
    exact Traversal.ext hstack hmet
  · intro rounds hrounds
    exact (kept_iterate forest (Nat.le_of_lt hrounds)).stack_ne_nil_iff.mpr hrounds

end Traversal

/-! ## Addresses -/

/-- The way to a node of a forest: the number of its tree, then the number of a child each time. -/
abbrev Address :=
  List Nat

/-- The node at an address of a forest. -/
def at? (forest : List Node) : Address → Option Node
  | [] => none
  | [number] => forest[number]?
  | number :: next :: address =>
    forest[number]?.bind fun node => at? node.children (next :: address)

/-- Whether an address comes in front of another one. -/
inductive Before : Address → Address → Prop
  /-- A node comes in front of what is below it. -/
  | above (address : Address) (number : Nat) (below : Address) :
      Before address (address ++ number :: below)
  /-- A node, and what is below it, comes in front of its later siblings and what is below them. -/
  | beside (address : Address) {number later : Nat} (h : number < later) (below below' : Address) :
      Before (address ++ number :: below) (address ++ later :: below')

/-- Whether addresses are those of all nodes of a forest, each once and in order. -/
structure InOrder (forest : List Node) (addresses : List Address) : Prop where
  mem_iff : ∀ address, address ∈ addresses ↔ (at? forest address).isSome = true
  pairwise_before : addresses.Pairwise Before

variable {node : Node} {nodes forest : List Node} {address address' : Address}
  {addresses : List Address}

lemma at?_zero_cons (hne : address ≠ []) :
    at? (node :: nodes) (0 :: address) = at? node.children address := by
  obtain ⟨number, rest, rfl⟩ := List.exists_cons_of_ne_nil hne
  simp [at?]

lemma at?_succ_cons (number : Nat) (address : Address) :
    at? (node :: nodes) ((number + 1) :: address) = at? nodes (number :: address) := by
  cases address <;> simp [at?]

namespace Before

lemma ne (h : Before address address') : address ≠ address' := by
  intro heq
  cases h with
  | above => simp at heq
  | beside prior h =>
    simp only [List.append_cancel_left_eq, List.cons.injEq] at heq
    omega

lemma cons (h : Before address address') (number : Nat) :
    Before (number :: address) (number :: address') := by
  cases h with
  | above _ next below => exact above (number :: address) next below
  | beside prior h below below' => exact beside (number :: prior) h below below'

lemma modifyHead_succ (h : Before address address') :
    Before (address.modifyHead (· + 1)) (address'.modifyHead (· + 1)) := by
  cases h with
  | above _ number below =>
    cases address with
    | nil => exact above [] (number + 1) below
    | cons first rest => exact above ((first + 1) :: rest) number below
  | beside prior h below below' =>
    cases prior with
    | nil => exact beside [] (Nat.succ_lt_succ h) below below'
    | cons first rest => exact beside ((first + 1) :: rest) h below below'

end Before

namespace InOrder

lemma ne_nil (h : InOrder forest addresses) (hmem : address ∈ addresses) : address ≠ [] := by
  rintro rfl
  exact Bool.false_ne_true ((h.mem_iff []).mp hmem)

/-- There are no addresses in the empty forest. -/
lemma nil : InOrder [] [] where
  mem_iff := by
    intro address
    match address with
    | [] => simp [at?]
    | [number] => simp [at?]
    | number :: next :: address => simp [at?]
  pairwise_before := List.Pairwise.nil

/-- No address comes in front of itself, so each is there once. -/
lemma nodup (h : InOrder forest addresses) : addresses.Nodup :=
  h.pairwise_before.imp Before.ne

lemma mem_map_modifyHead_iff (h : InOrder forest addresses) :
    address ∈ addresses.map (List.modifyHead (· + 1)) ↔
      ∃ number rest, number :: rest ∈ addresses ∧ address = (number + 1) :: rest := by
  rw [List.mem_map]
  constructor
  · rintro ⟨source, hsource, rfl⟩
    obtain ⟨number, rest, rfl⟩ := List.exists_cons_of_ne_nil (h.ne_nil hsource)
    exact ⟨number, rest, hsource, rfl⟩
  · rintro ⟨number, rest, hmem, rfl⟩
    exact ⟨number :: rest, hmem, rfl⟩

/-- The addresses in a forest are that of its first node, those below it, and those in the other
trees, which are counted from one on. -/
lemma cons {below beside : List Address} (hbelow : InOrder node.children below)
    (hbeside : InOrder nodes beside) :
    InOrder (node :: nodes)
      ([0] :: (below.map (0 :: ·) ++ beside.map (List.modifyHead (· + 1)))) where
  mem_iff := by
    intro address
    rw [List.mem_cons, List.mem_append, List.mem_map, hbeside.mem_map_modifyHead_iff]
    rcases address with _ | ⟨_ | number, address⟩
    · simp [at?]
    · by_cases hnil : address = []
      · simp [hnil, at?]
      · rw [at?_zero_cons hnil, ← hbelow.mem_iff]
        simp [hnil]
    · rw [at?_succ_cons, ← hbeside.mem_iff]
      simp
  pairwise_before := by
    have hbelow' : (below.map (0 :: ·)).Pairwise Before :=
      List.pairwise_map.mpr (hbelow.pairwise_before.imp fun h => h.cons 0)
    have hbeside' : (beside.map (List.modifyHead (· + 1))).Pairwise Before :=
      List.pairwise_map.mpr (hbeside.pairwise_before.imp Before.modifyHead_succ)
    refine List.pairwise_cons.mpr ⟨?_, List.pairwise_append.mpr ⟨hbelow', hbeside', ?_⟩⟩
    · intro address hmem
      rcases List.mem_append.mp hmem with hmem | hmem
      · -- the first node comes in front of what is below it
        obtain ⟨rest, hrest, rfl⟩ := List.mem_map.mp hmem
        obtain ⟨number, rest, rfl⟩ := List.exists_cons_of_ne_nil (hbelow.ne_nil hrest)
        exact .above [0] number rest
      · obtain ⟨number, rest, -, rfl⟩ := hbeside.mem_map_modifyHead_iff.mp hmem
        exact .beside [] number.succ_pos [] rest
    · intro address hmem address' hmem'
      obtain ⟨rest, -, rfl⟩ := List.mem_map.mp hmem
      obtain ⟨number, rest', -, rfl⟩ := hbeside.mem_map_modifyHead_iff.mp hmem'
      exact .beside [] number.succ_pos rest rest'

end InOrder

/-- The nodes of a forest in preorder are those at its addresses in order. -/
theorem exists_inOrder (forest : List Node) :
    ∃ addresses, InOrder forest addresses ∧
      addresses.map (at? forest) = (preorderAll forest).map some := by
  induction forest using forest_induction with
  | nil => exact ⟨[], .nil, rfl⟩
  | cons node nodes ihbelow ihbeside =>
    obtain ⟨below, hbelow, hbelowNodes⟩ := ihbelow
    obtain ⟨beside, hbeside, hbesideNodes⟩ := ihbeside
    refine ⟨_, hbelow.cons hbeside, ?_⟩
    have hfirst : (below.map (0 :: ·)).map (at? (node :: nodes)) =
        below.map (at? node.children) := by
      rw [List.map_map]
      exact List.map_congr_left fun address hmem => at?_zero_cons (hbelow.ne_nil hmem)
    have hothers : (beside.map (List.modifyHead (· + 1))).map (at? (node :: nodes)) =
        beside.map (at? nodes) := by
      rw [List.map_map]
      refine List.map_congr_left fun address hmem => ?_
      obtain ⟨number, rest, rfl⟩ := List.exists_cons_of_ne_nil (hbeside.ne_nil hmem)
      exact at?_succ_cons number rest
    rw [List.map_cons, List.map_append, hfirst, hothers, hbelowNodes, hbesideNodes,
      preorderAll_cons, List.map_cons, List.map_append]
    rfl

end Node

/-- The loop over a stack comes to its end on every command, and what it lists, as `Command.nodes`
does, are the nodes of the command's tree in preorder: each node once, a parent in front of its
children and a sibling in front of the later ones. -/
theorem Command.nodes_eq_preorderAll (command : Command) :
    (∃ rounds, Node.Traversal.step^[rounds] (.start command.root) = ⟨[], command.nodes⟩ ∧
      ∀ fewer < rounds, (Node.Traversal.step^[fewer] (.start command.root)).stack ≠ []) ∧
    command.nodes = Node.preorderAll command.root ∧
    ∃ addresses, Node.InOrder command.root addresses ∧ addresses.Nodup ∧
      addresses.map (Node.at? command.root) = command.nodes.map some := by
  have hnodes : command.nodes = Node.preorderAll command.root :=
    Node.visit_eq_preorderAll command.root
  obtain ⟨hend, hbefore⟩ := Node.Traversal.iterate_step_start command.root
  obtain ⟨addresses, hinOrder, hat⟩ := Node.exists_inOrder command.root
  rw [hnodes]
  exact ⟨⟨_, hend, hbefore⟩, rfl, addresses, hinOrder, hinOrder.nodup, hat⟩

end SlashCommand.Grammar
