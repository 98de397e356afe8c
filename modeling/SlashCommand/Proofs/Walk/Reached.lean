import Mathlib.Data.List.Nodup
import SlashCommand.Proofs.Walk.Move

/-!
# Where a walk can come to

Walking over words, whatever they are, moves along a path of the command's argument tree: from
the command to one of its first nodes, and then to a child of the last node each time.  The state
of the walk is determined by that path in all that matters for completion.  The available flags
are those of the command and of the nodes on the path, the nodes that come next are the children
of the last one or none, and the words have turned into free text exactly if the last node is a
slot for free text.  Of the flags that were given, and of the one whose value is still to come,
the state knows nothing that is not available.

`Reached` says all this of a state and a path.  A word keeps it (`Reached.exists_step`), along the
path or one node further down, and so does every sequence of words (`reached_along`).
-/

namespace SlashCommand

namespace Grammar.Node

/-! ## Paths -/

/-- Whether nodes lead down a forest: first one of its nodes, then a child of the last one each
time. -/
inductive IsPath : (forest path : List Node) → Prop
  | nil (forest : List Node) : IsPath forest []
  | cons {forest path : List Node} {node : Node} (hnode : node ∈ forest)
      (hpath : IsPath node.children path) : IsPath forest (node :: path)

/-- What may come behind a path down a forest: the children of its last node, or the forest
itself while there is none. -/
def behind (forest path : List Node) : List Node :=
  path.getLast?.elim forest children

@[simp] lemma behind_cons (forest path : List Node) (node : Node) :
    behind forest (node :: path) = behind node.children path := by
  cases path with
  | nil => rfl
  | cons next path => rw [behind, List.getLast?_cons_cons, behind, List.getLast?_cons]; rfl

@[simp] lemma behind_concat (forest path : List Node) (node : Node) :
    behind forest (path ++ [node]) = node.children := by
  rw [behind, List.getLast?_concat]
  rfl

/-- A path goes on with what may come behind it. -/
lemma IsPath.concat {forest path : List Node} {node : Node} (h : IsPath forest path)
    (hnode : node ∈ behind forest path) : IsPath forest (path ++ [node]) := by
  induction h with
  | nil forest => exact .cons hnode (.nil node.children)
  | cons hfirst _ ih =>
    rw [behind_cons] at hnode
    exact .cons hfirst (ih hnode)

end Grammar.Node

namespace Walk

open Grammar (Command Flag Node)

/-! ## States -/

/-- What holds of the state of a walk that has come down a path. -/
structure Reached (command : Command) (path : List Node) (state : State) : Prop where
  isPath : Node.IsPath command.root path
  availableFlags_eq : state.availableFlags = command.flags ++ path.flatMap Node.flags
  /-- Nothing comes next once a word was like nothing that could. -/
  nodes_eq : state.nodes = [] ∨ state.nodes = Node.behind command.root path
  exists_of_mem_usedFlags : ∀ key ∈ state.usedFlags, ∃ flag ∈ state.availableFlags, key = flag.key
  nodup_usedFlags : state.usedFlags.Nodup
  of_pending : ∀ flag, state.pending = some flag →
    flag.takesValue = true ∧ flag ∈ state.availableFlags ∧ flag.key ∈ state.usedFlags ∧
      state.freeText = false
  freeText_iff : state.freeText = true ↔
    ∃ node slot, path.getLast? = some node ∧ node.argument? = some slot ∧ slot.kind = .freeText

variable {command : Command} {path : List Node} {state : State}

lemma reached_start (command : Command) : Reached command [] (start command) where
  isPath := .nil command.root
  availableFlags_eq := by simp [start]
  nodes_eq := .inr rfl
  exists_of_mem_usedFlags := nofun
  nodup_usedFlags := List.nodup_nil
  of_pending := nofun
  freeText_iff := by simp [start]

/-- Using a flag that is available keeps the path. -/
lemma Reached.useFlag (h : Reached command path state) (hfree : state.freeText = false)
    {flag : Flag} (hflag : flag ∈ state.availableFlags) {pending : Option Flag}
    (hpending : ∀ waiting, pending = some waiting → waiting = flag ∧ flag.takesValue = true) :
    Reached command path (state.useFlag flag pending) where
  isPath := h.isPath
  availableFlags_eq := h.availableFlags_eq
  nodes_eq := h.nodes_eq
  exists_of_mem_usedFlags := by
    intro key hkey
    rcases List.mem_insert_iff.mp hkey with rfl | hused
    · exact ⟨flag, hflag, rfl⟩
    · exact h.exists_of_mem_usedFlags key hused
  nodup_usedFlags := List.Nodup.insert h.nodup_usedFlags
  of_pending := by
    intro waiting hwaiting
    obtain ⟨rfl, htakes⟩ := hpending waiting hwaiting
    exact ⟨htakes, hflag, List.mem_insert_self, hfree⟩
  freeText_iff := h.freeText_iff

/-- Going down to a node makes the path longer by it. -/
lemma Reached.descend (h : Reached command path state) {node : Node}
    (hnode : node ∈ state.nodes) : Reached command (path ++ [node]) (state.descend node) where
  isPath := by
    rcases h.nodes_eq with hnodes | hnodes
    · rw [hnodes] at hnode
      exact nomatch hnode
    · rw [hnodes] at hnode
      exact h.isPath.concat hnode
  availableFlags_eq := by
    simp [State.descend, h.availableFlags_eq]
  nodes_eq := .inr (by simp [State.descend])
  exists_of_mem_usedFlags := by
    intro key hkey
    obtain ⟨flag, hflag, hname⟩ := h.exists_of_mem_usedFlags key hkey
    exact ⟨flag, List.mem_append_left node.flags hflag, hname⟩
  nodup_usedFlags := h.nodup_usedFlags
  of_pending := nofun
  freeText_iff := by
    simp [State.descend, Option.any_eq_true]

/-- A word keeps a walk on its path or takes it one node further down. -/
theorem Reached.exists_step (h : Reached command path state) (word : String) :
    ∃ path', path <+: path' ∧ Reached command path' (step state word) := by
  have hmove := move_step state word
  generalize step state word = next at hmove ⊢
  cases hmove with
  | absorbed hfree => exact ⟨path, List.prefix_rfl, h⟩
  | value hfree hpending =>
    exact ⟨path, List.prefix_rfl, { h with of_pending := nofun }⟩
  | flag hfree hpending hdashed hflag =>
    obtain ⟨hmem, hwaiting⟩ := flagOf?_eq_some hflag
    exact ⟨path, List.prefix_rfl, h.useFlag hfree hmem hwaiting⟩
  | unknownFlag hfree hpending hdashed hflag => exact ⟨path, List.prefix_rfl, h⟩
  | descent hfree hpending hdashed hnode =>
    exact ⟨_, List.prefix_append path _, h.descend (mem_of_nodeOf?_eq_some hnode)⟩
  | exhausted hfree hpending hdashed hnode =>
    exact ⟨path, List.prefix_rfl, { h with nodes_eq := .inl rfl }⟩

/-- Words keep a walk on its path or take it further down. -/
lemma Reached.exists_foldl (h : Reached command path state) (words : List String) :
    ∃ path', path <+: path' ∧ Reached command path' (words.foldl step state) := by
  induction words generalizing path state with
  | nil => exact ⟨path, List.prefix_rfl, h⟩
  | cons word words ih =>
    obtain ⟨path', hpath', hstep⟩ := h.exists_step word
    obtain ⟨path'', hpath'', hwords⟩ := ih hstep
    exact ⟨path'', hpath'.trans hpath'', hwords⟩

/-- Every walk has come down a path of the command's tree, and one more word takes nothing away
from what it has gathered there. -/
theorem reached_along (command : Command) (words : List String) :
    (∃ path, Reached command path (along command words)) ∧
      ∀ word, Grows (along command words) (step (along command words) word) := by
  constructor
  · obtain ⟨path, -, hpath⟩ := (reached_start command).exists_foldl words
    exact ⟨path, hpath⟩
  · intro word
    exact (move_step _ word).grows

end Walk

end SlashCommand
