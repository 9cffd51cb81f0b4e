namespace Telescope

/-! Forests whose nodes may open into further nodes, and the list of their leaves. -/

/-- `located` lists what occurs, each occurrence once, in the order of the paths. -/
def ListsInOrder {α : Type} (occurs : List Nat → α → Prop) (results : List α) : Prop :=
  ∃ located : List (List Nat × α),
    located.map Prod.snd = results ∧
    located.Pairwise (fun first second => List.Lex (· < ·) first.1 second.1) ∧
    ∀ path result, (path, result) ∈ located ↔ occurs path result

namespace ListsInOrder

variable {α β : Type}

theorem congr {occurs others : List Nat → α → Prop} {results : List α}
    (same : ∀ path result, occurs path result ↔ others path result)
    (lists : ListsInOrder occurs results) : ListsInOrder others results := by
  obtain ⟨located, projects, sorted, exact⟩ := lists
  exact ⟨located, projects, sorted,
    fun path result => (exact path result).trans (same path result)⟩

theorem nil {occurs : List Nat → α → Prop} (never : ∀ path result, ¬ occurs path result) :
    ListsInOrder occurs [] := by
  refine ⟨[], rfl, List.Pairwise.nil, ?_⟩
  intro path result
  exact iff_of_false List.not_mem_nil (never path result)

theorem single (value : α) :
    ListsInOrder (fun path result => path = [] ∧ result = value) [value] := by
  refine ⟨[([], value)], rfl, List.pairwise_singleton _ _, ?_⟩
  intro path result
  rw [List.mem_singleton, Prod.mk.injEq]

theorem mem {occurs : List Nat → α → Prop} {results : List α} {result : α}
    (lists : ListsInOrder occurs results) (member : result ∈ results) :
    ∃ path, occurs path result := by
  obtain ⟨located, projects, _, exact⟩ := lists
  rw [← projects] at member
  obtain ⟨⟨path, value⟩, here, same⟩ := List.mem_map.mp member
  cases same
  exact ⟨path, (exact path value).mp here⟩

/-- What occurs under the items of a list, each below its position. -/
def Below (occurs : β → List Nat → α → Prop) (items : List β) (start : Nat)
    (path : List Nat) (result : α) : Prop :=
  ∃ position rest item, path = (start + position) :: rest ∧
    items[position]? = some item ∧ occurs item rest result

theorem below_cons {occurs : β → List Nat → α → Prop} {first : β} {items : List β}
    {start : Nat} {path : List Nat} {result : α} :
    Below occurs (first :: items) start path result ↔
      (∃ rest, path = start :: rest ∧ occurs first rest result) ∨
        Below occurs items (start + 1) path result := by
  constructor
  · intro below
    obtain ⟨position, rest, item, rfl, found, here⟩ := below
    cases position with
    | zero =>
        cases found
        exact .inl ⟨rest, rfl, here⟩
    | succ position =>
        exact .inr ⟨position, rest, item, by rw [Nat.add_right_comm, Nat.add_assoc], found, here⟩
  · intro below
    cases below with
    | inl below =>
        obtain ⟨rest, rfl, here⟩ := below
        exact ⟨0, rest, first, rfl, rfl, here⟩
    | inr below =>
        obtain ⟨position, rest, item, rfl, found, here⟩ := below
        exact ⟨position + 1, rest, item, by rw [Nat.add_right_comm, Nat.add_assoc], found, here⟩

theorem flatMap {occurs : β → List Nat → α → Prop} {results : β → List α} {items : List β}
    (each : ∀ item ∈ items, ListsInOrder (occurs item) (results item)) (start : Nat) :
    ListsInOrder (Below occurs items start) (items.flatMap results) := by
  induction items generalizing start with
  | nil =>
      apply ListsInOrder.nil
      intro path result below
      obtain ⟨_, _, _, _, found, _⟩ := below
      cases found
  | cons first items induction =>
      obtain ⟨mine, projects, sorted, exact⟩ := each first List.mem_cons_self
      obtain ⟨others, othersProject, othersSorted, othersExact⟩ :=
        induction (fun item member => each item (List.mem_cons_of_mem _ member)) (start + 1)
      refine ⟨mine.map (fun located => (start :: located.1, located.2)) ++ others, ?_, ?_, ?_⟩
      · rw [List.map_append, List.map_map, othersProject, List.flatMap_cons, ← projects]
        rfl
      · apply List.pairwise_append.mpr
        refine ⟨List.pairwise_map.mpr (sorted.imp List.Lex.cons), othersSorted, ?_⟩
        intro located mineMember other otherMember
        obtain ⟨_, _, rfl⟩ := List.mem_map.mp mineMember
        obtain ⟨path, result⟩ := other
        obtain ⟨position, rest, item, rfl, _, _⟩ := (othersExact path result).mp otherMember
        exact List.Lex.rel (by omega)
      · intro path result
        rw [List.mem_append, below_cons, othersExact]
        apply or_congr_left
        constructor
        · intro member
          obtain ⟨⟨rest, value⟩, here, same⟩ := List.mem_map.mp member
          cases same
          exact ⟨rest, rfl, (exact rest value).mp here⟩
        · intro below
          obtain ⟨rest, rfl, here⟩ := below
          exact List.mem_map.mpr ⟨(rest, result), (exact rest result).mpr here, rfl⟩

end ListsInOrder

/-- A node either opens into the nodes inside it or is a leaf, which is kept or not. -/
structure Forest (α : Type) where
  inside : α → Option (List α)
  keeps : α → Bool
  wellFounded : WellFounded fun item node => ∃ items, inside node = some items ∧ item ∈ items

namespace Forest

variable {α : Type} (forest : Forest α)

def leaves (node : α) : List α :=
  match _opened : forest.inside node with
  | some items => items.attach.flatMap fun item => leaves item.1
  | none => if forest.keeps node then [node] else []
termination_by forest.wellFounded.wrap node
decreasing_by exact ⟨items, _opened, item.2⟩

def flatten (nodes : List α) : List α := nodes.flatMap forest.leaves

def IsLeaf (node : α) : Prop := forest.inside node = none ∧ forest.keeps node = true

inductive At : α → List Nat → α → Prop
  | here (node : α) : At node [] node
  | inside {node item result : α} {items : List α} {position : Nat} {path : List Nat}
      (opened : forest.inside node = some items) (found : items[position]? = some item)
      (below : At item path result) : At node (position :: path) result

/-- The node at a path in a list of nodes. -/
def Occurs (nodes : List α) (path : List Nat) (result : α) : Prop :=
  ∃ position rest node, path = position :: rest ∧ nodes[position]? = some node ∧
    forest.At node rest result

variable {forest}

theorem leaves_of_inside {node : α} {items : List α} (opened : forest.inside node = some items) :
    forest.leaves node = forest.flatten items := by
  rw [leaves]
  split
  · next found =>
      cases opened.symm.trans found
      rw [flatten, List.flatMap_subtype (g := forest.leaves) fun _ _ => rfl, List.unattach_attach]
  · next found => cases opened.symm.trans found

theorem leaves_of_closed {node : α} (closed : forest.inside node = none) :
    forest.leaves node = if forest.keeps node then [node] else [] := by
  rw [leaves]
  split
  · next found => cases closed.symm.trans found
  · rfl

theorem leaves_of_isLeaf {node : α} (leaf : forest.IsLeaf node) : forest.leaves node = [node] := by
  rw [leaves_of_closed leaf.1, if_pos leaf.2]

theorem flatten_cons (node : α) (nodes : List α) :
    forest.flatten (node :: nodes) = forest.leaves node ++ forest.flatten nodes :=
  List.flatMap_cons

theorem flatten_append (first second : List α) :
    forest.flatten (first ++ second) = forest.flatten first ++ forest.flatten second :=
  List.flatMap_append

variable (forest) in
theorem node_induction {motive : α → Prop}
    (opens : ∀ node items, forest.inside node = some items → (∀ item ∈ items, motive item) →
      motive node)
    (closed : ∀ node, forest.inside node = none → motive node) (node : α) : motive node := by
  induction node using forest.wellFounded.induction with
  | _ node induction =>
      cases found : forest.inside node with
      | none => exact closed node found
      | some items =>
          apply opens node items found
          intro item member
          exact induction item ⟨items, found, member⟩

theorem at_iff_of_inside {node result : α} {items : List α} {path : List Nat}
    (opened : forest.inside node = some items) :
    forest.At node path result ∧ forest.IsLeaf result ↔
      ListsInOrder.Below (fun item path result => forest.At item path result ∧
        forest.IsLeaf result) items 0 path result := by
  constructor
  · intro occurs
    obtain ⟨located, leaf⟩ := occurs
    cases located with
    | here => cases opened.symm.trans leaf.1
    | @inside _ item _ others position path opens found below =>
        cases opened.symm.trans opens
        exact ⟨position, path, item, by rw [Nat.zero_add], found, below, leaf⟩
  · intro below
    obtain ⟨position, rest, item, rfl, found, located, leaf⟩ := below
    rw [Nat.zero_add]
    exact ⟨.inside opened found located, leaf⟩

theorem at_iff_of_closed {node result : α} {path : List Nat}
    (closed : forest.inside node = none) :
    forest.At node path result ↔ path = [] ∧ result = node := by
  constructor
  · intro located
    cases located with
    | here => exact ⟨rfl, rfl⟩
    | inside opened => cases closed.symm.trans opened
  · intro same
    obtain ⟨rfl, rfl⟩ := same
    exact .here _

theorem leaves_listsInOrder (node : α) :
    ListsInOrder (fun path result => forest.At node path result ∧ forest.IsLeaf result)
      (forest.leaves node) := by
  induction node using node_induction forest with
  | opens node items opened induction =>
      rw [leaves_of_inside opened]
      apply (ListsInOrder.flatMap induction 0).congr
      intro path result
      exact (at_iff_of_inside opened).symm
  | closed node closed =>
      rw [leaves_of_closed closed]
      cases kept : forest.keeps node with
      | false =>
          apply ListsInOrder.nil
          intro path result occurs
          obtain ⟨located, leaf⟩ := occurs
          obtain ⟨_, rfl⟩ := (at_iff_of_closed closed).mp located
          exact absurd (kept.symm.trans leaf.2) Bool.false_ne_true
      | true =>
          apply (ListsInOrder.single node).congr
          intro path result
          rw [at_iff_of_closed closed]
          constructor
          · intro same
            exact ⟨same, same.2 ▸ ⟨closed, kept⟩⟩
          · exact And.left

theorem flatten_listsInOrder (nodes : List α) :
    ListsInOrder (fun path result => forest.Occurs nodes path result ∧ forest.IsLeaf result)
      (forest.flatten nodes) := by
  apply (ListsInOrder.flatMap (fun node _ => leaves_listsInOrder node) 0).congr
  intro path result
  constructor
  · intro below
    obtain ⟨position, rest, node, rfl, found, located, leaf⟩ := below
    exact ⟨⟨position, rest, node, by rw [Nat.zero_add], found, located⟩, leaf⟩
  · intro occurs
    obtain ⟨⟨position, rest, node, rfl, found, located⟩, leaf⟩ := occurs
    exact ⟨position, rest, node, by rw [Nat.zero_add], found, located, leaf⟩

theorem isLeaf_of_mem_flatten {nodes : List α} {result : α}
    (member : result ∈ forest.flatten nodes) : forest.IsLeaf result := by
  obtain ⟨_, _, leaf⟩ := (flatten_listsInOrder nodes).mem member
  exact leaf

theorem flatten_of_isLeaf {nodes : List α} (leaf : ∀ node ∈ nodes, forest.IsLeaf node) :
    forest.flatten nodes = nodes := by
  induction nodes with
  | nil => rfl
  | cons node nodes induction =>
      rw [flatten_cons, leaves_of_isLeaf (leaf node List.mem_cons_self),
        induction fun other member => leaf other (List.mem_cons_of_mem _ member)]
      rfl

theorem flatten_flatten (nodes : List α) :
    forest.flatten (forest.flatten nodes) = forest.flatten nodes :=
  flatten_of_isLeaf fun _ => isLeaf_of_mem_flatten

end Forest

end Telescope
