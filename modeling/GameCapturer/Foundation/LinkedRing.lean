import Mathlib.Data.List.Chain
import Mathlib.Data.List.Nodup

/-!
# Circular doubly linked lists in a shared link memory

Every node has a forward and a backward link, and a list is the ring of nodes
that starts and ends at its head node.  A node is linked in between two
neighbours, or unlinked from between them, by rewriting the links of these
three nodes.  Both edits are described on the closed sequence of nodes from
the head back to the head, where neighbours are neighbours in the sequence
even when one of them is the head.
-/

namespace Foundation

/-- The link fields of all nodes; `none` is the null pointer. -/
structure Links (Node : Type) where
  next : Node → Option Node
  prev : Node → Option Node

namespace Links

variable {Node : Type}

/-- Two nodes that point at each other. -/
def Adjacent (links : Links Node) (left right : Node) : Prop :=
  links.next left = some right ∧ links.prev right = some left

/-- Consecutive nodes of a sequence are linked both ways. -/
abbrev Chained (links : Links Node) (nodes : List Node) : Prop :=
  nodes.IsChain links.Adjacent

/-- The nodes from the head around the ring and back to the head. -/
def around (head : Node) (items : List Node) : List Node :=
  head :: items ++ [head]

/-- The head and the items form a ring of pairwise distinct nodes. -/
structure Ring
    (links : Links Node)
    (head : Node)
    (items : List Node) : Prop where
  distinct : (head :: items).Nodup
  chained : links.Chained (around head items)

section Reading

variable {links : Links Node} {head : Node} {items : List Node}

/-- A chain reads forward links of all nodes but the last, and backward links
of all nodes but the first. -/
theorem Chained.congr
    {others : Links Node}
    {nodes : List Node}
    (chained : links.Chained nodes)
    (nexts :
      ∀ node ∈ nodes.dropLast, others.next node = links.next node)
    (prevs :
      ∀ node ∈ nodes.tail, others.prev node = links.prev node) :
    others.Chained nodes := by
  induction nodes with
  | nil =>
      exact .nil
  | cons first rest inductionHypothesis =>
      cases rest with
      | nil =>
          exact .singleton first
      | cons second rest =>
          obtain ⟨forward, backward⟩ :=
            (List.isChain_cons_cons.mp chained).1
          refine List.isChain_cons_cons.mpr ⟨⟨?_, ?_⟩, ?_⟩
          · rw [nexts first (by simp), forward]
          · rw [prevs second (by simp), backward]
          · refine inductionHypothesis
              (List.isChain_cons_cons.mp chained).2 ?_ ?_
            · intro node member
              exact nexts node (by simp [member])
            · intro node member
              exact prevs node (List.mem_of_mem_tail member)

@[simp] theorem dropLast_around :
    (around head items).dropLast = head :: items :=
  List.dropLast_concat

@[simp] theorem tail_around :
    (around head items).tail = items ++ [head] :=
  rfl

/-- A ring stays one when its nodes keep their links. -/
theorem Ring.congr
    {others : Links Node}
    (ring : links.Ring head items)
    (nexts :
      ∀ node ∈ head :: items, others.next node = links.next node)
    (prevs :
      ∀ node ∈ head :: items, others.prev node = links.prev node) :
    others.Ring head items where
  distinct := ring.distinct
  chained :=
    ring.chained.congr
      (fun node member => nexts node (by simpa using member))
      (fun node member => prevs node (by simpa [or_comm] using member))

/-- The left neighbour at a seam is the head or an item. -/
theorem getLastD_mem (leading trailing : List Node) :
    leading.getLastD head ∈ head :: (leading ++ trailing) := by
  rcases List.eq_nil_or_concat leading with rfl | ⟨rest, last, rfl⟩
  · simp
  · simp

/-- The right neighbour at a seam is the head or an item. -/
theorem headD_mem (leading trailing : List Node) :
    trailing.headD head ∈ head :: (leading ++ trailing) := by
  cases trailing <;> simp

/-- A node between two parts of the sequence is linked to its neighbours. -/
theorem Chained.adjacent
    {leading trailing : List Node}
    {left right : Node}
    (chained :
      links.Chained (leading ++ left :: right :: trailing)) :
    links.Adjacent left right :=
  (List.isChain_append_cons_cons.mp chained).2.1

/-- The node after the head is the first item, or the head itself. -/
theorem Ring.next_head (ring : links.Ring head items) :
    links.next head = some (items.headD head) := by
  cases items with
  | nil =>
      have closed : links.Chained ([] ++ head :: head :: []) :=
        ring.chained
      exact closed.adjacent.1
  | cons first rest =>
      have between :
          links.Chained ([] ++ head :: first :: (rest ++ [head])) :=
        ring.chained
      exact between.adjacent.1

/-- The node before the head is the last item, or the head itself. -/
theorem Ring.prev_head (ring : links.Ring head items) :
    links.prev head = some (items.getLastD head) := by
  rcases List.eq_nil_or_concat items with rfl | ⟨rest, last, rfl⟩
  · have closed : links.Chained ([] ++ head :: head :: []) :=
      ring.chained
    exact closed.adjacent.2
  · have shape :
        around head (rest.concat last) =
          (head :: rest) ++ last :: head :: [] := by
      simp [around]
    have chained := ring.chained
    rw [shape] at chained
    simpa using chained.adjacent.2

/-- The head closes the ring of any item: its successor is a known node. -/
theorem Ring.next_item
    {leading trailing : List Node}
    {node : Node}
    (ring : links.Ring head (leading ++ node :: trailing)) :
    links.next node = some (trailing.headD head) := by
  cases trailing with
  | nil =>
      have shape :
          around head (leading ++ [node]) =
            (head :: leading) ++ node :: head :: [] := by
        simp [around]
      have chained := ring.chained
      rw [shape] at chained
      exact chained.adjacent.1
  | cons after rest =>
      have shape :
          around head (leading ++ node :: after :: rest) =
            (head :: leading) ++ node :: after :: (rest ++ [head]) := by
        simp [around]
      have chained := ring.chained
      rw [shape] at chained
      exact chained.adjacent.1

/-- The predecessor of an item is the item before it, or the head. -/
theorem Ring.prev_item
    {leading trailing : List Node}
    {node : Node}
    (ring : links.Ring head (leading ++ node :: trailing)) :
    links.prev node = some (leading.getLastD head) := by
  rcases List.eq_nil_or_concat leading with rfl | ⟨rest, last, rfl⟩
  · have first :
        links.Chained ([] ++ head :: node :: (trailing ++ [head])) :=
      ring.chained
    exact first.adjacent.2
  · have shape :
        around head (rest.concat last ++ node :: trailing) =
          (head :: rest) ++ last :: node :: (trailing ++ [head]) := by
      simp [around]
    have chained := ring.chained
    rw [shape] at chained
    simpa using chained.adjacent.2

/-- The node before a seam is the last item before it, or the head. -/
theorem Ring.prev_seam
    {leading trailing : List Node}
    (ring : links.Ring head (leading ++ trailing)) :
    links.prev (trailing.headD head) =
      some (leading.getLastD head) := by
  cases trailing with
  | nil =>
      rw [List.append_nil] at ring
      exact ring.prev_head
  | cons node trailing =>
      exact ring.prev_item

/-- The items of a ring split into the chains before and after a seam. -/
theorem Ring.seam
    {leading trailing : List Node}
    (ring : links.Ring head (leading ++ trailing)) :
    links.Chained (head :: leading) ∧
      links.Chained (trailing ++ [head]) := by
  have shape :
      around head (leading ++ trailing) =
        (head :: leading) ++ (trailing ++ [head]) := by
    simp [around]
  have chained := ring.chained
  rw [shape] at chained
  exact ⟨chained.left_of_append, chained.right_of_append⟩

/-- The chain before a seam ends in its last node. -/
theorem cons_eq_dropLast_append (head : Node) (leading : List Node) :
    head :: leading =
      (head :: leading).dropLast ++ [leading.getLastD head] := by
  rcases List.eq_nil_or_concat leading with rfl | ⟨rest, last, rfl⟩
  · rfl
  · rw [List.concat_eq_append, List.getLastD_concat,
      ← List.cons_append, List.dropLast_concat]

/-- The chain after a seam starts with its first node. -/
theorem append_eq_headD_cons (head : Node) (trailing : List Node) :
    trailing ++ [head] =
      trailing.headD head :: (trailing ++ [head]).tail := by
  cases trailing <;> rfl

end Reading

section Editing

variable [DecidableEq Node]

/-- Set one forward link. -/
def setNext
    (links : Links Node)
    (node : Node)
    (value : Option Node) : Links Node :=
  { links with next := Function.update links.next node value }

/-- Set one backward link. -/
def setPrev
    (links : Links Node)
    (node : Node)
    (value : Option Node) : Links Node :=
  { links with prev := Function.update links.prev node value }

/-- Point two nodes at each other. -/
def join (links : Links Node) (left right : Node) : Links Node :=
  (links.setNext left (some right)).setPrev right (some left)

variable {links : Links Node} {head : Node}

@[simp] theorem next_setPrev (node : Node) (value : Option Node) :
    (links.setPrev node value).next = links.next :=
  rfl

@[simp] theorem prev_setNext (node : Node) (value : Option Node) :
    (links.setNext node value).prev = links.prev :=
  rfl

@[simp] theorem next_setNext (node : Node) (value : Option Node) :
    (links.setNext node value).next =
      Function.update links.next node value :=
  rfl

@[simp] theorem prev_setPrev (node : Node) (value : Option Node) :
    (links.setPrev node value).prev =
      Function.update links.prev node value :=
  rfl

/-- Joined nodes are adjacent. -/
theorem adjacent_join (left right : Node) :
    (links.join left right).Adjacent left right := by
  simp [join, Adjacent]

/-- Joining two nodes at a seam needs only the chains on both sides. -/
theorem Chained.join
    {leading trailing : List Node}
    {left right : Node}
    (before : links.Chained (leading ++ [left]))
    (after : links.Chained (right :: trailing))
    (firsts : (leading ++ left :: right :: trailing).dropLast.Nodup)
    (seconds : (leading ++ left :: right :: trailing).tail.Nodup) :
    (links.join left right).Chained
      (leading ++ left :: right :: trailing) := by
  have firstShape :
      (leading ++ left :: right :: trailing).dropLast =
        leading ++ left :: (right :: trailing).dropLast := by
    rw [List.dropLast_append_of_ne_nil (by simp)]
    rfl
  have secondShape :
      (leading ++ left :: right :: trailing).tail =
        (leading ++ [left]).tail ++ right :: trailing := by
    cases leading <;> simp
  rw [firstShape] at firsts
  rw [secondShape] at seconds
  have leftOnce :=
    (List.nodup_cons.mp (List.nodup_middle.mp firsts)).1
  have rightOnce :=
    (List.nodup_cons.mp (List.nodup_middle.mp seconds)).1
  refine List.isChain_append_cons_cons.mpr
    ⟨before.congr ?_ ?_, adjacent_join left right,
      after.congr ?_ ?_⟩
  · intro node member
    rw [List.dropLast_concat] at member
    have different : node ≠ left := by
      rintro rfl
      exact leftOnce (List.mem_append_left _ member)
    simp [Links.join, different]
  · intro node member
    have different : node ≠ right := by
      rintro rfl
      exact rightOnce (List.mem_append_left _ member)
    simp [Links.join, different]
  · intro node member
    have different : node ≠ left := by
      rintro rfl
      exact leftOnce (List.mem_append_right _ member)
    simp [Links.join, different]
  · intro node member
    have different : node ≠ right := by
      rintro rfl
      exact rightOnce (List.mem_append_right _ member)
    simp [Links.join, different]

/-- Link a node in between two neighbours. -/
def splice (links : Links Node) (left node right : Node) : Links Node :=
  (links.join left node).join node right

/-- Join the neighbours of a node and clear its own links. -/
def unsplice (links : Links Node) (left node right : Node) : Links Node :=
  ((links.join left right).setNext node none).setPrev node none

/-- Linking a node in touches the links of three nodes. -/
theorem splice_elsewhere
    {left node right other : Node}
    (notLeft : other ≠ left)
    (notNode : other ≠ node)
    (notRight : other ≠ right) :
    (links.splice left node right).next other = links.next other ∧
      (links.splice left node right).prev other =
        links.prev other := by
  simp [splice, join, notLeft, notNode, notRight]

/-- Unlinking a node touches the links of three nodes. -/
theorem unsplice_elsewhere
    {left node right other : Node}
    (notLeft : other ≠ left)
    (notNode : other ≠ node)
    (notRight : other ≠ right) :
    (links.unsplice left node right).next other = links.next other ∧
      (links.unsplice left node right).prev other =
        links.prev other := by
  simp [unsplice, join, notLeft, notNode, notRight]

/-- A fresh node is linked in between two neighbours of a ring. -/
theorem Ring.splice
    {leading trailing : List Node}
    {node : Node}
    (ring : links.Ring head (leading ++ trailing))
    (fresh : node ∉ head :: (leading ++ trailing)) :
    (links.splice (leading.getLastD head) node
        (trailing.headD head)).Ring
      head (leading ++ node :: trailing) := by
  have perm :
      (head :: (leading ++ node :: trailing)).Perm
        (node :: head :: (leading ++ trailing)) :=
    (List.perm_middle.cons head).trans (List.Perm.swap _ _ _)
  have distinct : (head :: (leading ++ node :: trailing)).Nodup :=
    (List.nodup_cons.mpr ⟨fresh, ring.distinct⟩).perm perm.symm
  have rotated : (leading ++ node :: trailing ++ [head]).Nodup :=
    distinct.perm (List.perm_append_singleton _ _).symm
  refine ⟨distinct, ?_⟩
  obtain ⟨before, after⟩ := ring.seam
  have lastShape := cons_eq_dropLast_append head leading
  have firstShape := append_eq_headD_cons head trailing
  generalize (head :: leading).dropLast = front at lastShape
  generalize leading.getLastD head = left at lastShape ⊢
  generalize (trailing ++ [head]).tail = back at firstShape
  generalize trailing.headD head = right at firstShape ⊢
  have whole :
      around head (leading ++ node :: trailing) =
        (front ++ [left]) ++ node :: right :: back := by
    rw [← lastShape, ← firstShape]
    simp [around]
  have upTo : front ++ [left, node] = head :: (leading ++ [node]) := by
    rw [List.append_cons, ← lastShape, List.cons_append]
  -- First the node behind its left neighbour, then the rest behind the node.
  have joined :
      (links.join left node).Chained (front ++ [left, node]) := by
    apply Chained.join
    · rwa [← lastShape]
    · exact .singleton node
    · rw [upTo, ← List.cons_append, List.dropLast_concat]
      exact (List.nodup_append.mp ring.distinct).1
    · rw [upTo]
      exact rotated.sublist
        (((List.sublist_append_left [node] trailing).append_left
          leading).trans (List.sublist_append_left _ _))
  have kept : (links.join left node).Chained (right :: back) := by
    rw [← firstShape]
    refine after.congr ?_ ?_
    · intro other member
      rw [List.dropLast_concat] at member
      have leftBefore : left ∈ head :: leading := by
        rw [lastShape]
        exact List.mem_append_right _ (List.mem_singleton_self left)
      have different : other ≠ left := by
        rintro rfl
        exact List.disjoint_of_nodup_append ring.distinct
          leftBefore member
      simp [join, different]
    · intro other member
      have among : other ∈ trailing ++ [head] :=
        List.mem_of_mem_tail member
      have different : other ≠ node := by
        rintro rfl
        apply fresh
        simp only [List.mem_append, List.mem_singleton] at among
        simp only [List.mem_cons, List.mem_append]
        tauto
      simp [join, different]
  rw [whole]
  apply Chained.join
  · rwa [List.append_assoc]
  · exact kept
  · rw [← whole, dropLast_around]
    exact distinct
  · rw [← whole, tail_around]
    exact rotated

/-- Clearing the links of a node outside a chain changes nothing in it. -/
theorem Ring.unlink
    {items : List Node}
    {node : Node}
    (ring : links.Ring head items)
    (outside : node ∉ head :: items) :
    ((links.setNext node none).setPrev node none).Ring head items := by
  refine ring.congr ?_ ?_
  · intro other member
    have different : other ≠ node := by
      rintro rfl
      exact outside member
    simp [different]
  · intro other member
    have different : other ≠ node := by
      rintro rfl
      exact outside member
    simp [different]

/-- A node is unlinked from between its neighbours in a ring. -/
theorem Ring.unsplice
    {leading trailing : List Node}
    {node : Node}
    (ring : links.Ring head (leading ++ node :: trailing)) :
    (links.unsplice (leading.getLastD head) node
        (trailing.headD head)).Ring
      head (leading ++ trailing) := by
  have perm :
      (head :: (leading ++ node :: trailing)).Perm
        (node :: head :: (leading ++ trailing)) :=
    (List.perm_middle.cons head).trans (List.Perm.swap _ _ _)
  obtain ⟨outside, distinct⟩ :=
    List.nodup_cons.mp (ring.distinct.perm perm)
  have rotated : (leading ++ trailing ++ [head]).Nodup :=
    distinct.perm (List.perm_append_singleton _ _).symm
  obtain ⟨before, behind⟩ := ring.seam
  have after : links.Chained (trailing ++ [head]) := behind.tail
  refine Ring.unlink ⟨distinct, ?_⟩ outside
  have lastShape := cons_eq_dropLast_append head leading
  have firstShape := append_eq_headD_cons head trailing
  generalize (head :: leading).dropLast = front at lastShape
  generalize leading.getLastD head = left at lastShape ⊢
  generalize (trailing ++ [head]).tail = back at firstShape
  generalize trailing.headD head = right at firstShape ⊢
  have whole :
      around head (leading ++ trailing) =
        front ++ left :: right :: back := by
    rw [List.append_cons, ← lastShape, ← firstShape]
    simp [around]
  rw [whole]
  apply Chained.join
  · rwa [← lastShape]
  · rwa [← firstShape]
  · rw [← whole, dropLast_around]
    exact distinct
  · rw [← whole, tail_around]
    exact rotated

end Editing

/-!
### Several rings in one memory
-/

/-- Rings that share no node, one for each index. -/
structure Rings
    {Index : Type}
    (links : Links Node)
    (head : Index → Node)
    (items : Index → List Node) : Prop where
  ring : ∀ index, links.Ring (head index) (items index)
  apart :
    ∀ {index other},
      index ≠ other →
      List.Disjoint (head index :: items index)
        (head other :: items other)

namespace Rings

variable
  {Index : Type}
  [DecidableEq Index]
  {links edited : Links Node}
  {head : Index → Node}
  {items : Index → List Node}
  {index : Index}
  {changed : List Node}

/-- An edit that keeps to one ring leaves the other rings alone. -/
theorem edit
    (rings : links.Rings head items)
    (ring : edited.Ring (head index) changed)
    (elsewhere :
      ∀ other ≠ index, ∀ node ∈ head other :: items other,
        node ∉ head index :: changed ∧
          edited.next node = links.next node ∧
          edited.prev node = links.prev node) :
    edited.Rings head (Function.update items index changed) where
  ring other := by
    by_cases same : other = index
    · subst same
      simpa using ring
    · rw [Function.update_of_ne same]
      exact (rings.ring other).congr
        (fun node member => (elsewhere other same node member).2.1)
        (fun node member => (elsewhere other same node member).2.2)
  apart {first second} different := by
    by_cases firstSame : first = index
    · subst firstSame
      rw [Function.update_self,
        Function.update_of_ne different.symm]
      intro node own member
      exact (elsewhere second different.symm node member).1 own
    · rw [Function.update_of_ne firstSame]
      by_cases secondSame : second = index
      · subst secondSame
        rw [Function.update_self]
        intro node member own
        exact (elsewhere first firstSame node member).1 own
      · rw [Function.update_of_ne secondSame]
        exact rings.apart different

variable [DecidableEq Node]

/-- A node that is in no ring is linked into one of them. -/
theorem splice
    {leading trailing : List Node}
    {node : Node}
    (rings : links.Rings head items)
    (shape : items index = leading ++ trailing)
    (fresh : ∀ other, node ∉ head other :: items other) :
    (links.splice (leading.getLastD (head index)) node
        (trailing.headD (head index))).Rings head
      (Function.update items index (leading ++ node :: trailing)) := by
  have own := rings.ring index
  have freshHere := fresh index
  rw [shape] at own freshHere
  refine rings.edit (own.splice freshHere) ?_
  intro other different query member
  have outside : query ∉ head index :: (leading ++ trailing) := by
    rw [← shape]
    exact rings.apart different member
  have notNode : query ≠ node := by
    rintro rfl
    exact fresh other member
  have notLeft : query ≠ leading.getLastD (head index) := by
    rintro rfl
    exact outside (getLastD_mem leading trailing)
  have notRight : query ≠ trailing.headD (head index) := by
    rintro rfl
    exact outside (headD_mem leading trailing)
  refine ⟨?_, splice_elsewhere notLeft notNode notRight⟩
  simp only [List.mem_cons, List.mem_append] at outside ⊢
  tauto

/-- A node is unlinked from its ring. -/
theorem unsplice
    {leading trailing : List Node}
    {node : Node}
    (rings : links.Rings head items)
    (shape : items index = leading ++ node :: trailing) :
    (links.unsplice (leading.getLastD (head index)) node
        (trailing.headD (head index))).Rings head
      (Function.update items index (leading ++ trailing)) := by
  have own := rings.ring index
  rw [shape] at own
  refine rings.edit own.unsplice ?_
  intro other different query member
  have outside :
      query ∉ head index :: (leading ++ node :: trailing) := by
    rw [← shape]
    exact rings.apart different member
  have remaining : query ∉ head index :: (leading ++ trailing) := by
    simp only [List.mem_cons, List.mem_append] at outside ⊢
    tauto
  have notNode : query ≠ node := by
    rintro rfl
    exact outside (by simp)
  have notLeft : query ≠ leading.getLastD (head index) := by
    rintro rfl
    exact remaining (getLastD_mem leading trailing)
  have notRight : query ≠ trailing.headD (head index) := by
    rintro rfl
    exact remaining (headD_mem leading trailing)
  exact ⟨remaining, unsplice_elsewhere notLeft notNode notRight⟩

end Rings

/-!
### Walking around a ring
-/

variable [DecidableEq Node] {links : Links Node} {head : Node}

end Links

end Foundation
