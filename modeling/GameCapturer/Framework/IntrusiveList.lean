import GameCapturer.Foundation.LinkedRing
import GameCapturer.Foundation.StepFunction
import Mathlib.Data.Fintype.Basic

namespace GameCapturer

open Foundation Foundation.StepFunction

/-!
# The intrusive list template

`list.h` threads the providers and the addresses of the framework through
`LIST_ENTRY` fields inside the objects.  An item is named here by its entry, so
that `item2entry` and `entry2item` are the identity.  Following a null link
faults, which is `none` below.  The asserts of the template are compiled out
and are therefore obligations of the callers, stated by the abstract lists.
-/

namespace IntrusiveList

variable {Entry : Type} [DecidableEq Entry]

/-- `List::List` -/
def construct (links : Links Entry) (head : Entry) : Links Entry :=
  (links.setNext head (some head)).setPrev head (some head)

/-- `List::InsertBefore` -/
def insertBefore?
    (links : Links Entry)
    (next entry : Entry) : Option (Links Entry) := do
  let links := links.setNext entry (some next)
  let links := links.setPrev entry (links.prev next)
  let previous ← links.prev next
  let links := links.setNext previous (some entry)
  return links.setPrev next (some entry)

/-- `List::InsertAfter` -/
def insertAfter?
    (links : Links Entry)
    (previous entry : Entry) : Option (Links Entry) := do
  let links := links.setPrev entry (some previous)
  let links := links.setNext entry (links.next previous)
  let next ← links.next previous
  let links := links.setPrev next (some entry)
  return links.setNext previous (some entry)

/-- `List::RemoveEntry` -/
def removeEntry
    (links : Links Entry)
    (entry : Entry) : Option (Links Entry) := do
  let previous ← links.prev entry
  let next ← links.next entry
  let links := links.setNext previous (some next)
  let links := links.setPrev next (some previous)
  let links := links.setPrev entry none
  return links.setNext entry none

/-- `List::empty` -/
def empty (links : Links Entry) (head : Entry) : Bool :=
  links.next head = some head

/-- `List::push_front` -/
def pushFront?
    (links : Links Entry)
    (head item : Entry) : Option (Links Entry) :=
  insertAfter? links head item

/-- `List::push_back` -/
def pushBack?
    (links : Links Entry)
    (head item : Entry) : Option (Links Entry) :=
  insertBefore? links head item

/-- `List::pop_front` -/
def popFront?
    (links : Links Entry)
    (head : Entry) : Option (Links Entry) := do
  removeEntry links (← links.next head)

/-- `List::pop_back` -/
def popBack?
    (links : Links Entry)
    (head : Entry) : Option (Links Entry) := do
  removeEntry links (← links.prev head)

/-- `List::insert`: link an item in before the iterator. -/
def insert?
    (links : Links Entry)
    (position item : Entry) : Option (Links Entry) :=
  insertBefore? links position item

/-- `List::erase`: unlink the iterator's item and return the next iterator. -/
def erase?
    (links : Links Entry)
    (position : Entry) : Option (Entry × Links Entry) := do
  let next ← links.next position
  return (next, ← removeEntry links position)

/-- `List::remove` -/
def remove?
    (links : Links Entry)
    (item : Entry) : Option (Links Entry) :=
  removeEntry links item

section Edits

variable
  {links : Links Entry}
  {left right entry : Entry}

/-- Inserting before a node links the entry in behind its predecessor. -/
theorem insertBefore?_eq_splice
    (previous : links.prev right = some left)
    (notLeft : entry ≠ left)
    (notRight : entry ≠ right) :
    insertBefore? links right entry =
      some (links.splice left entry right) := by
  have unmoved : right ≠ entry := notRight.symm
  simp [insertBefore?, Links.splice, Links.join, Links.setNext,
    Links.setPrev, previous, unmoved,
    Function.update_comm notLeft]

/-- Inserting after a node links the entry in before its successor. -/
theorem insertAfter?_eq_splice
    (next : links.next left = some right)
    (notLeft : entry ≠ left) :
    insertAfter? links left entry =
      some (links.splice left entry right) := by
  have unmoved : left ≠ entry := notLeft.symm
  simp [insertAfter?, Links.splice, Links.join, Links.setNext,
    Links.setPrev, next, unmoved,
    Function.update_comm notLeft]

/-- Removing an entry joins its neighbours. -/
theorem removeEntry_eq_unsplice
    (previous : links.prev entry = some left)
    (next : links.next entry = some right) :
    removeEntry links entry =
      some (links.unsplice left entry right) := by
  simp [removeEntry, previous, next, Links.unsplice, Links.join,
    Links.setNext, Links.setPrev]

end Edits

/-!
### Operations on lists that share the link memory
-/

section Lists

variable
  {Index : Type}
  {links : Links Entry}
  {head : Index → Entry}
  {items : Index → List Entry}
  {index : Index}
  {leading trailing : List Entry}
  {item : Entry}

variable [DecidableEq Index]

/-- Inserting before an iterator splits the list at the iterator. -/
theorem insertBefore?_rings
    (rings : links.Rings head items)
    (shape : items index = leading ++ trailing)
    (free : ∀ other, item ∉ head other :: items other) :
    ∃ edited,
      insertBefore? links (trailing.headD (head index)) item =
          some edited ∧
        edited.Rings head
          (Function.update items index
            (leading ++ item :: trailing)) := by
  have own := rings.ring index
  have freeHere := free index
  rw [shape] at own freeHere
  have previous := own.prev_seam
  have notLeft : item ≠ leading.getLastD (head index) := by
    rintro rfl
    exact freeHere (Links.getLastD_mem leading trailing)
  have notRight : item ≠ trailing.headD (head index) := by
    rintro rfl
    exact freeHere (Links.headD_mem leading trailing)
  exact ⟨_, insertBefore?_eq_splice previous notLeft notRight,
    rings.splice shape free⟩

/-- Inserting after the head makes the item the first one. -/
theorem pushFront?_rings
    (rings : links.Rings head items)
    (free : ∀ other, item ∉ head other :: items other) :
    ∃ edited,
      pushFront? links (head index) item = some edited ∧
        edited.Rings head
          (Function.update items index (item :: items index)) := by
  have notHead : item ≠ head index := by
    rintro rfl
    exact free index List.mem_cons_self
  have shape : items index = [] ++ items index := rfl
  exact ⟨_,
    insertAfter?_eq_splice (rings.ring index).next_head notHead,
    rings.splice shape free⟩

/-- Inserting before the head makes the item the last one. -/
theorem pushBack?_rings
    (rings : links.Rings head items)
    (free : ∀ other, item ∉ head other :: items other) :
    ∃ edited,
      pushBack? links (head index) item = some edited ∧
        edited.Rings head
          (Function.update items index (items index ++ [item])) :=
  have shape : items index = items index ++ [] :=
    (List.append_nil _).symm
  insertBefore?_rings rings shape free

/-- Removing an item keeps the order of the others. -/
theorem removeEntry_rings
    (rings : links.Rings head items)
    (shape : items index = leading ++ item :: trailing) :
    ∃ edited,
      removeEntry links item = some edited ∧
        edited.Rings head
          (Function.update items index (leading ++ trailing)) := by
  have own := rings.ring index
  rw [shape] at own
  exact ⟨_,
    removeEntry_eq_unsplice own.prev_item own.next_item,
    rings.unsplice shape⟩

/-- Popping at the front drops the first item. -/
theorem popFront?_rings
    (rings : links.Rings head items)
    (shape : items index = item :: trailing) :
    ∃ edited,
      popFront? links (head index) = some edited ∧
        edited.Rings head
          (Function.update items index trailing) := by
  have first := (rings.ring index).next_head
  rw [shape, List.headD_cons] at first
  have split : items index = [] ++ item :: trailing := shape
  obtain ⟨edited, removed, kept⟩ := removeEntry_rings rings split
  refine ⟨edited, ?_, kept⟩
  simp [popFront?, first, removed]

/-- Popping at the back drops the last item. -/
theorem popBack?_rings
    (rings : links.Rings head items)
    (shape : items index = leading ++ [item]) :
    ∃ edited,
      popBack? links (head index) = some edited ∧
        edited.Rings head
          (Function.update items index leading) := by
  have last := (rings.ring index).prev_head
  rw [shape, List.getLastD_concat] at last
  obtain ⟨edited, removed, kept⟩ := removeEntry_rings rings shape
  rw [List.append_nil] at kept
  refine ⟨edited, ?_, kept⟩
  simp [popBack?, last, removed]

/-!
### The loops of the framework over a list
-/

end Lists

/-!
### Lists as lists

What the template is for: every list is a sequence of items, no item is in two
lists, and an operation is called only where its asserts hold.
-/

section Refinement

variable {Index : Type} [DecidableEq Index]

/-- A call of the template on one of several lists. -/
inductive Action (Index Entry : Type) where
  | pushFront (list : Index) (item : Entry)
  | pushBack (list : Index) (item : Entry)
  | popFront (list : Index)
  | popBack (list : Index)
  | insert (list : Index) (position item : Entry)
  | erase (list : Index) (position : Entry)
  | remove (list : Index) (item : Entry)
  deriving Repr, DecidableEq

/-- The calls on the link memory; `none` is a fault. -/
def step?
    (head : Index → Entry) :
    StepFunction (Links Entry) (Action Index Entry)
  | links, .pushFront list item => pushFront? links (head list) item
  | links, .pushBack list item => pushBack? links (head list) item
  | links, .popFront list => popFront? links (head list)
  | links, .popBack list => popBack? links (head list)
  | links, .insert _ position item => insert? links position item
  | links, .erase _ position => (erase? links position).map Prod.snd
  | links, .remove _ item => remove? links item

/-- An item that is in no list and is no list's head. -/
def Free
    (head : Index → Entry)
    (lists : Index → List Entry)
    (item : Entry) : Prop :=
  ∀ index, item ∉ head index :: lists index

instance
    [Fintype Index]
    (head : Index → Entry)
    (lists : Index → List Entry)
    (item : Entry) :
    Decidable (Free head lists item) :=
  inferInstanceAs (Decidable (∀ _, _))

/-- Insert an item before a position, at the end if it is not an item. -/
def insertAt
    (position item : Entry)
    (items : List Entry) : List Entry :=
  items.takeWhile (· ≠ position) ++
    item :: items.dropWhile (· ≠ position)

/-- The same calls on sequences; `none` means that an assert would fail. -/
def specStep?
    [Fintype Index]
    (head : Index → Entry) :
    StepFunction (Index → List Entry) (Action Index Entry)
  | lists, .pushFront list item =>
      if Free head lists item then
        some (Function.update lists list (item :: lists list))
      else
        none
  | lists, .pushBack list item =>
      if Free head lists item then
        some (Function.update lists list (lists list ++ [item]))
      else
        none
  | lists, .popFront list =>
      if lists list ≠ [] then
        some (Function.update lists list (lists list).tail)
      else
        none
  | lists, .popBack list =>
      if lists list ≠ [] then
        some (Function.update lists list (lists list).dropLast)
      else
        none
  | lists, .insert list position item =>
      if Free head lists item ∧
          position ∈ head list :: lists list then
        some (Function.update lists list
          (insertAt position item (lists list)))
      else
        none
  | lists, .erase list position =>
      if position ∈ lists list then
        some (Function.update lists list
          ((lists list).erase position))
      else
        none
  | lists, .remove list item =>
      if item ∈ lists list then
        some (Function.update lists list ((lists list).erase item))
      else
        none

variable
  {head : Index → Entry}
  {links : Links Entry}
  {lists : Index → List Entry}
  {list : Index}
  {item position : Entry}

/-- The part of a list from a position on starts at that position. -/
theorem headD_dropWhile
    {first : Entry}
    {items : List Entry}
    (valid : position ∈ first :: items) :
    (items.dropWhile (· ≠ position)).headD first = position := by
  induction items with
  | nil =>
      exact (List.mem_singleton.mp valid).symm
  | cons item rest inductionHypothesis =>
      by_cases found : item = position
      · simp [found]
      · have later : position ∈ first :: rest := by
          simp only [List.mem_cons] at valid ⊢
          have notHere : position ≠ item := Ne.symm found
          tauto
        simpa [found] using inductionHypothesis later

/-- Removing an item that is in a list erases it there. -/
theorem removeEntry_of_mem
    (rings : links.Rings head lists)
    (member : item ∈ lists list) :
    ∃ edited,
      removeEntry links item = some edited ∧
        edited.Rings head
          (Function.update lists list ((lists list).erase item)) := by
  obtain ⟨leading, trailing, shape⟩ := List.append_of_mem member
  have distinct :=
    (List.nodup_cons.mp (rings.ring list).distinct).2
  have before : item ∉ leading := by
    rw [shape, List.nodup_middle] at distinct
    exact fun early =>
      (List.nodup_cons.mp distinct).1
        (List.mem_append_left _ early)
  have erased : (lists list).erase item = leading ++ trailing := by
    rw [shape, List.erase_append_right _ before,
      List.erase_cons_head]
  rw [erased]
  exact removeEntry_rings rings shape

/-- Erasing at an iterator removes its item and returns a valid iterator. -/
theorem erase?_of_mem
    (rings : links.Rings head lists)
    (member : item ∈ lists list) :
    ∃ next edited,
      erase? links item = some (next, edited) ∧
        next ∈ head list :: lists list ∧
        edited.Rings head
          (Function.update lists list ((lists list).erase item)) := by
  obtain ⟨leading, trailing, shape⟩ := List.append_of_mem member
  have own := rings.ring list
  rw [shape] at own
  obtain ⟨edited, removed, kept⟩ := removeEntry_of_mem rings member
  refine ⟨trailing.headD (head list), edited, ?_, ?_, kept⟩
  · simp [erase?, own.next_item, removed]
  · rw [shape, List.append_cons]
    exact Links.headD_mem (leading ++ [item]) trailing

/-- Every call that meets its asserts succeeds and keeps the rings. -/
theorem step?_rings
    [Fintype Index]
    {next : Index → List Entry}
    {action : Action Index Entry}
    (rings : links.Rings head lists)
    (stepped : specStep? head lists action = some next) :
    ∃ edited,
      step? head links action = some edited ∧
        edited.Rings head next := by
  cases action with
  | pushFront list item =>
      obtain ⟨free, ⟨⟩⟩ := Option.ite_none_right_eq_some.mp stepped
      exact pushFront?_rings rings free
  | pushBack list item =>
      obtain ⟨free, ⟨⟩⟩ := Option.ite_none_right_eq_some.mp stepped
      exact pushBack?_rings rings free
  | popFront list =>
      obtain ⟨occupied, ⟨⟩⟩ :=
        Option.ite_none_right_eq_some.mp stepped
      obtain ⟨first, rest, shape⟩ := List.exists_cons_of_ne_nil occupied
      rw [shape]
      exact popFront?_rings rings shape
  | popBack list =>
      obtain ⟨occupied, ⟨⟩⟩ :=
        Option.ite_none_right_eq_some.mp stepped
      exact popBack?_rings rings
        (List.dropLast_append_getLast occupied).symm
  | insert list position item =>
      obtain ⟨⟨free, valid⟩, ⟨⟩⟩ :=
        Option.ite_none_right_eq_some.mp stepped
      have split := List.takeWhile_append_dropWhile
        (p := (· ≠ position)) (l := lists list)
      have inserted := insertBefore?_rings rings split.symm free
      rwa [headD_dropWhile valid] at inserted
  | erase list position =>
      obtain ⟨member, ⟨⟩⟩ :=
        Option.ite_none_right_eq_some.mp stepped
      obtain ⟨after, edited, erased, -, kept⟩ :=
        erase?_of_mem rings member
      exact ⟨edited, by simp [step?, erased], kept⟩
  | remove list item =>
      obtain ⟨member, ⟨⟩⟩ :=
        Option.ite_none_right_eq_some.mp stepped
      exact removeEntry_of_mem rings member

/-- The link memory simulates the sequences, call by call. -/
def simulation
    [Fintype Index]
    (head : Index → Entry) :
    Simulation (specStep? head) (step? head) (fun _ _ => True)
      (fun _ action => [action]) where
  related lists links := links.Rings head lists
  matched := by
    intro lists next links action rings _ stepped
    obtain ⟨edited, answered, kept⟩ := step?_rings rings stepped
    exact ⟨edited, run?_cons_eq_some_iff.mpr ⟨edited, answered, rfl⟩,
      kept⟩

end Refinement

end IntrusiveList

end GameCapturer
