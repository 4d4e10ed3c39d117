import Mathlib.Data.List.Forall2
import Mathlib.Data.List.Nodup

/-!
# Lists of objects with distinct keys

A table of objects is a list whose items carry a key, such as the address of the
object.  An operation updates the one item with a given key, or transforms every
item without touching keys.  `total` adds up a weight of the items with one key.
-/

namespace Foundation

namespace KeyedList

variable {Item Key : Type} [DecidableEq Key]

/-- Put an item where its key stands. -/
def replace
    (key : Item → Key)
    (item : Item)
    (items : List Item) : List Item :=
  items.map fun other =>
    if key other = key item then item else other

/-- The sum of the weights of the items with a key. -/
def total
    (key : Item → Key)
    (weight : Item → Nat)
    (wanted : Key) : List Item → Nat
  | [] => 0
  | item :: rest =>
      (if key item = wanted then weight item else 0) +
        total key weight wanted rest

section Items

variable
  {key : Item → Key}
  {weight : Item → Nat}
  {wanted : Key}
  {item found : Item}
  {items others : List Item}

/-- With distinct keys, an item is found by its own key. -/
theorem find?_eq_some_iff
    (distinct : (items.map key).Nodup) :
    items.find? (fun item => key item = wanted) = some found ↔
      found ∈ items ∧ key found = wanted := by
  constructor
  · intro search
    exact ⟨List.mem_of_find?_eq_some search,
      by simpa using List.find?_some search⟩
  · rintro ⟨member, rfl⟩
    induction items with
    | nil =>
        contradiction
    | cons first rest inductionHypothesis =>
        rw [List.map_cons, List.nodup_cons] at distinct
        rcases List.mem_cons.mp member with rfl | later
        · simp
        · have differs : key first ≠ key found := by
            intro same
            exact distinct.1 (same ▸ List.mem_map_of_mem later)
          rw [List.find?_cons_of_neg (by simpa using differs)]
          exact inductionHypothesis distinct.2 later

/-- Replacing an item keeps the keys. -/
theorem keys_replace :
    (replace key item items).map key = items.map key := by
  unfold replace
  rw [List.map_map]
  apply List.map_congr_left
  intro other _
  simp only [Function.comp_apply]
  split
  · exact Eq.symm ‹_›
  · rfl

/-- The items of other keys stay. -/
theorem replace_of_mem
    (present : found ∈ items) :
    (if key found = key item then item else found) ∈
      replace key item items :=
  List.mem_map_of_mem present

/-- Nothing is counted for a key that no item has. -/
theorem total_of_not_mem (absent : wanted ∉ items.map key) :
    total key weight wanted items = 0 := by
  induction items with
  | nil =>
      rfl
  | cons first rest inductionHypothesis =>
      rw [List.map_cons, List.mem_cons, not_or] at absent
      rw [total, if_neg (Ne.symm absent.1),
        inductionHypothesis absent.2]

/-- With distinct keys, the total of a key is the weight of its item. -/
theorem total_of_mem
    (distinct : (items.map key).Nodup)
    (present : item ∈ items) :
    total key weight (key item) items = weight item := by
  induction items with
  | nil =>
      contradiction
  | cons first rest inductionHypothesis =>
      rw [List.map_cons, List.nodup_cons] at distinct
      rcases List.mem_cons.mp present with rfl | later
      · rw [total, if_pos rfl, total_of_not_mem distinct.1,
          Nat.add_zero]
      · have differs : key first ≠ key item := by
          intro same
          exact distinct.1 (same ▸ List.mem_map_of_mem later)
        rw [total, if_neg differs, Nat.zero_add,
          inductionHypothesis distinct.2 later]

/-- Replacing an item changes the total of its own key only. -/
theorem total_replace
    (distinct : (items.map key).Nodup)
    (present : found ∈ items)
    (same : key item = key found) :
    total key weight wanted (replace key item items) =
      if wanted = key found then
        weight item
      else
        total key weight wanted items := by
  split
  · subst wanted
    have kept : ((replace key item items).map key).Nodup := by
      rwa [keys_replace]
    have stored : item ∈ replace key item items := by
      have := @replace_of_mem _ _ _ key item found items present
      rwa [if_pos same.symm] at this
    rw [← same]
    exact total_of_mem kept stored
  · rename_i other
    clear present distinct
    induction items with
    | nil =>
        rfl
    | cons first rest inductionHypothesis =>
        simp only [replace, List.map_cons, total] at inductionHypothesis ⊢
        rw [inductionHypothesis]
        congr 1
        by_cases here : key first = key item
        · have elsewhere : ¬ key item = wanted := fun equal =>
            other (equal ▸ same)
          rw [if_pos here, if_neg elsewhere, here, if_neg elsewhere]
        · rw [if_neg here]

/-- A total splits over concatenation. -/
theorem total_append :
    total key weight wanted (items ++ others) =
      total key weight wanted items +
        total key weight wanted others := by
  induction items with
  | nil =>
      simp [total]
  | cons first rest inductionHypothesis =>
      rw [List.cons_append, total, total, inductionHypothesis,
        Nat.add_assoc]

/-- Two tables related item by item have equal totals. -/
theorem total_of_forall₂
    {related : Item → Item → Prop}
    (keys : ∀ old new, related old new → key new = key old)
    (weights :
      ∀ old new, related old new → weight new = weight old)
    (tables : List.Forall₂ related items others) :
    total key weight wanted others = total key weight wanted items := by
  induction tables with
  | nil =>
      rfl
  | cons first _ inductionHypothesis =>
      rw [total, total, keys _ _ first, weights _ _ first,
        inductionHypothesis]

/-- With distinct keys, replacing an item relates the tables item by item. -/
theorem forall₂_replace
    {related : Item → Item → Prop}
    (unchanged : ∀ other, related other other)
    (distinct : (items.map key).Nodup)
    (present : found ∈ items)
    (same : key item = key found)
    (relation : related found item) :
    List.Forall₂ related items (replace key item items) := by
  unfold replace
  rw [List.forall₂_map_right_iff, List.forall₂_same]
  intro other member
  split
  · rename_i here
    have equal : other = found :=
      List.inj_on_of_nodup_map distinct member present
        (here.trans same)
    rwa [equal]
  · exact unchanged other

end Items

section Related

variable
  {Value : Type}
  {related : Item → Item → Prop}
  {items others : List Item}
  {item : Item}

/-- A field that related items share gives the same column. -/
theorem map_of_forall₂
    (field : Item → Value)
    (fields : ∀ old new, related old new → field new = field old)
    (tables : List.Forall₂ related items others) :
    others.map field = items.map field := by
  induction tables with
  | nil =>
      rfl
  | cons first _ inductionHypothesis =>
      rw [List.map_cons, List.map_cons, fields _ _ first,
        inductionHypothesis]

/-- Every old item has a related new one. -/
theorem exists_new
    (tables : List.Forall₂ related items others)
    (present : item ∈ items) :
    ∃ new ∈ others, related item new := by
  induction tables with
  | nil =>
      contradiction
  | cons first _ inductionHypothesis =>
      rcases List.mem_cons.mp present with rfl | later
      · exact ⟨_, List.mem_cons_self, first⟩
      · obtain ⟨new, member, relation⟩ := inductionHypothesis later
        exact ⟨new, List.mem_cons_of_mem _ member, relation⟩

/-- Every new item comes from a related old one. -/
theorem exists_old
    (tables : List.Forall₂ related items others)
    (present : item ∈ others) :
    ∃ old ∈ items, related old item := by
  induction tables with
  | nil =>
      contradiction
  | cons first _ inductionHypothesis =>
      rcases List.mem_cons.mp present with rfl | later
      · exact ⟨_, List.mem_cons_self, first⟩
      · obtain ⟨old, member, relation⟩ := inductionHypothesis later
        exact ⟨old, List.mem_cons_of_mem _ member, relation⟩

/-- Item-by-item relations compose. -/
theorem forall₂_trans
    {further : List Item}
    (composed :
      ∀ old middle new,
        related old middle → related middle new → related old new)
    (tables : List.Forall₂ related items others)
    (later : List.Forall₂ related others further) :
    List.Forall₂ related items further := by
  induction tables generalizing further with
  | nil =>
      exact later
  | cons first _ inductionHypothesis =>
      cases later with
      | cons second rest =>
          exact .cons (composed _ _ _ first second)
            (inductionHypothesis rest)

end Related

end KeyedList

end Foundation
