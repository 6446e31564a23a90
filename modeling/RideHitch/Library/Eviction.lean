import Mathlib.Data.List.Induction
import Mathlib.Data.List.Pairwise
import Mathlib.Data.List.Sort
import Mathlib.Data.List.TakeDrop
import Mathlib.Order.Basic

/-! # A bounded store that evicts its least entry

    Entries carry a key from a linear order, and a sort lists a collection by
    key.  `put` adds an entry, after erasing the first entry of the ascending
    listing when the store is full.  A run of `put`s from the empty store keeps
    `min n capacity` entries (`length_putAll`); with strictly increasing keys
    these are the last ones put, in order (`putAll_of_increasing`). -/

variable {α β : Type*} [LinearOrder β]

/-! ## Section 1: Sorting by key -/

/-- A sort of collections by `key`: `sorted true` is ascending, `sorted false`
    descending.  The order of entries with equal keys is left open. -/
structure KeySort (key : α → β) where
  sorted : Bool → List α → List α
  perm : ∀ ascending l, (sorted ascending l).Perm l
  ascends : ∀ l, (sorted true l).Pairwise (fun a b => key a ≤ key b)
  descends : ∀ l, (sorted false l).Pairwise (fun a b => key b ≤ key a)

namespace KeySort

/-- Insertion sort by key. -/
def insertion (key : α → β) : KeySort key where
  sorted ascending l :=
    if ascending then l.insertionSort (fun a b => key a ≤ key b)
    else l.insertionSort (fun a b => key b ≤ key a)
  perm ascending l := by
    cases ascending with
    | true => exact List.perm_insertionSort _ l
    | false => exact List.perm_insertionSort _ l
  ascends l := by
    have htotal : Std.Total (fun a b : α => key a ≤ key b) := ⟨fun _ _ => le_total _ _⟩
    have htrans : IsTrans α (fun a b => key a ≤ key b) := ⟨fun _ _ _ => le_trans⟩
    exact List.pairwise_insertionSort _ l
  descends l := by
    have htotal : Std.Total (fun a b : α => key b ≤ key a) := ⟨fun _ _ => le_total _ _⟩
    have htrans : IsTrans α (fun a b => key b ≤ key a) := ⟨fun _ _ _ h h' => le_trans h' h⟩
    exact List.pairwise_insertionSort _ l

variable {key : α → β} (S : KeySort key)

@[simp] theorem length_sorted (ascending : Bool) (l : List α) :
    (S.sorted ascending l).length = l.length :=
  (S.perm ascending l).length_eq

@[simp] theorem mem_sorted {ascending : Bool} {l : List α} {a : α} :
    a ∈ S.sorted ascending l ↔ a ∈ l :=
  (S.perm ascending l).mem_iff

/-- The first entry of the ascending listing is in the collection, and no
    entry has a smaller key. -/
theorem head_least {l : List α} {a : α} (h : (S.sorted true l).head? = some a) :
    a ∈ l ∧ ∀ b ∈ l, key a ≤ key b := by
  obtain ⟨rest, hrest⟩ := List.head?_eq_some_iff.mp h
  have hasc := S.ascends l
  rw [hrest] at hasc
  refine ⟨S.mem_sorted.mp (hrest ▸ List.mem_cons_self), ?_⟩
  intro b hb
  have hb' : b ∈ a :: rest := hrest ▸ S.mem_sorted.mpr hb
  rcases List.mem_cons.mp hb' with rfl | hb'
  · exact le_refl _
  · exact (List.pairwise_cons.mp hasc).1 b hb'

theorem head_isSome {l : List α} (h : l ≠ []) : ∃ a, (S.sorted true l).head? = some a := by
  cases hs : S.sorted true l with
  | nil =>
    have hlen := S.length_sorted true l
    rw [hs] at hlen
    exact absurd (List.length_eq_zero_iff.mp hlen.symm) h
  | cons a rest => exact ⟨a, rfl⟩

/-- Strictly increasing keys leave only one descending listing. -/
theorem sorted_false_of_increasing {l : List α} (h : l.Pairwise (fun a b => key a < key b)) :
    S.sorted false l = l.reverse := by
  have hsymm : Std.Symm (fun a b : α => key a ≠ key b) := ⟨fun _ _ hab => hab.symm⟩
  have hne : l.Pairwise (fun a b => key a ≠ key b) := h.imp ne_of_lt
  have hinj : ∀ a ∈ l, ∀ b ∈ l, key a = key b → a = b := by
    intro a ha b hb hab
    by_contra hab'
    exact hne.forall ha hb hab' hab
  have hreverse : l.reverse.Pairwise (fun a b => key b ≤ key a) := by
    rw [List.pairwise_reverse]
    exact h.imp le_of_lt
  -- two sorted listings of the same entries agree, since equal keys mean equal entries
  have hperm := (S.perm false l).trans (List.reverse_perm l).symm
  refine List.Perm.eq_of_pairwise ?_ (S.descends l) hreverse hperm
  intro a b ha hb hba hab
  exact hinj a (S.mem_sorted.mp ha) b (List.mem_reverse.mp hb) (le_antisymm hab hba)

end KeySort

/-! ## Section 2: Putting one entry -/

namespace Eviction

variable [DecidableEq α] {key : α → β} (S : KeySort key) (most : ℕ)

/-- Erase a least entry if there are more than `most`, then add the new one. -/
def put (store : List α) (a : α) : List α :=
  if most < store.length then
    match (S.sorted true store).head? with
    | some old => store.erase old ++ [a]
    | none => store ++ [a]
  else store ++ [a]

theorem put_of_le {store : List α} (h : store.length ≤ most) (a : α) :
    put S most store a = store ++ [a] := by
  simp [put, Nat.not_lt.mpr h]

/-- A full store gives up one entry of least key. -/
theorem put_of_lt {store : List α} (h : most < store.length) (a : α) :
    ∃ old ∈ store, (∀ b ∈ store, key old ≤ key b) ∧
      put S most store a = store.erase old ++ [a] := by
  have hne : store ≠ [] := List.ne_nil_of_length_pos (by omega)
  obtain ⟨old, hold⟩ := S.head_isSome hne
  obtain ⟨hmem, hleast⟩ := S.head_least hold
  exact ⟨old, hmem, hleast, by simp [put, h, hold]⟩

theorem mem_put (store : List α) (a : α) : a ∈ put S most store a := by
  rcases Nat.lt_or_ge most store.length with h | h
  · obtain ⟨old, -, -, hput⟩ := put_of_lt S most h a
    simp [hput]
  · simp [put_of_le S most h]

/-- Nothing but the new entry is added. -/
theorem mem_of_put {store : List α} {a b : α} (h : b ∈ put S most store a) : b ∈ store ∨ b = a := by
  rcases Nat.lt_or_ge most store.length with hlt | hle
  · obtain ⟨old, -, -, hput⟩ := put_of_lt S most hlt a
    rw [hput] at h
    rcases List.mem_append.mp h with h | h
    · exact .inl (List.mem_of_mem_erase h)
    · exact .inr (List.mem_singleton.mp h)
  · rw [put_of_le S most hle] at h
    rcases List.mem_append.mp h with h | h
    · exact .inl h
    · exact .inr (List.mem_singleton.mp h)

theorem length_put {store : List α} (h : store.length ≤ most + 1) (a : α) :
    (put S most store a).length = min (store.length + 1) (most + 1) := by
  rcases Nat.lt_or_ge most store.length with hlt | hle
  · obtain ⟨old, hmem, -, hput⟩ := put_of_lt S most hlt a
    rw [hput, List.length_append, List.length_erase_of_mem hmem]
    simp only [List.length_cons, List.length_nil]
    omega
  · rw [put_of_le S most hle, List.length_append]
    simp only [List.length_cons, List.length_nil]
    omega

/-! ## Section 3: Runs of `put` -/

/-- Put the entries one after the other, from the empty store. -/
def putAll (entries : List α) : List α := entries.foldl (put S most) []

@[simp] theorem putAll_nil : putAll S most [] = [] := rfl

@[simp] theorem putAll_append (entries : List α) (a : α) :
    putAll S most (entries ++ [a]) = put S most (putAll S most entries) a := by
  simp [putAll]

theorem length_putAll (entries : List α) :
    (putAll S most entries).length = min entries.length (most + 1) := by
  induction entries using List.reverseRecOn with
  | nil => simp
  | append_singleton entries a ih =>
    rw [putAll_append, length_put S most (by omega), ih, List.length_append]
    simp only [List.length_cons, List.length_nil]
    omega

/-- With strictly increasing keys the store holds the entries put last, in the
    order in which they were put: the least entry is always the oldest. -/
theorem putAll_of_increasing {entries : List α}
    (h : entries.Pairwise (fun a b => key a < key b)) :
    putAll S most entries = entries.drop (entries.length - (most + 1)) := by
  induction entries using List.reverseRecOn with
  | nil => simp
  | append_singleton entries a ih =>
    have hpre := ih (List.pairwise_append.mp h).1
    have hlen := length_putAll S most entries
    rw [putAll_append]
    rcases Nat.lt_or_ge most (putAll S most entries).length with hlt | hle
    · obtain ⟨old, hmem, hleast, hput⟩ := put_of_lt S most hlt a
      -- the store is strictly increasing, so its least entry is its head
      have hinc : (putAll S most entries).Pairwise (fun a b => key a < key b) := by
        rw [hpre]
        exact (List.pairwise_append.mp h).1.drop
      cases hstore : putAll S most entries with
      | nil => simp [hstore] at hlt
      | cons first rest =>
        rw [hstore] at hinc hmem hleast hput
        have hold : old = first := by
          rcases List.mem_cons.mp hmem with rfl | hrest
          · rfl
          · have h₁ := (List.pairwise_cons.mp hinc).1 old hrest
            exact absurd (hleast first List.mem_cons_self) (not_le.mpr h₁)
        rw [hput, hold, List.erase_cons_head]
        have hdrop : rest = entries.drop (entries.length - (most + 1) + 1) := by
          rw [← List.drop_drop, ← hpre, hstore]
          rfl
        rw [hdrop, List.length_append, List.drop_append_of_le_length (by simp)]
        congr 2
        simp only [List.length_cons, List.length_nil]
        omega
    · rw [put_of_le S most hle, hpre]
      -- the store is not full: nothing has been dropped yet
      have h0 : entries.length - (most + 1) = 0 := by omega
      have h1 : (entries ++ [a]).length - (most + 1) = 0 := by
        simp only [List.length_append, List.length_cons, List.length_nil]
        omega
      rw [h0, h1]
      rfl

end Eviction
