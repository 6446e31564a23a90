import Mathlib.Data.List.Nodup

/-! # Numbered requests

    The requests that one part of a program has sent and not yet seen answered.
    Requests are numbered in the order in which they are issued, a number is
    never used again, and a request is answered at most once: the structure
    carries the first two facts, `settle_find_self` is the third. -/

universe u

/-- The outstanding requests, under their numbers. -/
structure Requests (ρ : Type u) where
  issued : ℕ
  outstanding : List (ℕ × ρ)
  lt_issued : ∀ r ∈ outstanding, r.1 < issued
  nodup : (outstanding.map Prod.fst).Nodup

namespace Requests

variable {ρ : Type u}

def empty : Requests ρ where
  issued := 0
  outstanding := []
  lt_issued := by simp
  nodup := by simp

def issue (q : Requests ρ) (request : ρ) : Requests ρ where
  issued := q.issued + 1
  outstanding := q.outstanding ++ [(q.issued, request)]
  lt_issued := by
    intro r hr
    rcases List.mem_append.mp hr with hr | hr
    · have hlt := q.lt_issued r hr
      omega
    · rw [List.mem_singleton.mp hr]
      show q.issued < q.issued + 1
      omega
  nodup := by
    rw [List.map_append, List.nodup_append]
    refine ⟨q.nodup, by simp, ?_⟩
    intro k hk k' hk'
    obtain ⟨r, hr, rfl⟩ := List.mem_map.mp hk
    have hlt := q.lt_issued r hr
    have hk'' : k' = q.issued := by simpa using hk'
    omega

/-- The request of that number, if it is outstanding. -/
def find (q : Requests ρ) (serial : ℕ) : Option ρ := q.outstanding.lookup serial

/-- The request of that number has been answered. -/
def settle (q : Requests ρ) (serial : ℕ) : Requests ρ where
  issued := q.issued
  outstanding := q.outstanding.filter (fun r => r.1 ≠ serial)
  lt_issued := by
    intro r hr
    exact q.lt_issued r (List.mem_of_mem_filter hr)
  nodup := q.nodup.sublist (List.filter_sublist.map Prod.fst)

@[simp] theorem find_empty (serial : ℕ) : (empty : Requests ρ).find serial = none := rfl

theorem find_eq_some {q : Requests ρ} {serial : ℕ} {request : ρ} :
    q.find serial = some request ↔ (serial, request) ∈ q.outstanding := by
  -- a lookup finds the first entry, and no number occurs twice
  have hlookup : ∀ l : List (ℕ × ρ), (l.map Prod.fst).Nodup →
      (l.lookup serial = some request ↔ (serial, request) ∈ l) := by
    intro l hl
    induction l with
    | nil => simp
    | cons r l ih =>
      obtain ⟨k, v⟩ := r
      rw [List.map_cons, List.nodup_cons] at hl
      by_cases hk : serial = k
      · subst hk
        have hnot : (serial, request) ∉ l := by
          intro h
          exact hl.1 (List.mem_map.mpr ⟨_, h, rfl⟩)
        simp [hnot, eq_comm]
      · rw [List.lookup_cons, beq_false_of_ne hk]
        simp [hk, ih hl.2]
  exact hlookup q.outstanding q.nodup

theorem lt_of_find {q : Requests ρ} {serial : ℕ} {request : ρ} (h : q.find serial = some request) :
    serial < q.issued :=
  q.lt_issued _ (find_eq_some.mp h)

theorem find_issue_self (q : Requests ρ) (request : ρ) :
    (q.issue request).find q.issued = some request := by
  rw [find_eq_some]
  exact List.mem_append_right _ (List.mem_singleton_self _)

theorem find_issue_of_lt (q : Requests ρ) {serial : ℕ} (request : ρ) (h : serial < q.issued) :
    (q.issue request).find serial = q.find serial := by
  have hne : ¬ serial = q.issued := Nat.ne_of_lt h
  ext request'
  simp [find_eq_some, issue, hne]

/-- A settled request is never found again. -/
theorem settle_find_self (q : Requests ρ) (serial : ℕ) : (q.settle serial).find serial = none := by
  rw [Option.eq_none_iff_forall_not_mem]
  intro request h
  have hmem := find_eq_some.mp h
  simp [settle] at hmem

theorem settle_find_of_ne (q : Requests ρ) {serial serial' : ℕ} (h : serial' ≠ serial) :
    (q.settle serial).find serial' = q.find serial' := by
  ext request
  simp [find_eq_some, settle, h]

/-- What has been answered stays answered. -/
theorem find_settle_of_none (q : Requests ρ) {serial : ℕ} (serial' : ℕ)
    (h : q.find serial = none) : (q.settle serial').find serial = none := by
  by_cases hserial : serial = serial'
  · rw [hserial]
    exact q.settle_find_self serial'
  · rw [q.settle_find_of_ne hserial]
    exact h

/-- An answer leaves fewer requests outstanding. -/
theorem length_settle_lt {q : Requests ρ} {serial : ℕ} {request : ρ}
    (h : q.find serial = some request) :
    (q.settle serial).outstanding.length < q.outstanding.length := by
  show (q.outstanding.filter (fun r => r.1 ≠ serial)).length < _
  apply List.length_filter_lt_length_iff_exists.mpr
  exact ⟨(serial, request), find_eq_some.mp h, by simp⟩

end Requests
