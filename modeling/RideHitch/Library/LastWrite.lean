import Mathlib.Data.List.Induction
import Mathlib.Data.List.Nodup
import Mathlib.Logic.Function.Basic
import RideHitch.Library.Machine

/-! # Cells and tables overwritten without a check

    A cell that every write overwrites holds the value written last.  Section 1
    collects the writes that a run of a machine makes to one of its fields, each
    with the number of the request it answers.  Section 2 says when such a field
    goes back, from one prefix of the run to a longer one, to the answer of an
    earlier request.  Section 3 is about a table written row by row. -/

universe u v w

/-! ## Section 1: The writes of a run -/

namespace LastWrite

variable {α κ : Type*}

/-- The value of a cell after the writes of `log`, if it starts at `start`. -/
def current (start : α) (log : List (ℕ × α)) : α :=
  (log.getLast?.map Prod.snd).getD start

@[simp] theorem current_nil (start : α) : current start [] = start := rfl

theorem current_cons (start : α) (w : ℕ × α) (log : List (ℕ × α)) :
    current start (w :: log) = current w.2 log := by
  cases log with
  | nil => rfl
  | cons w' log =>
    rw [current, current, List.getLast?_cons_cons, List.getLast?_cons]
    rfl

section runs

variable {σ : Type u} {ε : Type v} {τ : Type w} (M : Machine σ ε τ)
  (writes : σ → ε → Option (ℕ × α))

/-- The writes made by the steps of a run, in the order of the steps. -/
def runLog (s : σ) : List ε → List (ℕ × α)
  | [] => []
  | e :: es =>
      (writes s e).toList ++
        match M.step s e with
        | .ok s' => runLog s' es
        | .error _ => []

variable {M writes}

theorem runLog_cons_of_ok {s s' : σ} {e : ε} (es : List ε) (h : M.step s e = .ok s') :
    runLog M writes s (e :: es) = (writes s e).toList ++ runLog M writes s' es := by
  simp [runLog, h]

/-- **A field holds what was written to it last.** -/
theorem field_eq_current {field : σ → α}
    (hstep : ∀ s e s', M.step s e = .ok s' →
      field s' = ((writes s e).map Prod.snd).getD (field s))
    {s s' : σ} {es : List ε} (h : M.run s es = .ok s') :
    field s' = current (field s) (runLog M writes s es) := by
  induction es generalizing s with
  | nil =>
    have hss' : s = s' := by simpa using h
    simp [hss', runLog]
  | cons e es ih =>
    obtain ⟨s₁, h₁, h₂⟩ := M.run_cons_eq_ok.mp h
    rw [ih h₂, hstep s e s₁ h₁, runLog_cons_of_ok es h₁]
    cases writes s e with
    | none => rfl
    | some w => exact (current_cons (field s) w _).symm

/-- The writes of a run that is carried on. -/
theorem runLog_append {s s' : σ} {es : List ε} (h : M.run s es = .ok s') (es' : List ε) :
    runLog M writes s (es ++ es') = runLog M writes s es ++ runLog M writes s' es' := by
  induction es generalizing s with
  | nil =>
    have hss' : s = s' := by simpa using h
    simp [hss', runLog]
  | cons e es ih =>
    obtain ⟨s₁, h₁, h₂⟩ := M.run_cons_eq_ok.mp h
    rw [List.cons_append, runLog_cons_of_ok _ h₁, runLog_cons_of_ok _ h₁, ih h₂, List.append_assoc]

end runs

/-! ## Section 2: Fields that go back -/

section goesBack

variable {σ : Type u} {ε : Type v} {τ : Type w} (M : Machine σ ε τ)
  (writes : σ → ε → Option (ℕ × α)) (field : σ → α)

/-- After `es` the answer `w.2` of the request `w.1` has just been written, and the field
    holds it. -/
structure Answered (s : σ) (es : List ε) (w : ℕ × α) : Prop where
  written : ∃ before e s₁, es = before ++ [e] ∧ M.run s before = .ok s₁ ∧ writes s₁ e = some w
  holds : ∃ s', M.run s es = .ok s' ∧ field s' = w.2

/-- Between two prefixes of the run the field changes from the answer of a request to that
    of one with a smaller number. -/
def GoesBack (s : σ) (es : List ε) : Prop :=
  ∃ earlier later x y, earlier <+: later ∧ later <+: es ∧
    Answered M writes field s earlier x ∧ Answered M writes field s later y ∧
    y.1 < x.1 ∧ x.2 ≠ y.2

variable {M writes field}

theorem Answered.runLog_eq {s : σ} {es : List ε} {w : ℕ × α}
    (h : Answered M writes field s es w) : ∃ log, runLog M writes s es = log ++ [w] := by
  obtain ⟨before, e, s₁, rfl, hrun, hwrites⟩ := h.written
  obtain ⟨s', hrun', _⟩ := h.holds
  rw [M.run_append_of_ok hrun] at hrun'
  obtain ⟨s₂, hstep, _⟩ := M.run_cons_eq_ok.mp hrun'
  refine ⟨runLog M writes s before, ?_⟩
  rw [runLog_append hrun, runLog_cons_of_ok [] hstep, hwrites]
  rfl

section overwritten

variable (hstep : ∀ s e s', M.step s e = .ok s' →
  field s' = ((writes s e).map Prod.snd).getD (field s))

include hstep

/-- Every write of a run is the last one of a prefix, and the field holds it then. -/
theorem exists_answered {s s' : σ} {es : List ε} (h : M.run s es = .ok s')
    {log log' : List (ℕ × α)} {w : ℕ × α} (hlog : runLog M writes s es = log ++ w :: log') :
    ∃ p q s₁, es = p ++ q ∧ M.run s p = .ok s₁ ∧ M.run s₁ q = .ok s' ∧
      Answered M writes field s p w ∧ runLog M writes s₁ q = log' := by
  induction es generalizing s log with
  | nil =>
    have hempty := congrArg List.length hlog
    simp [runLog] at hempty
  | cons e es ih =>
    obtain ⟨s₁, h₁, h₂⟩ := M.run_cons_eq_ok.mp h
    rw [runLog_cons_of_ok es h₁] at hlog
    have hone : M.run s [e] = .ok s₁ := by
      rw [M.run_cons_of_ok [] h₁]
      rfl
    -- the write is that of the first step, or one of the others
    have hlater : ∀ log₁, runLog M writes s₁ es = log₁ ++ w :: log' →
        ∃ p q s₂, e :: es = p ++ q ∧ M.run s p = .ok s₂ ∧ M.run s₂ q = .ok s' ∧
          Answered M writes field s p w ∧ runLog M writes s₂ q = log' := by
      intro log₁ hlog₁
      obtain ⟨p, q, s₂, rfl, hp, hq, hanswered, hrest⟩ := ih h₂ hlog₁
      refine ⟨e :: p, q, s₂, rfl, (M.run_cons_of_ok p h₁).trans hp, hq, ?_, hrest⟩
      obtain ⟨before, e', s₃, rfl, hbefore, hwrites⟩ := hanswered.written
      obtain ⟨s₄, hrun, hholds⟩ := hanswered.holds
      exact ⟨⟨e :: before, e', s₃, rfl, (M.run_cons_of_ok before h₁).trans hbefore, hwrites⟩,
        s₄, (M.run_cons_of_ok _ h₁).trans hrun, hholds⟩
    cases hfirst : writes s e with
    | none =>
      rw [hfirst] at hlog
      exact hlater log (by simpa using hlog)
    | some x =>
      rw [hfirst] at hlog
      cases log with
      | nil =>
        obtain ⟨rfl, hrest⟩ := List.cons.inj hlog
        refine ⟨[e], es, s₁, rfl, hone, h₂, ⟨⟨[], e, s, rfl, rfl, hfirst⟩, s₁, hone, ?_⟩, hrest⟩
        rw [hstep s e s₁ h₁, hfirst]
        rfl
      | cons x' log₁ =>
        obtain ⟨_, hrest⟩ := List.cons.inj hlog
        exact hlater log₁ hrest

/-- The field goes back exactly if the answers of two requests that differ are written in
    the reverse order of the requests. -/
theorem goesBack_iff {s s' : σ} {es : List ε} (h : M.run s es = .ok s') :
    GoesBack M writes field s es ↔
      ¬ (runLog M writes s es).Pairwise (fun x y => y.1 < x.1 → x.2 = y.2) := by
  constructor
  · rintro ⟨earlier, later, x, y, ⟨q, rfl⟩, ⟨q', rfl⟩, hx, hy, hlt, hne⟩ hordered
    obtain ⟨log, hlog⟩ := hx.runLog_eq
    obtain ⟨log', hlog'⟩ := hy.runLog_eq
    obtain ⟨s₁, hrun₁, _⟩ := hx.holds
    obtain ⟨s₂, hrun₂, _⟩ := hy.holds
    rw [runLog_append hrun₂] at hordered
    have hlater := (List.pairwise_append.mp hordered).1
    have hsplit : runLog M writes s (earlier ++ q) =
        runLog M writes s earlier ++ runLog M writes s₁ q := runLog_append hrun₁ q
    rw [hlog, hlog'] at hsplit
    -- the later write is not the earlier one, so it comes after it
    rcases List.eq_nil_or_concat (runLog M writes s₁ q) with hnil | ⟨log₁, w, hq⟩
    · rw [hnil, List.append_nil] at hsplit
      have hsame := (List.append_inj' hsplit rfl).2
      obtain rfl := List.singleton_inj.mp hsame
      exact absurd rfl hne
    · rw [hq, List.concat_eq_append, ← List.append_assoc] at hsplit
      have hsame := (List.append_inj' hsplit rfl).2
      obtain rfl := List.singleton_inj.mp hsame
      rw [runLog_append hrun₁, hlog, hq, List.concat_eq_append] at hlater
      have hpair := (List.pairwise_append.mp hlater).2.2 x (by simp) y (by simp)
      exact hne (hpair hlt)
  · intro hdisordered
    rw [List.pairwise_iff_forall_sublist] at hdisordered
    push Not at hdisordered
    obtain ⟨x, y, hsub, hlt, hne⟩ := hdisordered
    obtain ⟨log, log₁, hlog, hx, hy⟩ := List.cons_sublist_iff.mp hsub
    obtain ⟨before, between, rfl⟩ := List.append_of_mem hx
    obtain ⟨middle, after, rfl⟩ := List.append_of_mem (List.singleton_sublist.mp hy)
    -- first the prefix that ends with the one write, then that with the other
    have hfirst : runLog M writes s es = before ++ x :: (between ++ middle ++ y :: after) := by
      rw [hlog]
      simp
    obtain ⟨p, q, s₁, rfl, hp, hq, hanswered, hrest⟩ := exists_answered hstep h hfirst
    obtain ⟨p', q', s₂, rfl, hp', _, hanswered', _⟩ := exists_answered hstep hq hrest
    refine ⟨p, p ++ p', x, y, List.prefix_append _ _, ⟨q', by simp⟩, hanswered, ?_, hlt, hne⟩
    obtain ⟨before', e', s₃, rfl, hbefore', hwrites'⟩ := hanswered'.written
    obtain ⟨s₄, hrun₄, hholds₄⟩ := hanswered'.holds
    exact ⟨⟨p ++ before', e', s₃, by simp, (M.run_append_of_ok hp before').trans hbefore', hwrites'⟩,
      s₄, (M.run_append_of_ok hp _).trans hrun₄, hholds₄⟩

/-- If the answers are written in the order of the requests, the field holds that of the
    latest request. -/
theorem latest_of_inOrder {s s' : σ} {es : List ε} (h : M.run s es = .ok s')
    (hordered : (runLog M writes s es).Pairwise (fun x y => x.1 ≤ y.1))
    (hne : runLog M writes s es ≠ []) :
    ∃ w ∈ runLog M writes s es, field s' = w.2 ∧ ∀ w' ∈ runLog M writes s es, w'.1 ≤ w.1 := by
  rw [field_eq_current hstep h]
  rcases List.eq_nil_or_concat (runLog M writes s es) with hnil | ⟨log, w, hlog⟩
  · exact absurd hnil hne
  · rw [List.concat_eq_append] at hlog
    rw [hlog] at hordered ⊢
    refine ⟨w, by simp, by simp [current], ?_⟩
    intro w' hw'
    rcases List.mem_append.mp hw' with hw' | hw'
    · exact (List.pairwise_append.mp hordered).2.2 w' hw' w List.mem_cons_self
    · exact Nat.le_of_eq (congrArg Prod.fst (List.mem_singleton.mp hw'))

end overwritten

variable (M writes field) in
/-- What a field written without a check does in the run of `es`.  After every prefix it
    holds the value written last.  It goes back exactly if two answers that differ are
    written in the reverse order of their requests; if the answers are written in
    order, after every prefix it holds that of the latest request that has one. -/
structure Overwritten (s : σ) (es : List ε) : Prop where
  last : ∀ p, p <+: es → ∀ s', M.run s p = .ok s' →
    field s' = current (field s) (runLog M writes s p)
  goesBack : GoesBack M writes field s es ↔
    ¬ (runLog M writes s es).Pairwise (fun x y => y.1 < x.1 → x.2 = y.2)
  latest : (runLog M writes s es).Pairwise (fun x y => x.1 ≤ y.1) →
    ∀ p, p <+: es → ∀ s', M.run s p = .ok s' → runLog M writes s p ≠ [] →
      ∃ w ∈ runLog M writes s p, field s' = w.2 ∧ ∀ w' ∈ runLog M writes s p, w'.1 ≤ w.1

/-- **A field written without a check** is overwritten in every run. -/
theorem overwritten_of_run (hstep : ∀ s e s', M.step s e = .ok s' →
      field s' = ((writes s e).map Prod.snd).getD (field s))
    {s s' : σ} {es : List ε} (h : M.run s es = .ok s') : Overwritten M writes field s es where
  last := by
    intro p _ s₁ hrun
    exact field_eq_current hstep hrun
  goesBack := goesBack_iff hstep h
  latest := by
    rintro hordered p ⟨q, rfl⟩ s₁ hrun hne
    rw [runLog_append hrun] at hordered
    exact latest_of_inOrder hstep hrun (List.pairwise_append.mp hordered).1 hne

end goesBack

/-! ## Section 3: Tables -/

variable [DecidableEq κ]

/-- The row last written under each key. -/
def tableOf (log : List (κ × α)) (k : κ) : Option α :=
  (log.filter (fun w => w.1 = k)).getLast?.map Prod.snd

@[simp] theorem tableOf_nil (k : κ) : tableOf ([] : List (κ × α)) k = none := rfl

/-- One more write replaces the row under its key and no other. -/
theorem tableOf_append (log : List (κ × α)) (k : κ) (a : α) :
    tableOf (log ++ [(k, a)]) = Function.update (tableOf log) k (some a) := by
  funext k'
  by_cases hk : k' = k
  · subst hk
    simp [tableOf, List.filter_append]
  · have hk' : ¬ k = k' := by
      intro h
      exact hk h.symm
    simp [tableOf, List.filter_append, hk, hk']

/-- A table of what the writes are mapped to. -/
theorem tableOf_map {β : Type*} (f : α → β) (log : List (κ × α)) (k : κ) :
    tableOf (log.map fun w => (w.1, f w.2)) k = (tableOf log k).map f := by
  rw [tableOf, tableOf, List.filter_map, List.getLast?_map, Option.map_map, Option.map_map]
  rfl

theorem mem_of_tableOf {log : List (κ × α)} {k : κ} {a : α} (h : tableOf log k = some a) :
    (k, a) ∈ log := by
  obtain ⟨w, hlast, rfl⟩ := Option.map_eq_some_iff.mp h
  obtain ⟨hmem, hkey⟩ := List.mem_filter.mp (List.mem_of_getLast? hlast)
  have hk : w.1 = k := by simpa using hkey
  exact hk ▸ hmem

/-- A key that was written has a row. -/
theorem exists_tableOf {log : List (κ × α)} {k : κ} {a : α} (hmem : (k, a) ∈ log) :
    ∃ a', tableOf log k = some a' := by
  have hfilter : (k, a) ∈ log.filter (fun w => w.1 = k) :=
    List.mem_filter.mpr ⟨hmem, decide_eq_true rfl⟩
  obtain ⟨last, hlast⟩ := Option.isSome_iff_exists.mp
    (List.getLast?_isSome.mpr (List.ne_nil_of_mem hfilter))
  exact ⟨last.2, by rw [tableOf, hlast, Option.map_some]⟩

/-- Two lists have the same entries, each as often, exactly if they have under every
    key. -/
theorem perm_iff_filter (key : α → κ) {l l' : List α} :
    l.Perm l' ↔ ∀ k, (l.filter fun a => key a = k).Perm (l'.filter fun a => key a = k) := by
  classical
  constructor
  · intro h k
    exact h.filter _
  · intro h
    rw [List.perm_iff_count]
    intro a
    have hcount := (h (key a)).count_eq a
    rwa [List.count_filter (by simp), List.count_filter (by simp)] at hcount

end LastWrite
