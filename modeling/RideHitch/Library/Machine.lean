import Mathlib.Algebra.Ring.Nat
import Mathlib.Data.List.Forall2
import Mathlib.Data.List.Induction

/-! # Machines whose steps may trap

    A machine has one initial state and a step function over events.  A step
    either goes on to the next state or traps, and a trap ends the run.

    The rules below turn a fact about one step into a fact about every run:
    * `run_append_of_ok`, `Reachable.step`: a run can be carried on.
    * `run_preserves`: an invariant of the steps is an invariant of the runs.
    * `good_iff_meets`: a property of the final state is exactly a condition
      met by every step on the way.
    * `no_trap_iff_meets`: the same for the absence of a kind of trap.
    * `meets_mono`, `meets_congr`: one step condition implies another, or agrees
      with it, under an invariant.
    * `run_simulates`: related events take related states to related states.
    * `run_refines`: a run of one machine is, through a mapping, a run of another.
    * `exists_run`: events after which no step traps have a run.
    * `preserves_of_meets`, `run_preserves_on`: an invariant of the steps that meet
      a condition, or of the steps on some events, is one of the runs of such steps.
    * `run_relates`: what every step does to the state at most, every run does.
    * `goes_through_iff_meets`: a run goes through exactly if every step does.
    * `run_settles`: if every step leaves the state as it is or lowers a measure, a
      run is one of as few steps as the measure.
    * `run_history`: an invariant of the state and of the events so far.

    Section 4 is a growing family of copies of one machine, each under a label,
    of which a step moves one:
    * `stepAt_preserves`: an invariant of the steps is one of every member.
    * `stepAt_goes_on_iff`: the family goes on exactly if the member does.
    * `stepAt_settles`: a measure of the members, summed, is one of the family.
-/

universe u v w

/-- A machine over states `σ`, events `ε` and traps `τ`. -/
structure Machine (σ : Type u) (ε : Type v) (τ : Type w) where
  init : σ
  step : σ → ε → Except τ σ

namespace Machine

variable {σ : Type u} {ε : Type v} {τ : Type w} (M : Machine σ ε τ)

/-! ## Section 1: Runs -/

/-- Run a list of events from `s`, up to the first trap. -/
def run (s : σ) : List ε → Except τ σ
  | [] => .ok s
  | e :: es =>
      match M.step s e with
      | .ok s' => run s' es
      | .error t => .error t

@[simp] theorem run_nil (s : σ) : M.run s [] = .ok s := rfl

theorem run_cons_of_ok {s s' : σ} {e : ε} (es : List ε) (h : M.step s e = .ok s') :
    M.run s (e :: es) = M.run s' es := by
  simp [run, h]

theorem run_cons_of_error {s : σ} {e : ε} {t : τ} (es : List ε) (h : M.step s e = .error t) :
    M.run s (e :: es) = .error t := by
  simp [run, h]

/-- A run that ends well went through a first step that ended well. -/
theorem run_cons_eq_ok {s s'' : σ} {e : ε} {es : List ε} :
    M.run s (e :: es) = .ok s'' ↔ ∃ s', M.step s e = .ok s' ∧ M.run s' es = .ok s'' := by
  cases h : M.step s e with
  | ok s' => simp [M.run_cons_of_ok es h]
  | error t => simp [M.run_cons_of_error es h]

/-- A run that ended well can be carried on. -/
theorem run_append_of_ok {s s' : σ} {es : List ε} (h : M.run s es = .ok s') (es' : List ε) :
    M.run s (es ++ es') = M.run s' es' := by
  induction es generalizing s with
  | nil =>
    have hss' : s = s' := by simpa using h
    rw [hss', List.nil_append]
  | cons e es ih =>
    obtain ⟨s₁, h₁, h₂⟩ := M.run_cons_eq_ok.mp h
    rw [List.cons_append, M.run_cons_of_ok _ h₁]
    exact ih h₂

/-- A state that a run from the initial one ends in. -/
def Reachable (s : σ) : Prop := ∃ es, M.run M.init es = .ok s

theorem reachable_init : M.Reachable M.init := ⟨[], rfl⟩

variable {M} in
theorem Reachable.step {s s' : σ} {e : ε} (h : M.Reachable s) (hstep : M.step s e = .ok s') :
    M.Reachable s' := by
  obtain ⟨es, hrun⟩ := h
  refine ⟨es ++ [e], ?_⟩
  rw [M.run_append_of_ok hrun, M.run_cons_of_ok [] hstep]
  rfl

/-- A run on fixed inputs, evaluated: it ends well, in a state with `P`. -/
theorem exists_run_eq_ok {P : σ → Prop} [DecidablePred P] {s : σ} {es : List ε}
    (h : (match M.run s es with | .ok s' => decide (P s') | .error _ => false) = true) :
    ∃ s', M.run s es = .ok s' ∧ P s' := by
  cases hrun : M.run s es with
  | ok s' => exact ⟨s', rfl, by simpa [hrun] using h⟩
  | error t => simp [hrun] at h

/-- The same for a run that traps. -/
theorem run_eq_error [DecidableEq τ] {s : σ} {es : List ε} {t : τ}
    (h : (match M.run s es with | .ok _ => false | .error t' => decide (t' = t)) = true) :
    M.run s es = .error t := by
  cases hrun : M.run s es with
  | ok s' => simp [hrun] at h
  | error t' =>
    have ht : t' = t := by simpa [hrun] using h
    rw [ht]

/-! ## Section 2: Conditions met by every step of a run -/

/-- Every step of the run of `es` from `s` starts in a state and with an event
    that meet `P`.  Nothing is asked after a trap. -/
def Meets (P : σ → ε → Prop) (s : σ) : List ε → Prop
  | [] => True
  | e :: es => P s e ∧ ∀ s', M.step s e = .ok s' → Meets P s' es

variable {M} {Inv Good : σ → Prop} {P Q : σ → ε → Prop}

@[simp] theorem meets_nil (s : σ) : M.Meets P s [] := trivial

theorem meets_cons_of_ok {s s' : σ} {e : ε} {es : List ε} (h : M.step s e = .ok s') :
    M.Meets P s (e :: es) ↔ P s e ∧ M.Meets P s' es := by
  constructor
  · rintro ⟨hP, hrest⟩
    exact ⟨hP, hrest s' h⟩
  · rintro ⟨hP, hrest⟩
    refine ⟨hP, fun s₁ h₁ => ?_⟩
    have : s' = s₁ := by simpa [h] using h₁
    exact this ▸ hrest

theorem meets_cons_of_error {s : σ} {e : ε} {es : List ε} {t : τ}
    (h : M.step s e = .error t) : M.Meets P s (e :: es) ↔ P s e := by
  constructor
  · intro hm
    exact hm.1
  · intro hP
    exact ⟨hP, fun s' h' => by simp [h] at h'⟩

theorem meets_append {s s' : σ} {es : List ε} (h : M.run s es = .ok s') (es' : List ε) :
    M.Meets P s (es ++ es') ↔ M.Meets P s es ∧ M.Meets P s' es' := by
  induction es generalizing s with
  | nil =>
    have hss' : s = s' := by simpa using h
    simp [hss']
  | cons e es ih =>
    obtain ⟨s₁, h₁, h₂⟩ := M.run_cons_eq_ok.mp h
    rw [List.cons_append, meets_cons_of_ok h₁, meets_cons_of_ok h₁, ih h₂, and_assoc]

/-! ## Section 3: From one step to every run -/

/-- **Invariant rule.** What every step preserves, every run preserves. -/
theorem run_preserves (hstep : ∀ s e s', Inv s → M.step s e = .ok s' → Inv s')
    {s s' : σ} {es : List ε} (hs : Inv s) (h : M.run s es = .ok s') : Inv s' := by
  induction es generalizing s with
  | nil =>
    have hss' : s = s' := by simpa using h
    exact hss' ▸ hs
  | cons e es ih =>
    obtain ⟨s₁, h₁, h₂⟩ := M.run_cons_eq_ok.mp h
    exact ih (hstep s e s₁ hs h₁) h₂

/-- **Exact-condition rule.** If a step ends in a good state exactly when it
    starts in one and meets `P`, then a run does so exactly when all its steps
    meet `P`. -/
theorem good_iff_meets (hinv : ∀ s e s', Inv s → M.step s e = .ok s' → Inv s')
    (hgood : ∀ s e s', Inv s → M.step s e = .ok s' → (Good s' ↔ Good s ∧ P s e))
    {s s' : σ} {es : List ε} (hs : Inv s) (h : M.run s es = .ok s') :
    Good s' ↔ Good s ∧ M.Meets P s es := by
  induction es generalizing s with
  | nil =>
    have hss' : s = s' := by simpa using h
    simp [hss']
  | cons e es ih =>
    obtain ⟨s₁, h₁, h₂⟩ := M.run_cons_eq_ok.mp h
    -- the first step is good exactly under `P`; the rest is the induction hypothesis
    rw [ih (hinv s e s₁ hs h₁) h₂, hgood s e s₁ hs h₁, meets_cons_of_ok h₁]
    exact and_assoc

/-- **Trap rule.** If a step meets `P` exactly when it does not end in a trap
    of kind `K`, then a run is free of such traps exactly when all its steps
    meet `P`. -/
theorem no_trap_iff_meets {K : τ → Prop}
    (hinv : ∀ s e s', Inv s → M.step s e = .ok s' → Inv s')
    (htrap : ∀ s e, Inv s → (P s e ↔ ∀ t, M.step s e = .error t → ¬ K t))
    {s : σ} {es : List ε} (hs : Inv s) :
    (∀ t, M.run s es = .error t → ¬ K t) ↔ M.Meets P s es := by
  induction es generalizing s with
  | nil => simp
  | cons e es ih =>
    cases h : M.step s e with
    | ok s' =>
      -- a step that goes on has not trapped, so it met `P`
      have hP : P s e := by
        apply (htrap s e hs).mpr
        intro t ht
        simp [h] at ht
      rw [M.run_cons_of_ok es h, meets_cons_of_ok h, ih (hinv s e s' hs h)]
      exact ⟨fun hm => ⟨hP, hm⟩, fun hm => hm.2⟩
    | error t =>
      rw [M.run_cons_of_error es h, meets_cons_of_error h, htrap s e hs, h]

/-- If no step leads from a bad state to a good one, no run does. -/
theorem good_of_run (hinv : ∀ s e s', Inv s → M.step s e = .ok s' → Inv s')
    (hback : ∀ s e s', Inv s → M.step s e = .ok s' → Good s' → Good s)
    {s s' : σ} {es : List ε} (hs : Inv s) (h : M.run s es = .ok s') (hg : Good s') :
    Good s := by
  induction es generalizing s with
  | nil =>
    have hss' : s = s' := by simpa using h
    exact hss' ▸ hg
  | cons e es ih =>
    obtain ⟨s₁, h₁, h₂⟩ := M.run_cons_eq_ok.mp h
    exact hback s e s₁ hs h₁ (ih (hinv s e s₁ hs h₁) h₂)

/-- **Sound-run rule.** If, from a good state, a step meets `P` exactly when it
    goes on to a good state, and no step leads from a bad state to a good one,
    then a run goes on to a good state exactly when all its steps meet `P`. -/
theorem ends_good_iff_meets (hinv : ∀ s e s', Inv s → M.step s e = .ok s' → Inv s')
    (hback : ∀ s e s', Inv s → M.step s e = .ok s' → Good s' → Good s)
    (hgood : ∀ s e, Inv s → Good s → (P s e ↔ ∃ s', M.step s e = .ok s' ∧ Good s'))
    {s : σ} {es : List ε} (hs : Inv s) (hg : Good s) :
    (∃ s', M.run s es = .ok s' ∧ Good s') ↔ M.Meets P s es := by
  induction es generalizing s with
  | nil => simp [hg]
  | cons e es ih =>
    constructor
    · rintro ⟨s', hrun, hg'⟩
      obtain ⟨s₁, h₁, h₂⟩ := M.run_cons_eq_ok.mp hrun
      have hinv₁ := hinv s e s₁ hs h₁
      -- the state after the first step is good because the last one is
      have hg₁ : Good s₁ := good_of_run hinv hback hinv₁ h₂ hg'
      refine (meets_cons_of_ok h₁).mpr ⟨(hgood s e hs hg).mpr ⟨s₁, h₁, hg₁⟩, ?_⟩
      exact (ih hinv₁ hg₁).mp ⟨s', h₂, hg'⟩
    · intro hm
      obtain ⟨s₁, h₁, hg₁⟩ := (hgood s e hs hg).mp hm.1
      rw [M.run_cons_of_ok es h₁]
      exact (ih (hinv s e s₁ hs h₁) hg₁).mpr (hm.2 s₁ h₁)

/-- **Consequence rule.** Under an invariant, a run whose steps meet `P` has
    steps that meet what `P` implies. -/
theorem meets_mono (hinv : ∀ s e s', Inv s → P s e → M.step s e = .ok s' → Inv s')
    (himp : ∀ s e, Inv s → P s e → Q s e)
    {s : σ} {es : List ε} (hs : Inv s) (hm : M.Meets P s es) : M.Meets Q s es := by
  induction es generalizing s with
  | nil => trivial
  | cons e es ih =>
    refine ⟨himp s e hs hm.1, fun s' h' => ?_⟩
    exact ih (hinv s e s' hs hm.1 h') (hm.2 s' h')

/-- Under an invariant of the steps, step conditions that agree are met by the
    same runs. -/
theorem meets_congr (hinv : ∀ s e s', Inv s → M.step s e = .ok s' → Inv s')
    (hiff : ∀ s e, Inv s → (P s e ↔ Q s e)) {s : σ} {es : List ε} (hs : Inv s) :
    M.Meets P s es ↔ M.Meets Q s es := by
  constructor
  · apply meets_mono (fun s e s' hs _ h => hinv s e s' hs h) ?_ hs
    intro s e hs hP
    exact (hiff s e hs).mp hP
  · apply meets_mono (fun s e s' hs _ h => hinv s e s' hs h) ?_ hs
    intro s e hs hQ
    exact (hiff s e hs).mpr hQ

/-- **Simulation rule.** Two runs on pairwise related events, from related
    states, end in related states, if every two such steps do. -/
theorem run_simulates {σ' : Type*} {ε' : Type*} {τ' : Type*} {N : Machine σ' ε' τ'}
    {R : σ → σ' → Prop} {E : ε → ε' → Prop}
    (hstep : ∀ s t e e' s', R s t → E e e' → M.step s e = .ok s' →
      ∃ t', N.step t e' = .ok t' ∧ R s' t')
    {s s' : σ} {t : σ'} {es : List ε} {es' : List ε'} (hs : R s t) (hes : List.Forall₂ E es es')
    (h : M.run s es = .ok s') : ∃ t', N.run t es' = .ok t' ∧ R s' t' := by
  induction hes generalizing s t with
  | nil =>
    have hss' : s = s' := by simpa using h
    exact ⟨t, rfl, hss' ▸ hs⟩
  | cons he hrest ih =>
    obtain ⟨s₁, h₁, h₂⟩ := M.run_cons_eq_ok.mp h
    obtain ⟨t₁, ht₁, hR⟩ := hstep s t _ _ s₁ hs he h₁
    rw [N.run_cons_of_ok _ ht₁]
    exact ih hR h₂

/-- **Refinement rule.** If every step of one machine, seen through `f`, is a step
    of another or changes nothing, then so is every run a run. -/
theorem run_refines {σ' : Type*} {ε' : Type*} {τ' : Type*} {N : Machine σ' ε' τ'} {f : σ → σ'}
    (hstep : ∀ s e s', M.step s e = .ok s' → f s' = f s ∨ ∃ e', N.step (f s) e' = .ok (f s'))
    {s s' : σ} {es : List ε} (h : M.run s es = .ok s') :
    ∃ es', N.run (f s) es' = .ok (f s') := by
  induction es generalizing s with
  | nil =>
    have hss' : s = s' := by simpa using h
    exact ⟨[], by rw [hss', run_nil]⟩
  | cons e es ih =>
    obtain ⟨s₁, h₁, h₂⟩ := M.run_cons_eq_ok.mp h
    obtain ⟨es', hrun⟩ := ih h₂
    rcases hstep s e s₁ h₁ with hsame | ⟨e', he'⟩
    · exact ⟨es', hsame ▸ hrun⟩
    · refine ⟨e' :: es', ?_⟩
      rw [N.run_cons_of_ok es' he']
      exact hrun

/-- **Progress rule.** If no step traps on an event of a kind, from any state,
    no run of such events traps. -/
theorem exists_run {E : ε → Prop} (hstep : ∀ s e, E e → ∃ s', M.step s e = .ok s') (s : σ)
    {es : List ε} (hes : ∀ e ∈ es, E e) : ∃ s', M.run s es = .ok s' := by
  induction es generalizing s with
  | nil => exact ⟨s, rfl⟩
  | cons e es ih =>
    obtain ⟨he, hrest⟩ := List.forall_mem_cons.mp hes
    obtain ⟨s₁, h₁⟩ := hstep s e he
    rw [M.run_cons_of_ok es h₁]
    exact ih s₁ hrest

/-- **Invariant rule under a condition.** What every step that meets `P` preserves, every
    run whose steps meet `P` preserves. -/
theorem preserves_of_meets (hstep : ∀ s e s', P s e → Inv s → M.step s e = .ok s' → Inv s')
    {s s' : σ} {es : List ε} (hm : M.Meets P s es) (hs : Inv s) (h : M.run s es = .ok s') :
    Inv s' := by
  induction es generalizing s with
  | nil =>
    have hss' : s = s' := by simpa using h
    exact hss' ▸ hs
  | cons e es ih =>
    obtain ⟨s₁, h₁, h₂⟩ := M.run_cons_eq_ok.mp h
    exact ih (hm.2 s₁ h₁) (hstep s e s₁ hm.1 hs h₁) h₂

theorem meets_of_forall {E : ε → Prop} {es : List ε} (hes : ∀ e ∈ es, E e) (s : σ) :
    M.Meets (fun _ e => E e) s es := by
  induction es generalizing s with
  | nil => trivial
  | cons e es ih =>
    obtain ⟨he, hrest⟩ := List.forall_mem_cons.mp hes
    exact ⟨he, fun s' _ => ih hrest s'⟩

/-- What every step on an event of a kind preserves, every run of such events
    preserves. -/
theorem run_preserves_on {E : ε → Prop}
    (hstep : ∀ s e s', E e → Inv s → M.step s e = .ok s' → Inv s')
    {s s' : σ} {es : List ε} (hes : ∀ e ∈ es, E e) (hs : Inv s) (h : M.run s es = .ok s') :
    Inv s' :=
  preserves_of_meets hstep (meets_of_forall hes s) hs h

/-- **Advance rule.** If every step relates its two ends by a preorder, so does every
    run. -/
theorem run_relates {R : σ → σ → Prop} (hrefl : ∀ s, R s s)
    (htrans : ∀ s s' s'', R s s' → R s' s'' → R s s'')
    (hstep : ∀ s e s', M.step s e = .ok s' → R s s')
    {s s' : σ} {es : List ε} (h : M.run s es = .ok s') : R s s' := by
  have hpreserved : ∀ s₁ e s₂, R s s₁ → M.step s₁ e = .ok s₂ → R s s₂ := by
    intro s₁ e s₂ hs hstep₁
    exact htrans s s₁ s₂ hs (hstep s₁ e s₂ hstep₁)
  exact run_preserves hpreserved (hrefl s) h

/-- **Exact-progress rule.** If a step goes on exactly when it meets `P`, a run goes
    through exactly when all its steps meet `P`. -/
theorem goes_through_iff_meets (hinv : ∀ s e s', Inv s → M.step s e = .ok s' → Inv s')
    (hok : ∀ s e, Inv s → (P s e ↔ ∃ s', M.step s e = .ok s')) {s : σ} (hs : Inv s)
    (es : List ε) : (∃ s', M.run s es = .ok s') ↔ M.Meets P s es := by
  induction es generalizing s with
  | nil => simp
  | cons e es ih =>
    constructor
    · intro hrun
      obtain ⟨s', hrun⟩ := hrun
      obtain ⟨s₁, h₁, h₂⟩ := M.run_cons_eq_ok.mp hrun
      exact (meets_cons_of_ok h₁).mpr
        ⟨(hok s e hs).mpr ⟨s₁, h₁⟩, (ih (hinv s e s₁ hs h₁)).mp ⟨s', h₂⟩⟩
    · intro hm
      obtain ⟨s₁, h₁⟩ := (hok s e hs).mp hm.1
      rw [M.run_cons_of_ok es h₁]
      exact (ih (hinv s e s₁ hs h₁)).mpr (hm.2 s₁ h₁)

/-- **Settling rule.** If every step on some events leaves the state as it is or lowers
    a measure, then a run on such events is a run on some of them, as many at most as
    the measure is lowered. -/
theorem run_settles {E : ε → Prop} {μ : σ → ℕ}
    (hinv : ∀ s e s', Inv s → M.step s e = .ok s' → Inv s')
    (hstep : ∀ s e s', E e → Inv s → M.step s e = .ok s' → s' = s ∨ μ s' < μ s)
    {s s' : σ} {es : List ε} (hes : ∀ e ∈ es, E e) (hs : Inv s) (h : M.run s es = .ok s') :
    ∃ es', es'.Sublist es ∧ es'.length + μ s' ≤ μ s ∧ M.run s es' = .ok s' := by
  induction es generalizing s with
  | nil =>
    have hss' : s = s' := by simpa using h
    subst hss'
    exact ⟨[], List.Sublist.refl _, by simp, rfl⟩
  | cons e es ih =>
    obtain ⟨he, hrest⟩ := List.forall_mem_cons.mp hes
    obtain ⟨s₁, h₁, h₂⟩ := M.run_cons_eq_ok.mp h
    obtain ⟨es', hsub, hlength, hrun⟩ := ih hrest (hinv s e s₁ hs h₁) h₂
    rcases hstep s e s₁ he hs h₁ with rfl | hlt
    · -- the first event is left out
      exact ⟨es', hsub.cons e, hlength, hrun⟩
    · refine ⟨e :: es', hsub.cons_cons e, ?_, ?_⟩
      · rw [List.length_cons]
        omega
      · rw [M.run_cons_of_ok es' h₁]
        exact hrun

/-- A run that goes through a list of events and another goes through the first. -/
theorem run_append_eq_ok {s s'' : σ} {es es' : List ε} :
    M.run s (es ++ es') = .ok s'' ↔ ∃ s', M.run s es = .ok s' ∧ M.run s' es' = .ok s'' := by
  induction es generalizing s with
  | nil => simp
  | cons e es ih =>
    constructor
    · intro h
      obtain ⟨s₁, h₁, h₂⟩ := M.run_cons_eq_ok.mp h
      obtain ⟨s', hes, hes'⟩ := ih.mp h₂
      exact ⟨s', (M.run_cons_of_ok es h₁).trans hes, hes'⟩
    · rintro ⟨s', hes, hes'⟩
      exact (M.run_append_of_ok hes es').trans hes'

variable (M) in
/-- Some step of the run of `es` from `s` starts in a state and with an event that
    meet `P`. -/
def Occurs (P : σ → ε → Prop) (s : σ) (es : List ε) : Prop :=
  ∃ before e after s', es = before ++ e :: after ∧ M.run s before = .ok s' ∧ P s' e

theorem Occurs.append {s : σ} {es : List ε} (h : M.Occurs P s es) (es' : List ε) :
    M.Occurs P s (es ++ es') := by
  obtain ⟨before, e, after, s', rfl, hrun, hP⟩ := h
  exact ⟨before, e, after ++ es', s', by simp, hrun, hP⟩

theorem occurs_of_step {s s' : σ} {es : List ε} {e : ε} (h : M.run s es = .ok s') (hP : P s' e) :
    M.Occurs P s (es ++ [e]) :=
  ⟨es, e, [], s', rfl, h, hP⟩

/-- **History rule.** What every step preserves of the state and of the events so far,
    every run preserves. -/
theorem run_history {Inv : List ε → σ → Prop} {s s' : σ} {es : List ε} (hinit : Inv [] s)
    (hstep : ∀ es e s₁ s₂, M.run s es = .ok s₁ → Inv es s₁ → M.step s₁ e = .ok s₂ →
      Inv (es ++ [e]) s₂)
    (h : M.run s es = .ok s') : Inv es s' := by
  induction es using List.reverseRecOn generalizing s' with
  | nil =>
    have hss' : s = s' := by simpa using h
    exact hss' ▸ hinit
  | append_singleton es e ih =>
    obtain ⟨s₁, hrun, hlast⟩ := run_append_eq_ok.mp h
    obtain ⟨s₂, hs₂, hnil⟩ := M.run_cons_eq_ok.mp hlast
    have hs' : s₂ = s' := by simpa using hnil
    exact hs' ▸ hstep es e s₁ s₂ hrun (ih hrun) hs₂

/-! ## Section 4: Families of machines -/

section

variable {κ : Type*} (N : κ → Machine σ ε τ)

/-- Step the `i`-th member, if there is one, on the machine of its label. -/
def stepAt (family : List (κ × σ)) (i : ℕ) (e : ε) : Except τ (List (κ × σ)) :=
  match family[i]? with
  | some (k, s) =>
      match (N k).step s e with
      | .ok s' => .ok (family.set i (k, s'))
      | .error t => .error t
  | none => .ok family

variable {N} {family family' : List (κ × σ)} {i : ℕ} {e : ε}

/-- A step leaves the family as it is, or moves one member under its label. -/
theorem stepAt_eq_ok (h : stepAt N family i e = .ok family') :
    family' = family ∨ ∃ k s s', family[i]? = some (k, s) ∧ (N k).step s e = .ok s' ∧
      family' = family.set i (k, s') := by
  unfold stepAt at h
  cases hi : family[i]? with
  | none =>
    rw [hi] at h
    exact .inl (Except.ok.inj h).symm
  | some member =>
    obtain ⟨k, s⟩ := member
    simp only [hi] at h
    cases hstep : (N k).step s e with
    | ok s' =>
      rw [hstep] at h
      exact .inr ⟨k, s, s', rfl, hstep, (Except.ok.inj h).symm⟩
    | error t =>
      rw [hstep] at h
      cases h

/-- **Family rule.** What every step of a member preserves, a step of the family
    preserves of all its members. -/
theorem stepAt_preserves {I : κ → σ → Prop}
    (hstep : ∀ k s s', I k s → (N k).step s e = .ok s' → I k s')
    (hs : ∀ member ∈ family, I member.1 member.2) (h : stepAt N family i e = .ok family') :
    ∀ member ∈ family', I member.1 member.2 := by
  rcases stepAt_eq_ok h with hsame | ⟨k, s, s', hi, hstep', hset⟩
  · rw [hsame]
    exact hs
  · intro member hmember
    rw [hset] at hmember
    rcases List.mem_or_eq_of_mem_set hmember with hmember | hmember
    · exact hs member hmember
    · rw [hmember]
      exact hstep k s s' (hs (k, s) (List.mem_of_getElem? hi)) hstep'

theorem stepAt_goes_on_iff : (∃ family', stepAt N family i e = .ok family') ↔
    ∀ member, family[i]? = some member → ∃ s', (N member.1).step member.2 e = .ok s' := by
  unfold stepAt
  cases hi : family[i]? with
  | none => simp
  | some member =>
    obtain ⟨k, s⟩ := member
    simp only [Option.some.injEq, forall_eq']
    cases hstep : (N k).step s e with
    | ok s' => simp
    | error t => simp

theorem sum_set_lt {l : List ℕ} {i n m : ℕ} (hi : l[i]? = some n) (hm : m < n) :
    (l.set i m).sum < l.sum := by
  induction l generalizing i with
  | nil => simp at hi
  | cons k l ih =>
    cases i with
    | zero =>
      obtain rfl : k = n := by simpa using hi
      simp only [List.set_cons_zero, List.sum_cons]
      omega
    | succ i =>
      have hlt := ih (by simpa using hi)
      simp only [List.set_cons_succ, List.sum_cons]
      omega

/-- **Family rule** for measures. -/
theorem stepAt_settles {μ : σ → ℕ}
    (hstep : ∀ k s s', (N k).step s e = .ok s' → s' = s ∨ μ s' < μ s)
    (h : stepAt N family i e = .ok family') : family' = family ∨
      (family'.map (fun member => μ member.2)).sum <
        (family.map (fun member => μ member.2)).sum := by
  rcases stepAt_eq_ok h with hsame | ⟨k, s, s', hi, hstep', rfl⟩
  · exact .inl hsame
  · rcases hstep k s s' hstep' with rfl | hlt
    · refine .inl ?_
      obtain ⟨hlt, hget⟩ := List.getElem?_eq_some_iff.mp hi
      rw [← hget]
      exact List.set_getElem_self hlt
    · refine .inr ?_
      rw [List.map_set]
      apply sum_set_lt ?_ hlt
      rw [List.getElem?_map, hi]
      rfl

end

end Machine
