/-
**Runs of a deterministic step function, and what can be said along them.**

A reactive component is a state together with a step function: an input arrives, the component
emits a list of observations and moves to its next state.  This module collects the vocabulary
for such a component and the induction rules that go with it.  Nothing here is about a particular
program.

Main definitions:

* `Runs.run`, `Runs.trace` — the state a list of inputs leads to, and the observations made on
  the way, in order;
* `Runs.Always`, `Runs.EachStep` — a property of every state a run passes through, and a
  condition on every step it takes;
* `Runs.Leads` — a list of observations is a path of a labelled transition system;
* `Runs.Justified` — every observation of a trace is accounted for by the observations before it.

Main results:

* `Runs.run_inv` — what one step preserves, a run preserves;
* `Runs.trace_induction` — an invariant that ties the state to the observations made so far;
* `Runs.Always.induct`, `Runs.EachStep.always` — an invariant kept by the steps between states of a
  known kind, and by steps of a known kind;
* `Runs.EachStep.imp_of_always` — what the steps of a known kind do in the states of an invariant;
* `Runs.always_iff_eachStep` — the exact rule: if a step keeps a property exactly when it meets a
  condition, a run keeps it throughout exactly when all its steps meet the condition;
* `Runs.Always.iff_eachStep`, `Runs.always_iff_eachStep_of_inv` — the same rule for runs whose states
  are known to be of some kind, and for a property that needs an invariant of its own;
* `Runs.trace_eq_trace_iff` — two ways of observing a run, one of which never sees more, see the same
  exactly when they see the same at each step;
* `Runs.trace_eq_of_simulation` — a machine that follows another shows the same;
* `Runs.run_component`, `Runs.trace_component`, `Runs.eachStep_component` — what a part of a machine
  goes through is a run of the part;
* `Runs.leads_trace` — the trace of a run is a path of a labelled transition system if that of each
  step is;
* `Runs.Leads.fifo`, `Runs.Leads.bag` — what goes in along a path comes out, in order or in any order.
-/

import Mathlib.Data.List.Basic
import Mathlib.Data.List.Infix

set_option relaxedAutoImplicit false
set_option autoImplicit false

namespace Runs

variable {σ ε ω : Type*}

/-! ### Runs and traces -/

/-- The state a list of inputs leads to. -/
def run (step : σ → ε → σ) (s : σ) (es : List ε) : σ := es.foldl step s

/-- The observations made along a run, in order. -/
def trace (step : σ → ε → σ) (out : σ → ε → List ω) : σ → List ε → List ω
  | _, [] => []
  | s, e :: es => out s e ++ trace step out (step s e) es

section Basic

variable (step : σ → ε → σ) (out : σ → ε → List ω)

@[simp] theorem run_nil (s : σ) : run step s [] = s := rfl

@[simp] theorem run_cons (s : σ) (e : ε) (es : List ε) :
    run step s (e :: es) = run step (step s e) es := rfl

@[simp] theorem run_append (s : σ) (es fs : List ε) :
    run step s (es ++ fs) = run step (run step s es) fs := by
  simp [run]

@[simp] theorem trace_nil (s : σ) : trace step out s [] = [] := rfl

@[simp] theorem trace_cons (s : σ) (e : ε) (es : List ε) :
    trace step out s (e :: es) = out s e ++ trace step out (step s e) es := rfl

@[simp] theorem trace_append (s : σ) (es fs : List ε) :
    trace step out s (es ++ fs) = trace step out s es ++ trace step out (run step s es) fs := by
  induction es generalizing s with
  | nil => rfl
  | cons e es ih => simp [ih]

/-- Every observation of a run is made at one of its steps. -/
theorem mem_trace_iff {s : σ} {es : List ε} {o : ω} :
    o ∈ trace step out s es ↔ ∃ pre e post, es = pre ++ e :: post ∧ o ∈ out (run step s pre) e := by
  induction es generalizing s with
  | nil => simp
  | cons e es ih =>
      rw [trace_cons, List.mem_append, ih]
      constructor
      · rintro (ho | ⟨pre, e', post, rfl, ho⟩)
        · exact ⟨[], e, es, rfl, ho⟩
        · exact ⟨e :: pre, e', post, rfl, ho⟩
      · rintro ⟨pre, e', post, heq, ho⟩
        cases pre with
        | nil =>
            obtain ⟨rfl, rfl⟩ := List.cons.inj heq
            exact Or.inl ho
        | cons c pre =>
            obtain ⟨rfl, rfl⟩ := List.cons.inj heq
            exact Or.inr ⟨pre, e', post, rfl, ho⟩

end Basic

/-! ### Invariants -/

section Invariants

variable {step : σ → ε → σ} {out : σ → ε → List ω}

/-- What every step preserves, a run preserves. -/
theorem run_inv {I : σ → Prop} (h : ∀ s e, I s → I (step s e)) {s : σ} (hs : I s)
    (es : List ε) : I (run step s es) := by
  induction es generalizing s with
  | nil => exact hs
  | cons e es ih => exact ih (h s e hs)

/-- What every step satisfying `C` preserves, a run of such steps preserves. -/
theorem run_inv_of_forall {I : σ → Prop} {C : ε → Prop} (h : ∀ s e, C e → I s → I (step s e))
    {s : σ} (hs : I s) {es : List ε} (hes : ∀ e ∈ es, C e) : I (run step s es) := by
  induction es generalizing s with
  | nil => exact hs
  | cons e es ih =>
      have he : C e := hes e (List.mem_cons_self ..)
      exact ih (h s e he hs) fun e' he' => hes e' (List.mem_cons_of_mem _ he')

/-- An invariant of the state and of everything observed so far holds at the end of every run. -/
theorem trace_induction {P : σ → List ω → Prop}
    (h : ∀ s t e, P s t → P (step s e) (t ++ out s e)) {s : σ} (hs : P s []) (es : List ε) :
    P (run step s es) (trace step out s es) := by
  -- the observations made before the run are carried along
  have key : ∀ (es : List ε) (s : σ) (t : List ω), P s t →
      P (run step s es) (t ++ trace step out s es) := by
    intro es
    induction es with
    | nil => intro s t hst; simpa using hst
    | cons e es ih =>
        intro s t hst
        have := ih (step s e) (t ++ out s e) (h s t e hst)
        simpa [List.append_assoc] using this
  simpa using key es s [] hs

end Invariants

/-! ### Properties along a run -/

section Along

variable (step : σ → ε → σ)

/-- Every state the run passes through satisfies `P`, the first and the last included. -/
def Always (P : σ → Prop) (s : σ) (es : List ε) : Prop :=
  ∀ pre, pre <+: es → P (run step s pre)

/-- Every step of the run meets `C`, the condition being read in the state before the step. -/
def EachStep (C : σ → ε → Prop) (s : σ) (es : List ε) : Prop :=
  ∀ pre e post, es = pre ++ e :: post → C (run step s pre) e

variable {step}

theorem Always.head {P : σ → Prop} {s : σ} {es : List ε} (h : Always step P s es) : P s :=
  h [] (List.nil_prefix)

theorem Always.last {P : σ → Prop} {s : σ} {es : List ε} (h : Always step P s es) :
    P (run step s es) := h es (List.prefix_refl es)

@[simp] theorem always_nil {P : σ → Prop} {s : σ} : Always step P s [] ↔ P s := by
  constructor
  · exact Always.head
  · intro h pre hpre
    rw [List.prefix_nil] at hpre
    subst hpre
    exact h

theorem always_cons {P : σ → Prop} {s : σ} {e : ε} {es : List ε} :
    Always step P s (e :: es) ↔ P s ∧ Always step P (step s e) es := by
  constructor
  · intro h
    refine ⟨h.head, fun pre hpre => ?_⟩
    exact h (e :: pre) (List.cons_prefix_cons.2 ⟨rfl, hpre⟩)
  · rintro ⟨hs, h⟩ pre hpre
    rcases List.prefix_cons_iff.1 hpre with rfl | ⟨t, rfl, ht⟩
    · exact hs
    · exact h t ht

@[simp] theorem eachStep_nil {C : σ → ε → Prop} {s : σ} : EachStep step C s [] := by
  intro pre e post h
  simp at h

theorem eachStep_cons {C : σ → ε → Prop} {s : σ} {e : ε} {es : List ε} :
    EachStep step C s (e :: es) ↔ C s e ∧ EachStep step C (step s e) es := by
  constructor
  · intro h
    refine ⟨h [] e es rfl, fun pre e' post heq => ?_⟩
    exact h (e :: pre) e' post (by rw [heq, List.cons_append])
  · rintro ⟨hs, h⟩ pre e' post heq
    cases pre with
    | nil =>
        simp only [List.nil_append, List.cons.injEq] at heq
        obtain ⟨rfl, -⟩ := heq
        exact hs
    | cons a pre =>
        simp only [List.cons_append, List.cons.injEq] at heq
        obtain ⟨rfl, heq⟩ := heq
        exact h pre e' post heq

/-- Knowing `Q` of every state passed through, a property that each step keeps from one such
state to the next holds all along the run. -/
theorem Always.induct {P Q : σ → Prop}
    (h : ∀ s e, Q s → Q (step s e) → P s → P (step s e)) {s : σ} (hs : P s) {es : List ε}
    (hQ : Always step Q s es) : Always step P s es := by
  induction es generalizing s with
  | nil => exact always_nil.2 hs
  | cons e es ih =>
      obtain ⟨hq, hQ⟩ := always_cons.1 hQ
      exact always_cons.2 ⟨hs, ih (h s e hq hQ.head hs) hQ⟩

/-- What the steps meeting `C` preserve holds all along a run of such steps. -/
theorem EachStep.always {P : σ → Prop} {C : σ → ε → Prop}
    (h : ∀ s e, C s e → P s → P (step s e)) {s : σ} (hs : P s) {es : List ε}
    (hC : EachStep step C s es) : Always step P s es := by
  induction es generalizing s with
  | nil => exact always_nil.2 hs
  | cons e es ih =>
      obtain ⟨he, hC⟩ := eachStep_cons.1 hC
      exact always_cons.2 ⟨hs, ih (h s e he hs) hC⟩

/-- Steps that meet `C`, in states that satisfy `I`, meet what follows from the two. -/
theorem EachStep.imp_of_always {I : σ → Prop} {C D : σ → ε → Prop}
    (h : ∀ s e, I s → C s e → D s e) {s : σ} {es : List ε} (hI : Always step I s es)
    (hC : EachStep step C s es) : EachStep step D s es := by
  intro pre e post heq
  have hpre : pre <+: es := ⟨e :: post, heq.symm⟩
  exact h (run step s pre) e (hI pre hpre) (hC pre e post heq)

/-- **The exact rule.**  If, in the states satisfying the invariant `I` and the property `P`, a
step keeps `P` exactly when it meets `C`, then a run keeps `P` all along exactly when all its
steps meet `C`. -/
theorem always_iff_eachStep {I P : σ → Prop} {C : σ → ε → Prop}
    (hI : ∀ s e, I s → I (step s e)) (h : ∀ s e, I s → P s → (P (step s e) ↔ C s e))
    {s : σ} (hs : I s) (hP : P s) (es : List ε) :
    Always step P s es ↔ EachStep step C s es := by
  induction es generalizing s with
  | nil => simpa using hP
  | cons e es ih =>
      rw [always_cons, eachStep_cons]
      constructor
      · rintro ⟨-, hrest⟩
        have hP' : P (step s e) := hrest.head
        exact ⟨(h s e hs hP).1 hP', (ih (hI s e hs) hP').1 hrest⟩
      · rintro ⟨hC, hrest⟩
        have hP' : P (step s e) := (h s e hs hP).2 hC
        exact ⟨hP, (ih (hI s e hs) hP').2 hrest⟩

/-- The exact rule for runs all of whose states are known to satisfy `Q`. -/
theorem Always.iff_eachStep {P Q : σ → Prop} {C : σ → ε → Prop}
    (h : ∀ s e, Q s → Q (step s e) → P s → (P (step s e) ↔ C s e)) {s : σ} (hP : P s)
    {es : List ε} (hQ : Always step Q s es) : Always step P s es ↔ EachStep step C s es := by
  induction es generalizing s with
  | nil => simpa using hP
  | cons e es ih =>
      obtain ⟨hq, hQ⟩ := always_cons.1 hQ
      rw [always_cons, eachStep_cons]
      constructor
      · rintro ⟨-, hrest⟩
        have hP' : P (step s e) := hrest.head
        exact ⟨(h s e hq hQ.head hP).1 hP', (ih hP' hQ).1 hrest⟩
      · rintro ⟨hC, hrest⟩
        have hP' : P (step s e) := (h s e hq hQ.head hP).2 hC
        exact ⟨hP, (ih hP' hQ).2 hrest⟩

/-- The exact rule for a property that needs an invariant of its own: the steps that meet `C` keep
an invariant that implies `P`, and from a state of the invariant every other step loses `P`. -/
theorem always_iff_eachStep_of_inv {J P : σ → Prop} {C : σ → ε → Prop} (hJ : ∀ s, J s → P s)
    (hkeep : ∀ s e, J s → C s e → J (step s e)) (hforce : ∀ s e, J s → P (step s e) → C s e)
    {s : σ} (hs : J s) (es : List ε) : Always step P s es ↔ EachStep step C s es := by
  induction es generalizing s with
  | nil => simpa using hJ s hs
  | cons e es ih =>
      rw [always_cons, eachStep_cons]
      constructor
      · rintro ⟨-, hrest⟩
        have hC : C s e := hforce s e hs hrest.head
        exact ⟨hC, (ih (hkeep s e hs hC)).1 hrest⟩
      · rintro ⟨hC, hrest⟩
        exact ⟨hJ s hs, (ih (hkeep s e hs hC)).2 hrest⟩

/-- A decidable property can be checked along a run. -/
instance decidableAlways {P : σ → Prop} [DecidablePred P] :
    (s : σ) → (es : List ε) → Decidable (Always step P s es)
  | _, [] => decidable_of_iff _ always_nil.symm
  | s, e :: es =>
      have : Decidable (Always step P (step s e) es) := decidableAlways (P := P) (step s e) es
      decidable_of_iff _ always_cons.symm

instance decidableEachStep {C : σ → ε → Prop} [∀ s e, Decidable (C s e)] :
    (s : σ) → (es : List ε) → Decidable (EachStep step C s es)
  | _, [] => isTrue eachStep_nil
  | s, e :: es =>
      have : Decidable (EachStep step C (step s e) es) := decidableEachStep (C := C) (step s e) es
      decidable_of_iff _ eachStep_cons.symm

/-- Two properties that agree in every state agree along a run. -/
theorem always_congr {P Q : σ → Prop} (h : ∀ s, P s ↔ Q s) (s : σ) (es : List ε) :
    Always step P s es ↔ Always step Q s es := by
  constructor
  · intro hP pre hpre
    exact (h _).1 (hP pre hpre)
  · intro hQ pre hpre
    exact (h _).2 (hQ pre hpre)

/-- Two conditions that agree on every step agree on the steps of a run. -/
theorem eachStep_congr {C D : σ → ε → Prop} (h : ∀ s e, C s e ↔ D s e) (s : σ) (es : List ε) :
    EachStep step C s es ↔ EachStep step D s es := by
  constructor
  · intro hC pre e post heq
    exact (h _ e).1 (hC pre e post heq)
  · intro hD pre e post heq
    exact (h _ e).2 (hD pre e post heq)

end Along

/-! ### Two ways of observing a run -/

section Observers

variable {step : σ → ε → σ} {out out' : σ → ε → List ω} {I : σ → Prop}

theorem length_trace_le (hle : ∀ s e, I s → (out' s e).length ≤ (out s e).length) {s : σ}
    {es : List ε} (hI : Always step I s es) :
    (trace step out' s es).length ≤ (trace step out s es).length := by
  induction es generalizing s with
  | nil => exact Nat.le_refl 0
  | cons e es ih =>
      obtain ⟨hs, hrest⟩ := always_cons.1 hI
      rw [trace_cons, trace_cons, List.length_append, List.length_append]
      exact Nat.add_le_add (hle s e hs) (ih hrest)

/-- Observers of whom one never sees more than the other see the same along a run exactly when they
see the same at each of its steps: nothing seen too much is made up for later. -/
theorem trace_eq_trace_iff (hle : ∀ s e, I s → (out' s e).length ≤ (out s e).length) {s : σ}
    {es : List ε} (hI : Always step I s es) :
    trace step out s es = trace step out' s es ↔
      EachStep step (fun s e => out s e = out' s e) s es := by
  induction es generalizing s with
  | nil => simp
  | cons e es ih =>
      obtain ⟨hs, hrest⟩ := always_cons.1 hI
      rw [trace_cons, trace_cons, eachStep_cons, ← ih hrest]
      constructor
      · intro heq
        have hlength := congrArg List.length heq
        rw [List.length_append, List.length_append] at hlength
        have hhead := hle s e hs
        have htail := length_trace_le hle hrest
        exact List.append_inj heq (by omega)
      · rintro ⟨hhead, htail⟩
        rw [hhead, htail]

end Observers

/-! ### Two machines -/

section Machines

variable {τ ε' : Type*} {step : σ → ε → σ} {out : σ → ε → List ω}

/-- If steps that meet `C` keep two machines together and show the same of both, so does a run. -/
theorem trace_eq_of_simulation {step' : τ → ε → τ} {out' : τ → ε → List ω} {R : σ → τ → Prop}
    {C : σ → ε → Prop}
    (h : ∀ s t e, C s e → R s t → out s e = out' t e ∧ R (step s e) (step' t e)) {s : σ} {t : τ}
    (hR : R s t) {es : List ε} (hC : EachStep step C s es) :
    trace step out s es = trace step' out' t es ∧ R (run step s es) (run step' t es) := by
  induction es generalizing s t with
  | nil => exact ⟨rfl, hR⟩
  | cons e es ih =>
      obtain ⟨he, hC⟩ := eachStep_cons.1 hC
      obtain ⟨hout, hR'⟩ := h s t e he hR
      obtain ⟨htrace, hlast⟩ := ih hR' hC
      rw [trace_cons, trace_cons, hout, htrace]
      exact ⟨rfl, hlast⟩

variable {c : σ → τ} {partStep : τ → ε' → τ} {acts : σ → ε → List ε'}

/-- If every step puts a part of the machine through a list of inputs of the part, so does a run. -/
theorem run_component (h : ∀ s e, c (step s e) = run partStep (c s) (acts s e)) (s : σ)
    (es : List ε) : c (run step s es) = run partStep (c s) (trace step acts s es) := by
  induction es generalizing s with
  | nil => rfl
  | cons e es ih => rw [run_cons, trace_cons, run_append, ih, h]

/-- What is shown of the part is then shown by that run. -/
theorem trace_component {partOut : τ → ε' → List ω}
    (h : ∀ s e, c (step s e) = run partStep (c s) (acts s e))
    (hout : ∀ s e, out s e = trace partStep partOut (c s) (acts s e)) (s : σ) (es : List ε) :
    trace step out s es = trace partStep partOut (c s) (trace step acts s es) := by
  induction es generalizing s with
  | nil => rfl
  | cons e es ih => rw [trace_cons, trace_cons, trace_append, ih, hout, h]

theorem eachStep_append {C : σ → ε → Prop} {s : σ} {es fs : List ε} :
    EachStep step C s (es ++ fs) ↔ EachStep step C s es ∧ EachStep step C (run step s es) fs := by
  induction es generalizing s with
  | nil => simp
  | cons e es ih => rw [List.cons_append, eachStep_cons, eachStep_cons, ih, run_cons, and_assoc]

/-- The part takes only steps that meet a condition exactly when every step of the machine puts it
through such steps only. -/
theorem eachStep_component (h : ∀ s e, c (step s e) = run partStep (c s) (acts s e))
    {C : τ → ε' → Prop} {s : σ} {es : List ε} :
    EachStep partStep C (c s) (trace step acts s es) ↔
      EachStep step (fun s e => EachStep partStep C (c s) (acts s e)) s es := by
  induction es generalizing s with
  | nil => simp
  | cons e es ih => rw [trace_cons, eachStep_append, eachStep_cons, ← h, ih]

end Machines

/-! ### Labelled transitions -/

section Labelled

variable {τ : Type*} {Follows : τ → ω → τ → Prop}

theorem filterMap_cons_toList {β : Type*} (f : ω → Option β) (o : ω) (t : List ω) :
    (o :: t).filterMap f = (f o).toList ++ t.filterMap f := by
  rw [List.filterMap_cons]
  cases f o <;> rfl

/-- The observations lead from one state to another, by one transition each. -/
inductive Leads (Follows : τ → ω → τ → Prop) : τ → List ω → τ → Prop
  | nil (p : τ) : Leads Follows p [] p
  | cons {p q r : τ} {o : ω} {t : List ω} (h : Follows p o q) (ht : Leads Follows q t r) :
      Leads Follows p (o :: t) r

namespace Leads

theorem single {p q : τ} {o : ω} (h : Follows p o q) : Leads Follows p [o] q := cons h (nil q)

theorem append {p q r : τ} {t u : List ω} (h : Leads Follows p t q) (h' : Leads Follows q u r) :
    Leads Follows p (t ++ u) r := by
  induction h with
  | nil => exact h'
  | cons ho _ ih => exact cons ho (ih h')

/-- **First in, first out.**  If what goes in at a transition goes to the end of a queue that the state
holds, and what comes out is taken from its front, then along a path all that went in has come out in
the same order, but for what is held at the end. -/
theorem fifo {β : Type*} {f g : ω → Option β} {held : τ → List β}
    (h : ∀ p o q, Follows p o q → held p ++ (f o).toList = (g o).toList ++ held q)
    {p q : τ} {t : List ω} (ht : Leads Follows p t q) :
    held p ++ t.filterMap f = t.filterMap g ++ held q := by
  induction ht with
  | nil p => simp
  | @cons p r q o t ho _ ih =>
      have hhead := h p o r ho
      rw [filterMap_cons_toList, filterMap_cons_toList, ← List.append_assoc, hhead,
        List.append_assoc, ih, List.append_assoc]

/-- The same where the order does not matter. -/
theorem bag {β : Type*} {f g : ω → Option β} {held : τ → List β}
    (h : ∀ p o q, Follows p o q → (held p ++ (f o).toList).Perm ((g o).toList ++ held q))
    {p q : τ} {t : List ω} (ht : Leads Follows p t q) :
    (held p ++ t.filterMap f).Perm (t.filterMap g ++ held q) := by
  induction ht with
  | nil p => simp
  | @cons p r q o t ho _ ih =>
      have hhead := (h p o r ho).append_right (t.filterMap f)
      rw [List.append_assoc, List.append_assoc] at hhead
      rw [filterMap_cons_toList, filterMap_cons_toList, List.append_assoc]
      exact hhead.trans (ih.append_left _)

end Leads

/-- If what is observed of every step leads from one abstraction of the state to the next, so does the
trace of a run. -/
theorem leads_trace {step : σ → ε → σ} {out : σ → ε → List ω} {c : σ → τ}
    (h : ∀ s e, Leads Follows (c s) (out s e) (c (step s e))) (s : σ) (es : List ε) :
    Leads Follows (c s) (trace step out s es) (c (run step s es)) := by
  induction es generalizing s with
  | nil => exact Leads.nil _
  | cons e es ih => exact (h s e).append (ih (step s e))

end Labelled

/-! ### Justified traces -/

/-- Every observation of the trace is accounted for by what was observed before it. -/
def Justified (J : List ω → ω → Prop) (t : List ω) : Prop :=
  ∀ past o rest, t = past ++ o :: rest → J past o

@[simp] theorem justified_nil {J : List ω → ω → Prop} : Justified J [] := by
  intro past o rest h
  simp at h

/-- A longer trace is justified when the shorter one is and its last observation is accounted
for. -/
theorem justified_concat {J : List ω → ω → Prop} {t : List ω} {o : ω} :
    Justified J (t ++ [o]) ↔ Justified J t ∧ J t o := by
  constructor
  · intro h
    refine ⟨fun past x rest heq => ?_, h t o [] rfl⟩
    exact h past x (rest ++ [o]) (by rw [heq]; simp)
  · rintro ⟨ht, ho⟩ past x rest heq
    rcases List.eq_nil_or_concat rest with rfl | ⟨rest', y, rfl⟩
    · obtain ⟨rfl, hx⟩ := List.append_inj' heq rfl
      simp only [List.cons.injEq, and_true] at hx
      subst hx
      exact ho
    · have hsplit : t ++ [o] = (past ++ x :: rest') ++ [y] := by rw [heq]; simp
      obtain ⟨rfl, -⟩ := List.append_inj' hsplit rfl
      exact ht past x rest' rfl

/-! ### Logs -/

/-- One more entry of a log is counted if it is of the kind. -/
theorem countP_concat (p : ω → Bool) (l : List ω) (o : ω) :
    (l ++ [o]).countP p = l.countP p + (p o).toNat := by
  rw [List.countP_append, List.countP_singleton]
  cases p o <;> rfl

theorem forall_mem_concat {P : ω → Prop} {l : List ω} {o : ω} (hl : ∀ x ∈ l, P x) (ho : P o) :
    ∀ x ∈ l ++ [o], P x :=
  List.forall_mem_append.2 ⟨hl, List.forall_mem_singleton.2 ho⟩

end Runs
