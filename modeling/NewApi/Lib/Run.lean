import Mathlib.Data.List.Infix
import Mathlib.Logic.Function.Basic

/-!
# Runs of a step function, and threads over a shared state

A run is the fold of a step function `σ → ε → σ` over a list of events. `Along ok` says that every event of a run satisfies `ok` in the
state it meets, and the rules below carry an invariant through such a run. What the events are observed to do is its trace. A `Conf` is a
shared state with one local state per thread, and an act of thread `i` reads and writes the shared state and the local state of `i` only.
-/

namespace Run

variable {σ ε : Type*} {step : σ → ε → σ} {ok : σ → ε → Prop} {es : List ε} {s : σ}

/-- The state a run ends in. -/
def exec (step : σ → ε → σ) (s : σ) (es : List ε) : σ := es.foldl step s

/-- Every event of the run satisfies `ok` in the state it meets. -/
def Along (step : σ → ε → σ) (ok : σ → ε → Prop) : σ → List ε → Prop
  | _, [] => True
  | s, e :: es => ok s e ∧ Along step ok (step s e) es

@[simp] theorem exec_nil (s : σ) : exec step s [] = s := rfl

@[simp] theorem exec_cons (s : σ) (e : ε) (es : List ε) : exec step s (e :: es) = exec step (step s e) es := rfl

/-- A run over two lists is one after the other. -/
theorem exec_append (s : σ) (es fs : List ε) : exec step s (es ++ fs) = exec step (exec step s es) fs := by
  simp [exec]

@[simp] theorem along_nil (ok : σ → ε → Prop) (s : σ) : Along step ok s [] := trivial

@[simp] theorem along_cons (ok : σ → ε → Prop) (s : σ) (e : ε) (es : List ε) :
    Along step ok s (e :: es) ↔ ok s e ∧ Along step ok (step s e) es := Iff.rfl

instance decidableAlong (ok : σ → ε → Prop) [∀ s e, Decidable (ok s e)] : ∀ s es, Decidable (Along step ok s es)
  | _, [] => isTrue trivial
  | s, e :: es => by
    have := decidableAlong ok (step s e) es
    exact inferInstanceAs (Decidable (ok s e ∧ Along step ok (step s e) es))

/-- A condition along two lists holds along each. -/
theorem along_append (ok : σ → ε → Prop) (s : σ) (es fs : List ε) :
    Along step ok s (es ++ fs) ↔ Along step ok s es ∧ Along step ok (exec step s es) fs := by
  induction es generalizing s with
  | nil => simp
  | cons e es ih => simp [ih, and_assoc]

/-- Two conditions hold along a run exactly when both together do. -/
theorem along_and {ok ok' : σ → ε → Prop} : Along step (fun s e => ok s e ∧ ok' s e) s es ↔ Along step ok s es ∧ Along step ok' s es := by
  induction es generalizing s with
  | nil => simp
  | cons e es ih =>
    simp only [along_cons, ih]
    tauto

/-- A condition every event satisfies in every state holds along every run. -/
theorem along_of_forall (h : ∀ s e, ok s e) (s : σ) (es : List ε) : Along step ok s es := by
  induction es generalizing s with
  | nil => trivial
  | cons e es ih => exact ⟨h s e, ih _⟩

/-- A condition on the events alone holds along a run whose events all satisfy it. -/
theorem along_of_mem {ok : ε → Prop} (h : ∀ e ∈ es, ok e) (s : σ) : Along step (fun _ e => ok e) s es := by
  induction es generalizing s with
  | nil => trivial
  | cons e es ih => exact ⟨h e List.mem_cons_self, ih (fun e he => h e (List.mem_cons_of_mem _ he)) _⟩

variable {P : σ → Prop}

/-- The invariant rule: what every step that meets its condition keeps, a run of such steps keeps. -/
theorem Along.invariant (hstep : ∀ s e, ok s e → P s → P (step s e)) {s : σ} {es : List ε}
    (hrun : Along step ok s es) (h0 : P s) : P (exec step s es) := by
  induction es generalizing s with
  | nil => exact h0
  | cons e es ih => exact ih hrun.2 (hstep s e hrun.1 h0)

/-- The invariant rule at every state on the way: the state after any initial part of the run. -/
theorem Along.invariant_reached (hstep : ∀ s e, ok s e → P s → P (step s e)) (hrun : Along step ok s es) (h0 : P s) :
    ∀ pre, pre <+: es → P (exec step s pre) := by
  rintro pre ⟨post, rfl⟩
  exact Along.invariant hstep ((along_append ok s pre post).1 hrun).1 h0

/-- What every step keeps is a condition the steps meet. -/
theorem Along.and_kept (hstep : ∀ s e, ok s e → P s → P (step s e)) (hrun : Along step ok s es) (h0 : P s) :
    Along step (fun s e => ok s e ∧ P s) s es := by
  induction es generalizing s with
  | nil => trivial
  | cons e es ih => exact ⟨⟨hrun.1, h0⟩, ih hrun.2 (hstep s e hrun.1 h0)⟩

/-- The invariant rule for steps that need no condition. -/
theorem exec_invariant (hstep : ∀ s e, P s → P (step s e)) (h0 : P s) (es : List ε) : P (exec step s es) := by
  have hrun : Along step (fun _ _ => True) s es := along_of_forall (fun _ _ => trivial) s es
  exact hrun.invariant (fun s e _ => hstep s e) h0

/-! ### What is observed along a run -/

variable {ο : Type*} {obs : σ → ε → List ο} {P : σ → List ο → Prop}

/-- What the events of a run do, in order, where `obs` tells what one event does in the state it meets. -/
def trace (step : σ → ε → σ) (obs : σ → ε → List ο) : σ → List ε → List ο
  | _, [] => []
  | s, e :: es => obs s e ++ trace step obs (step s e) es

@[simp] theorem trace_nil (s : σ) : trace step obs s [] = [] := rfl

@[simp] theorem trace_cons (s : σ) (e : ε) (es : List ε) : trace step obs s (e :: es) = obs s e ++ trace step obs (step s e) es := rfl

/-- What a run over two lists shows. -/
theorem trace_append (s : σ) (es fs : List ε) :
    trace step obs s (es ++ fs) = trace step obs s es ++ trace step obs (exec step s es) fs := by
  induction es generalizing s with
  | nil => rfl
  | cons e es ih => simp [ih]

/-- A condition on what is observed that holds of the whole trace. -/
theorem along_of_trace {Q : ο → Prop} (h : ∀ o ∈ trace step obs s es, Q o) : Along step (fun s e => ∀ o ∈ obs s e, Q o) s es := by
  induction es generalizing s with
  | nil => trivial
  | cons e es ih =>
    exact ⟨fun o ho => h o (List.mem_append_left _ ho), ih fun o ho => h o (List.mem_append_right _ ho)⟩

/-- The invariant rule with a trace: what every step that meets its condition keeps, of the state and of what was done before. -/
theorem Along.invariant_traced (hstep : ∀ s e done, ok s e → P s done → P (step s e) (done ++ obs s e)) {done : List ο}
    (hrun : Along step ok s es) (h0 : P s done) : P (exec step s es) (done ++ trace step obs s es) := by
  induction es generalizing s done with
  | nil => simpa using h0
  | cons e es ih =>
    have hnext := ih hrun.2 (hstep s e done hrun.1 h0)
    simpa [List.append_assoc] using hnext

/-- The rule for an exact condition: where a step keeps `P` exactly when it meets its condition, a run meets the condition throughout
exactly when `P` holds in every state on the way. `I` is what every step keeps. -/
theorem along_iff_traced (obs : σ → ε → List ο) {I : σ → Prop}
    (hI : ∀ s e, I s → I (step s e)) (hstep : ∀ s e done, I s → P s done → (P (step s e) (done ++ obs s e) ↔ ok s e))
    (done : List ο) (hs : I s) (h0 : P s done) (es : List ε) :
    Along step ok s es ↔ ∀ pre, pre <+: es → P (exec step s pre) (done ++ trace step obs s pre) := by
  induction es generalizing s done with
  | nil => simpa using h0
  | cons e es ih =>
    constructor
    · rintro ⟨hok, hrun⟩ pre hpre
      have hnext := (hstep s e done hs h0).2 hok
      rcases List.prefix_cons_iff.1 hpre with rfl | ⟨rest, rfl, hrest⟩
      · simpa using h0
      · simpa [List.append_assoc] using (ih _ (hI s e hs) hnext).1 hrun rest hrest
    · intro hall
      have hnext : P (step s e) (done ++ obs s e) := by simpa using hall [e] (by simp)
      refine ⟨(hstep s e done hs h0).1 hnext, (ih _ (hI s e hs) hnext).2 fun rest hrest => ?_⟩
      have hrest' := hall (e :: rest) (List.cons_prefix_cons.2 ⟨rfl, hrest⟩)
      simpa [List.append_assoc] using hrest'

/-- The rule for an exact condition, of the state alone. -/
theorem along_iff_reached {I P : σ → Prop} (hI : ∀ s e, I s → I (step s e))
    (hstep : ∀ s e, I s → P s → (P (step s e) ↔ ok s e)) (hs : I s) (h0 : P s) (es : List ε) :
    Along step ok s es ↔ ∀ pre, pre <+: es → P (exec step s pre) :=
  along_iff_traced (fun _ _ => ([] : List Unit)) hI (fun s e _ => hstep s e) [] hs h0 es

end Run

/-! ## Threads -/

namespace Threads

variable {σ ι τ : Type*}

/-- A shared state and one local state per thread. -/
@[ext] structure Conf (σ ι τ : Type*) where
  shared : σ
  threads : ι → τ

variable [DecidableEq ι]

/-- Thread `i` acts: `f` reads the shared state and the thread's own, and gives both anew. -/
def Conf.act (c : Conf σ ι τ) (i : ι) (f : σ → τ → σ × τ) : Conf σ ι τ :=
  ⟨(f c.shared (c.threads i)).1, Function.update c.threads i (f c.shared (c.threads i)).2⟩

theorem Conf.act_threads_self (c : Conf σ ι τ) (i : ι) (f : σ → τ → σ × τ) :
    (c.act i f).threads i = (f c.shared (c.threads i)).2 := Function.update_self _ _ _

/-- Who has `p` after a thread has moved to a state without it had it before, and is another. -/
theorem had_before {p : τ → Bool} {threads : ι → τ} {i j : ι} {s' : τ} (hs' : p s' = false)
    (h : p (Function.update threads i s' j) = true) : p (threads j) = true ∧ j ≠ i := by
  by_cases hj : j = i
  · subst hj
    rw [Function.update_self, hs'] at h
    cases h
  · rw [Function.update_of_ne hj] at h
    exact ⟨h, hj⟩

/-- The rule for an act: what it can do is one of the ways `G`, and each of them leads to `P`. -/
theorem Conf.act_of_ways {G : τ → σ → τ → Prop} {P : Conf σ ι τ → Prop} {c : Conf σ ι τ} {i : ι} {f : σ → τ → σ × τ}
    (hway : G (c.threads i) (f c.shared (c.threads i)).1 (f c.shared (c.threads i)).2)
    (h : ∀ s sh' s', c.threads i = s → G s sh' s' → P ⟨sh', Function.update c.threads i s'⟩) : P (c.act i f) :=
  h _ _ _ rfl hway

end Threads
