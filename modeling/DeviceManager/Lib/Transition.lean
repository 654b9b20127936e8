import Mathlib.Data.List.Basic

/-!
# Event-driven systems and their runs

A `System` is a set of initial states and a step function that is partial:
`step s e = none` says that the event `e` ends the run or cannot happen in
`s`.  The step function is the whole model, so a concrete run can be replayed
by evaluation and a general one is followed by induction.

`ReachableBy P` collects the states of the runs whose steps all meet `P`.
`Reachable` is the case where nothing is asked of the steps.  A safety proof
names an invariant, shows it initially and across one step, and reads it off
with `ReachableBy.invariant`.

`runFrom` replays a list of events, and `runBy` does so as long as every step
meets `P`.  The state that a replay ends in is reachable.  `runFrom_of_rank` is the
rule for a goal that can be reached: a rank, and a step that lowers it.

`Trace` is a run together with what its steps are labelled with.  What a state
owes to the past of its run is a relation between the two, shown for the empty
trace and across one step.
-/

/-- Initial states and a partial step function. -/
structure System (σ ε : Type) where
  init : σ → Prop
  step : σ → ε → Option σ

namespace System

variable {σ ε : Type} {S : System σ ε}

/-- The states of the runs whose steps all meet `P`. -/
inductive ReachableBy (S : System σ ε) (P : σ → ε → Prop) : σ → Prop
  | init {s : σ} : S.init s → ReachableBy S P s
  | step {s s' : σ} {e : ε} :
      ReachableBy S P s → P s e → S.step s e = some s' → ReachableBy S P s'

/-- The states of all runs. -/
def Reachable (S : System σ ε) : σ → Prop :=
  S.ReachableBy fun _ _ => True

/-- An invariant that holds initially and survives every step that meets `P`
holds in every state of those runs. -/
theorem ReachableBy.invariant {P : σ → ε → Prop} {Inv : σ → Prop}
    (hinit : ∀ s, S.init s → Inv s)
    (hstep : ∀ s e s', Inv s → P s e → S.step s e = some s' → Inv s')
    {s : σ} (h : S.ReachableBy P s) : Inv s := by
  induction h with
  | init hs => exact hinit _ hs
  | step _ hP hse ih => exact hstep _ _ _ ih hP hse

theorem Reachable.invariant {Inv : σ → Prop}
    (hinit : ∀ s, S.init s → Inv s)
    (hstep : ∀ s e s', Inv s → S.step s e = some s' → Inv s')
    {s : σ} (h : S.Reachable s) : Inv s :=
  ReachableBy.invariant hinit (fun s e s' hs _ hse => hstep s e s' hs hse) h

/-- Replay a list of events. -/
def runFrom (S : System σ ε) (s : σ) : List ε → Option σ
  | [] => some s
  | e :: events => (S.step s e).bind fun s' => S.runFrom s' events

@[simp] theorem runFrom_nil (s : σ) : S.runFrom s [] = some s := rfl

@[simp] theorem runFrom_cons (s : σ) (e : ε) (events : List ε) :
    S.runFrom s (e :: events) =
      (S.step s e).bind fun s' => S.runFrom s' events := rfl

/-- A replay of events that meet `P` wherever they happen stays among the states
reached that way. -/
theorem ReachableBy.runFrom {P : σ → ε → Prop} {s s' : σ} (hs : S.ReachableBy P s)
    {events : List ε} (hP : ∀ e ∈ events, ∀ t, P t e)
    (h : S.runFrom s events = some s') : S.ReachableBy P s' := by
  induction events generalizing s with
  | nil =>
    obtain rfl : s = s' := by simpa using h
    exact hs
  | cons e events ih =>
    rw [runFrom_cons, Option.bind_eq_some_iff] at h
    obtain ⟨t, hse, hrest⟩ := h
    exact ih (.step hs (hP e List.mem_cons_self s) hse)
      (fun e' he' => hP e' (List.mem_cons_of_mem e he')) hrest

/-- A replay from an initial state. -/
theorem Reachable.runFrom {s s' : σ} (hinit : S.init s) {events : List ε}
    (h : S.runFrom s events = some s') : S.Reachable s' :=
  ReachableBy.runFrom (.init hinit) (fun _ _ _ => trivial) h

/-- A run to a goal: where the goal is not reached yet, there is a step that reaches it or lowers
the rank. -/
theorem runFrom_of_rank {At : Nat → σ → Prop} {goal : σ → Prop} {ok : ε → Prop}
    (h : ∀ rank s, At rank s → goal s ∨ ∃ e s' rank', ok e ∧ S.step s e = some s' ∧
      rank' < rank ∧ At rank' s') {rank : Nat} {s : σ} (hs : At rank s) :
    ∃ events s', (∀ e ∈ events, ok e) ∧ S.runFrom s events = some s' ∧ goal s' := by
  induction rank using Nat.strongRecOn generalizing s with
  | _ rank ih =>
    rcases h rank s hs with hgoal | ⟨e, s', rank', hok, hstep, hless, hnext⟩
    · exact ⟨[], s, by simp, rfl, hgoal⟩
    · obtain ⟨events, t, hevents, hrun, hgoal⟩ := ih rank' hless hnext
      refine ⟨e :: events, t, List.forall_mem_cons.mpr ⟨hok, hevents⟩, ?_, hgoal⟩
      rw [runFrom_cons, hstep]
      exact hrun

/-- Replay a list of events as long as every step meets `P`. -/
def runBy (S : System σ ε) (P : σ → ε → Prop) [∀ s e, Decidable (P s e)] (s : σ) :
    List ε → Option σ
  | [] => some s
  | e :: events => if P s e then (S.step s e).bind fun s' => S.runBy P s' events else none

theorem ReachableBy.runBy {P : σ → ε → Prop} [∀ s e, Decidable (P s e)] {s s' : σ}
    (hs : S.ReachableBy P s) {events : List ε} (h : S.runBy P s events = some s') :
    S.ReachableBy P s' := by
  induction events generalizing s with
  | nil =>
    obtain rfl := Option.some.inj h
    exact hs
  | cons e events ih =>
    rw [System.runBy] at h
    split at h
    · rename_i hP
      obtain ⟨t, hse, hrest⟩ := Option.bind_eq_some_iff.mp h
      exact ih (.step hs hP hse) hrest
    · cases h

/-! ## Traces -/

section Traces

variable {α : Type} {P : σ → ε → Prop} {label : σ → ε → List α}

/-- A run from `s` whose steps all meet `P`, with the labels of its steps and the
state it ends in. -/
inductive Trace (S : System σ ε) (P : σ → ε → Prop) (label : σ → ε → List α) (s : σ) :
    List α → σ → Prop
  | start : Trace S P label s [] s
  | step {trace : List α} {t u : σ} {e : ε} :
      Trace S P label s trace t → P t e → S.step t e = some u →
        Trace S P label s (trace ++ label t e) u

/-- A relation between the labels so far and the state. -/
theorem Trace.invariant {R : List α → σ → Prop} {s t : σ} {trace : List α}
    (hstart : R [] s)
    (hstep : ∀ trace t e u, R trace t → P t e → S.step t e = some u → R (trace ++ label t e) u)
    (h : S.Trace P label s trace t) : R trace t := by
  induction h with
  | start => exact hstart
  | step _ hP hse ih => exact hstep _ _ _ _ ih hP hse

/-- Every item has the property together with the items before it. -/
def Historic (P : List α → α → Prop) (items : List α) : Prop :=
  ∀ before item after, items = before ++ item :: after → P before item

theorem Historic.append {P : List α → α → Prop} {items more : List α} (h : Historic P items)
    (hmore : ∀ before item after, more = before ++ item :: after → P (items ++ before) item) :
    Historic P (items ++ more) := by
  intro before item after hsplit
  rcases List.append_eq_append_iff.mp hsplit with ⟨skipped, rfl, hrest⟩ | ⟨kept, hitems, hrest⟩
  · exact hmore skipped item after hrest
  cases kept with
  | nil =>
    rw [List.append_nil] at hitems
    subst hitems
    have hfirst := hmore [] item after hrest.symm
    rwa [List.append_nil] at hfirst
  | cons first kept =>
    obtain ⟨rfl, _⟩ := List.cons.inj hrest
    exact h before item kept hitems

/-- The labels of the steps of a replay. -/
def labels (S : System σ ε) (label : σ → ε → List α) (s : σ) : List ε → List α
  | [] => []
  | e :: events => label s e ++
    match S.step s e with
    | none => []
    | some s' => S.labels label s' events

/-- A replay goes on with a run. -/
theorem Trace.runBy [∀ s e, Decidable (P s e)] {s t u : σ} {trace : List α} {events : List ε}
    (h : S.Trace P label s trace t) (hrun : S.runBy P t events = some u) :
    S.Trace P label s (trace ++ S.labels label t events) u := by
  induction events generalizing t trace with
  | nil =>
    obtain rfl := Option.some.inj hrun
    rw [labels, List.append_nil]
    exact h
  | cons e events ih =>
    rw [System.runBy] at hrun
    split at hrun
    · rename_i hP
      obtain ⟨t', hse, hrest⟩ := Option.bind_eq_some_iff.mp hrun
      rw [labels, hse, ← List.append_assoc]
      exact ih (.step h hP hse) hrest
    · cases hrun

end Traces

end System
