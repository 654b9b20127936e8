import Mathlib.Data.List.Basic

/-!
# Transfers in pieces

A buffer is handed over by calls that take a part of it, that take nothing and are
repeated, or that fail for good.  `transfer` is the loop around such calls.  It gives
what was taken and what is left, so that nothing left says that the loop ended well.

The calls are a script; a call behind its end takes all that is left.  `offer` is the same
loop where a call behind the end of the script has not returned yet.

`fetch` is the loop that collects a number of items from pieces as they arrive.  What it
gives depends on the `stream` of the items and on how it ends, not on the pieces
(`fetch_whole`, `fetch_short`).
-/

namespace Transfer

/-- What one call does: it takes `more + 1` items, or all there are; it is to be
repeated; or it fails. -/
inductive Attempt
  | took (more : Nat)
  | retry
  | stop
  deriving DecidableEq

variable {α : Type}

/-- Hand a buffer over: the items taken, and the items left. -/
def transfer : List Attempt → List α → List α × List α
  | _, [] => ([], [])
  | [], item :: items => (item :: items, [])
  | .took more :: attempts, item :: items =>
    let next := transfer attempts (items.drop more)
    (item :: (items.take more ++ next.1), next.2)
  | .retry :: attempts, item :: items => transfer attempts (item :: items)
  | .stop :: _, item :: items => ([], item :: items)

/-- Nothing is lost, repeated or reordered. -/
theorem transfer_append (attempts : List Attempt) (items : List α) :
    (transfer attempts items).1 ++ (transfer attempts items).2 = items := by
  fun_induction transfer attempts items with
  | case1 | case2 | case5 => simp
  | case3 more attempts item items next ih =>
    rw [List.cons_append, List.append_assoc, ih, List.take_append_drop]
  | case4 attempts item items ih => exact ih

/-- A script without a failure hands everything over. -/
theorem transfer_whole {attempts : List Attempt} (h : Attempt.stop ∉ attempts)
    (items : List α) : transfer attempts items = (items, []) := by
  have hleft : (transfer attempts items).2 = [] := by
    fun_induction transfer attempts items with
    | case1 | case2 => rfl
    | case3 more attempts item items next ih =>
      exact ih fun hmem => h (List.mem_cons_of_mem _ hmem)
    | case4 attempts item items ih => exact ih fun hmem => h (List.mem_cons_of_mem _ hmem)
    | case5 => exact absurd List.mem_cons_self h
  have happend := transfer_append attempts items
  rw [hleft, List.append_nil] at happend
  exact Prod.ext happend hleft

/-! ## A caller that waits -/

/-- The loop of `transfer`, with the items taken so far: it ended well, it failed, or it
waits for a call to return. -/
def offer : List Attempt → List α → Option Bool × List α
  | _, [] => (some true, [])
  | [], _ :: _ => (none, [])
  | .took more :: attempts, item :: items =>
    let next := offer attempts (items.drop more)
    (next.1, item :: (items.take more ++ next.2))
  | .retry :: attempts, item :: items => offer attempts (item :: items)
  | .stop :: _, _ :: _ => (some false, [])

theorem offer_isPrefix (attempts : List Attempt) (items : List α) :
    (offer attempts items).2 <+: items := by
  fun_induction offer attempts items with
  | case1 | case2 | case5 => exact List.nil_prefix
  | case3 more attempts item items next ih =>
    refine List.cons_prefix_cons.mpr ⟨rfl, ?_⟩
    conv_rhs => rw [← List.take_append_drop more items]
    exact (List.prefix_append_right_inj _).mpr ih
  | case4 attempts item items ih => exact ih

/-- The loop ends well just behind the last item. -/
theorem offer_whole_iff (attempts : List Attempt) (items : List α) :
    (offer attempts items).1 = some true ↔ (offer attempts items).2 = items := by
  fun_induction offer attempts items with
  | case1 => exact iff_of_true rfl rfl
  | case2 | case5 => exact iff_of_false nofun nofun
  | case3 more attempts item items next ih =>
    rw [ih, List.cons.injEq]
    constructor
    · intro hrest
      rw [hrest, List.take_append_drop]
      exact ⟨rfl, rfl⟩
    · rintro ⟨_, hrest⟩
      conv_rhs at hrest => rw [← List.take_append_drop more items]
      exact List.append_cancel_left hrest
  | case4 attempts item items ih => exact ih

/-- More calls only take more. -/
theorem offer_append (attempts more : List Attempt) (items : List α) :
    (offer attempts items).2 <+: (offer (attempts ++ more) items).2 := by
  fun_induction offer attempts items with
  | case1 | case2 | case5 => exact List.nil_prefix
  | case3 count attempts item items next ih =>
    exact List.cons_prefix_cons.mpr ⟨rfl, (List.prefix_append_right_inj _).mpr ih⟩
  | case4 attempts item items ih => exact ih

/-! ## Items that arrive in pieces -/

/-- What a call finds: items, of which it takes those it asked for; nothing, and it is to be
repeated; the end; or an error. -/
inductive Arrival (α : Type)
  | items (first : α) (more : List α)
  | retry
  | closed
  | failed
  deriving DecidableEq

/-- What the loop comes to: a call has not returned, it ran into the end or into an error, or
all items are there, with what is still to be taken. -/
inductive Fetched (α : Type)
  | waiting
  | closed
  | failed
  | whole (taken : List α) (rest : List (Arrival α))

/-- The items taken before. -/
def Fetched.behind (front : List α) : Fetched α → Fetched α
  | .whole taken rest => .whole (front ++ taken) rest
  | .waiting => .waiting
  | .closed => .closed
  | .failed => .failed

/-- What a call left of a piece is there for the next one. -/
def keep : List α → List (Arrival α) → List (Arrival α)
  | [], arrivals => arrivals
  | first :: more, arrivals => .items first more :: arrivals

/-- Collect a number of items. -/
def fetch : List (Arrival α) → Nat → Fetched α
  | arrivals, 0 => .whole [] arrivals
  | [], _ + 1 => .waiting
  | .retry :: arrivals, count + 1 => fetch arrivals (count + 1)
  | .closed :: _, _ + 1 => .closed
  | .failed :: _, _ + 1 => .failed
  | .items first more :: arrivals, count + 1 =>
    if count < more.length then
      .whole (first :: more.take count) (keep (more.drop count) arrivals)
    else (fetch arrivals (count - more.length)).behind (first :: more)

/-- All items up to the end. -/
def stream : List (Arrival α) → List α
  | [] => []
  | .retry :: arrivals => stream arrivals
  | .closed :: _ => []
  | .failed :: _ => []
  | .items first more :: arrivals => first :: more ++ stream arrivals

/-- What a call finds behind all items. -/
def ending : List (Arrival α) → Fetched α
  | [] => .waiting
  | .retry :: arrivals => ending arrivals
  | .closed :: _ => .closed
  | .failed :: _ => .failed
  | .items _ _ :: arrivals => ending arrivals

theorem stream_keep (items : List α) (arrivals : List (Arrival α)) :
    stream (keep items arrivals) = items ++ stream arrivals := by
  cases items <;> rfl

theorem ending_keep (items : List α) (arrivals : List (Arrival α)) :
    ending (keep items arrivals) = ending arrivals := by
  cases items <;> rfl

/-- What arrives later is behind what arrived before, or behind its end. -/
theorem stream_append (arrivals later : List (Arrival α)) :
    stream (arrivals ++ later) <+: stream arrivals ++ stream later := by
  induction arrivals with
  | nil => exact List.prefix_refl _
  | cons arrival arrivals ih =>
    cases arrival with
    | items first more =>
      simp only [List.cons_append, stream, List.append_assoc]
      exact List.cons_prefix_cons.mpr ⟨rfl, (List.prefix_append_right_inj more).mpr ih⟩
    | retry => exact ih
    | closed => exact List.nil_prefix
    | failed => exact List.nil_prefix

/-- No item is behind all items. -/
theorem ending_ne_whole (arrivals : List (Arrival α)) (taken : List α)
    (rest : List (Arrival α)) : ending arrivals ≠ .whole taken rest := by
  fun_induction ending arrivals with
  | case1 | case3 | case4 => exact nofun
  | case2 arrivals ih | case5 _ _ arrivals ih => exact ih

theorem ending_behind (front : List α) (arrivals : List (Arrival α)) :
    (ending arrivals).behind front = ending arrivals := by
  cases hending : ending arrivals with
  | waiting | closed | failed => rfl
  | whole taken rest => exact absurd hending (ending_ne_whole arrivals taken rest)

/-- Where the stream is too short, the loop comes to its end. -/
theorem fetch_short {arrivals : List (Arrival α)} {count : Nat}
    (h : (stream arrivals).length < count) : fetch arrivals count = ending arrivals := by
  fun_induction fetch arrivals count with
  | case1 => exact absurd h (Nat.not_lt_zero _)
  | case2 | case4 | case5 => rfl
  | case3 arrivals count ih => exact ih h
  | case6 first more arrivals count hless =>
    simp only [stream, List.length_append, List.length_cons] at h
    omega
  | case7 first more arrivals count hless ih =>
    simp only [stream, List.length_append, List.length_cons] at h
    rw [ih (by omega), ending_behind]
    rfl

/-- Otherwise the loop takes the front of the stream, and leaves the rest. -/
theorem fetch_whole {arrivals : List (Arrival α)} {count : Nat}
    (h : count ≤ (stream arrivals).length) :
    ∃ rest, fetch arrivals count = .whole ((stream arrivals).take count) rest ∧
      stream rest = (stream arrivals).drop count ∧ ending rest = ending arrivals := by
  fun_induction fetch arrivals count with
  | case1 arrivals => exact ⟨arrivals, rfl, rfl, rfl⟩
  | case2 | case4 | case5 => exact absurd h (Nat.not_succ_le_zero _)
  | case3 arrivals count ih => exact ih h
  | case6 first more arrivals count hless =>
    refine ⟨keep (more.drop count) arrivals, ?_, ?_, ending_keep _ arrivals⟩
    · rw [stream, List.cons_append, List.take_succ_cons,
        List.take_append_of_le_length (Nat.le_of_lt hless)]
    · rw [stream_keep, stream, List.cons_append, List.drop_succ_cons,
        List.drop_append_of_le_length (Nat.le_of_lt hless)]
  | case7 first more arrivals count hless ih =>
    simp only [stream, List.length_append, List.length_cons] at h
    obtain ⟨rest, hfetch, hstream, hending⟩ := ih (by omega)
    have hmore : more.length ≤ count := Nat.le_of_not_lt hless
    refine ⟨rest, ?_, ?_, hending⟩
    · rw [hfetch, Fetched.behind, stream, List.cons_append, List.cons_append, List.take_succ_cons,
        List.take_append, List.take_of_length_le hmore]
    · rw [hstream, stream, List.cons_append, List.drop_succ_cons, List.drop_append,
        List.drop_of_length_le hmore, List.nil_append]

end Transfer
