import Mathlib.Data.List.Basic

/-!
# Scanners over a growing input

A scanner looks at the front of its input and either consumes some items,
reporting one event for them, or waits for more input.  `Scanner` packs the
two laws that make it safe to run such a scanner on partial input:

* `consume_bounds`: a decision consumes at least one item, and only items that
  are there;
* `stable`: a decision made early is the decision made with more input.

`scan` runs a scanner until it waits.  `scan_append` is the result that the
laws buy: to scan a prefix, keep the unread rest, and go on when the remaining
input arrives is the same as to scan the whole input in one pass.

`Reads` is a scan that may be broken off after any decision.  Broken-off scans
compose, also when input arrives in between, and what they report is a prefix of
what the whole scan reports.

`marks` are the events with their positions, and `marks_reach` says when a given
position is one of them.
-/

namespace StreamScan

/-- What a scanner decides about the front of its input. -/
inductive Verdict (β : Type)
  | wait
  | consume (count : Nat) (event : β)

/-- A decision function with the laws of a scanner. -/
structure Scanner (α β : Type) where
  verdict : List α → Verdict β
  consume_bounds : ∀ {xs : List α} {n : Nat} {b : β},
    verdict xs = .consume n b → 0 < n ∧ n ≤ xs.length
  stable : ∀ {xs : List α} {n : Nat} {b : β} (ys : List α),
    verdict xs = .consume n b → verdict (xs ++ ys) = .consume n b

variable {α β : Type} (S : Scanner α β)

/-- Consume until the scanner waits: the events, and the items left. -/
def scan (xs : List α) : List β × List α :=
  match h : S.verdict xs with
  | .wait => ([], xs)
  | .consume n b =>
    have := S.consume_bounds h
    let rest := scan (xs.drop n)
    (b :: rest.1, rest.2)
termination_by xs.length
decreasing_by
  simp only [List.length_drop]
  omega

variable {S}

theorem scan_of_wait {xs : List α} (h : S.verdict xs = .wait) :
    scan S xs = ([], xs) := by
  rw [scan]
  split
  · rfl
  · rename_i h'
    rw [h] at h'
    cases h'

theorem scan_of_consume {xs : List α} {n : Nat} {b : β}
    (h : S.verdict xs = .consume n b) :
    scan S xs = (b :: (scan S (xs.drop n)).1, (scan S (xs.drop n)).2) := by
  rw [scan]
  split
  · rename_i h'
    rw [h] at h'
    cases h'
  · rename_i h'
    rw [h] at h'
    cases h'
    rfl

/-- An item sequence that the scanner takes as one unit, in front of more
input. -/
theorem scan_unit_append {unit : List α} {b : β}
    (h : S.verdict unit = .consume unit.length b) (ys : List α) :
    scan S (unit ++ ys) = (b :: (scan S ys).1, (scan S ys).2) := by
  rw [scan_of_consume (S.stable ys h), List.drop_left]

/-- The scanner stops only where it has to wait. -/
theorem scan_rest_wait (xs : List α) : S.verdict (scan S xs).2 = .wait := by
  fun_induction scan S xs with
  | case1 xs h => exact h
  | case2 xs n b h _ rest ih => exact ih

/-- To stop after a prefix and go on from the items left is to scan the whole
input. -/
theorem scan_append (xs ys : List α) :
    scan S (xs ++ ys) =
      ((scan S xs).1 ++ (scan S ((scan S xs).2 ++ ys)).1,
        (scan S ((scan S xs).2 ++ ys)).2) := by
  -- The induction follows the consumed units of `xs`; the scanner makes the
  -- same decision with `ys` behind them.
  fun_induction scan S xs with
  | case1 xs h => simp
  | case2 xs n b h hn rest ih =>
    have hdrop : (xs ++ ys).drop n = xs.drop n ++ ys :=
      List.drop_append_of_le_length hn.2
    rw [scan_of_consume (S.stable ys h), hdrop, ih]
    rfl

/-- An input made of units is read unit by unit, with nothing left. -/
theorem scan_flatten_units {ι : Type} {unit : ι → List α} {event : ι → β}
    (h : ∀ i, S.verdict (unit i) = .consume (unit i).length (event i))
    (hnil : S.verdict [] = .wait) (is : List ι) :
    scan S (is.map unit).flatten = (is.map event, []) := by
  induction is with
  | nil => exact scan_of_wait hnil
  | cons i is ih =>
    rw [List.map_cons, List.flatten_cons, scan_unit_append (h i), ih,
      List.map_cons]

/-! ## Scans that are broken off -/

variable (S) in
/-- Some decisions in a row: from `xs` the scanner reports the events, and the last items
are left. -/
inductive Reads : List α → List β → List α → Prop
  | refl (xs : List α) : Reads xs [] xs
  | step {xs ys : List α} {n : Nat} {b : β} {bs : List β} (h : S.verdict xs = .consume n b)
      (hrest : Reads (xs.drop n) bs ys) : Reads xs (b :: bs) ys

theorem Reads.single {xs : List α} {n : Nat} {b : β} (h : S.verdict xs = .consume n b) :
    Reads S xs [b] (xs.drop n) :=
  .step h (.refl _)

theorem Reads.trans {xs ys zs : List α} {bs cs : List β} (h : Reads S xs bs ys)
    (h' : Reads S ys cs zs) : Reads S xs (bs ++ cs) zs := by
  induction h with
  | refl xs => exact h'
  | step hverdict _ ih => exact .step hverdict (ih h')

/-- Items that arrive later change no decision. -/
theorem Reads.append {xs ys : List α} {bs : List β} (h : Reads S xs bs ys) (zs : List α) :
    Reads S (xs ++ zs) bs (ys ++ zs) := by
  induction h with
  | refl xs => exact .refl _
  | step hverdict _ ih =>
    refine .step (S.stable zs hverdict) ?_
    rwa [List.drop_append_of_le_length (S.consume_bounds hverdict).2]

/-- The whole scan goes on where the decisions end. -/
theorem Reads.scan_eq {xs ys : List α} {bs : List β} (h : Reads S xs bs ys) :
    scan S xs = (bs ++ (scan S ys).1, (scan S ys).2) := by
  induction h with
  | refl xs => rfl
  | step hverdict _ ih => rw [scan_of_consume hverdict, ih, List.cons_append]

theorem Reads.length_le {xs ys : List α} {bs : List β} (h : Reads S xs bs ys) :
    bs.length + ys.length ≤ xs.length := by
  induction h with
  | refl xs => simp
  | step hverdict _ ih =>
    have hbounds := S.consume_bounds hverdict
    rw [List.length_drop] at ih
    rw [List.length_cons]
    omega

/-- Decisions about the front of an input that is made of units: each reports the next unit, and
with the items that are still to come the rest is made of the units behind them. -/
theorem Reads.units {ι : Type} {unit : ι → List α} {event : ι → β}
    (h : ∀ i, S.verdict (unit i) = .consume (unit i).length (event i)) {xs ys zs : List α}
    {bs : List β} (hreads : Reads S xs bs ys) {is : List ι}
    (hxs : xs ++ zs = (is.map unit).flatten) :
    ∃ read left, is = read ++ left ∧ bs = read.map event ∧ ys ++ zs = (left.map unit).flatten := by
  induction hreads generalizing is with
  | refl xs => exact ⟨[], is, rfl, rfl, hxs⟩
  | @step xs ys n b bs hverdict _ ih =>
    have hbounds := S.consume_bounds hverdict
    cases is with
    | nil =>
      have hlength := congrArg List.length hxs
      rw [List.length_append, List.map_nil, List.flatten_nil, List.length_nil] at hlength
      omega
    | cons i is =>
      -- With the missing items behind it, the decision is the one about the first unit.
      have hsame := S.stable zs hverdict
      rw [hxs, List.map_cons, List.flatten_cons, S.stable _ (h i)] at hsame
      cases hsame
      have hrest : xs.drop (unit i).length ++ zs = (is.map unit).flatten := by
        rw [← List.drop_append_of_le_length hbounds.2, hxs, List.map_cons, List.flatten_cons,
          List.drop_left]
      obtain ⟨read, left, rfl, rfl, hleft⟩ := ih hrest
      exact ⟨i :: read, left, rfl, rfl, hleft⟩

/-! ## Positions -/

variable (S) in
/-- The events of `scan`, each with the position of its first item, where the
input starts at `position`. -/
def marks (position : Nat) (xs : List α) : List (Nat × β) :=
  match h : S.verdict xs with
  | .wait => []
  | .consume n b =>
    have := S.consume_bounds h
    (position, b) :: marks (position + n) (xs.drop n)
termination_by xs.length
decreasing_by
  simp only [List.length_drop]
  omega

theorem marks_of_consume {xs : List α} {n : Nat} {b : β} (position : Nat)
    (h : S.verdict xs = .consume n b) :
    marks S position xs = (position, b) :: marks S (position + n) (xs.drop n) := by
  rw [marks]
  split
  · rename_i h'
    rw [h] at h'
    cases h'
  · rename_i h'
    rw [h] at h'
    cases h'
    rfl

theorem marks_map_snd (position : Nat) (xs : List α) :
    (marks S position xs).map Prod.snd = (scan S xs).1 := by
  fun_induction marks S position xs with
  | case1 position xs h => rw [scan_of_wait h]; rfl
  | case2 position xs n b h _ ih => rw [scan_of_consume h, List.map_cons, ih]

theorem le_of_mem_marks {position : Nat} {xs : List α} {mark : Nat × β}
    (h : mark ∈ marks S position xs) : position ≤ mark.1 := by
  fun_induction marks S position xs with
  | case1 => cases h
  | case2 position xs n b _ _ ih =>
    rcases List.mem_cons.mp h with rfl | hrest
    · exact Nat.le_refl _
    · have := ih hrest
      omega

/-- A scanner that decides at every place before `p`, and never past `p`, comes
to `p`. -/
theorem marks_reach {xs : List α} {p : Nat}
    (h : ∀ q < p, ∃ n b, S.verdict (xs.drop q) = .consume n b ∧ q + n ≤ p) :
    ∃ before, marks S 0 xs = before ++ marks S p (xs.drop p) ∧ ∀ mark ∈ before, mark.1 < p := by
  suffices hfrom : ∀ gap q, q + gap = p → ∃ before,
      marks S q (xs.drop q) = before ++ marks S p (xs.drop p) ∧ ∀ mark ∈ before, mark.1 < p by
    exact hfrom p 0 (Nat.zero_add p)
  intro gap
  induction gap using Nat.strongRecOn with
  | _ gap ih =>
    intro q hq
    rcases Nat.eq_zero_or_pos gap with rfl | hgap
    · obtain rfl : q = p := by omega
      exact ⟨[], rfl, by simp⟩
    · obtain ⟨n, b, hverdict, hle⟩ := h q (by omega)
      have hn := (S.consume_bounds hverdict).1
      obtain ⟨before, hbefore, hlt⟩ := ih (p - (q + n)) (by omega) (q + n) (by omega)
      refine ⟨(q, b) :: before, ?_, ?_⟩
      · rw [marks_of_consume q hverdict, List.drop_drop, hbefore]
        rfl
      · intro mark hmark
        rcases List.mem_cons.mp hmark with rfl | hrest
        · show q < p
          omega
        · exact hlt mark hrest

end StreamScan
