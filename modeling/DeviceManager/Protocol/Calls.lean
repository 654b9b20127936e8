import DeviceManager.Protocol.Stream

/-!
# The calls that the parser makes

The parser stops at the first callback that does not return `DEVMGR_OK`, and returns what
that callback returned.  `recorded` is the callback with a record of its calls, `feedCalls` the
record that `parserFeed` leaves.  `parserFeed_result_iff` says that a code other than the
parser's own is its result exactly if one of the calls returned it.

`Delivers` is the rule of the loops for a relation between the context and the calls so far:
`feedCalls_keeps` reads it off for a feed that succeeds, `feedCalls_find` for what the calls of
any feed find.
-/

namespace Devmgr

variable {κ : Type}

/-- The callback, with a record of its calls: the context that each found, and the frame. -/
def recorded (callback : Frame → κ → Int × κ) (frame : Frame) (state : κ × List (κ × Frame)) :
    Int × κ × List (κ × Frame) :=
  let reply := callback frame state.1
  (reply.1, reply.2, state.2 ++ [(state.1, frame)])

/-- The calls that `parserFeed` makes. -/
def feedCalls (callback : Frame → κ → Int × κ) (parser : Parser) (data : List UInt8)
    (context : κ) : List (κ × Frame) :=
  (parserFeed (recorded callback) parser data (context, [])).context.2

/-- The outcome without the record. -/
def Outcome.plain (outcome : Outcome (κ × List (κ × Frame))) : Outcome κ :=
  ⟨outcome.result, outcome.parser, outcome.context.1, outcome.emitted⟩

/-! ## The record changes nothing -/

section Plain

variable (callback : Frame → κ → Int × κ)

theorem drainLoop_recorded (fuel : Nat) (parser : Parser) (state : κ × List (κ × Frame))
    (emitted : Nat) :
    (drainLoop (recorded callback) fuel parser state emitted).plain =
      drainLoop callback fuel parser state.1 emitted := by
  induction fuel generalizing parser state emitted with
  | zero => rfl
  | succ fuel ih =>
    rw [drainLoop_succ, drainLoop_succ]
    split
    · rfl
    · exact ih _ _ _
    · dsimp only
      split
      · rename_i hfailed
        rw [if_pos (show (callback _ state.1).1 ≠ Status.ok.code from hfailed)]
        rfl
      · rename_i hok
        rw [if_neg (show ¬ (callback _ state.1).1 ≠ Status.ok.code from hok)]
        exact ih _ _ _

theorem feedLoop_recorded (fuel : Nat) (parser : Parser) (data : List UInt8)
    (state : κ × List (κ × Frame)) (emitted : Nat) :
    (feedLoop (recorded callback) fuel parser data state emitted).plain =
      feedLoop callback fuel parser data state.1 emitted := by
  induction fuel generalizing parser data state emitted with
  | zero => exact drainLoop_recorded callback _ _ _ _
  | succ fuel ih =>
    rw [feedLoop, feedLoop]
    split
    · exact drainLoop_recorded callback _ _ _ _
    dsimp only
    have hdrained := drainLoop_recorded callback (ringSize (parser.receive data).2.input)
      (parser.receive data).2 state emitted
    rw [← parserDrain, ← parserDrain] at hdrained
    rw [← hdrained]
    generalize parserDrain (recorded callback) (parser.receive data).2 state emitted = drained
    show Outcome.plain (if drained.result ≠ Status.ok.code then _ else _) =
      if drained.result ≠ Status.ok.code then _ else _
    split
    · rfl
    split
    · rfl
    · exact ih _ _ _ _

theorem parserFeed_recorded (parser : Parser) (data : List UInt8) (context : κ) :
    (parserFeed (recorded callback) parser data (context, [])).plain =
      parserFeed callback parser data context :=
  feedLoop_recorded callback _ _ _ _ _

end Plain

/-! ## Results and calls -/

/-- A result and the calls behind it: all succeeded, or all but the last, whose result it
is. -/
inductive Explains (callback : Frame → κ → Int × κ) : Int → List (κ × Frame) → Prop
  | ok {calls : List (κ × Frame)}
      (h : ∀ call ∈ calls, (callback call.2 call.1).1 = Status.ok.code) :
      Explains callback Status.ok.code calls
  | failed {calls : List (κ × Frame)} (last : κ × Frame)
      (h : ∀ call ∈ calls, (callback call.2 call.1).1 = Status.ok.code)
      (hlast : (callback last.2 last.1).1 ≠ Status.ok.code) :
      Explains callback (callback last.2 last.1).1 (calls ++ [last])

variable {callback : Frame → κ → Int × κ}

theorem Explains.succeeded {calls : List (κ × Frame)} {result : Int}
    (h : Explains callback result calls) (hok : result = Status.ok.code) :
    ∀ call ∈ calls, (callback call.2 call.1).1 = Status.ok.code := by
  cases h with
  | ok h => exact h
  | failed last h hlast => exact absurd hok hlast

theorem Explains.result_ok {calls : List (κ × Frame)} {result : Int}
    (h : Explains callback result calls)
    (hok : ∀ call ∈ calls, (callback call.2 call.1).1 = Status.ok.code) :
    result = Status.ok.code := by
  cases h with
  | ok h => rfl
  | failed last h hlast => exact absurd (hok last (by simp)) hlast

/-- A failure is the result exactly if a call returned it. -/
theorem Explains.result_iff {calls : List (κ × Frame)} {result code : Int}
    (h : Explains callback result calls) (hcode : code ≠ Status.ok.code) :
    result = code ↔ ∃ call ∈ calls, (callback call.2 call.1).1 = code := by
  cases h with
  | ok h =>
    refine ⟨fun heq => absurd heq.symm hcode, ?_⟩
    rintro ⟨call, hmem, hresult⟩
    exact absurd (hresult.symm.trans (h call hmem)) hcode
  | failed last h hlast =>
    refine ⟨fun heq => ⟨last, by simp, heq⟩, ?_⟩
    rintro ⟨call, hmem, hresult⟩
    rcases List.mem_append.mp hmem with hearlier | hcall
    · exact absurd (hresult.symm.trans (h call hearlier)) hcode
    · rw [List.mem_singleton.mp hcall] at hresult
      exact hresult

/-- What the loops of the parser end with, for a relation between the context and the calls so
far that every successful call keeps: it holds at the end, or it held before the last call,
which failed. -/
inductive Delivers (callback : Frame → κ → Int × κ) (R : κ → List (κ × Frame) → Prop) :
    Int → κ × List (κ × Frame) → Prop
  | ok {state : κ × List (κ × Frame)} (h : R state.1 state.2) :
      Delivers callback R Status.ok.code state
  | failed {context : κ} {calls : List (κ × Frame)} (frame : Frame) (h : R context calls)
      (hfailed : (callback frame context).1 ≠ Status.ok.code) :
      Delivers callback R (callback frame context).1
        ((callback frame context).2, calls ++ [(context, frame)])

theorem Delivers.succeeded {R : κ → List (κ × Frame) → Prop} {result : Int}
    {state : κ × List (κ × Frame)} (h : Delivers callback R result state)
    (hok : result = Status.ok.code) : R state.1 state.2 := by
  cases h with
  | ok h => exact h
  | failed frame h hfailed => exact absurd hok hfailed

/-- The calls and the code explain each other, whatever else they keep. -/
theorem Delivers.explains {result : Int} {state : κ × List (κ × Frame)}
    (h : Delivers callback (fun _ calls => ∀ call ∈ calls, (callback call.2 call.1).1 =
      Status.ok.code) result state) : Explains callback result state.2 := by
  cases h with
  | ok h => exact .ok h
  | failed frame h hfailed => exact .failed (_, frame) h hfailed

/-- A property of the context that the successful calls keep is what all calls find. -/
theorem Delivers.find {inv : κ → Prop} {result : Int} {state : κ × List (κ × Frame)}
    (h : Delivers callback (fun context calls => inv context ∧ ∀ call ∈ calls, inv call.1)
      result state) : ∀ call ∈ state.2, inv call.1 := by
  cases h with
  | ok h => exact h.2
  | failed frame h _ =>
    exact List.forall_mem_append.mpr ⟨h.2, List.forall_mem_singleton.mpr h.1⟩

section Kept

variable {R : κ → List (κ × Frame) → Prop}
  (hkept : ∀ {context : κ} {calls : List (κ × Frame)} (frame : Frame), R context calls →
    (callback frame context).1 = Status.ok.code →
      R (callback frame context).2 (calls ++ [(context, frame)]))

include hkept

theorem drainLoop_delivers (fuel : Nat) (parser : Parser) {state : κ × List (κ × Frame)}
    (emitted : Nat) (h : R state.1 state.2) :
    Delivers callback R (drainLoop (recorded callback) fuel parser state emitted).result
      (drainLoop (recorded callback) fuel parser state emitted).context := by
  induction fuel generalizing parser state emitted with
  | zero => exact .ok h
  | succ fuel ih =>
    rw [drainLoop_succ]
    split
    · exact .ok h
    · exact ih _ _ h
    · rename_i frame _
      dsimp only
      split
      · rename_i hfailed
        exact .failed frame h hfailed
      · rename_i hok
        exact ih _ _ (hkept frame h (not_not.mp hok))

theorem feedLoop_delivers (fuel : Nat) (parser : Parser) (data : List UInt8)
    {state : κ × List (κ × Frame)} (emitted : Nat) (h : R state.1 state.2) :
    let fed := feedLoop (recorded callback) fuel parser data state emitted
    Delivers callback R fed.result fed.context ∨
      fed.result = Status.overflow.code ∧ R fed.context.1 fed.context.2 := by
  induction fuel generalizing parser data state emitted with
  | zero => exact .inl (drainLoop_delivers hkept _ _ _ h)
  | succ fuel ih =>
    rw [feedLoop]
    split
    · exact .inl (drainLoop_delivers hkept _ _ _ h)
    dsimp only
    have hdrained := drainLoop_delivers hkept (ringSize (parser.receive data).2.input)
      (parser.receive data).2 emitted h
    rw [← parserDrain] at hdrained
    generalize parserDrain (recorded callback) (parser.receive data).2 state emitted = drained
      at hdrained ⊢
    split
    · exact .inl hdrained
    rename_i hok
    have hcalls := hdrained.succeeded (not_not.mp hok)
    split
    · exact .inr ⟨rfl, hcalls⟩
    · exact ih _ _ _ hcalls

/-- The rule for a successful `parserFeed`. -/
theorem feedCalls_keeps (parser : Parser) (data : List UInt8) {context : κ} (h : R context [])
    (hok : (parserFeed callback parser data context).result = Status.ok.code) :
    R (parserFeed callback parser data context).context
      (feedCalls callback parser data context) := by
  rw [← parserFeed_recorded] at hok ⊢
  rcases @feedLoop_delivers κ callback R hkept data.length parser data (context, []) 0 h with
    hdelivers | ⟨hoverflow, _⟩
  · exact hdelivers.succeeded hok
  · exact absurd (hoverflow.symm.trans hok) (by decide)

end Kept

/-- What every successful call keeps, every call finds. -/
theorem feedCalls_find {inv : κ → Prop}
    (hkept : ∀ {context : κ} (frame : Frame), inv context →
      (callback frame context).1 = Status.ok.code → inv (callback frame context).2)
    (parser : Parser) (data : List UInt8) {context : κ} (h : inv context) :
    ∀ call ∈ feedCalls callback parser data context, inv call.1 := by
  rcases @feedLoop_delivers κ callback (fun found calls => inv found ∧ ∀ call ∈ calls, inv call.1)
    (fun frame hfound hok => ⟨hkept frame hfound.1 hok,
      List.forall_mem_append.mpr ⟨hfound.2, List.forall_mem_singleton.mpr hfound.1⟩⟩)
    data.length parser data (context, []) 0 ⟨h, List.forall_mem_nil _⟩ with
    hdelivers | ⟨_, hcalls⟩
  · exact hdelivers.find
  · exact hcalls.2

/-- What every call keeps, also one that fails, holds when `parserFeed` returns. -/
theorem feedCalls_always {R : κ → List (κ × Frame) → Prop}
    (hkept : ∀ {context : κ} {calls : List (κ × Frame)} (frame : Frame), R context calls →
      R (callback frame context).2 (calls ++ [(context, frame)]))
    (parser : Parser) (data : List UInt8) {context : κ} (h : R context []) :
    R (parserFeed callback parser data context).context
      (feedCalls callback parser data context) := by
  rw [← parserFeed_recorded]
  show R (parserFeed (recorded callback) parser data (context, [])).context.1
    (parserFeed (recorded callback) parser data (context, [])).context.2
  unfold parserFeed
  rcases @feedLoop_delivers κ callback R (fun frame hcalls _ => hkept frame hcalls) data.length
    parser data (context, []) 0 h with hdelivers | ⟨_, hcalls⟩
  · generalize (feedLoop (recorded callback) data.length parser data (context, []) 0).result =
      result at hdelivers
    generalize (feedLoop (recorded callback) data.length parser data (context, []) 0).context =
      state at hdelivers ⊢
    cases hdelivers with
    | ok hcalls => exact hcalls
    | failed frame hcalls _ => exact hkept frame hcalls
  · exact hcalls

theorem drainLoop_explained (fuel : Nat) (parser : Parser) {state : κ × List (κ × Frame)}
    (emitted : Nat)
    (h : ∀ call ∈ state.2, (callback call.2 call.1).1 = Status.ok.code) :
    Explains callback (drainLoop (recorded callback) fuel parser state emitted).result
      (drainLoop (recorded callback) fuel parser state emitted).context.2 :=
  (drainLoop_delivers
    (R := fun _ calls => ∀ call ∈ calls, (callback call.2 call.1).1 = Status.ok.code)
    (fun _ hcalls hok => List.forall_mem_append.mpr ⟨hcalls, List.forall_mem_singleton.mpr hok⟩)
    fuel parser emitted h).explains

/-- The result of `parserFeed` is explained by the calls, or the ring has overflowed. -/
theorem feedLoop_explained (fuel : Nat) (parser : Parser) (data : List UInt8)
    {state : κ × List (κ × Frame)} (emitted : Nat)
    (h : ∀ call ∈ state.2, (callback call.2 call.1).1 = Status.ok.code) :
    let fed := feedLoop (recorded callback) fuel parser data state emitted
    Explains callback fed.result fed.context.2 ∨
      fed.result = Status.overflow.code ∧
        ∀ call ∈ fed.context.2, (callback call.2 call.1).1 = Status.ok.code :=
  (feedLoop_delivers
    (R := fun _ calls => ∀ call ∈ calls, (callback call.2 call.1).1 = Status.ok.code)
    (fun _ hcalls hok => List.forall_mem_append.mpr ⟨hcalls, List.forall_mem_singleton.mpr hok⟩)
    fuel parser data emitted h).imp_left Delivers.explains

/-- A code that is not the parser's own is the result of `parserFeed` exactly if one of the
calls returned it. -/
theorem parserFeed_result_iff (callback : Frame → κ → Int × κ) (parser : Parser)
    (data : List UInt8) (context : κ) {code : Int} (hok : code ≠ Status.ok.code)
    (hoverflow : code ≠ Status.overflow.code) :
    (parserFeed callback parser data context).result = code ↔
      ∃ call ∈ feedCalls callback parser data context, (callback call.2 call.1).1 = code := by
  rw [← parserFeed_recorded]
  show (parserFeed (recorded callback) parser data (context, [])).result = code ↔ _
  unfold feedCalls parserFeed
  rcases @feedLoop_explained κ callback data.length parser data (context, []) 0 (by simp) with
    hexplained | ⟨hresult, hcalls⟩
  · exact hexplained.result_iff hok
  · rw [hresult]
    refine ⟨fun heq => absurd heq.symm hoverflow, ?_⟩
    rintro ⟨call, hmem, hcall⟩
    exact absurd (hcall.symm.trans (hcalls call hmem)) hok

end Devmgr
