import Mathlib.Data.List.Basic

/-!
# One request at a time over a lossy link

A client sends copies of one numbered request until it gets an answer with the
same number, or gives the request up, and then goes on to the next request under a
new number.  The copies travel through a first-in first-out channel that may lose
any of them, and so do the answers.

Copies of earlier requests may still be under way when a request is sent.  They
are in front of its own copies, so the server handles them first, and it answers a
copy of the current request only when no earlier copy is left.  `InFlight` is this
invariant of the two channels:

* `order`: behind a copy of the current request there are only such copies;
* `answers`: an answer under the current number is right, and no earlier copy is
  left behind it;
* `executed`: the same of an effect that only the current request has.

What a stale copy, a current copy and a right answer is depends on the state of
client and server, and is a parameter, `Meaning`.  The lemmas are the moves of the
link: to lose a message, to send a copy, to serve a copy, and to go on to the next
request.
-/

namespace StopAndWait

/-- What the messages in flight mean: the number of the current request, a stale
copy, a copy of the current request, a right answer to it, and an effect of it. -/
structure Meaning (ρ α : Type) where
  current : Nat
  Stale : ρ → Prop
  Copy : ρ → Prop
  Answer : α → Prop
  Executed : Prop

variable {ρ α : Type} {number : ρ → Nat} {answerNumber : α → Nat} {m m' : Meaning ρ α}
  {requests rest : List ρ} {responses responses' : List α} {request : ρ}

/-- The messages in the two channels. -/
structure InFlight (number : ρ → Nat) (answerNumber : α → Nat) (m : Meaning ρ α)
    (requests : List ρ) (responses : List α) : Prop where
  order : requests.Pairwise fun first later => number first = m.current → number later = m.current
  stale : ∀ request ∈ requests, number request ≠ m.current → m.Stale request
  copies : ∀ request ∈ requests, number request = m.current → m.Copy request
  answers : ∀ response ∈ responses, answerNumber response = m.current →
    m.Answer response ∧ ∀ request ∈ requests, number request = m.current
  executed : m.Executed → ∀ request ∈ requests, number request = m.current

/-- Requests are lost. -/
theorem InFlight.loseRequests (h : InFlight number answerNumber m requests responses)
    (hsub : rest.Sublist requests) : InFlight number answerNumber m rest responses where
  order := h.order.sublist hsub
  stale request hmem := h.stale request (hsub.subset hmem)
  copies request hmem := h.copies request (hsub.subset hmem)
  answers response hmem hnumber := by
    obtain ⟨hanswer, hall⟩ := h.answers response hmem hnumber
    exact ⟨hanswer, fun request hrequest => hall request (hsub.subset hrequest)⟩
  executed hexecuted request hmem := h.executed hexecuted request (hsub.subset hmem)

/-- Responses are lost, or taken by the client. -/
theorem InFlight.loseResponses (h : InFlight number answerNumber m requests responses)
    (hsub : ∀ response ∈ responses', response ∈ responses) :
    InFlight number answerNumber m requests responses' where
  order := h.order
  stale := h.stale
  copies := h.copies
  answers response hmem := h.answers response (hsub response hmem)
  executed := h.executed

/-- A copy of the current request is sent. -/
theorem InFlight.send (h : InFlight number answerNumber m requests responses)
    (hnumber : number request = m.current) (hcopy : m.Copy request) :
    InFlight number answerNumber m (requests ++ [request]) responses := by
  have hmem : ∀ {P : ρ → Prop}, (∀ other ∈ requests, P other) → P request →
      ∀ other ∈ requests ++ [request], P other := by
    intro P hold hnew other hother
    rcases List.mem_append.mp hother with hother | hother
    · exact hold other hother
    · rw [List.mem_singleton.mp hother]
      exact hnew
  refine ⟨?_, ?_, ?_, ?_, ?_⟩
  · rw [List.pairwise_append]
    refine ⟨h.order, List.pairwise_singleton _ _, ?_⟩
    intro first _ later hlater _
    rw [List.mem_singleton.mp hlater]
    exact hnumber
  · exact hmem h.stale fun hne => absurd hnumber hne
  · exact hmem h.copies fun _ => hcopy
  · intro response hresponse hcurrent
    obtain ⟨hanswer, hall⟩ := h.answers response hresponse hcurrent
    exact ⟨hanswer, hmem hall hnumber⟩
  · intro hexecuted
    exact hmem (h.executed hexecuted) hnumber

/-- Where an answer under the current number is, only copies of the current request
are under way. -/
theorem InFlight.copies_of_answer (h : InFlight number answerNumber m requests responses)
    {response : α} (hmem : response ∈ responses)
    (hnumber : answerNumber response = m.current) :
    m.Answer response ∧ ∀ request ∈ requests, m.Copy request := by
  obtain ⟨hanswer, hall⟩ := h.answers response hmem hnumber
  exact ⟨hanswer, fun request hrequest => h.copies request hrequest (hall request hrequest)⟩

/-- The server handles a copy of an earlier request.  There are no answers under the
current number yet, so there are none to be kept. -/
theorem InFlight.serveStale (h : InFlight number answerNumber m (request :: rest) responses)
    (hstale : number request ≠ m.current) (hcurrent : m'.current = m.current)
    (hrest : ∀ other ∈ rest, m.Stale other → m'.Stale other)
    (hcopies : ∀ other, m.Copy other → m'.Copy other) (hexecuted : m'.Executed → m.Executed)
    (hresponses : ∀ response ∈ responses',
      response ∈ responses ∨ answerNumber response = number request) :
    InFlight number answerNumber m' rest responses' := by
  have htail := h.loseRequests (List.sublist_cons_self request rest)
  refine ⟨?_, ?_, ?_, ?_, ?_⟩
  · rw [hcurrent]
    exact htail.order
  · rw [hcurrent]
    exact fun other hother hne => hrest other hother (htail.stale other hother hne)
  · rw [hcurrent]
    exact fun other hother heq => hcopies other (htail.copies other hother heq)
  · rw [hcurrent]
    intro response hresponse hnumber
    exfalso
    apply hstale
    rcases hresponses response hresponse with hold | hnew
    · exact (h.answers response hold hnumber).2 request List.mem_cons_self
    · rw [← hnew]
      exact hnumber
  · intro hexec
    exact absurd (h.executed (hexecuted hexec) request List.mem_cons_self) hstale

/-- The server handles a copy of the current request.  Only such copies are left, so
there is nothing stale to be kept. -/
theorem InFlight.serveCopy (h : InFlight number answerNumber m (request :: rest) responses)
    (hcopy : number request = m.current) (hcurrent : m'.current = m.current)
    (hcopies : ∀ other, m.Copy other → m'.Copy other)
    (hanswers : ∀ response, m.Answer response → m'.Answer response)
    (hresponses : ∀ response ∈ responses', response ∈ responses ∨ m'.Answer response) :
    InFlight number answerNumber m' rest responses' := by
  have hall : ∀ other ∈ rest, number other = m'.current := by
    rw [hcurrent]
    intro other hother
    exact (List.pairwise_cons.mp h.order).1 other hother hcopy
  have htail := h.loseRequests (List.sublist_cons_self request rest)
  refine ⟨?_, ?_, ?_, ?_, fun _ => hall⟩
  · rw [hcurrent]
    exact htail.order
  · exact fun other hother hne => absurd (hall other hother) hne
  · intro other hother heq
    rw [hcurrent] at heq
    exact hcopies other (htail.copies other hother heq)
  · intro response hresponse hnumber
    refine ⟨?_, hall⟩
    rcases hresponses response hresponse with hold | hnew
    · rw [hcurrent] at hnumber
      exact hanswers response (h.answers response hold hnumber).1
    · exact hnew

/-- The client goes on under a number that nothing in flight has: what is under way
is stale from now on. -/
theorem inFlight_of_fresh (hrequests : ∀ request ∈ requests, number request ≠ m.current)
    (hresponses : ∀ response ∈ responses, answerNumber response ≠ m.current)
    (hstale : ∀ request ∈ requests, m.Stale request) (hexecuted : ¬ m.Executed) :
    InFlight number answerNumber m requests responses where
  order := List.pairwise_of_forall_mem_list fun first hfirst _ _ heq =>
    absurd heq (hrequests first hfirst)
  stale request hmem _ := hstale request hmem
  copies request hmem heq := absurd heq (hrequests request hmem)
  answers response hmem heq := absurd heq (hresponses response hmem)
  executed hexec := absurd hexec hexecuted

/-- Neither the number nor the meaning changes for the worse. -/
theorem InFlight.mono (h : InFlight number answerNumber m requests responses)
    (hcurrent : m'.current = m.current) (hstale : ∀ other, m.Stale other → m'.Stale other)
    (hcopies : ∀ other, m.Copy other → m'.Copy other)
    (hanswers : ∀ response, m.Answer response → m'.Answer response)
    (hexecuted : m'.Executed → m.Executed) :
    InFlight number answerNumber m' requests responses := by
  refine ⟨?_, ?_, ?_, ?_, ?_⟩
  · rw [hcurrent]
    exact h.order
  · rw [hcurrent]
    exact fun other hother hne => hstale other (h.stale other hother hne)
  · rw [hcurrent]
    exact fun other hother heq => hcopies other (h.copies other hother heq)
  · rw [hcurrent]
    intro response hresponse hnumber
    obtain ⟨hanswer, hall⟩ := h.answers response hresponse hnumber
    exact ⟨hanswers response hanswer, hall⟩
  · rw [hcurrent]
    exact h.executed ∘ hexecuted

end StopAndWait
