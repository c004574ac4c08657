/-!
# Transcripts

Reading sessions and parsing sessions are worked with in the same way: a request is
served from the state that the requests before it left, failures included, and a
transcript lists what was answered and the state after each answer.

Two facts hold of any such session.  What holds at the start and is kept by serving a
request holds after any number of them (`stateAfter_kept`), and the entry of a
transcript at an index is what serving the request at that index gives from the state
after the requests before it (`getElem?_transcript`).  So a statement on all transcripts
is a statement on one request that is served from a state which keeps an invariant.
-/

namespace Frontend

section Transcript

variable {State Request Entry : Type} {serve : State → Request → Entry × State}

/-- The state after requests are served in turn. -/
def stateAfter (serve : State → Request → Entry × State) (state : State) (requests : List Request) :
    State :=
  requests.foldl (fun state request => (serve state request).2) state

@[simp]
theorem stateAfter_nil (state : State) : stateAfter serve state [] = state := rfl

@[simp]
theorem stateAfter_cons (state : State) (request : Request) (requests : List Request) :
    stateAfter serve state (request :: requests) =
      stateAfter serve (serve state request).2 requests := rfl

/-- **Invariants.**  What every request keeps is kept by all of them in turn. -/
theorem stateAfter_kept (Kept : State → Prop)
    (hServe : ∀ state request, Kept state → Kept (serve state request).2) (requests : List Request)
    {state : State} (hStart : Kept state) : Kept (stateAfter serve state requests) := by
  induction requests generalizing state with
  | nil => exact hStart
  | cons request requests ih => exact ih (hServe state request hStart)

/-- **Entries.**  Each entry of a transcript is served from the state after the requests
before it. -/
theorem getElem?_transcript {transcript : State → List Request → List (Entry × State)}
    (hNil : ∀ state, transcript state [] = [])
    (hCons : ∀ state request requests, transcript state (request :: requests) =
      serve state request :: transcript (serve state request).2 requests)
    (state : State) (requests : List Request) (index : Nat) :
    (transcript state requests)[index]? =
      requests[index]?.map (serve (stateAfter serve state (requests.take index))) := by
  induction requests generalizing state index with
  | nil => simp [hNil]
  | cons request requests ih =>
      rw [hCons]
      cases index with
      | zero => rfl
      | succ index => exact ih (serve state request).2 index

end Transcript

end Frontend
