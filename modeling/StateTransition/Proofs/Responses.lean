/-!
Requests made one after the other. Where a view of the state tells what each request is answered
with and what it leads to, the view tells it of every sequence of requests.
-/

namespace StateTransition

variable {σ τ ι ο ε : Type}

/-- The answer to a request, and the state afterwards: a refusal changes nothing. -/
def serve (ask : σ → ι → Except ε (ο × σ)) (state : σ) (request : ι) : Except ε ο × σ :=
  match ask state request with
  | .ok (answer, after) => (.ok answer, after)
  | .error reason => (.error reason, state)

def serveAll (serves : σ → ι → Except ε ο × σ) (state : σ) : List ι → List (Except ε ο) × σ
  | [] => ([], state)
  | request :: rest =>
    let served := serves state request
    let responded := serveAll serves served.2 rest
    (served.1 :: responded.1, responded.2)

def respond (ask : σ → ι → Except ε (ο × σ)) : σ → List ι → List (Except ε ο) × σ :=
  serveAll (serve ask)

theorem serveAll_map {serves : σ → ι → Except ε ο × σ} {reference : τ → ι → Except ε ο × τ}
    {view : σ → τ}
    (same : ∀ state request, reference (view state) request = (serves state request).map id view)
    (state : σ) (requests : List ι) :
    serveAll reference (view state) requests = (serveAll serves state requests).map id view := by
  induction requests generalizing state with
  | nil => rfl
  | cons request rest ih =>
    simp only [serveAll, same, Prod.map_fst, Prod.map_snd, ih]
    rfl

/-- Seen through a view, requests do what they do to a reference. -/
def Refines (ask : σ → ι → Except ε (ο × σ)) (reference : τ → ι → Except ε (ο × τ))
    (view : σ → τ) : Prop :=
  ∀ state request, reference (view state) request = (ask state request).map (Prod.map id view)

variable {ask : σ → ι → Except ε (ο × σ)} {reference : τ → ι → Except ε (ο × τ)} {view : σ → τ}

theorem Refines.eq_error_iff (refines : Refines ask reference view) (state : σ) (request : ι)
    (reason : ε) :
    ask state request = .error reason ↔ reference (view state) request = .error reason := by
  rw [refines state request]
  cases ask state request <;> simp [Except.map]

theorem Refines.serve (refines : Refines ask reference view) (state : σ) (request : ι) :
    serve reference (view state) request = (serve ask state request).map id view := by
  simp only [StateTransition.serve, refines state request]
  cases ask state request <;> rfl

theorem Refines.respond (refines : Refines ask reference view) (state : σ) (requests : List ι) :
    respond reference (view state) requests = (respond ask state requests).map id view :=
  serveAll_map refines.serve state requests

end StateTransition
