import Motherboard.Bus.Request

/-!
# Answering requests

Facts about trees of requests that hold whoever answers them. `Requests.asked` lists the questions
that come up while somebody answers. Two answerers whose states stay related, and who give related
states the same replies, are asked the same questions and reach the same end (`run_related`): this is
how a bus is compared with another one that differs in what the targets cannot see.
-/

namespace Motherboard.Requests

variable {α β σ τ : Type} {answer : Answerer σ} {answer' : Answerer τ}

/-- The questions that come up, in order. -/
def asked (answer : Answerer σ) (r : Requests α) (s : σ) : List Request :=
  (r.run (recording answer) (s, [])).2.2

/-- A question is answered first, and its answer is then gone on with. -/
theorem run_ask (request : Request) (next : request.Reply → Requests α) (s : σ) :
    (ask request next).run answer s =
      (next (answer request s).1).run answer (answer request s).2 := rfl

/-! ## Writing down the questions -/

/-- Writing the questions down does not change the answers. -/
theorem run_recording (r : Requests α) (s : σ) (before : List Request) :
    r.run (recording answer) (s, before) =
      ((r.run answer s).1, (r.run answer s).2, before ++ r.asked answer s) := by
  -- over every list written so far: each question makes it longer
  induction r generalizing s before with
  | done a => simp [run, asked]
  | ask request next ih =>
    have hstep : ∀ sofar, (ask request next).run (recording answer) (s, sofar) =
        (next (answer request s).1).run (recording answer)
          ((answer request s).2, sofar ++ [request]) := fun _ => rfl
    rw [asked, hstep, hstep, ih, ih, run_ask]
    simp

@[simp] theorem asked_done (a : α) (s : σ) : (done a).asked answer s = [] := rfl

/-- The question stands at the front of those that follow. -/
theorem asked_ask (request : Request) (next : request.Reply → Requests α) (s : σ) :
    (ask request next).asked answer s =
      request :: (next (answer request s).1).asked answer (answer request s).2 := by
  show ((next (answer request s).1).run (recording answer)
    ((answer request s).2, [] ++ [request])).2.2 = _
  rw [run_recording]
  rfl

/-- The questions of two computations, one after the other. -/
theorem asked_bind (r : Requests α) (f : α → Requests β) (s : σ) :
    (r.bind f).asked answer s =
      r.asked answer s ++ (f (r.run answer s).1).asked answer (r.run answer s).2 := by
  induction r generalizing s with
  | done a => rfl
  | ask request next ih =>
    rw [bind_ask, asked_ask, asked_ask, ih]
    rfl

/-- Mapping the result of a computation is mapping the result of its run. -/
theorem run_map (f : α → β) (r : Requests α) (s : σ) :
    (r.map f).run answer s = (f (r.run answer s).1, (r.run answer s).2) := by
  rw [map, run_bind]
  rfl

theorem asked_map (f : α → β) (r : Requests α) (s : σ) :
    (r.map f).asked answer s = r.asked answer s := by
  rw [map, asked_bind]
  simp

/-! ## Questions that can come up -/

/-- What all questions of a computation are like, those of any run are like. -/
theorem of_mem_asked {P : Request → Prop} {r : Requests α} (hr : r.All P) {s : σ}
    {request : Request} (h : request ∈ r.asked answer s) : P request := by
  induction r generalizing s with
  | done a => simp at h
  | ask first next ih =>
    rw [asked_ask, List.mem_cons] at h
    rcases h with rfl | h
    · exact hr.1
    · exact ih _ (hr.2 _) h

/-! ## Ends that can be reached -/

/-- Every end that can be reached has the property `P`, whatever the answers are. -/
def Ends (P : α → Prop) : Requests α → Prop
  | .done a => P a
  | .ask _ next => ∀ reply, (next reply).Ends P

/-- What holds at every end holds at the end of any run. -/
theorem run_of_ends {P : α → Prop} {r : Requests α} (hr : r.Ends P) (answer : Answerer σ) (s : σ) :
    P (r.run answer s).1 := by
  induction r generalizing s with
  | done a => exact hr
  | ask request next ih => exact ih _ (hr _) _

theorem ends_true (r : Requests α) : r.Ends fun _ => True := by
  induction r with
  | done a => trivial
  | ask request next ih => exact fun reply => ih reply

theorem Ends.mono {P Q : α → Prop} (h : ∀ a, P a → Q a) {r : Requests α} (hr : r.Ends P) :
    r.Ends Q := by
  induction r with
  | done a => exact h a hr
  | ask request next ih => exact fun reply => ih reply (hr reply)

theorem Ends.and {P Q : α → Prop} {r : Requests α} (hP : r.Ends P) (hQ : r.Ends Q) :
    r.Ends fun a => P a ∧ Q a := by
  induction r with
  | done a => exact ⟨hP, hQ⟩
  | ask request next ih => exact fun reply => ih reply (hP reply) (hQ reply)

/-- The ends of two computations, one after the other: those of the second, from any end of the first. -/
theorem Ends.bind {P : α → Prop} {Q : β → Prop} {r : Requests α} {f : α → Requests β}
    (hr : r.Ends P) (hf : ∀ a, P a → (f a).Ends Q) : (r.bind f).Ends Q := by
  induction r with
  | done a => exact hf a hr
  | ask request next ih => exact fun reply => ih reply (hr reply)

theorem All.mono {P Q : Request → Prop} (h : ∀ request, P request → Q request) {r : Requests α}
    (hr : r.All P) : r.All Q := by
  induction r with
  | done a => trivial
  | ask request next ih => exact ⟨h request hr.1, fun reply => ih reply (hr.2 reply)⟩

/-- Nothing else is asked by one tree after another than by the two. -/
theorem All.bind {P : Request → Prop} {r : Requests α} {f : α → Requests β} (hr : r.All P)
    (hf : ∀ a, (f a).All P) : (r.bind f).All P := by
  induction r with
  | done a => exact hf a
  | ask request next ih => exact ⟨hr.1, fun reply => ih reply (hr.2 reply)⟩

theorem All.map {P : Request → Prop} {r : Requests α} {f : α → β} (hr : r.All P) :
    (r.map f).All P :=
  hr.bind fun _ => trivial

/-! ## Runs -/

/-- What the answers to all questions that can come up keep, a run keeps. -/
theorem run_keeps_of_all {P : Request → Prop} {r : Requests α} (hr : r.All P) {I : σ → Prop}
    (h : ∀ request s, P request → I s → I (answer request s).2) {s : σ} (hs : I s) :
    I (r.run answer s).2 := by
  induction r generalizing s with
  | done a => exact hs
  | ask request next ih => exact ih _ (hr.2 _) (h request s hr.1 hs)

/-- What every answer keeps, a run keeps. -/
theorem run_keeps {I : σ → Prop} (h : ∀ request s, I s → I (answer request s).2)
    (r : Requests α) {s : σ} (hs : I s) : I (r.run answer s).2 := by
  induction r generalizing s with
  | done a => exact hs
  | ask request next ih => exact ih _ (h request s hs)

/-- Answerers who give related states the same replies, and keep them related, are asked the same
questions and reach the same end. -/
theorem run_related {R : σ → τ → Prop}
    (h : ∀ request s t, R s t →
      (answer request s).1 = (answer' request t).1 ∧ R (answer request s).2 (answer' request t).2)
    (r : Requests α) {s : σ} {t : τ} (hst : R s t) :
    (r.run answer s).1 = (r.run answer' t).1 ∧ R (r.run answer s).2 (r.run answer' t).2 ∧
      r.asked answer s = r.asked answer' t := by
  induction r generalizing s t with
  | done a => exact ⟨rfl, hst, rfl⟩
  | ask request next ih =>
    -- the same reply leads into the same subtree, with the states still related
    obtain ⟨hreply, hafter⟩ := h request s t hst
    obtain ⟨hend, hstate, hasked⟩ := ih (answer request s).1 hafter
    rw [asked_ask, asked_ask, run_ask, run_ask, ← hreply]
    exact ⟨hend, hstate, congrArg (request :: ·) hasked⟩

end Motherboard.Requests
