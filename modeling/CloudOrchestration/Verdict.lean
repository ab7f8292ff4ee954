import CloudOrchestration.Text.Utf8
import CloudOrchestration.Wire
/-!
# Verdicts on answers

An answer is a success, or it carries a rejection: one to be tried again
later, or a final one. Where the body is no rejection the status stands for
its code and the body, as far as it is text, for its message; that is never a
conflict.
-/

namespace CloudOrchestration

/-- What an answer means. -/
inductive Verdict where
  | success (r : Response)
  /-- Another change is in flight. -/
  | conflict (r : Rejection)
  | fatal (r : Rejection)
  deriving DecidableEq

namespace Wire

/-- The rejection that the body of an answer holds. -/
def rejection (w : Wire) (r : Response) : Rejection :=
  match w.read r.body with
  | .ok rejection => rejection
  | .error _ => { code := toString r.status.toNat, message := Utf8.lossy r.body }

/-- **What an answer means.** -/
def judge (w : Wire) (r : Response) : Verdict :=
  if r.isSuccess then .success r
  else
    let rejection := w.rejection r
    if rejection.isConflict then .conflict rejection else .fatal rejection

theorem judge_success {w : Wire} {r : Response} (h : r.isSuccess) : w.judge r = .success r :=
  if_pos h

theorem judge_failure {w : Wire} {r : Response} (h : r.isSuccess = false) :
    w.judge r = if (w.rejection r).isConflict then .conflict (w.rejection r)
      else .fatal (w.rejection r) := by
  simp [judge, h]

end Wire

end CloudOrchestration
