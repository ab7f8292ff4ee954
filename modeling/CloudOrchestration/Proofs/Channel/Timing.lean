import CloudOrchestration.Channel.Operation
import CloudOrchestration.Proofs.Channel.Exchanges
import CloudOrchestration.Proofs.Workflow.Timing
/-!
# Channels in time

Between two tries of a read or of a change a channel sleeps, never beyond the
deadline, and for an interval that the clock can show the end of
(`sameInTime_sleep?_interval_bind`). A change is sent again while the provider puts
it off; in time it is the deadline that ends this and not the number of tries
(`sameInTime_submitAgain`).
-/

namespace CloudOrchestration

namespace Channel

open Workflow

variable {α : Type} {c : Channel} {deadline : Deadline} {path : String} {q : Request}
variable {t : Instant} {rule : Rule deadline Request (Except Fault Response)}

/-! ## Reading -/

theorem heeds_tryRead {again : String → Call Response}
    (hagain : ∀ failure, (again failure).Heeds rule) :
    (c.tryRead path deadline again).Heeds rule := by
  refine heeds_bind heeds_ask fun answer => ?_
  split
  · exact heeds_done _
  · refine heeds_bind heeds_now fun t => ?_
    split
    · exact heeds_fail _
    · exact hagain _
  · exact heeds_fail _

theorem heeds_readAgain (retries : Nat) :
    (c.readAgain path deadline retries).Heeds rule := by
  induction retries with
  | zero => exact heeds_tryRead fun _ => heeds_fail _
  | succ retries ih => exact heeds_tryRead fun _ => heeds_bind heeds_sleep fun _ => ih

theorem heeds_fetch : (c.fetch path deadline).Heeds rule := heeds_readAgain _

/-- **A read heeds the rule.** -/
theorem heeds_get [Document α] : (c.get path deadline : Call α).Heeds rule := by
  rw [get_eq]
  exact heeds_bind heeds_fetch fun r => heeds_ofExcept _

theorem heeds_getOptional [Document α] :
    (c.getOptional path deadline : Call (Option α)).Heeds rule := by
  rw [getOptional_eq]
  exact heeds_bind heeds_fetch fun r => heeds_ofExcept _

/-! ## Changing -/

theorem heeds_trySubmit {again : Rejection → Call String}
    (hagain : ∀ rejection, (again rejection).Heeds rule) :
    (c.trySubmit q deadline again).Heeds rule := by
  refine heeds_bind heeds_ask fun answer => ?_
  refine heeds_bind (heeds_ofExcept _) fun r => ?_
  split
  · split
    · exact heeds_done _
    · exact heeds_fail _
  · refine heeds_bind heeds_now fun t => ?_
    split
    · exact heeds_fail _
    · exact hagain _
  · exact heeds_fail _

theorem heeds_submitAgain (retries : Nat) :
    (c.submitAgain q deadline retries).Heeds rule := by
  induction retries with
  | zero => exact heeds_trySubmit fun _ => heeds_fail _
  | succ retries ih => exact heeds_trySubmit fun _ => heeds_bind heeds_sleep fun _ => ih

/-- **A change heeds the rule.** -/
theorem heeds_submit : (c.submit q deadline).Heeds rule :=
  heeds_bind heeds_now fun _ => heeds_submitAgain _

theorem heeds_awaitOperation {id : String} :
    (c.awaitOperation id deadline).Heeds rule := by
  refine heeds_bind (heeds_awaitState heeds_get) fun outcome => ?_
  split
  · exact heeds_done _
  · exact heeds_fail _

theorem heeds_create [Document α] {a : α} :
    (c.create path a deadline).Heeds rule := by
  have hpost : (c.post path a deadline).Heeds rule :=
    heeds_bind (heeds_ofExcept _) fun _ => heeds_submit
  exact heeds_bind hpost fun _ => heeds_awaitOperation

theorem heeds_replace [Document α] {a : α} {contentType : ContentType} :
    (c.replace path a contentType deadline).Heeds rule := by
  have hput : (c.put path a contentType deadline).Heeds rule :=
    heeds_bind (heeds_ofExcept _) fun _ => heeds_submit
  exact heeds_bind hput fun _ => heeds_awaitOperation

theorem heeds_remove : (c.remove path deadline).Heeds rule :=
  heeds_bind heeds_submit fun _ => heeds_awaitOperation

/-! ## What ends the tries -/

theorem sameInTime_trySubmit {again again' : Rejection → Call String}
    (h : ∀ rejection t', t ≤ t' → t' < deadline.instant →
      SameInTime t' (again rejection) (again' rejection)) :
    SameInTime t (c.trySubmit q deadline again) (c.trySubmit q deadline again') := by
  refine sameInTime_bind fun answer t₁ hle₁ => ?_
  refine sameInTime_bind fun r t₂ hle₂ => ?_
  split
  · exact sameInTime_refl _ t₂
  · exact sameInTime_unlessExpired (h _ t₂ (Nat.le_trans hle₁ hle₂))
  · exact sameInTime_refl _ t₂

/-- **Its number of tries is not what ends a change**: with more of them it does
the same in time. -/
theorem sameInTime_submitAgain (hinterval : 0 < c.interval) {retries : Nat} (more : Nat)
    (hretries : deadline.waitsLeft t c.interval ≤ retries) :
    SameInTime t (c.submitAgain q deadline retries)
      (c.submitAgain q deadline (retries + more)) := by
  induction retries generalizing t with
  | zero =>
    -- no wait is left, so the answer comes at the deadline or after
    have hexpired : deadline.instant ≤ t :=
      Deadline.waitsLeft_eq_zero_iff.1 (Nat.le_zero.1 hretries)
    rw [Nat.zero_add]
    cases more with
    | zero => exact sameInTime_refl _ t
    | succ more =>
      refine sameInTime_trySubmit fun rejection t' hle hlt => ?_
      exact absurd hlt (Nat.not_lt_of_le (Nat.le_trans hexpired hle))
  | succ retries ih =>
    rw [Nat.add_right_comm]
    refine sameInTime_trySubmit fun rejection t' hle _ => ?_
    exact sameInTime_sleep_bind (ih (Deadline.waitsLeft_wake_le (.inl hinterval) hle hretries))

/-- **The waits between tries do not panic**: an interval of 64 bits reaches beyond
the clock only when that has run for more than a hundred thousand million years. -/
theorem sameInTime_sleep?_interval_bind {f : Option Unit → Call α}
    (ht : t + UInt64.size ≤ Instant.last) :
    SameInTime t ((sleep? deadline c.interval).bind f)
      ((sleep deadline c.interval).bind fun _ => f (some ())) := by
  have hsize : c.interval < UInt64.size := UInt64.toNat_lt_size _
  exact sameInTime_sleep?_bind (Nat.le_trans (Nat.add_le_add_left (Nat.le_of_lt hsize) t) ht)

end Channel

end CloudOrchestration
