import CloudOrchestration.Proofs.Client.Discipline
/-!
# Cloud services that are left behind

The clean-up after a failed provisioning depends on the operation of the order
for the cloud service, not on its acceptance. A service whose order was accepted
is cleaned up just if the operation was seen to succeed (`cleansUp_iff`). If
the look at the operation fails, or its time is up, the provider may go on and
make a service that nobody deletes (`leaves_behind`).
-/

namespace CloudOrchestration

open Workflow Channel

variable {α β : Type} {c : Client} {deadline : Deadline} {service : String} {d : Descriptor}
variable {h : History Request (Except Fault Response)}

/-- A request that orders a cloud service. -/
def Request.OrdersService (q : Request) : Prop := q.method = .post ∧ q.path = Path.cloudServices

instance : DecidablePred Request.OrdersService := fun q =>
  inferInstanceAs (Decidable (q.method = .post ∧ q.path = Path.cloudServices))

theorem Request.IsQuiet.not_ordersService {q : Request} (hq : q.IsQuiet) : ¬ q.OrdersService :=
  fun h => hq.2 h.1 h.2

/-- **A call that orders one service at most**: no second order of it is
accepted. -/
def OrdersOnce (w : Call α) : Prop :=
  ∀ h o, Runs w h o → (acceptedOf Request.OrdersService h.asked).length ≤ 1

theorem acceptedOf_of_quiet {asked : List Asked} (hq : ∀ x ∈ asked, x.1.IsQuiet) :
    acceptedOf Request.OrdersService asked = [] :=
  acceptedOf_of_forall_not fun x hx => (hq x hx).not_ordersService

theorem ordersOnce_of_quiet {w : Call α} (hw : Asks Request.IsQuiet w) : OrdersOnce w := by
  intro h o hr
  rw [acceptedOf_of_quiet (hw h o hr)]
  exact Nat.zero_le _

/-- What comes after an order is quiet. -/
theorem ordersOnce_bind {w : Call α} {f : α → Call β} (hw : OrdersOnce w)
    (hf : ∀ a, Asks Request.IsQuiet (f a)) : OrdersOnce (w.bind f) := by
  intro h o hr
  obtain ⟨a, h₁, h₂, rfl, hr₁, hr₂⟩ | ⟨fault, rfl, hr₁⟩ := runs_bind.1 hr
  · rw [History.asked_append, acceptedOf_append, acceptedOf_of_quiet (hf a h₂ o hr₂),
      List.append_nil]
    exact hw h₁ _ hr₁
  · exact hw h _ hr₁

/-- What comes before an order is quiet. -/
theorem ordersOnce_after {w : Call α} {f : α → Call β} (hw : Asks Request.IsQuiet w)
    (hf : ∀ a, OrdersOnce (f a)) : OrdersOnce (w.bind f) := by
  intro h o hr
  obtain ⟨a, h₁, h₂, rfl, hr₁, hr₂⟩ | ⟨fault, rfl, hr₁⟩ := runs_bind.1 hr
  · rw [History.asked_append, acceptedOf_append, acceptedOf_of_quiet (hw h₁ _ hr₁),
      List.nil_append]
    exact hf a h₂ o hr₂
  · rw [acceptedOf_of_quiet (hw h _ hr₁)]
    exact Nat.zero_le _

theorem ordersOnce_holding {domain : Domain} {budget : Nat} {body : Call α}
    (hbody : OrdersOnce body) : OrdersOnce (holding domain budget body) := by
  intro h o hr
  obtain ⟨h', rfl, hr'⟩ | ⟨rfl, -⟩ := runs_holding.1 hr
  · simpa using hbody h' o hr'
  · exact Nat.zero_le _

namespace Client

theorem ordersOnce_submitCloudService {affinityGroup : String} :
    OrdersOnce (c.submitCloudService affinityGroup service deadline) := by
  have hlist : Asks Request.IsQuiet (c.cloudServices deadline) :=
    (onlyAsks_get (isQuiet_read _)).asks
  refine ordersOnce_after hlist fun services => ?_
  intro h o hr
  obtain ⟨-, rfl, -⟩ | ⟨-, r, hcreate, -⟩ := runs_unlessDone hr
  · exact Nat.zero_le _
  · exact (runs_create hcreate).length_acceptedOf_le fun path h => nomatch h.1

theorem ordersOnce_placed : OrdersOnce (c.placed d service deadline) := by
  refine ordersOnce_after (onlyAsks_cloudService? isQuiet_read).asks fun found => ?_
  split
  · have hslot : OnlyAsks Request.IsQuiet (c.deploymentInSlot? service d.slot deadline) :=
      onlyAsks_deploymentAt? (isQuiet_read _)
    refine ordersOnce_of_quiet (asks_bind hslot.asks fun existing => ?_)
    cases existing <;> exact (onlyAsks_done _).asks
  · refine ordersOnce_bind ordersOnce_submitCloudService fun action => ?_
    split
    · exact asks_bind (onlyAsks_awaitCreated isQuiet_read).asks fun _ => (onlyAsks_done _).asks
    · exact (onlyAsks_done _).asks

theorem ordersOnce_submitted : OrdersOnce (c.submitted d deadline) := by
  refine ordersOnce_bind ordersOnce_placed ?_
  rintro ⟨submission, p⟩
  have haddress : Asks Request.IsQuiet (c.addressed p deadline) := by
    unfold addressed
    split
    · exact (onlyAsks_done _).asks
    · exact asks_bind (onlyAsks_reserveAddress isQuiet_read).asks fun _ => (onlyAsks_done _).asks
  exact asks_bind haddress fun _ =>
    asks_bind onlyAsks_submitMachine.asks fun _ => (onlyAsks_done _).asks

/-- **Provisioning orders one service at most.** -/
theorem ordersOnce_uncompensated : OrdersOnce (c.uncompensated d deadline) := by
  refine ordersOnce_after onlyAsks_now.asks fun start => ?_
  split
  · exact ordersOnce_of_quiet (onlyAsks_fail _).asks
  · refine ordersOnce_bind (ordersOnce_holding ordersOnce_submitted) ?_
    rintro ⟨name, p⟩
    have hmachine : Asks Request.IsQuiet (c.awaitMachine p.descriptor name deadline) :=
      fun h o hr x hx => (asks_awaitMachine h o hr x hx).isQuiet
    exact asks_bind hmachine fun _ => (onlyAsks_done _).asks

/-- So its service was made just if the operation of the order that was
accepted was seen to succeed. -/
theorem made_iff_of_accepted {o : Except Fault (Machine × Descriptor)} {q : Request} {r : Response}
    (hr : Runs (c.uncompensated d deadline) h o) (hx : (q, .ok r) ∈ h.asked)
    (hq : q.OrdersService) (hsuccess : r.isSuccess) :
    c.Made h.asked ↔ ∃ id, r.requestId = some id ∧ c.channel.Succeeded id h.asked := by
  have hone := ordersOnce_uncompensated h o hr
  constructor
  · rintro ⟨q', r', id, hx', hmethod, hpath, hsuccess', hid, hsucceeded⟩
    have hmem : (q, .ok r) ∈ acceptedOf Request.OrdersService h.asked :=
      mem_acceptedOf.2 ⟨hx, hq, hsuccess⟩
    have hmem' : (q', .ok r') ∈ acceptedOf Request.OrdersService h.asked :=
      mem_acceptedOf.2 ⟨hx', ⟨hmethod, hpath⟩, hsuccess'⟩
    -- no second order was accepted, so the two are the same
    rw [acceptedOf_eq_singleton hone hmem] at hmem'
    cases List.mem_singleton.1 hmem'
    exact ⟨id, hid, hsucceeded⟩
  · rintro ⟨id, hid, hsucceeded⟩
    exact ⟨q, r, id, hx, hq.1, hq.2, hsuccess, hid, hsucceeded⟩

/-- A clean-up begins with a look at the listing. -/
theorem CleansUp.looks (hc : c.CleansUp service deadline h) :
    ∃ answer, (.read Path.cloudServices, answer) ∈ h.asked := by
  obtain ⟨o, hdelete⟩ := hc.deletion
  exact asked_of_runs_get_bind hdelete

/-- A clean-up orders nothing. -/
theorem CleansUp.not_ordersService (hc : c.CleansUp service deadline h) {x : Asked}
    (hx : x ∈ h.asked) : ¬ x.1.OrdersService := by
  obtain ⟨o, hdelete⟩ := hc.deletion
  have hasks : OnlyAsks (fun q => ¬ q.OrdersService) (c.deleteCloudService service deadline) :=
    onlyAsks_deleteCloudService (fun _ h => nomatch h.1) fun h => nomatch h.1
  exact hasks.of_mem_asked hdelete hx

/-- **When a service whose order was accepted is cleaned up** after a fault:
just if the operation of the order was seen to succeed. Otherwise nothing more
is asked for. -/
theorem cleansUp_iff {fault : Fault} {d' : Descriptor} {q : Request} {r : Response}
    (hr : Runs (c.provision d deadline) h (.ok (.error fault, d')))
    (hx : (q, .ok r) ∈ h.asked) (hq : q.OrdersService) (hsuccess : r.isSuccess) :
    ∃ h₁ h₂, h = h₁ ++ h₂ ∧ Runs (c.uncompensated d deadline) h₁ (.error fault) ∧
      (q, .ok r) ∈ h₁.asked ∧ (h₂ = [] ∨ c.CleansUp (c.serviceOf d) deadline h₂) ∧
      ((∃ answer, (.read Path.cloudServices, answer) ∈ h₂.asked) ↔
        ∃ id, r.requestId = some id ∧ c.channel.Succeeded id h.asked) := by
  obtain ⟨r', d'', h₁, h₂, ho, rfl, hstrict, -, hparts⟩ := provision_parts hr
  cases ho
  obtain ⟨rfl, hok | hm⟩ | ⟨-, hm, hcleans⟩ := hparts
  · cases hok
  · -- the service was not made, and nothing follows the fault
    have hx₁ : (q, .ok r) ∈ h₁.asked := by simpa using hx
    have hiff := made_iff_of_accepted hstrict hx₁ hq hsuccess
    refine ⟨h₁, [], rfl, hstrict, hx₁, .inl rfl, ?_⟩
    rw [List.append_nil, ← hiff]
    exact ⟨fun ⟨_, hlook⟩ => (nomatch hlook), fun hmade => absurd hmade hm⟩
  · have hx₁ : (q, .ok r) ∈ h₁.asked := by
      rw [History.asked_append] at hx
      exact (List.mem_append.1 hx).resolve_right fun hx₂ => hcleans.not_ordersService hx₂ hq
    obtain ⟨id, hid, hsucceeded⟩ := (made_iff_of_accepted hstrict hx₁ hq hsuccess).1 hm
    refine ⟨h₁, h₂, rfl, hstrict, hx₁, .inr hcleans, fun _ => ⟨id, hid, ?_⟩, fun _ =>
      hcleans.looks⟩
    rw [History.asked_append]
    exact hsucceeded.append_left

/-! ## A service that is left behind -/

/-- A provider that accepts the order of a cloud service and fails to report
on its operation. -/
def silentScript : Script := [
  ((.get, Path.cloudService "r"), [.refuses 404]),
  ((.get, Path.cloudServices), [Script.listing []]),
  ((.post, Path.cloudServices), [.accepts "1"]),
  ((.get, operationPath "1"), [.refuses 500])]

/-- The run of provisioning against it. -/
def forgotten :
    History Request (Except Fault Response) × Except Fault (Except Fault Machine × Descriptor) :=
  (plainClient.provision (plainDescriptor "r") ⟨400000⟩).alone Script.respond silentScript 0

/-- It fails; the order was accepted, and no listing is read after it. -/
theorem runs_forgotten : ∃ fault d' before after q, ∃ r : Response,
    Runs (plainClient.provision (plainDescriptor "r") ⟨400000⟩) forgotten.1
      (.ok (.error fault, d')) ∧
    forgotten.1.asked = before ++ (q, .ok r) :: after ∧ q.OrdersService ∧ r.isSuccess ∧
    ∀ x ∈ after, x.1 ≠ .read Path.cloudServices := by
  have hrun : (match forgotten.2 with | .ok (.error _, _) => true | _ => false) = true ∧
      forgotten.1.asked[2]?.map (fun x => (decide x.1.OrdersService, isAccepted x.2)) =
        some (true, true) ∧
      ∀ x ∈ forgotten.1.asked.drop 3, x.1 ≠ .read Path.cloudServices := by decide +kernel
  obtain ⟨hend, hthird, hrest⟩ := hrun
  obtain ⟨⟨q, answer⟩, hx, heq⟩ := Option.map_eq_some_iff.1 hthird
  obtain ⟨hq, haccepted⟩ := Prod.mk.inj heq
  obtain ⟨r, rfl, hsuccess⟩ := isAccepted_iff.1 haccepted
  have hr : Runs (plainClient.provision (plainDescriptor "r") ⟨400000⟩) forgotten.1 forgotten.2 :=
    runs_alone ..
  split at hend
  next fault d' ho =>
    exact ⟨fault, d', _, _, q, r, ho ▸ hr, (Schedule.take_append_cons_drop hx).symm,
      of_decide_eq_true hq, hsuccess, hrest⟩
  next => cases hend

/-- **A service is left behind**: its order was accepted, the call ends with a
fault, and no clean-up is begun in between. -/
theorem leaves_behind : ∃ h fault d' before after q, ∃ r : Response,
    Runs (plainClient.provision (plainDescriptor "r") ⟨400000⟩) h (.ok (.error fault, d')) ∧
    h.asked = before ++ (q, .ok r) :: after ∧ q.OrdersService ∧ r.isSuccess ∧
    ∀ x ∈ after, x.1 ≠ .read Path.cloudServices :=
  ⟨forgotten.1, runs_forgotten⟩

/-- The equivalence at this run. -/
theorem cleansUp_iff_forgotten : ∃ q r h₁ h₂ fault, forgotten.1 = h₁ ++ h₂ ∧
    Runs (plainClient.uncompensated (plainDescriptor "r") ⟨400000⟩) h₁ (.error fault) ∧
    (q, .ok r) ∈ h₁.asked ∧
    (h₂ = [] ∨
      plainClient.CleansUp (plainClient.serviceOf (plainDescriptor "r")) ⟨400000⟩ h₂) ∧
    ((∃ answer, (.read Path.cloudServices, answer) ∈ h₂.asked) ↔
      ∃ id, r.requestId = some id ∧ plainClient.channel.Succeeded id forgotten.1.asked) := by
  obtain ⟨fault, d', before, after, q, r, hr, hasked, hq, hsuccess, -⟩ := runs_forgotten
  have hx : (q, .ok r) ∈ forgotten.1.asked := by simp [hasked]
  obtain ⟨h₁, h₂, hparts⟩ := cleansUp_iff hr hx hq hsuccess
  exact ⟨q, r, h₁, h₂, fault, hparts⟩

end Client

end CloudOrchestration
