import CloudOrchestration.Proofs.Channel.Monitored
import CloudOrchestration.Proofs.Client.Discipline
/-!
# Edits of the topology

A call that changes the topology reads it under the network lock and writes
what it makes of it before it gives the lock back. What it knows of the
document can be told from what is seen of it: `Client.editing` reads its
sights, and allows no write but that of what the call makes of the document
that it has read. All calls on networks obey (`NetworkCall.obeys_run`), also
the one that looks at the topology before it takes the lock: nothing is made
of that look.
-/

namespace CloudOrchestration

open Workflow Channel

variable {α : Type} {c : Client} {deadline : Deadline} {f : Topology → Topology}

/-- What a call knows of the topology. -/
inductive Edit where
  /-- The network lock is not held. -/
  | away
  /-- The lock is held, and the topology was not read yet, or was written
  since. -/
  | blind
  /-- The lock is held, the topology was read, and was not written since. -/
  | sees (t : Topology)
  deriving DecidableEq

namespace Edit

/-- Whether the network lock is held. -/
def isUnderway : Edit → Bool
  | away => false
  | blind | sees _ => true

/-- What a read under the lock leads to. -/
def ofRead : Except Fault Topology → Edit
  | .ok t => sees t
  | .error _ => blind

theorem isUnderway_ofRead (r : Except Fault Topology) : (ofRead r).isUnderway := by
  cases r <;> rfl

end Edit

instance {q : Request} : Decidable q.SparesTopology :=
  inferInstanceAs (Decidable (q.isMutating → q.path ≠ Path.topology))

namespace Client

/-- The request that replaces the topology. -/
def replacing (c : Client) (t : Topology) : Request :=
  c.channel.sending .put Path.topology t .plain

/-- What the answer to a write leads to: a conflict leaves things as they
are. -/
def replacementSeen (c : Client) (t : Topology) : Except Fault Response → Edit
  | .ok r =>
    match c.wire.judge r with
    | .conflict _ => .sees t
    | .success _ | .fatal _ => .blind
  | .error _ => .blind

/-- **The edits of a call** that makes `f` of the topology. -/
def editing (c : Client) (f : Topology → Topology) :
    Monitor Edit Request (Except Fault Response)
  | .away, .asked q _ => if q.SparesTopology then some .away else none
  | .away, .acquired .network => some .blind
  | .away, .refused _ => some .away
  | .blind, .asked q r =>
    if q = .read Path.topology then some (.ofRead (c.shownTopology r))
    else if q.SparesTopology then some .blind
    else none
  | .sees t, .asked q r =>
    if q = c.replacing (f t) then some (c.replacementSeen t r)
    else if q.SparesTopology then some (.sees t)
    else none
  | .blind, .released .network => some .away
  | .sees _, .released .network => some .away
  | _, _ => none

theorem replacementSeen_of_conflict {t : Topology} {r : Response} {rejection : Rejection}
    (hj : c.wire.judge r = .conflict rejection) : c.replacementSeen t (.ok r) = .sees t := by
  simp [replacementSeen, hj]

/-- After a write the document is known only if the write was put off. -/
theorem conflict_of_replacementSeen {t t' : Topology} {r : Except Fault Response}
    (h : c.replacementSeen t r = .sees t') :
    t = t' ∧ ∃ r' rejection, r = .ok r' ∧ c.wire.judge r' = .conflict rejection := by
  unfold replacementSeen at h
  split at h
  next r' =>
    split at h
    next rejection hj =>
      cases h
      exact ⟨rfl, r', rejection, rfl, hj⟩
    next => cases h
    next => cases h
  next => cases h

theorem isUnderway_replacementSeen {t : Topology} {r : Except Fault Response} :
    (c.replacementSeen t r).isUnderway := by
  unfold replacementSeen
  split
  · split <;> rfl
  · rfl

theorem replacing_ne_read {t : Topology} {path : String} : Request.read path ≠ c.replacing t :=
  fun h => nomatch congrArg Request.method h

/-! ## What a sight tells -/

/-- **What a request tells of the edit**: it spares the topology, or writes
what the call makes of the document that it has read. -/
theorem editing_asked {e e' : Edit} {q : Request} {r : Except Fault Response}
    (h : c.editing f e (.asked q r) = some e') :
    (q.SparesTopology ∧
      (e' = e ∨ e = .blind ∧ q = .read Path.topology ∧ e' = .ofRead (c.shownTopology r))) ∨
      ∃ t, e = .sees t ∧ q = c.replacing (f t) ∧ e' = c.replacementSeen t r := by
  cases e with
  | away =>
    simp only [editing] at h
    split at h <;> cases h
    next hspares => exact .inl ⟨hspares, .inl rfl⟩
  | blind =>
    simp only [editing] at h
    split at h
    next hread =>
      cases h
      exact .inl ⟨hread ▸ sparesTopology_read _, .inr ⟨rfl, hread, rfl⟩⟩
    next =>
      split at h <;> cases h
      next hspares => exact .inl ⟨hspares, .inl rfl⟩
  | sees t =>
    simp only [editing] at h
    split at h
    next hwrite =>
      cases h
      exact .inr ⟨t, rfl, hwrite, rfl⟩
    next =>
      split at h <;> cases h
      next hspares => exact .inl ⟨hspares, .inl rfl⟩

/-- What an edit knows of the topology it does not learn from a lock. -/
theorem asked_of_editing {e : Edit} {t : Topology} {x : Sight Request (Except Fault Response)}
    (h : c.editing f e x = some (.sees t)) : ∃ q r, x = .asked q r := by
  cases x with
  | asked q r => exact ⟨q, r, rfl⟩
  | acquired d => cases e <;> cases d <;> cases h
  | refused d => cases e <;> cases h
  | released d => cases e <;> cases d <;> cases h

/-- An edit is underway while the network lock is held. -/
theorem editing_holding {e e' : Edit} {x : Sight Request (Except Fault Response)}
    (h : c.editing f e x = some e') : x.holding .network e.isUnderway = e'.isUnderway := by
  cases x with
  | asked q r =>
    obtain ⟨-, rfl | ⟨rfl, -, rfl⟩⟩ | ⟨t, rfl, -, rfl⟩ := editing_asked h
    · rfl
    · exact (Edit.isUnderway_ofRead _).symm
    · exact isUnderway_replacementSeen.symm
  | acquired d =>
    cases e <;> cases d <;> cases h
    rfl
  | refused d =>
    cases e <;> cases h
    rfl
  | released d => cases e <;> cases d <;> cases h <;> rfl

/-- While an edit is underway its number holds the network lock. -/
theorem holds_of_editing {e : Edit} {l : List (Sight Request (Except Fault Response))}
    (h : (c.editing f).after .away l = some e) : Sight.holds .network l = e.isUnderway :=
  holding_of_after (f := Edit.isUnderway) editing_holding h

/-! ## The calls -/

theorem editing_replacing {t : Topology} {r : Except Fault Response} :
    c.editing f (.sees t) (.asked (c.replacing (f t)) r) = some (c.replacementSeen t r) :=
  if_pos rfl

/-- Outside of the lock the topology is not written. -/
theorem obeys_aside {w : Call α} (hw : OnlyAsks Request.SparesTopology w) :
    Obeys (c.editing f) .away w fun _ e => e = .away :=
  obeys_of_onlyAsks hw fun _ _ hq => if_pos hq

theorem obeys_topology :
    Obeys (c.editing f) .blind (c.topology deadline) fun o e => e = .ofRead o := by
  have hread : ∀ answer, c.editing f .blind (.asked (.read Path.topology) answer) =
      some (.ofRead (c.shownTopology answer)) := by simp [editing]
  refine obeys_bind (P := fun found e => e = .ofRead (found.map (·.getD {})))
    (obeys_getOptional (fun failure => hread _) fun answer => ⟨_, hread answer, rfl⟩) ?_ ?_
  · rintro found _ rfl
    exact obeys_done rfl
  · rintro fault _ rfl
    rfl

/-- The write of what the call makes of the document that it has read. -/
theorem obeys_writeTopology {t : Topology} :
    Obeys (c.editing f) (.sees t) (c.writeTopology (f t) deadline) fun _ e => e.isUnderway := by
  -- the report on the operation is not mistaken for another read of the topology
  have hread : ∀ id, Request.read (operationPath id) ≠ .read Path.topology := fun id h =>
    Path.operationPath_ne_topology id (congrArg Request.path h)
  have hsend : Obeys (c.editing f) (.sees t)
      ((c.channel.submit (c.replacing (f t)) deadline).bind (c.channel.awaitOperation · deadline))
      fun _ e => e.isUnderway := by
    refine obeys_submit_await (fun r rejection hj => ?_) (fun answer => ?_) fun id e r he => ?_
    · rw [editing_replacing, replacementSeen_of_conflict hj]
    · exact ⟨_, editing_replacing, isUnderway_replacementSeen⟩
    · cases e with
      | away => cases he
      | blind => simp [editing, hread, sparesTopology_read]
      | sees t' => simp [editing, replacing_ne_read, sparesTopology_read]
  rw [writeTopology, replace, put]
  cases hbody : c.channel.wire.write (f t) with
  | error fault => exact obeys_fail rfl
  | ok body =>
    simp only [replacing, sending, hbody] at hsend
    exact hsend

theorem obeys_unlessDone {t : Topology} {isDone : Bool} {action : Action} :
    Obeys (c.editing f) (.sees t) (unlessDone isDone action (c.writeTopology (f t) deadline))
      fun _ e => e.isUnderway := by
  cases isDone with
  | true => exact obeys_done rfl
  | false => exact obeys_bind obeys_writeTopology (fun _ _ he => obeys_done he) fun _ _ he => he

/-- **A part under the network lock** that reads the topology first. -/
theorem obeys_exclusively {g : Topology → Call Action}
    (hg : ∀ t, Obeys (c.editing f) (.sees t) (g t) fun _ e => e.isUnderway) :
    Obeys (c.editing f) .away (exclusively .network deadline (c.topology deadline >>= g))
      fun _ e => e = .away := by
  refine obeys_now_bind fun start => ?_
  have hbody : Obeys (c.editing f) .blind (c.topology deadline >>= g) fun _ e => e.isUnderway := by
    refine obeys_bind obeys_topology ?_ ?_
    · rintro t _ rfl
      exact hg t
    · rintro fault _ rfl
      rfl
  refine obeys_holding rfl (hbody.mono fun o e he => ?_) ⟨_, rfl, rfl⟩
  cases e with
  | away => cases he
  | blind => exact ⟨_, rfl, rfl⟩
  | sees t => exact ⟨_, rfl, rfl⟩

theorem obeys_mergeNetwork {delta : Delta} :
    Obeys (c.editing fun t => (delta.into t).value) .away (c.mergeNetwork delta deadline)
      fun _ e => e = .away := by
  refine obeys_bind (obeys_exclusively fun t => obeys_unlessDone) ?_ fun _ _ he => he
  rintro action _ rfl
  cases delta.vpn with
  | none => exact obeys_done rfl
  | some vpn =>
    refine obeys_bind (obeys_aside onlyAsks_connect) ?_ fun _ _ he => he
    rintro _ _ rfl
    exact obeys_done rfl

end Client

open Client

/-- **Every call on networks edits the topology** in this way. -/
theorem NetworkCall.obeys_run (call : NetworkCall) :
    Obeys (c.editing call.transform) .away (call.run c deadline) fun _ e => e = .away := by
  cases call with
  | merge delta => exact obeys_mergeNetwork
  | ensureSite name affinityGroup addressSpace =>
    refine obeys_bind obeys_mergeNetwork ?_ fun _ _ he => he
    rintro action _ rfl
    cases action <;> exact obeys_done rfl
  | addSubnet site subnet addressPrefix =>
    refine obeys_exclusively fun t => ?_
    split
    · exact obeys_fail rfl
    · exact obeys_unlessDone
  | removeSubnet site subnet =>
    refine obeys_exclusively fun t => ?_
    split
    · exact obeys_done rfl
    · exact obeys_unlessDone
  | deleteSite name =>
    refine obeys_bind (obeys_aside (onlyAsks_topology (sparesTopology_read _))) ?_
      fun _ _ he => he
    rintro t _ rfl
    split
    · exact obeys_done rfl
    · refine obeys_bind (obeys_aside onlyAsks_removeGateway) ?_ fun _ _ he => he
      rintro _ _ rfl
      exact obeys_exclusively fun t => obeys_unlessDone

end CloudOrchestration
