import CloudOrchestration.Proofs.Client.Scripts
import CloudOrchestration.Proofs.Document.Topology
import CloudOrchestration.Proofs.Network.Editing
import CloudOrchestration.Proofs.Schedule.Exclusion
/-!
# No update is lost

Calls on networks run side by side against a provider that keeps one topology
and answers as it likes, with delays, faults and conflicts, as long as it
never denies the topology that it has. What the holder of the network lock has
read is then what the provider still has (`held_of_sees`): whoever changes it
must hold the lock. So each write that is accepted is what its sender makes of
the topology just before, and all of them together are one fold
(`NetworkCall.updates`).
-/

namespace CloudOrchestration

open Workflow Channel Schedule

/-- An answer that says that there is no topology. -/
def Response.Denies (r : Response) : Prop :=
  r.status = 404 ∨ r.isSuccess = false ∧ (Wire.json.rejection r).isMissing

/-- **A provider that keeps one topology**, the empty one if none was ever
written. Nothing but the writes that it accepts changes it; what else it
answers, and when, is left open. -/
structure KeepsTopology {σ : Type} (server : Server σ Request (Except Fault Response))
    (held : σ → Topology) (accepts : σ → Request → Bool) : Prop where
  /-- What it shows is what it has. -/
  shown {s : σ} {r : Response} {t : Topology}
    (hr : (server s (.read Path.topology)).answer = .ok r) (hsuccess : r.isSuccess)
    (ht : Wire.json.read r.body = .ok t) : t = held s
  /-- It denies no topology that was written. -/
  denied {s : σ} {r : Response} (hr : (server s (.read Path.topology)).answer = .ok r)
    (hdenies : r.Denies) : held s = {}
  /-- It accepts writes of the topology. -/
  writes {s : σ} {q : Request} (haccepts : accepts s q) : q.method = .put ∧ q.path = Path.topology
  /-- What it accepts takes the place of what it has. -/
  replaced {s : σ} {q : Request} {body : ByteArray} {t : Topology} (haccepts : accepts s q)
    (hbody : q.body = some body) (ht : Wire.json.read body = .ok t) : held (server s q).server = t
  /-- What it does not accept changes nothing. -/
  kept {s : σ} {q : Request} (haccepts : accepts s q = false) :
    held (server s q).server = held s
  /-- What it puts off it does not accept. -/
  conflicts {s : σ} {q : Request} {r : Response} {rejection : Rejection}
    (hr : (server s q).answer = .ok r) (hj : Wire.json.judge r = .conflict rejection) :
    accepts s q = false

/-! ## Requests that are accepted -/

section

variable {σ Q R : Type}

/-- Whether a sight is that of a request that is accepted. -/
def Sight.isAccepted (accepts : σ → Q → Bool) (s : σ) : Sight Q R → Bool
  | asked q _ => accepts s q
  | acquired _ | refused _ | released _ => false

/-- The numbers of those whose requests were accepted, in the order in which
they were. -/
def accepted (server : Server σ Q R) (accepts : σ → Q → Bool) :
    σ → List (Nat × Sight Q R) → List Nat
  | _, [] => []
  | s, x :: rest =>
    (if x.2.isAccepted accepts s then [x.1] else []) ++
      accepted server accepts (x.2.serve server s) rest

theorem accepted_append_one {server : Server σ Q R} {accepts : σ → Q → Bool} {s : σ}
    {l : List (Nat × Sight Q R)} {x : Nat × Sight Q R} :
    accepted server accepts s (l ++ [x]) = accepted server accepts s l ++
      if x.2.isAccepted accepts (serverAfter server s l) then [x.1] else [] := by
  induction l generalizing s with
  | nil => exact List.append_nil _
  | cons y l ih => rw [List.cons_append, accepted, ih, accepted, List.append_assoc]; rfl

end

/-! ## What the holder of the lock knows -/

variable {σ : Type} {server : Server σ Request (Except Fault Response)} {σ₀ s : σ}
variable {held : σ → Topology} {accepts : σ → Request → Bool}
variable {c : Client} {f : Nat → Topology → Topology}
variable {l : List (Nat × Sight Request (Except Fault Response))}

/-- What a client sees of the topology is what the provider has. -/
theorem KeepsTopology.eq_held (h : KeepsTopology server held accepts) (hwire : c.wire = .json)
    {t : Topology}
    (ht : c.shownTopology (server s (.read Path.topology)).answer = .ok t) : t = held s := by
  obtain ⟨r, found, hanswer, hfound, rfl⟩ := Client.shownTopology_eq_ok ht
  have hjson : c.channel.wire = .json := hwire
  have hseen := optionalDocument_eq_ok hfound
  rw [hjson] at hseen
  obtain ⟨rfl, hdenies⟩ | ⟨t, rfl, hsuccess, ht⟩ := hseen
  · exact (h.denied hanswer hdenies).symm
  · exact h.shown hanswer hsuccess ht

theorem KeepsTopology.kept_of_spares (h : KeepsTopology server held accepts) {q : Request}
    (hq : q.SparesTopology) : held (server s q).server = held s := by
  refine h.kept (Bool.eq_false_iff.2 fun haccepts => ?_)
  obtain ⟨hmethod, hpath⟩ := h.writes haccepts
  exact hq (by rw [Request.isMutating, hmethod]; rfl) hpath

/-- Of all the numbers, no edit has been stopped. -/
def Edits (c : Client) (f : Nat → Topology → Topology)
    (l : List (Nat × Sight Request (Except Fault Response))) : Prop :=
  ∀ i, ∃ e, (c.editing (f i)).after .away (sightsOf i l) = some e

theorem Edits.before {l' : List (Nat × Sight Request (Except Fault Response))}
    (h : Edits c f (l ++ l')) : Edits c f l := by
  intro i
  obtain ⟨e, he⟩ := h i
  rw [sightsOf_append] at he
  exact Monitor.after_prefix he

/-- The last sight is allowed by what its number knew before. -/
theorem Edits.last {n : Nat} {x : Sight Request (Except Fault Response)}
    (h : Edits c f (l ++ [(n, x)])) :
    ∃ e e', (c.editing (f n)).after .away (sightsOf n l) = some e ∧
      c.editing (f n) e x = some e' ∧
      (c.editing (f n)).after .away (sightsOf n (l ++ [(n, x)])) = some e' := by
  obtain ⟨e', he'⟩ := h n
  have hsplit := he'
  rw [sightsOf_append_self, Monitor.after_append, Option.bind_eq_some_iff] at hsplit
  obtain ⟨e, he, hx⟩ := hsplit
  exact ⟨e, e', he, by simpa using hx, he'⟩

/-- Who changes the topology has read it, and holds the lock. -/
theorem Edits.writes (hkeeps : KeepsTopology server held accepts) {n : Nat} {q : Request}
    {r : Except Fault Response} (h : Edits c f (l ++ [(n, .asked q r)]))
    (haccepts : accepts s q) : ∃ t, (c.editing (f n)).after .away (sightsOf n l) = some (.sees t) ∧
      q = c.replacing (f n t) := by
  obtain ⟨e, e', he, hx, -⟩ := h.last
  obtain ⟨hspares, -⟩ | ⟨t, rfl, hq, -⟩ := Client.editing_asked hx
  · obtain ⟨hmethod, hpath⟩ := hkeeps.writes haccepts
    exact absurd hpath (hspares (by rw [Request.isMutating, hmethod]; rfl))
  · exact ⟨t, he, hq⟩

/-- **What one request leaves known is what the provider has**, if that was
so before: it was just read, or the request changed nothing. -/
theorem held_of_asked (hkeeps : KeepsTopology server held accepts) (hwire : c.wire = .json)
    {e : Edit} {q : Request} {t : Topology} {g : Topology → Topology}
    (hx : c.editing g e (.asked q (server s q).answer) = some (.sees t))
    (hbefore : ∀ t, e = .sees t → held s = t) : held (server s q).server = t := by
  obtain ⟨hspares, hsame | ⟨-, rfl, hread⟩⟩ | ⟨t', rfl, hwrite, hseen⟩ := Client.editing_asked hx
  · rw [hkeeps.kept_of_spares hspares, hbefore t hsame.symm]
  · rw [hkeeps.kept_of_spares hspares]
    cases hshown : c.shownTopology (server s (.read Path.topology)).answer with
    | error fault => rw [hshown] at hread; cases hread
    | ok t' =>
      rw [hshown] at hread
      cases hread
      exact (hkeeps.eq_held hwire hshown).symm
  · -- The write was put off, so it was not accepted.
    obtain ⟨rfl, r, rejection, hr, hj⟩ := Client.conflict_of_replacementSeen hseen.symm
    rw [hkeeps.kept (hkeeps.conflicts hr (hwire ▸ hj)), hbefore t' rfl]

/-- **What the holder of the lock has read is what the provider has.** -/
theorem held_of_sees (hkeeps : KeepsTopology server held accepts) (hwire : c.wire = .json)
    (h : Interleaves server σ₀ l s) (hall : Edits c f l) {i : Nat} {t : Topology}
    (hi : (c.editing (f i)).after .away (sightsOf i l) = some (.sees t)) : held s = t := by
  induction h generalizing t with
  | nil => cases hi
  | @asked l s before n q ih =>
    by_cases hin : i = n
    · subst hin
      obtain ⟨e, e', he, hx, he'⟩ := hall.last
      rw [hi, Option.some.injEq] at he'
      subst he'
      refine held_of_asked hkeeps hwire hx ?_
      rintro t rfl
      exact ih hall.before he
    · rw [sightsOf_append_other hin] at hi
      have hheld := ih hall.before hi
      cases haccepts : accepts s q with
      | false => rw [hkeeps.kept haccepts, hheld]
      | true =>
        -- Whoever changes the topology would hold the lock along with `i`.
        obtain ⟨t', hn, -⟩ := hall.writes hkeeps haccepts
        have hholds := Client.holds_of_editing hn
        exact absurd (before.exclusive (Client.holds_of_editing hi) hholds) hin
  | @acquired l s before n d hfree ih | @refused l s before n d ih | @released l s before n d ih =>
    by_cases hin : i = n
    · -- Of the topology nothing is learned from a lock.
      subst hin
      obtain ⟨e, e', -, hx, he'⟩ := hall.last
      rw [hi, Option.some.injEq] at he'
      subst he'
      obtain ⟨q, r, hasked⟩ := Client.asked_of_editing hx
      cases hasked
    · rw [sightsOf_append_other hin] at hi
      exact ih hall.before hi

/-! ## What is written -/

/-- **A write that is accepted** is what its sender makes of the topology that
the provider has. -/
theorem read_of_accepts (hkeeps : KeepsTopology server held accepts) (hwire : c.wire = .json)
    (h : Interleaves server σ₀ l s) {n : Nat} {q : Request} {r : Except Fault Response}
    (hall : Edits c f (l ++ [(n, .asked q r)])) (haccepts : accepts s q) :
    ∃ body, q.body = some body ∧ Wire.json.read body = .ok (f n (held s)) := by
  obtain ⟨t, hsees, rfl⟩ := hall.writes hkeeps haccepts
  have hwrite : (c.replacing (f n t)).body = some (encode (f n t)).toBytes := by
    have hjson : c.channel.wire = .json := hwire
    simp [Client.replacing, sending, hjson, Wire.write, Wire.json, Except.toOption]
  -- what the sender has read is still what the provider has
  rw [held_of_sees hkeeps hwire h hall.before hsees]
  exact ⟨_, hwrite, Topology.json_read_toBytes _⟩

/-- **The writes that are accepted are one fold.** -/
theorem held_eq_foldl (hkeeps : KeepsTopology server held accepts) (hwire : c.wire = .json)
    (h : Interleaves server σ₀ l s) (hall : Edits c f l) :
    held s = (accepted server accepts σ₀ l).foldl (fun t n => f n t) (held σ₀) := by
  induction h with
  | nil => rfl
  | @asked l s before n q ih =>
    rw [accepted_append_one, List.foldl_append, ← ih hall.before, ← before.server_eq]
    cases haccepts : accepts s q with
    | false => simp [Sight.isAccepted, haccepts, hkeeps.kept haccepts]
    | true =>
      obtain ⟨body, hbody, hread⟩ := read_of_accepts hkeeps hwire before hall haccepts
      simp [Sight.isAccepted, haccepts, hkeeps.replaced haccepts hbody hread]
  | acquired before n d hfree ih | refused before n d ih | released before n d ih =>
    simp [accepted_append_one, Sight.isAccepted, ih hall.before]

namespace NetworkCall

variable {w : World σ} {calls : List (NetworkCall × Deadline)}
variable {s : Schedule σ Request (Except Fault Response) Action}

/-- What the call of a number makes of the topology. -/
def transformOf (calls : List (NetworkCall × Deadline)) (n : Nat) : Topology → Topology :=
  calls[n]?.elim id (·.1.transform)

theorem edits_of_reaches
    (hr : Reaches server (Schedule.start w (calls.map fun x => x.1.run c x.2)) s) :
    Edits c (transformOf calls) s.seen := by
  intro n
  refine hr.after (P := fun _ e => e = .away) fun wf hwf => ?_
  rw [List.getElem?_map, Option.map_eq_some_iff] at hwf
  obtain ⟨x, hx, rfl⟩ := hwf
  have htransform : transformOf calls n = x.1.transform := by simp [transformOf, hx]
  rw [htransform]
  exact obeys_run x.1

/-- **No update is lost.** Under any order of steps every write that is
accepted is what its sender makes of the topology just before, and the topology
is what the accepted writers have made of the first, one after the other. -/
theorem updates (hkeeps : KeepsTopology server held accepts) (hwire : c.wire = .json)
    (hr : Reaches server (Schedule.start w (calls.map fun x => x.1.run c x.2)) s) :
    (∀ n i q r, s.seen[n]? = some (i, .asked q r) →
      accepts (serverAfter server w.server (s.seen.take n)) q →
        ∃ call deadline body, calls[i]? = some (call, deadline) ∧ q.body = some body ∧
          Wire.json.read body =
            .ok (call.transform (held (serverAfter server w.server (s.seen.take n))))) ∧
    held s.world.server =
      (accepted server accepts w.server s.seen).foldl (fun t i => transformOf calls i t)
        (held w.server) := by
  have hrow := hr.interleaves (P := fun _ held => held = none) fun wf hwf => by
    obtain ⟨x, -, rfl⟩ := List.mem_map.1 hwf
    exact Client.disciplined_network x.1
  have hall := edits_of_reaches hr
  refine ⟨fun n i q r hn haccepts => ?_, held_eq_foldl hkeeps hwire hrow hall⟩
  obtain ⟨_, hbefore⟩ := hrow.take n
  have hedits : Edits c (transformOf calls) (s.seen.take n ++ [(i, .asked q r)]) := by
    rw [← take_append_cons_drop hn, List.append_cons] at hall
    exact hall.before
  -- up to the write the row is an interleaving of its own
  rw [← hbefore.server_eq] at haccepts ⊢
  obtain ⟨body, hbody, hread⟩ := read_of_accepts hkeeps hwire hbefore hedits haccepts
  have hi : i < calls.length := by simpa using hr.lt_of_mem_seen (List.mem_of_getElem? hn)
  refine ⟨calls[i].1, calls[i].2, body, by simp [hi], hbody, ?_⟩
  simpa [transformOf, hi] using hread

end NetworkCall

/-! ## A provider that keeps a topology -/

/-- The bytes of a topology, if one was written, and how many writes will be
put off. -/
structure Shelf where
  body : Option ByteArray := none
  busy : Nat := 0

namespace Shelf

/-- The topology that the bytes describe. -/
def topology (s : Shelf) : Topology :=
  (s.body.bind fun body => (Wire.json.read body).toOption).getD {}

/-- Whether a request writes the topology. -/
def isWrite (q : Request) : Bool :=
  q.method = .put && q.path = Path.topology && q.body.isSome

/-- Whether a request is accepted. -/
def takes (s : Shelf) (q : Request) : Bool := isWrite q && s.busy == 0

/-- The answer that puts a change off. -/
def busyAnswer : Response where
  status := 409
  requestId := none
  body := (encode (Rejection.mk Rejection.conflictCode "")).toBytes

/-- The answer to a request that writes nothing: what is kept is shown, and
operations have succeeded. -/
def look (s : Shelf) (q : Request) : Except Fault Response :=
  match s.body with
  | some body =>
    if q = .read Path.topology then .ok { status := 200, requestId := none, body }
    else (Script.respond [Script.operationDone "1"] q).answer
  | none => (Script.respond [Script.operationDone "1"] q).answer

/-- A write takes its time, unless it is put off. -/
def respond : Server Shelf Request (Except Fault Response) := fun s q =>
  if isWrite q then
    match s.busy with
    | busy + 1 => ⟨{ s with busy }, 0, .ok busyAnswer⟩
    | 0 => ⟨{ s with body := q.body }, 1000, (ScriptedReply.accepts "1").answer⟩
  else ⟨s, 0, s.look q⟩

/-- A request that writes nothing. -/
theorem respond_of_not_isWrite {s : Shelf} {q : Request} (hq : isWrite q = false) :
    respond s q = ⟨s, 0, s.look q⟩ := by
  simp [respond, hq]

/-- A request that is accepted. -/
theorem respond_of_takes {s : Shelf} {q : Request} (h : takes s q) :
    respond s q = ⟨{ s with body := q.body }, 1000, (ScriptedReply.accepts "1").answer⟩ := by
  obtain ⟨body, busy⟩ := s
  simp only [takes, Bool.and_eq_true, beq_iff_eq] at h
  obtain ⟨hq, rfl⟩ := h
  simp [respond, hq]

/-- The shelf shows what it has. -/
theorem respond_read {s : Shelf} {r : Response}
    (hr : (respond s (.read Path.topology)).answer = .ok r) :
    s.body = none ∧ r = Script.missing ∨ s.body = some r.body ∧ r.status = 200 := by
  rw [respond_of_not_isWrite rfl] at hr
  simp only [look] at hr
  split at hr
  next body hbody =>
    cases hr
    exact .inr ⟨hbody, rfl⟩
  next hbody =>
    cases hr
    exact .inl ⟨hbody, rfl⟩

theorem keepsTopology : KeepsTopology respond topology takes where
  shown {s r t} hr hsuccess ht := by
    obtain ⟨-, rfl⟩ | ⟨hbody, -⟩ := respond_read hr
    · cases hsuccess
    · simp [topology, hbody, ht, Except.toOption]
  denied {s r} hr hdenies := by
    obtain ⟨hbody, -⟩ | ⟨-, hstatus⟩ := respond_read hr
    · simp [topology, hbody]
    · simp [Response.Denies, Response.isSuccess, hstatus] at hdenies
  writes htakes := by
    simp only [takes, isWrite, Bool.and_eq_true, decide_eq_true_eq] at htakes
    exact htakes.1.1
  replaced htakes hbody ht := by
    simp [respond_of_takes htakes, topology, hbody, ht, Except.toOption]
  kept {s q} htakes := by
    obtain ⟨body, busy⟩ := s
    cases hq : isWrite q with
    | false => rw [respond_of_not_isWrite hq]
    | true =>
      cases busy with
      | zero => simp [takes, hq] at htakes
      | succ busy => simp [respond, hq, topology]
  conflicts {s q r rejection} hr hj := by
    refine Bool.eq_false_iff.2 fun htakes => ?_
    rw [respond_of_takes htakes] at hr
    cases hr
    cases hj

/-- Two calls that meet at one site. -/
def calls : List (NetworkCall × Deadline) :=
  [(.ensureSite "u" "" "", ⟨400000⟩), (.addSubnet "u" "s" "p", ⟨400000⟩)]

/-- Both of them, until they have ended; the first write is put off once. -/
def working : Schedule Shelf Request (Except Fault Response) Action :=
  (Schedule.start { server := { busy := 1 } }
    (calls.map fun x => x.1.run plainClient x.2)).advance respond 40

/-- Both writes are accepted, and the second is made of the first. -/
theorem updates_working : accepted respond takes { busy := 1 } working.seen = [0, 1] ∧
    working.world.server.topology =
      (NetworkCall.addSubnet "u" "s" "p").transform
        ((NetworkCall.ensureSite "u" "" "").transform {}) := by
  have hwriters : accepted respond takes { busy := 1 } working.seen = [0, 1] := by
    decide +kernel
  have hreaches : Reaches respond (Schedule.start { server := { busy := 1 } }
      (calls.map fun x => x.1.run plainClient x.2)) working := Reaches.start.advance 40
  obtain ⟨-, hfold⟩ := NetworkCall.updates keepsTopology rfl hreaches
  rw [hwriters] at hfold
  exact ⟨hwriters, hfold⟩

end Shelf

end CloudOrchestration
