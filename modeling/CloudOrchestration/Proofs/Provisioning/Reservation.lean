import CloudOrchestration.Proofs.Client.Steps
import CloudOrchestration.Proofs.Provisioning.Plain
import Mathlib.Data.List.Forall2
/-!
# Reserving an address

A machine that is to have one of several addresses gets the first that is free.
The candidates are queried one after the other, and none after the first that is
free (`Client.Chooses`); then the topology is read, and shows the site of the
network with the subnet of the machine (`Client.Reserves`). So what the
exchanges of a reservation are can be said without the loop that makes them.
-/

namespace CloudOrchestration

open Workflow Channel

namespace Client

variable {c : Client} {network address : String} {candidates : List String}
variable {deadline : Deadline} {h : History Request (Except Fault Response)}

/-- **The query for an address**, and what it told: whether the address is free in a
network. -/
def FindsFree (c : Client) (network address : String) (isFree : Bool) (asked : List Asked) :
    Prop :=
  ∃ (r : Response) (a : Availability), Reads (Path.availability network address) asked (.ok r) ∧
    c.channel.document r = .ok a ∧ a.isAvailable = isFree

/-- **The choice of an address** among some, in order: every earlier one was queried
and is not free, the chosen one is, and no later one was queried. -/
def Chooses (c : Client) (network : String) (candidates : List String) (address : String)
    (asked : List Asked) : Prop :=
  ∃ (earlier later : List String) (refusals : List (List Asked)) (query : List Asked),
    candidates = earlier ++ address :: later ∧ asked = refusals.flatten ++ query ∧
      List.Forall₂ (fun other => c.FindsFree network other false) earlier refusals ∧
      c.FindsFree network address true query

/-- The first candidate is chosen if it is free. -/
theorem chooses_head {asked : List Asked} (hfree : c.FindsFree network address true asked) :
    c.Chooses network (address :: candidates) address asked :=
  ⟨[], candidates, [], asked, rfl, rfl, .nil, hfree⟩

/-- If it is not, the choice is among the others. -/
theorem Chooses.cons {other : String} {query asked : List Asked}
    (hother : c.FindsFree network other false query)
    (h : c.Chooses network candidates address asked) :
    c.Chooses network (other :: candidates) address (query ++ asked) := by
  obtain ⟨earlier, later, refusals, last, rfl, rfl, hrefusals, hfree⟩ := h
  exact ⟨other :: earlier, later, query :: refusals, last, rfl, by simp, .cons hother hrefusals,
    hfree⟩

theorem runs_availability {a : Availability}
    (hr : Runs (c.availability network address deadline) h (.ok a)) :
    c.FindsFree network address a.isAvailable h.asked := by
  obtain ⟨r, hreads, hdocument⟩ := reads_of_runs_get hr
  exact ⟨r, a, hreads, hdocument, rfl⟩

/-- **The loop chooses an address.** -/
theorem runs_firstAvailable
    (hr : Runs (c.firstAvailable network deadline candidates) h (.ok (some address))) :
    c.Chooses network candidates address h.asked := by
  induction candidates generalizing h with
  | nil =>
    obtain ⟨-, hx⟩ := runs_done.1 hr
    cases hx
  | cons other rest ih =>
    obtain ⟨a, h₁, h₂, rfl, hquery, hr⟩ := runs_bind_ok.1 hr
    have hfinds := runs_availability hquery
    rw [History.asked_append]
    split at hr
    next hfree =>
      obtain ⟨rfl, hx⟩ := runs_done.1 hr
      cases hx
      rw [hfree] at hfinds
      simpa using chooses_head hfinds
    next htaken =>
      rw [Bool.eq_false_iff.2 htaken] at hfinds
      exact (ih hr).cons hfinds

/-- **The reservation of an address** for a machine: it is chosen, and then the
topology shows the network with the subnet of the machine. -/
def Reserves (c : Client) (d : Descriptor) (address : String) (asked : List Asked) : Prop :=
  ∃ (network : String) (choosing reading : List Asked) (r : Response) (t : Topology) (site : Site)
    (subnet : Subnet), c.networkOf d = some network ∧ asked = choosing ++ reading ∧
      c.Chooses network d.candidates address choosing ∧ Reads Path.topology reading (.ok r) ∧
      c.shownTopology (.ok r) = .ok t ∧ t.site? network = some site ∧
      site.subnet? (d.subnet.getD "") = some subnet

theorem runs_reserveAddress {d : Descriptor}
    (hr : Runs (c.reserveAddress d deadline) h (.ok address)) : c.Reserves d address h.asked := by
  unfold reserveAddress at hr
  split at hr
  · obtain ⟨-, hx⟩ := runs_fail.1 hr
    cases hx
  next network hnetwork =>
    obtain ⟨found, h₁, h₂, rfl, hchoice, hr⟩ := runs_bind_ok.1 hr
    cases found with
    | none =>
      obtain ⟨-, hx⟩ := runs_fail.1 hr
      cases hx
    | some chosen =>
      obtain ⟨t, h₃, h₄, rfl, htopology, hr⟩ := runs_bind_ok.1 hr
      obtain ⟨answer, hreads, hshown⟩ := runs_topology htopology
      obtain ⟨r, -, rfl, -⟩ := shownTopology_eq_ok hshown.symm
      cases hsubnet : (t.site? network).bind (·.subnet? (d.subnet.getD "")) with
      | none =>
        simp only [hsubnet, Option.isNone_none, if_true] at hr
        obtain ⟨-, hx⟩ := runs_fail.1 hr
        cases hx
      | some subnet =>
        simp only [hsubnet, Option.isNone_some, Bool.false_eq_true, if_false] at hr
        obtain ⟨rfl, hx⟩ := runs_done.1 hr
        cases hx
        obtain ⟨site, hsite, hlisted⟩ := Option.bind_eq_some_iff.1 hsubnet
        exact ⟨network, h₁.asked, h₃.asked, r, t, site, subnet, hnetwork, by simp,
          runs_firstAvailable hchoice, hreads, hshown.symm, hsite, hlisted⟩

/-- A choice only queries. -/
theorem Chooses.request_eq {asked : List Asked} (h : c.Chooses network candidates address asked)
    {x : Asked} (hx : x ∈ asked) : ∃ other, x.1 = .read (Path.availability network other) := by
  obtain ⟨earlier, later, refusals, query, -, rfl, hrefusals, _, _, hquery, -⟩ := h
  have hrefused : ∀ y ∈ refusals.flatten,
      ∃ other, y.1 = .read (Path.availability network other) := by
    clear hx
    induction hrefusals with
    | nil => exact fun y hy => nomatch hy
    | @cons other _ _ _ hrefusal _ ih =>
      obtain ⟨_, _, hreads, -⟩ := hrefusal
      intro y hy
      rcases List.mem_append.1 hy with hy | hy
      · exact ⟨other, hreads.request_eq hy⟩
      · exact ih y hy
  rcases List.mem_append.1 hx with hx | hx
  · exact hrefused x hx
  · exact ⟨address, hquery.request_eq hx⟩

/-- A reservation queries, and reads the topology. -/
theorem Reserves.request_eq {d : Descriptor} {asked : List Asked}
    (h : c.Reserves d address asked) {x : Asked} (hx : x ∈ asked) :
    (∃ network other, x.1 = .read (Path.availability network other)) ∨
      x.1 = .read Path.topology := by
  obtain ⟨network, choosing, reading, _, _, _, _, -, rfl, hchooses, hreads, -⟩ := h
  rcases List.mem_append.1 hx with hx | hx
  · exact .inl ⟨network, hchooses.request_eq hx⟩
  · exact .inr (hreads.request_eq hx)

end Client

end CloudOrchestration
