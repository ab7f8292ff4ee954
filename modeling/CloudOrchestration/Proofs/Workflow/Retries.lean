import CloudOrchestration.Proofs.Workflow.Clocked
import CloudOrchestration.Proofs.Workflow.Polling
import Mathlib.Algebra.Order.Floor.Div
/-!
# Trying again

Waits and retries have one course in time: a try that calls for another and ends
before the deadline is followed by one that begins an interval later, or at the
deadline if that is sooner (`InRow`). What the tries are does not matter to how
many there can be, nor to when they begin: the waits between them reach the
deadline after a number of times that is known at the start (`InRow.length_le`).

A wait for a state is such a row of looks (`looks_of_runsFrom`).
-/

namespace CloudOrchestration

variable {Q R α β : Type}

/-- How many waits reach the deadline, each of them starting where the one
before ended. -/
theorem Deadline.waitsLeft_eq_ceilDiv {deadline : Deadline} {t interval : Nat}
    (hinterval : 0 < interval) :
    deadline.waitsLeft t interval = deadline.remaining t ⌈/⌉ interval := by
  rw [Nat.ceilDiv_eq_add_pred_div, waitsLeft, Nat.max_eq_right hinterval,
    Nat.add_sub_assoc hinterval]

/-! ## Rows of tries -/

/-- **A row of tries** that begins at an instant, and the last of them. Every
other one calls for another and ends before the deadline, and the next begins an
interval after it ends, or at the deadline if that is sooner. -/
inductive InRow (deadline : Deadline) (interval : Nat) (again : β → Prop) :
    Instant → List (Timed β) → Timed β → Prop where
  | last {x : Timed β} (hlasts : x.begun ≤ x.ended) : InRow deadline interval again x.begun [x] x
  | more {x last : Timed β} {rest : List (Timed β)} (hlasts : x.begun ≤ x.ended)
      (hagain : again x.value) (hbefore : x.ended < deadline.instant)
      (hrest : InRow deadline interval again (min (x.ended + interval) deadline.instant) rest last) :
      InRow deadline interval again x.begun (x :: rest) last

namespace InRow

variable {deadline : Deadline} {interval : Nat} {again : β → Prop} {start : Instant}
variable {tries : List (Timed β)} {last : Timed β}

theorem mem (h : InRow deadline interval again start tries last) : last ∈ tries := by
  induction h with
  | last => exact List.mem_singleton_self _
  | more _ _ _ _ ih => exact List.mem_cons_of_mem _ ih

theorem ne_nil (h : InRow deadline interval again start tries last) : tries ≠ [] :=
  List.ne_nil_of_mem h.mem

/-- **All tries but the last** call for another. -/
theorem eq_append (h : InRow deadline interval again start tries last) :
    ∃ before, tries = before ++ [last] ∧
      ∀ x ∈ before, again x.value ∧ x.ended < deadline.instant := by
  induction h with
  | last => exact ⟨[], rfl, by simp⟩
  | @more x last rest _ hagain hbefore _ ih =>
    obtain ⟨before, rfl, hall⟩ := ih
    refine ⟨x :: before, rfl, fun y hy => ?_⟩
    rcases List.mem_cons.1 hy with rfl | hy
    · exact ⟨hagain, hbefore⟩
    · exact hall y hy

/-- What calls for another try may be said in other words. -/
theorem mono {again' : β → Prop} (h : InRow deadline interval again start tries last)
    (himp : ∀ v, again v → again' v) : InRow deadline interval again' start tries last := by
  induction h with
  | last hlasts => exact .last hlasts
  | more hlasts hagain hbefore _ ih => exact .more hlasts (himp _ hagain) hbefore ih

/-- The first try begins the row. -/
theorem head_begun (h : InRow deadline interval again start tries last) :
    ∃ x rest, tries = x :: rest ∧ x.begun = start := by
  cases h with
  | last => exact ⟨_, _, rfl, rfl⟩
  | more => exact ⟨_, _, rfl, rfl⟩

/-- **No try but the first begins after the deadline.** -/
theorem begun_le (h : InRow deadline interval again start tries last) :
    ∀ x ∈ tries.tail, x.begun ≤ deadline.instant := by
  induction h with
  | last => simp
  | @more x last rest _ _ _ hrest ih =>
    obtain ⟨y, rest', rfl, hy⟩ := hrest.head_begun
    intro z hz
    rcases List.mem_cons.1 hz with rfl | hz
    · exact Nat.le_trans (Nat.le_of_eq hy) (Nat.min_le_right _ _)
    · exact ih z hz

/-- **There are no more tries than waits** that reach the deadline, and one. -/
theorem length_le_waitsLeft (hinterval : 0 < interval)
    (h : InRow deadline interval again start tries last) :
    tries.length ≤ deadline.waitsLeft start interval + 1 := by
  induction h with
  | last => exact Nat.le_add_left _ _
  | @more x last rest hlasts _ hbefore _ ih =>
    have hlt : x.begun < deadline.instant := Nat.lt_of_le_of_lt hlasts hbefore
    have hwake := Deadline.waitsLeft_wake_le (.inl hinterval) hlasts
      (Nat.le_of_eq (Deadline.waitsLeft_eq_succ hinterval hlt))
    rw [Deadline.max_wake hbefore] at hwake
    rw [List.length_cons, Deadline.waitsLeft_eq_succ hinterval hlt]
    omega

theorem length_le (hinterval : 0 < interval)
    (h : InRow deadline interval again start tries last) :
    tries.length ≤ deadline.remaining start ⌈/⌉ interval + 1 := by
  rw [← Deadline.waitsLeft_eq_ceilDiv hinterval]
  exact h.length_le_waitsLeft hinterval

/-- **Tries that take no time** and go on up to the deadline use up all the
waits, and end at the deadline, or at their start if that is later. -/
theorem of_at_once (hinterval : 0 < interval)
    (h : InRow deadline interval again start tries last)
    (honce : ∀ x ∈ tries, x.ended = x.begun) (hlate : deadline.instant ≤ last.ended) :
    last.ended = max start deadline.instant ∧
      tries.length = deadline.remaining start ⌈/⌉ interval + 1 := by
  rw [← Deadline.waitsLeft_eq_ceilDiv hinterval]
  induction h with
  | @last x _ =>
    have hx : x.ended = x.begun := honce x (List.mem_singleton_self x)
    rw [hx] at hlate ⊢
    exact ⟨(Nat.max_eq_left hlate).symm,
      by rw [Deadline.waitsLeft_eq_zero_iff.2 hlate]; rfl⟩
  | @more x last rest _ _ hbefore _ ih =>
    have hx : x.ended = x.begun := honce x List.mem_cons_self
    obtain ⟨hended, hlength⟩ := ih (fun y hy => honce y (List.mem_cons_of_mem x hy)) hlate
    rw [hx] at hbefore hended hlength
    refine ⟨?_, ?_⟩
    · rw [hended, Nat.max_eq_right (Nat.min_le_right _ _), Nat.max_eq_right (Nat.le_of_lt hbefore)]
    · rw [List.length_cons, hlength, Deadline.waitsLeft_eq_succ hinterval hbefore]

end InRow

/-! ## Looks -/

/-- A look, from its beginning to its end: its dealings, and what it saw. -/
abbrev Look (Q R α : Type) := Timed (List (Dealing Q R) × Except Fault α)

namespace Workflow

variable {deadline : Deadline} {interval : Nat} {what : String} {look : Workflow Q R α}
variable {judge : α → Readiness β} {t t' : Instant} {l : List (Dealing Q R)}
variable {o : Except Fault β}

/-- What was seen is a resource whose state is pending. -/
def SeesPending (judge : α → Readiness β) (r : Except Fault α) : Prop :=
  ∃ a state, r = .ok a ∧ judge a = .pending state

theorem seesPending_ok {a : α} : SeesPending judge (.ok a) ↔ ∃ state, judge a = .pending state := by
  simp [SeesPending]

/-- **The looks of a wait** from one instant to another, the last of them, and
how the wait ended: as the last look decides, which sees nothing pending before
the deadline. -/
structure Looks (deadline : Deadline) (interval : Nat) (what : String) (look : Workflow Q R α)
    (judge : α → Readiness β) (start : Instant) (looks : List (Look Q R α))
    (last : Look Q R α) (finish : Instant) (o : Except Fault β) : Prop where
  runs : ∀ x ∈ looks, look.RunsFrom x.begun x.value.1 x.ended x.value.2
  row : InRow deadline interval (fun v => SeesPending judge v.2) start looks last
  finish_eq : finish = last.ended
  outcome : o = lastLook what judge last.value.2
  late : SeesPending judge last.value.2 → deadline.instant ≤ last.ended

/-- **What is done only while there is time** is done before the deadline, and
something else from then on. -/
theorem runsFrom_unlessExpired {late again : Workflow Q R β} :
    RunsFrom (now.bind fun t => if deadline.isExpired t then late else again) t l t' o ↔
      deadline.instant ≤ t ∧ RunsFrom late t l t' o ∨
        t < deadline.instant ∧ RunsFrom again t l t' o := by
  rw [runsFrom_now_bind]
  by_cases hexpired : deadline.instant ≤ t
  · simp [Deadline.isExpired, hexpired, Nat.not_lt.2 hexpired]
  · simp [Deadline.isExpired, hexpired, Nat.lt_of_not_le hexpired]

/-- A look ends the wait, or it saw something pending before the deadline and
the wait goes on. -/
theorem runsFrom_lookOnce {again : String → Workflow Q R β}
    (hr : RunsFrom (lookOnce deadline what look judge again) t l t' o) :
    (∃ r, RunsFrom look t l t' r ∧ o = lastLook what judge r ∧
      (SeesPending judge r → deadline.instant ≤ t')) ∨
      ∃ a state l₁ t₁ l₂, l = l₁ ++ l₂ ∧ RunsFrom look t l₁ t₁ (.ok a) ∧
        judge a = .pending state ∧ t₁ < deadline.instant ∧ RunsFrom (again state) t₁ l₂ t' o := by
  rw [lookOnce, bind_eq, runsFrom_bind] at hr
  obtain ⟨a, l₁, t₁, l₂, rfl, hlook, hr⟩ | ⟨fault, rfl, hlook⟩ := hr
  · cases hj : judge a with
    | ready b =>
      simp only [hj, pure_eq, runsFrom_done] at hr
      obtain ⟨rfl, rfl, rfl⟩ := hr
      exact .inl ⟨.ok a, by simpa using hlook, by simp [lastLook, hj],
        fun hpending => by simp [seesPending_ok, hj] at hpending⟩
    | stuck reason =>
      simp only [hj, runsFrom_fail] at hr
      obtain ⟨rfl, rfl, rfl⟩ := hr
      exact .inl ⟨.ok a, by simpa using hlook, by simp [lastLook, hj],
        fun hpending => by simp [seesPending_ok, hj] at hpending⟩
    | pending state =>
      simp only [hj, bind_eq, runsFrom_unlessExpired] at hr
      obtain ⟨hexpired, hr⟩ | ⟨hbefore, hr⟩ := hr
      · obtain ⟨rfl, rfl, rfl⟩ := runsFrom_fail.1 hr
        exact .inl ⟨.ok a, by simpa using hlook, by simp [lastLook, hj], fun _ => hexpired⟩
      · exact .inr ⟨a, state, l₁, t₁, l₂, rfl, hlook, hj, hbefore, hr⟩
  · refine .inl ⟨.error fault, hlook, rfl, ?_⟩
    rintro ⟨_, _, ⟨⟩, _⟩

/-- The last look of a wait. -/
theorem looks_last {r : Except Fault α} (hlook : RunsFrom look t l t' r)
    (ho : o = lastLook what judge r) (hlate : SeesPending judge r → deadline.instant ≤ t') :
    Looks deadline interval what look judge t [⟨(l, r), t, t'⟩] ⟨(l, r), t, t'⟩ t' o where
  runs x hx := by
    rw [List.mem_singleton.1 hx]
    exact hlook
  row := .last (x := ⟨(l, r), t, t'⟩) hlook.le
  finish_eq := rfl
  outcome := ho
  late := hlate

/-- **A wait is a row of looks**: as many as its sleeps allow are never too few,
since each sleep uses up one of those that reach the deadline. Without an interval
it is the looks that have to take time. -/
theorem looks_of_runsFrom_poll
    (hpace : 0 < interval ∨ ∀ {t l t' r}, RunsFrom look t l t' r → t < t') {sleeps : Nat}
    (hsleeps : deadline.waitsLeft t interval ≤ sleeps)
    (hr : RunsFrom (poll deadline interval what look judge sleeps) t l t' o) :
    ∃ looks last, Looks deadline interval what look judge t looks last t' o ∧
      l = looks.flatMap (·.value.1) := by
  induction sleeps generalizing t l with
  | zero =>
    obtain ⟨r, hlook, ho, hlate⟩ | ⟨a, state, l₁, t₁, l₂, rfl, hlook, hj, hbefore, -⟩ :=
      runsFrom_lookOnce hr
    · exact ⟨_, _, looks_last hlook ho hlate, by simp⟩
    · -- no wait is left, so the look is at the deadline or after
      have hexpired := Deadline.waitsLeft_eq_zero_iff.1 (Nat.le_zero.1 hsleeps)
      exact absurd hbefore (Nat.not_lt_of_le (Nat.le_trans hexpired hlook.le))
  | succ sleeps ih =>
    obtain ⟨r, hlook, ho, hlate⟩ | ⟨a, state, l₁, t₁, l₂, rfl, hlook, hj, hbefore, hr⟩ :=
      runsFrom_lookOnce hr
    · exact ⟨_, _, looks_last hlook ho hlate, by simp⟩
    · rw [bind_eq, runsFrom_sleep_bind] at hr
      have hleft := Deadline.waitsLeft_wake_le (hpace.imp_right fun htakes => htakes hlook)
        hlook.le hsleeps
      obtain ⟨looks, last, hlooks, rfl⟩ := ih hleft hr
      rw [Deadline.max_wake hbefore] at hlooks
      let first : Look Q R α := ⟨(l₁, .ok a), t, t₁⟩
      refine ⟨first :: looks, last, { hlooks with runs := ?_, row := ?_ }, by simp [first]⟩
      · intro x hx
        rcases List.mem_cons.1 hx with rfl | hx
        · exact hlook
        · exact hlooks.runs x hx
      · exact .more (x := first) hlook.le ⟨a, state, rfl, hj⟩ hbefore hlooks.row

theorem looks_of_runsFrom
    (hpace : 0 < interval ∨ ∀ {t l t' r}, RunsFrom look t l t' r → t < t')
    (hr : RunsFrom (awaitState deadline interval what look judge) t l t' o) :
    ∃ looks last, Looks deadline interval what look judge t looks last t' o ∧
      l = looks.flatMap (·.value.1) := by
  rw [awaitState, bind_eq, runsFrom_now_bind] at hr
  exact looks_of_runsFrom_poll hpace (Nat.le_refl _) hr

end Workflow

end CloudOrchestration
