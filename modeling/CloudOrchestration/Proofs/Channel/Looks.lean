import CloudOrchestration.Proofs.Channel.Waits
import CloudOrchestration.Proofs.Schedule.Interleaving
/-!
# What was seen first, and what last

A call that acts on what it has seen of a resource acts on the first answer about it,
or on the last one. Which answer that is can be told from the exchanges
(`Channel.SeenFirst`, `Channel.SeenLast`), and exchanges about other things make no
difference. Of the answers to a wait all but the last show something pending, and the
last one decides how the wait ends (`Channel.Awaits`).
-/

namespace CloudOrchestration

open Workflow

section Split

variable {β : Type} {before after l₁ l₂ : List β} {x : β}

/-- What does not lie in the first part of a list lies in the second. -/
theorem split_of_not_mem_left (hx : x ∉ l₁) (h : l₁ ++ l₂ = before ++ x :: after) :
    ∃ l, before = l₁ ++ l ∧ l₂ = l ++ x :: after := by
  obtain ⟨l, rfl⟩ | hsplit := Schedule.append_cons_eq_append h.symm
  · simp at hx
  · exact hsplit

/-- What does not lie in the second part of a list lies in the first. -/
theorem split_of_not_mem_right (hx : x ∉ l₂) (h : l₁ ++ l₂ = before ++ x :: after) :
    ∃ l, l₁ = before ++ x :: l ∧ after = l ++ l₂ := by
  obtain ⟨l, rfl⟩ | ⟨l, -, rfl⟩ := Schedule.append_cons_eq_append h.symm
  · exact ⟨l, rfl, by simpa using h.symm⟩
  · simp at hx

end Split

/-- Whether a request may change anything is told by its method. -/
theorem Request.isMutating_of_method {q : Request} {method : Method} (hmethod : q.method = method)
    (hm : method.isMutating) : q.isMutating := by
  rwa [isMutating, hmethod]

namespace Channel

variable {α β : Type} {c : Channel} {path what : String} {deadline : Deadline} {interval : Nat}
variable {h : History Request (Except Fault Response)}
variable {asked asked' before after : List Asked} {q q' : Request}
variable {answer answer' : Except Fault Response} {r : Response}

/-! ## Inside of reads and changes -/

/-- What may change something is not among the reads of a resource. -/
theorem not_mem_of_isMutating (hreads : ∀ x ∈ asked, x.1 = .read path) (hq : q.isMutating) :
    (q, answer) ∉ asked := by
  intro hx
  have hread : q = .read path := hreads _ hx
  rw [hread] at hq
  cases hq

/-- **A try of a read** decides it, or it went unanswered and another follows. -/
theorem Reads.split_cases (hr : Reads path asked answer)
    (hs : asked = before ++ (q, answer') :: after) :
    q = .read path ∧
      ((answer' = answer ∧ after = [] ∧ ∀ x ∈ before, x.1 = .read path ∧ ∀ r', x.2 ≠ .ok r') ∨
        ∃ failure next rest, answer' = .error (.connection failure) ∧
          after = (.read path, next) :: rest) := by
  obtain ⟨failures, rfl⟩ := hr
  induction failures generalizing before with
  | nil =>
    cases before with
    | nil =>
      cases hs
      exact ⟨rfl, .inl ⟨rfl, rfl, by simp⟩⟩
    | cons x before => simp at hs
  | cons failure failures ih =>
    cases before with
    | nil =>
      obtain ⟨hx, rfl⟩ := List.cons.inj hs
      cases hx
      exact ⟨rfl, .inr (by cases failures <;> exact ⟨failure, _, _, rfl, rfl⟩)⟩
    | cons x before =>
      obtain ⟨rfl, htail⟩ := List.cons.inj hs
      obtain ⟨hq, ⟨rfl, rfl, hbefore⟩ | hagain⟩ := ih htail
      · exact ⟨hq, .inl ⟨rfl, rfl, List.forall_mem_cons.2 ⟨⟨rfl, by simp⟩, hbefore⟩⟩⟩
      · exact ⟨hq, .inr hagain⟩

/-- An answer to a read is its end. -/
theorem Reads.split (hr : Reads path asked answer) (hs : asked = before ++ (q, .ok r) :: after) :
    q = .read path ∧ answer = .ok r ∧ after = [] ∧
      ∀ x ∈ before, x.1 = .read path ∧ ∀ r', x.2 ≠ .ok r' := by
  obtain ⟨hq, ⟨rfl, rfl, hbefore⟩ | ⟨_, _, _, hx, -⟩⟩ := hr.split_cases hs
  · exact ⟨hq, rfl, rfl, hbefore⟩
  · cases hx

/-- A read is sent at least once. -/
theorem Reads.exists_cons (hr : Reads path asked answer) :
    ∃ first rest, asked = (.read path, first) :: rest := by
  obtain ⟨failures, rfl⟩ := hr
  cases failures with
  | nil => exact ⟨answer, [], rfl⟩
  | cons failure failures => exact ⟨_, _, rfl⟩

/-- Of two reads that were answered and begin alike both end alike. -/
theorem Reads.unique {rest : List Asked} {r' : Response} (hr : Reads path asked (.ok r))
    (hr' : Reads path asked' (.ok r')) (hs : asked ++ rest = asked' ++ after) :
    r = r' ∧ rest = after := by
  obtain ⟨failures, rfl⟩ := hr'
  rw [List.append_assoc, List.singleton_append] at hs
  have hnot : (Request.read path, Except.ok r) ∉ failures.map fun failure =>
      ((Request.read path, .error (.connection failure)) : Asked) := by simp
  obtain ⟨l, rfl⟩ | ⟨l, hl, -⟩ := Schedule.append_cons_eq_append hs.symm
  · obtain ⟨-, heq, rfl, -⟩ := hr.split rfl
    cases heq
    exact ⟨rfl, by simpa using hs⟩
  · exact absurd (hl ▸ List.mem_append_left _ hr.mem) hnot

/-- Before a change is sent nothing but the same change was. -/
theorem Performs.split {o : Except Fault Unit} (hp : c.Performs q asked o)
    (hs : asked = before ++ (q', answer) :: after) (hq' : q'.isMutating) :
    q' = q ∧ ∀ x ∈ before, x.1 = q := by
  cases hp with
  | unsent => simp at hs
  | refused hsubmits =>
    exact ⟨hsubmits.request_eq (x := (q', answer)) (by simp [hs]),
      fun x hx => hsubmits.request_eq (by simp [hs, hx])⟩
  | started hsubmits _ hreads =>
    obtain ⟨l, rfl, -⟩ := split_of_not_mem_right (not_mem_of_isMutating hreads hq') hs
    exact ⟨hsubmits.request_eq (x := (q', answer)) (by simp),
      fun x hx => hsubmits.request_eq (by simp [hx])⟩

/-- A change reads nothing but operations. -/
theorem Performs.not_mem_read {o : Except Fault Unit} (hp : c.Performs q asked o)
    (hpath : ∀ id, operationPath id ≠ path) (hq : q ≠ .read path) :
    (.read path, answer) ∉ asked := by
  intro hx
  obtain heq | ⟨id, heq⟩ := hp.request_eq hx
  · exact hq heq.symm
  · exact hpath id (congrArg Request.path heq).symm

/-- What it asks for besides reads is the change. -/
theorem Performs.request_eq_of_isMutating {o : Except Fault Unit} (hp : c.Performs q asked o)
    {x : Asked} (hx : x ∈ asked) (hq : x.1.isMutating) : x.1 = q := by
  obtain heq | ⟨id, heq⟩ := hp.request_eq hx
  · exact heq
  · rw [heq] at hq
    cases hq

/-- **A try of a change** decides it, or it was put off and another follows. -/
theorem Submits.split_cases (hsubmits : c.Submits q asked answer)
    (hs : asked = before ++ (q', answer') :: after) :
    (answer' = answer ∧ after = []) ∨ ∃ r rejection next rest, answer' = .ok r ∧
      c.wire.judge r = .conflict rejection ∧ after = (q, next) :: rest := by
  obtain ⟨conflicts, hall, rfl⟩ := hsubmits
  induction conflicts generalizing before with
  | nil =>
    cases before with
    | nil =>
      cases hs
      exact .inl ⟨rfl, rfl⟩
    | cons x before => simp at hs
  | cons r conflicts ih =>
    cases before with
    | nil =>
      obtain ⟨hx, rfl⟩ := List.cons.inj hs
      cases hx
      obtain ⟨rejection, hj⟩ := hall r List.mem_cons_self
      exact .inr (by cases conflicts <;> exact ⟨r, rejection, _, _, rfl, hj, rfl⟩)
    | cons x before =>
      exact ih (fun r hr => hall r (List.mem_cons_of_mem _ hr)) (List.cons.inj hs).2

/-- **A refused try of a change ends it**, unless it was put off and another follows. -/
theorem Performs.refused_split {o : Except Fault Unit} (hp : c.Performs q asked o)
    (hs : asked = before ++ (q', answer) :: after) (hq' : q'.isMutating) {fault : Fault}
    (hrefused : c.submitted q' answer = .error fault) :
    (after = [] ∧ o = .error fault) ∨ ∃ r rejection next rest, answer = .ok r ∧
      c.wire.judge r = .conflict rejection ∧ after = (q', next) :: rest := by
  obtain rfl : q' = q := (hp.split hs hq').1
  cases hp with
  | unsent => simp at hs
  | refused hsubmits hfault =>
    refine (hsubmits.split_cases hs).imp_left ?_
    rintro ⟨rfl, rfl⟩
    rw [hfault] at hrefused
    cases hrefused
    exact ⟨rfl, rfl⟩
  | started hsubmits haccepted hreads =>
    obtain ⟨l, hl, rfl⟩ := split_of_not_mem_right (not_mem_of_isMutating hreads hq') hs
    obtain ⟨rfl, -⟩ | ⟨r, rejection, next, rest, hr, hj, rfl⟩ := hsubmits.split_cases hl
    · rw [haccepted] at hrefused
      cases hrefused
    · exact .inr ⟨r, rejection, next, _, hr, hj, rfl⟩

/-! ## First and last -/

variable [Document α] {found : Option α}

/-- **The first that was seen of a resource.** -/
def SeenFirst (c : Channel) (path : String) (found : Option α) (asked : List Asked) : Prop :=
  ∃ earlier r later, asked = earlier ++ (.read path, .ok r) :: later ∧
    (∀ x ∈ earlier, x.1 = .read path → ∀ r', x.2 ≠ .ok r') ∧ c.optionalDocument r = .ok found

/-- **The last that was seen of a resource**, and what had come before that. -/
def SeenLast (c : Channel) (path : String) (found : Option α) (earlier asked : List Asked) :
    Prop :=
  ∃ r later, asked = earlier ++ (.read path, .ok r) :: later ∧ (∀ x ∈ later, x.1 ≠ .read path) ∧
    c.optionalDocument r = .ok found

theorem Reads.seenFirst (hr : Reads path asked (.ok r))
    (hfound : c.optionalDocument r = .ok found) : c.SeenFirst path found asked := by
  obtain ⟨failures, rfl⟩ := hr
  refine ⟨_, r, [], rfl, fun x hx _ => ?_, hfound⟩
  obtain ⟨failure, -, rfl⟩ := List.mem_map.1 hx
  exact fun _ hok => nomatch hok

theorem Reads.seenLast (hr : Reads path asked (.ok r))
    (hfound : c.optionalDocument r = .ok found) :
    ∃ earlier, c.SeenLast path found earlier asked := by
  obtain ⟨failures, rfl⟩ := hr
  exact ⟨_, r, [], rfl, by simp, hfound⟩

theorem SeenFirst.append (hs : c.SeenFirst path found asked) :
    c.SeenFirst path found (asked ++ asked') := by
  obtain ⟨earlier, r, later, rfl, hearlier, hfound⟩ := hs
  exact ⟨earlier, r, later ++ asked', by simp, hearlier, hfound⟩

/-- There is one first look. -/
theorem SeenFirst.unique {found' : Option α} (hs : c.SeenFirst path found asked)
    (hs' : c.SeenFirst path found' asked) : found = found' := by
  obtain ⟨earlier, r, later, rfl, hearlier, hfound⟩ := hs
  obtain ⟨earlier', r', later', heq, hearlier', hfound'⟩ := hs'
  obtain ⟨l, rfl⟩ | ⟨l, rfl, hl⟩ := Schedule.append_cons_eq_append heq
  · exact absurd rfl (hearlier' (.read path, .ok r) (by simp) rfl r)
  · cases l with
    | nil =>
      cases (List.cons.inj hl).1
      rw [hfound] at hfound'
      cases hfound'
      rfl
    | cons x l =>
      cases (List.cons.inj hl).1
      exact absurd rfl (hearlier (.read path, .ok r') (by simp) rfl r')

variable {earlier : List Asked}

theorem SeenLast.append (hs : c.SeenLast path found earlier asked)
    (havoids : ∀ x ∈ asked', x.1 ≠ .read path) :
    c.SeenLast path found earlier (asked ++ asked') := by
  obtain ⟨r, later, rfl, hlater, hfound⟩ := hs
  exact ⟨r, later ++ asked', by simp, List.forall_mem_append.2 ⟨hlater, havoids⟩, hfound⟩

theorem SeenLast.prepend (hs : c.SeenLast path found earlier asked) :
    c.SeenLast path found (asked' ++ earlier) (asked' ++ asked) := by
  obtain ⟨r, later, rfl, hlater, hfound⟩ := hs
  exact ⟨r, later, by simp, hlater, hfound⟩

/-! ## Waits -/

/-- A try of a wait that goes on: it went unanswered, or was shown what is pending. -/
def GoesOn (c : Channel) (judge : Option α → Readiness β) (answer : Except Fault Response) : Prop :=
  (∃ failure, answer = .error (.connection failure)) ∨
    ∃ r found state, answer = .ok r ∧ c.optionalDocument r = .ok found ∧
      judge found = .pending state

/-- **The exchanges of a wait for a resource**, and its end: it asks for nothing but the
resource, and goes on until its last read, which decides. -/
def Awaits (c : Channel) (path what : String) (judge : Option α → Readiness β)
    (asked : List Asked) (o : Except Fault β) : Prop :=
  ∃ earlier last answer, asked = earlier ++ last ∧ Reads path last answer ∧
    (∀ x ∈ earlier, x.1 = .read path ∧ c.GoesOn judge x.2) ∧
    o = lastLook what judge (c.fetched path answer >>= c.optionalDocument)

variable {judge : Option α → Readiness β} {o : Except Fault β}

theorem awaits_of_runs
    (hr : Runs (awaitState deadline interval what (c.getOptional path deadline) judge) h o) :
    c.Awaits path what judge h.asked o := by
  obtain ⟨looks, last, r, hlooks, hlast, hasked, ho⟩ := runs_awaitState hr
  obtain ⟨answer, hreads, rfl⟩ := runs_getOptional hlast
  refine ⟨_, _, answer, hasked, hreads, fun x hx => ?_, ho⟩
  obtain ⟨l, hl, hx⟩ := List.mem_flatMap.1 hx
  obtain ⟨found, state, hlook, hpending⟩ := hlooks l hl
  obtain ⟨r, ⟨failures, htries⟩, hfound⟩ := reads_of_runs_getOptional hlook
  rw [htries] at hx
  rcases List.mem_append.1 hx with hx | hx
  · obtain ⟨failure, -, rfl⟩ := List.mem_map.1 hx
    exact ⟨rfl, .inl ⟨failure, rfl⟩⟩
  · rw [List.mem_singleton.1 hx]
    exact ⟨rfl, .inr ⟨r, found, state, rfl, hfound, hpending⟩⟩

namespace Awaits

theorem request_eq (hw : c.Awaits path what judge asked o) {x : Asked} (hx : x ∈ asked) :
    x.1 = .read path := by
  obtain ⟨earlier, last, answer, rfl, hreads, hearlier, -⟩ := hw
  rcases List.mem_append.1 hx with hx | hx
  · exact (hearlier x hx).1
  · exact hreads.request_eq hx

/-- **A try of a wait** decides it, or the wait goes on and the resource is asked for
again. -/
theorem split_cases (hw : c.Awaits path what judge asked o)
    (hs : asked = before ++ (q, answer) :: after) :
    (after = [] ∧ o = lastLook what judge (c.fetched path answer >>= c.optionalDocument)) ∨
      c.GoesOn judge answer ∧ ∃ next rest, after = (.read path, next) :: rest := by
  obtain ⟨earlier, last, answer', rfl, hreads, hearlier, rfl⟩ := hw
  obtain ⟨l, rfl⟩ | ⟨l, rfl, hl⟩ := Schedule.append_cons_eq_append hs.symm
  · obtain ⟨first, rest, rfl⟩ := hreads.exists_cons
    obtain rfl : after = l ++ (.read path, first) :: rest := by simpa using hs.symm
    refine .inr ⟨(hearlier (q, answer) (by simp)).2, ?_⟩
    cases l with
    | nil => exact ⟨first, rest, rfl⟩
    | cons x l =>
      have hx : x.1 = .read path := (hearlier x (by simp)).1
      exact ⟨x.2, _, by rw [← hx]; rfl⟩
  · obtain ⟨-, ⟨rfl, rfl, -⟩ | ⟨failure, next, rest, rfl, rfl⟩⟩ := hreads.split_cases hl
    · exact .inl ⟨rfl, rfl⟩
    · exact .inr ⟨.inl ⟨failure, rfl⟩, next, rest, rfl⟩

/-- **A wait that ends well** has seen in its last answer what it waited for. -/
theorem seenLast {b : β} (hw : c.Awaits path what judge asked (.ok b)) :
    ∃ found earlier, judge found = .ready b ∧ c.SeenLast path found earlier asked := by
  obtain ⟨earlier, last, answer, rfl, hreads, -, ho⟩ := hw
  obtain ⟨found, hlook, hready⟩ := lastLook_eq_ok ho
  obtain ⟨r, rfl, hfound⟩ := fetched_bind_eq_ok hlook
  obtain ⟨tries, hlast⟩ := hreads.seenLast hfound
  exact ⟨found, earlier ++ tries, hready, hlast.prepend⟩

/-- And no answer before that showed anything but what is pending. -/
theorem waitsFor {b : β} (hw : c.Awaits path what judge asked (.ok b)) :
    ∃ found, judge found = .ready b ∧
      c.WaitsFor path (fun found => ∃ state, judge found = .pending state) found asked := by
  obtain ⟨earlier, last, answer, rfl, ⟨failures, rfl⟩, hearlier, ho⟩ := hw
  obtain ⟨found, hlook, hready⟩ := lastLook_eq_ok ho
  obtain ⟨r, rfl, hfound⟩ := fetched_bind_eq_ok hlook
  refine ⟨found, hready, _, r, (List.append_assoc ..).symm, hfound, fun x hx => ?_⟩
  rcases List.mem_append.1 hx with hx | hx
  · obtain ⟨hread, ⟨failure, hfailure⟩ | ⟨r₁, found₁, state, hr₁, hfound₁, hpending⟩⟩ :=
      hearlier x hx
    · exact ⟨hread, fun r' _ hr' => by rw [hfailure] at hr'; cases hr'⟩
    · refine ⟨hread, fun r' found' hr' hfound' => ⟨state, ?_⟩⟩
      rw [hr₁] at hr'
      cases hr'
      rw [hfound₁] at hfound'
      cases hfound'
      exact hpending
  · obtain ⟨failure, -, rfl⟩ := List.mem_map.1 hx
    exact ⟨rfl, fun _ _ hr' => nomatch hr'⟩

end Awaits

/-! ## Changes whose effect is waited for -/

/-- **A change, and then the wait for its effect**, and how the two end. -/
inductive BringsAbout (c : Channel) (q : Request) (path what : String)
    (judge : Option α → Readiness β) : List Asked → Except Fault β → Prop where
  /-- The change failed, and nothing is waited for. -/
  | refused {changing : List Asked} {fault : Fault} (hp : c.Performs q changing (.error fault)) :
      BringsAbout c q path what judge changing (.error fault)
  /-- The change was carried out, and the wait decides. -/
  | awaited {changing waiting : List Asked} {o : Except Fault β}
      (hp : c.Performs q changing (.ok ())) (hw : c.Awaits path what judge waiting o) :
      BringsAbout c q path what judge (changing ++ waiting) o

theorem bringsAbout_of_runs {change : Call Unit}
    (hchange : ∀ {h o}, Runs change h o → c.Performs q h.asked o)
    (hr : Runs (change.bind fun _ =>
      awaitState deadline interval what (c.getOptional path deadline) judge) h o) :
    c.BringsAbout q path what judge h.asked o := by
  obtain ⟨_, h₁, h₂, rfl, hchanged, hwait⟩ | ⟨fault, rfl, hfailed⟩ := runs_bind.1 hr
  · rw [History.asked_append]
    exact .awaited (hchange hchanged) (awaits_of_runs hwait)
  · exact .refused (hchange hfailed)

/-- What was performed was carried out. -/
theorem Performs.carriesOut (hp : c.Performs q asked (.ok ())) : c.CarriesOut q asked := by
  obtain ⟨tried, r, id, awaited, hcarried⟩ := hp.exists_accepted
  exact ⟨tried, r, id, awaited, hcarried⟩

theorem CarriesOut.append (hc : c.CarriesOut q asked) : c.CarriesOut q (asked ++ asked') := by
  obtain ⟨before, r, id, after, rfl, hsuccess, hid, hsucceeded⟩ := hc
  exact ⟨before, r, id, after ++ asked', by simp, hsuccess, hid, hsucceeded.append_left⟩

theorem CarriesOut.prepend (hc : c.CarriesOut q asked) : c.CarriesOut q (asked' ++ asked) := by
  obtain ⟨before, r, id, after, rfl, hcarried⟩ := hc
  exact ⟨asked' ++ before, r, id, after, by simp, hcarried⟩

namespace BringsAbout

/-- It asks for the change, and for what is waited for. -/
theorem request_eq (hs : c.BringsAbout q path what judge asked o) {x : Asked} (hx : x ∈ asked) :
    x.1 = q ∨ x.1 = .read path ∨ ∃ id, x.1 = .read (operationPath id) := by
  cases hs with
  | refused hp => exact (hp.request_eq hx).imp_right .inr
  | awaited hp hw =>
    rcases List.mem_append.1 hx with hx | hx
    · exact (hp.request_eq hx).imp_right .inr
    · exact .inr (.inl (hw.request_eq hx))

/-- What it asks for besides reads is the change. -/
theorem request_eq_of_isMutating (hs : c.BringsAbout q path what judge asked o) {x : Asked}
    (hx : x ∈ asked) (hq : x.1.isMutating) : x.1 = q := by
  obtain heq | heq | ⟨id, heq⟩ := hs.request_eq hx
  · exact heq
  all_goals
    rw [heq] at hq
    cases hq

/-- Before the change is sent nothing but the same change was. -/
theorem split (hs : c.BringsAbout q path what judge asked o)
    (hsplit : asked = before ++ (q', answer) :: after) (hq' : q'.isMutating) :
    q' = q ∧ ∀ x ∈ before, x.1 = q := by
  cases hs with
  | refused hp => exact hp.split hsplit hq'
  | awaited hp hw =>
    obtain ⟨l, rfl, -⟩ :=
      split_of_not_mem_right (not_mem_of_isMutating (fun _ => hw.request_eq) hq') hsplit
    exact hp.split rfl hq'

/-- **A refused try of the change ends the whole**, unless it was put off and another
follows. -/
theorem refused_split (hs : c.BringsAbout q path what judge asked o)
    (hsplit : asked = before ++ (q', answer) :: after) (hq' : q'.isMutating) {fault : Fault}
    (hrefused : c.submitted q' answer = .error fault) :
    (after = [] ∧ o = .error fault) ∨ ∃ r rejection next rest, answer = .ok r ∧
      c.wire.judge r = .conflict rejection ∧ after = (q', next) :: rest := by
  cases hs with
  | refused hp =>
    refine (hp.refused_split hsplit hq' hrefused).imp_left fun ⟨hafter, hfault⟩ => ⟨hafter, ?_⟩
    cases hfault
    rfl
  | awaited hp hw =>
    obtain ⟨l, rfl, rfl⟩ :=
      split_of_not_mem_right (not_mem_of_isMutating (fun _ => hw.request_eq) hq') hsplit
    obtain ⟨-, hfault⟩ | ⟨r, rejection, next, rest, hr, hj, rfl⟩ :=
      hp.refused_split rfl hq' hrefused
    · cases hfault
    · exact .inr ⟨r, rejection, next, _, hr, hj, rfl⟩

/-- **What ends well was carried out**, and after that its effect was seen, last of
all. -/
theorem seenLast {b : β} (hs : c.BringsAbout q path what judge asked (.ok b)) :
    ∃ found earlier, judge found = .ready b ∧ c.SeenLast path found earlier asked ∧
      c.CarriesOut q earlier := by
  cases hs with
  | awaited hp hw =>
    obtain ⟨found, earlier, hready, hseen⟩ := hw.seenLast
    exact ⟨found, _, hready, hseen.prepend, hp.carriesOut.append⟩

/-- **A look at the resource** decides the whole, or it is asked for again. -/
theorem split_look (hs : c.BringsAbout q path what judge asked o)
    (hpath : ∀ id, operationPath id ≠ path) (hq : q ≠ .read path)
    (hsplit : asked = before ++ (.read path, answer) :: after) :
    (after = [] ∧ o = lastLook what judge (c.fetched path answer >>= c.optionalDocument)) ∨
      c.GoesOn judge answer ∧ ∃ next rest, after = (.read path, next) :: rest := by
  cases hs with
  | refused hp =>
    have hx : (.read path, answer) ∈ asked := by simp [hsplit]
    exact absurd hx (hp.not_mem_read hpath hq)
  | awaited hp hw =>
    obtain ⟨l, rfl, hl⟩ := split_of_not_mem_left (hp.not_mem_read hpath hq) hsplit
    exact hw.split_cases hl

end BringsAbout

end Channel

end CloudOrchestration
