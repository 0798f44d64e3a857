import Mathlib.Data.List.Forall2
import Mathlib.Data.List.Nodup
import Mathlib.Data.List.Perm.Subperm
import Mathlib.Data.List.Range
import Mathlib.Tactic.Common
import Patchbay.Proofs.Lists
import Patchbay.Supervision.Basic

/-!
# How supervision goes

The supervisor gets to know of two things: exits that it receives, and a shutdown that was asked
for. The first notice that calls for a stop decides how all of it ends. If it is a failure, this is
the error; if not, or if no notice calls for a stop, all exits are returned in the order they were
received in. Whatever the order of events, the exits are received in the order they were sent in,
and each service sends one.
-/

namespace Patchbay

/-- An error says which service failed, and how. -/
inductive SupervisionError.Tells : SupervisionError → Exit → Prop
  | spawn (name : String) (error : OsError) : Tells (.spawn name error) ⟨name, .spawnFailed error⟩
  | exited (name : String) (status : ExitStatus) :
      Tells (.exited name status) ⟨name, .exited status⟩
  | wait (name : String) (error : OsError) : Tells (.wait name error) ⟨name, .waitFailed error⟩

/-- There is an error for the failures and for nothing else. -/
lemma SupervisionError.ofExit?_cases (e : Exit) :
    (e.ending.isFailure = true ∧ ∃ err, ofExit? e = some err ∧ err.Tells e) ∨
      (e.ending.isFailure = false ∧ ofExit? e = none) := by
  obtain ⟨name, ending⟩ := e
  cases ending with
  | exited status =>
    cases hs : status.isSuccess with
    | true => exact .inr (by simp [ofExit?, Ending.isFailure, hs])
    | false => exact .inl ⟨by simp [Ending.isFailure, hs], _, by simp [ofExit?, hs], .exited _ _⟩
  | spawnFailed error => exact .inl ⟨rfl, _, rfl, .spawn _ _⟩
  | waitFailed error => exact .inl ⟨rfl, _, rfl, .wait _ _⟩
  | interrupted | stopped => exact .inr ⟨rfl, rfl⟩

namespace Supervision

/-! ### What is sent and what is noticed -/

def Event.ending? : Event → Option (Nat × Ending)
  | ends index ending => some (index, ending)
  | _ => none

/-- The services that end in the course of events, and how. -/
def endings (events : List Event) : List (Nat × Ending) := events.filterMap Event.ending?

/-- The exit that a service sends when it ends. -/
def Sends (services : List Service) (p : Nat × Ending) (e : Exit) : Prop :=
  ∃ service, services[p.1]? = some service ∧ e = ⟨service.name, p.2⟩

/-- Something that the supervisor gets to know. -/
inductive Notice where
  | exit (e : Exit)
  | shutdown
deriving DecidableEq, Repr

namespace Notice

def stops : Notice → Bool
  | exit e => e.ending.isFailure || e.ending.isInterruption
  | shutdown => true

def exit? : Notice → Option Exit
  | exit e => some e
  | shutdown => none

def failure? : Notice → Option Exit
  | exit e => if e.ending.isFailure then some e else none
  | shutdown => none

end Notice

/-- What the supervisor gets to know by an event. -/
def notice? (s : Supervision) : Event → Option Notice
  | .received => s.queue.head?.map .exit
  | .noticed => some .shutdown
  | _ => none

/-- What the supervisor gets to know in the course of events. -/
def notices : Supervision → List Event → List Notice
  | _, [] => []
  | s, e :: events =>
    (s.notice? e).toList ++
      match s.step e with
      | some t => t.notices events
      | none => []

def receipts (s : Supervision) (events : List Event) : List Exit :=
  (s.notices events).filterMap Notice.exit?

/-- The supervisor returns a result, once all is over. -/
def Returns (s : Supervision) (r : Except SupervisionError (List Exit)) : Prop :=
  s.isOver = true ∧ s.result = r

variable {services : List Service} {events : List Event} {event : Event} {s t : Supervision}

/-- Events after each other can be taken in two parts. -/
lemma steps_append {before after : List Event} :
    s.steps (before ++ after) = (s.steps before).bind (·.steps after) := by
  induction before generalizing s with
  | nil => rfl
  | cons e before ih =>
    simp only [List.cons_append, steps, Option.bind_assoc]
    exact congrArg _ (funext fun t => ih)

lemma steps_concat : s.steps (events ++ [event]) = (s.steps events).bind (·.step event) := by
  simp [steps_append, steps]

/-- One more event adds the notice that it is, if it is one. -/
lemma notices_concat (h : s.steps events = some t) :
    s.notices (events ++ [event]) = s.notices events ++ (t.notice? event).toList := by
  induction events generalizing s with
  | nil =>
    cases h
    simp only [List.nil_append, notices]
    split <;> simp
  | cons e events ih =>
    obtain ⟨u, hu, h⟩ := Option.bind_eq_some_iff.mp h
    simp only [List.cons_append, notices, hu, ih h, List.append_assoc]

/-- A history of events that begins with others has a state after these. -/
lemma exists_of_steps_append {before after : List Event}
    (h : s.steps (before ++ after) = some t) :
    ∃ u, s.steps before = some u ∧ u.steps after = some t :=
  Option.bind_eq_some_iff.mp (steps_append.symm.trans h)

/-! ### One event -/

/-- What an event makes of a state, where it can happen. -/
inductive Happens (s : Supervision) : Event → Supervision → Prop
  | ends (index : Nat) (service : Service) (ending : Ending)
      (hrunning : s.running[index]? = some (some service))
      (hstopped : ending = .stopped → s.stopping = true) :
      Happens s (.ends index ending) { s with
        running := s.running.set index none, queue := s.queue ++ [⟨service.name, ending⟩] }
  | shutdown : Happens s .shutdown { s with shutdown := true }
  | noticed (hasked : s.shutdown = true) (hgoing : s.stopping = false) :
      Happens s .noticed { s with stopping := true }
  | received (e : Exit) (queue : List Exit) (hqueue : s.queue = e :: queue) :
      Happens s .received (receive { s with queue } e)

/-- What an event that can happen does. -/
lemma happens_of_step (h : s.step event = some t) : s.Happens event t := by
  cases event with
  | ends index ending =>
    simp only [step] at h
    split at h
    · rename_i service hrunning
      split_ifs at h with hstop
      cases h
      refine .ends index service ending hrunning fun hending => ?_
      by_contra hgoing
      exact hstop ⟨hending, hgoing⟩
    · cases h
  | shutdown =>
    cases h
    exact .shutdown
  | noticed =>
    simp only [step] at h
    split_ifs at h with hnotice
    cases h
    exact .noticed hnotice.1 (Bool.not_eq_true _ ▸ hnotice.2)
  | received =>
    simp only [step] at h
    split at h
    · cases h
    · rename_i e queue hqueue
      cases h
      exact .received e queue hqueue

/-- All is over when no service runs and no exit waits. -/
lemma isOver_iff_running : s.isOver = true ↔ (∀ x ∈ s.running, x = none) ∧ s.queue = [] := by
  simp [isOver, List.all_eq_true]

lemma receive_queue {e : Exit} : (s.receive e).queue = s.queue := by
  unfold receive
  split_ifs <;> rfl

lemma receive_running {e : Exit} : (s.receive e).running = s.running := by
  unfold receive
  split_ifs <;> rfl

/-- Services that have been told to stop are not told otherwise. -/
lemma receive_stopping {e : Exit} (h : s.stopping = true) : (s.receive e).stopping = true := by
  rw [receive, if_pos h]
  exact h

/-- What was sent can be received, one exit after the other. -/
lemma exists_drained (s : Supervision) :
    ∃ t, s.steps (List.replicate s.queue.length .received) = some t ∧ t.queue = [] ∧
      t.running = s.running := by
  generalize hqueue : s.queue = queue
  induction queue generalizing s with
  | nil => exact ⟨s, rfl, hqueue, rfl⟩
  | cons e queue ih =>
    obtain ⟨t, ht, hempty, hrunning⟩ := ih (receive { s with queue } e) receive_queue
    refine ⟨t, ?_, hempty, hrunning.trans receive_running⟩
    rw [List.length_cons, List.replicate_succ, steps, step, hqueue]
    exact ht

/-! ### Every history of events -/

/-- The books of the supervisor agree with the history of events: who runs, what was sent, and what
was received. -/
structure Kept (services : List Service) (events : List Event) (s : Supervision) : Prop where
  once : ((endings events).map Prod.fst).Nodup
  running : ∀ i, s.running[i]? = services[i]?.map fun service =>
    if i ∈ (endings events).map Prod.fst then none else some service
  sent : List.Forall₂ (Sends services) (endings events)
    ((start services).receipts events ++ s.queue)
  stopping : s.stopping = (((start services).notices events).find? Notice.stops).isSome
  failure : s.failure = (((start services).notices events).find? Notice.stops).bind Notice.failure?
  exits : s.failure = none → s.exits = (start services).receipts events

namespace Kept

lemma first : Kept services [] (start services) where
  once := List.nodup_nil
  running i := by
    rw [start, List.getElem?_map]
    simp [endings]
  sent := .nil
  stopping := rfl
  failure := rfl
  exits _ := rfl

/-- The end of a service. -/
lemma ends (h : Kept services events s) (hs : (start services).steps events = some s) {index : Nat}
    {service : Service} {ending : Ending}
    (hrunning : s.running[index]? = some (some service)) :
    Kept services (events ++ [.ends index ending]) { s with
      running := s.running.set index none, queue := s.queue ++ [⟨service.name, ending⟩] } := by
  have hendings :
      endings (events ++ [.ends index ending]) = endings events ++ [(index, ending)] := by
    simp [endings, Event.ending?]
  have hnotices : (start services).notices (events ++ [.ends index ending])
      = (start services).notices events := by
    rw [notices_concat hs]
    exact List.append_nil _
  have hreceipts : (start services).receipts (events ++ [.ends index ending])
      = (start services).receipts events := by
    rw [receipts, hnotices, receipts]
  obtain ⟨hservice, hnew⟩ : services[index]? = some service ∧
      index ∉ (endings events).map Prod.fst := by
    obtain ⟨service', hservice, hif⟩ := Option.map_eq_some_iff.mp (h.running index ▸ hrunning)
    split_ifs at hif with hended
    cases hif
    exact ⟨hservice, hended⟩
  refine ⟨?_, fun i => ?_, ?_, hnotices ▸ h.stopping, hnotices ▸ h.failure, hreceipts ▸ h.exits⟩
  · rw [hendings]
    exact nodup_concat h.once hnew
  · rw [List.getElem?_set, hendings, List.map_append, List.map_singleton]
    have hlt : index < s.running.length := (List.getElem?_eq_some_iff.mp hrunning).1
    -- only the one that ended runs no longer
    by_cases hi : index = i
    · subst hi
      simp [hlt, hservice]
    · simp only [if_neg hi, h.running i, List.mem_append, List.mem_singleton, Ne.symm hi, or_false]
  · rw [hendings, hreceipts, ← List.append_assoc]
    exact forall₂_concat h.sent ⟨service, hservice, rfl⟩

/-- A shutdown that the supervisor does not know of changes nothing else. -/
lemma shutdown (h : Kept services events s) (hs : (start services).steps events = some s) :
    Kept services (events ++ [.shutdown]) { s with shutdown := true } := by
  have hendings : endings (events ++ [.shutdown]) = endings events := by
    simp [endings, Event.ending?]
  have hnotices : (start services).notices (events ++ [.shutdown])
      = (start services).notices events := by
    rw [notices_concat hs]
    exact List.append_nil _
  have hreceipts : (start services).receipts (events ++ [.shutdown])
      = (start services).receipts events := by
    rw [receipts, hnotices, receipts]
  exact ⟨hendings ▸ h.once, hendings ▸ h.running, hendings ▸ hreceipts ▸ h.sent,
    hnotices ▸ h.stopping, hnotices ▸ h.failure, hreceipts ▸ h.exits⟩

/-- Before the services are stopped no notice has called for it. -/
lemma find?_of_going (h : Kept services events s) (hgoing : s.stopping = false) :
    ((start services).notices events).find? Notice.stops = none := by
  have hnone := h.stopping
  rw [hgoing] at hnone
  simpa using hnone.symm

/-- The supervisor notices the shutdown, the first notice that calls for a stop. -/
lemma noticed (h : Kept services events s) (hs : (start services).steps events = some s)
    (hgoing : s.stopping = false) :
    Kept services (events ++ [.noticed]) { s with stopping := true } := by
  have hendings : endings (events ++ [.noticed]) = endings events := by
    simp [endings, Event.ending?]
  have hnotices : (start services).notices (events ++ [.noticed])
      = (start services).notices events ++ [.shutdown] := notices_concat hs
  have hreceipts : (start services).receipts (events ++ [.noticed])
      = (start services).receipts events := by
    simp [receipts, hnotices, Notice.exit?]
  have hfind := h.find?_of_going hgoing
  refine ⟨hendings ▸ h.once, hendings ▸ h.running, hendings ▸ hreceipts ▸ h.sent, ?_, ?_,
    hreceipts ▸ h.exits⟩
  · simp [hnotices, hfind, Notice.stops]
  · rw [hnotices, List.find?_append, hfind, h.failure, hfind]
    rfl

/-- The first notice that calls for a stop decides, also if it is the exit received last. -/
lemma received (h : Kept services events s) (hs : (start services).steps events = some s) {e : Exit}
    {queue : List Exit} (hqueue : s.queue = e :: queue) :
    Kept services (events ++ [.received]) (receive { s with queue } e) := by
  have hendings : endings (events ++ [.received]) = endings events := by
    simp [endings, Event.ending?]
  have hnotices : (start services).notices (events ++ [.received])
      = (start services).notices events ++ [.exit e] := by
    rw [notices_concat hs]
    simp [notice?, hqueue]
  have hreceipts : (start services).receipts (events ++ [.received])
      = (start services).receipts events ++ [e] := by
    simp [receipts, hnotices, Notice.exit?]
  have hsent : List.Forall₂ (Sends services) (endings events)
      (((start services).receipts events ++ [e]) ++ queue) := by
    rw [List.append_assoc, List.singleton_append, ← hqueue]
    exact h.sent
  have hfind : ((start services).notices (events ++ [.received])).find? Notice.stops
      = (((start services).notices events).find? Notice.stops).or
        (([.exit e] : List Notice).find? Notice.stops) := by
    rw [hnotices, List.find?_append]
  unfold receive
  split_ifs with hstopping hfailure
  · -- What ends after the services were told to stop belongs to the stop.
    have hstopping : s.stopping = true := hstopping
    obtain ⟨n, hn⟩ : ∃ n, ((start services).notices events).find? Notice.stops = some n :=
      Option.isSome_iff_exists.mp (h.stopping ▸ hstopping)
    rw [hn, Option.some_or] at hfind
    refine ⟨hendings ▸ h.once, hendings ▸ h.running, hendings ▸ hreceipts ▸ hsent, ?_, ?_, ?_⟩
    · rw [hfind]
      exact hstopping
    · rw [hfind, ← hn]
      exact h.failure
    · intro hnone
      rw [hreceipts, ← h.exits hnone]
  · rw [h.find?_of_going (Bool.not_eq_true _ ▸ hstopping), Option.none_or] at hfind
    refine ⟨hendings ▸ h.once, hendings ▸ h.running, hendings ▸ hreceipts ▸ hsent, ?_, ?_, ?_⟩
    · simp [hfind, Notice.stops, hfailure]
    · simp [hfind, Notice.stops, Notice.failure?, hfailure]
    · rintro ⟨⟩
  · have hgoing : s.stopping = false := Bool.not_eq_true _ ▸ hstopping
    rw [h.find?_of_going hgoing, Option.none_or] at hfind
    have hnone : s.failure = none := by
      rw [h.failure, h.find?_of_going hgoing]
      rfl
    refine ⟨hendings ▸ h.once, hendings ▸ h.running, hendings ▸ hreceipts ▸ hsent, ?_, ?_, ?_⟩
    · cases hinterrupted : e.ending.isInterruption <;>
        simp [hfind, Notice.stops, hfailure, hinterrupted]
    · cases hinterrupted : e.ending.isInterruption <;>
        simp [hfind, hnone, Notice.stops, Notice.failure?, hfailure, hinterrupted]
    · intro
      rw [hreceipts, ← h.exits hnone]

/-- An event keeps the books in order. -/
theorem step (h : Kept services events s) (hs : (start services).steps events = some s)
    (ht : s.step event = some t) : Kept services (events ++ [event]) t := by
  cases happens_of_step ht with
  | ends index service ending hrunning hstopped => exact h.ends hs hrunning
  | shutdown => exact h.shutdown hs
  | noticed hasked hgoing => exact h.noticed hs hgoing
  | received e queue hqueue => exact h.received hs hqueue

/-- All events keep the books in order. -/
theorem of_steps (h : (start services).steps events = some s) : Kept services events s := by
  induction events using List.reverseRecOn generalizing s with
  | nil =>
    cases h
    exact first
  | append_singleton events event ih =>
    rw [steps_concat] at h
    obtain ⟨u, hu, h⟩ := Option.bind_eq_some_iff.mp h
    exact (ih hu).step hu h

/-! ### How it ends -/

/-- Nobody ends but the services, and none of them twice. -/
lemma endings_subperm (h : Kept services events s) :
    ((endings events).map Prod.fst).Subperm (List.range services.length) := by
  refine List.subperm_of_subset h.once fun i hi => List.mem_range.mpr ?_
  obtain ⟨p, hp, rfl⟩ := List.mem_map.mp hi
  obtain ⟨e, -, service, hservice, -⟩ := forall₂_exists_right h.sent hp
  exact (List.getElem?_eq_some_iff.mp hservice).1

lemma length_endings_le (h : Kept services events s) :
    (endings events).length ≤ services.length := by
  simpa using h.endings_subperm.length_le

/-- When as many have ended as there are services, each has ended once. -/
lemma endings_perm (h : Kept services events s) (hall : services.length ≤ (endings events).length) :
    ((endings events).map Prod.fst).Perm (List.range services.length) :=
  h.endings_subperm.perm_of_length_le (by simpa using hall)

/-- Nobody runs exactly if all services have ended. -/
lemma nobody_iff (h : Kept services events s) :
    (∀ x ∈ s.running, x = none) ↔ (endings events).length = services.length := by
  constructor
  · intro hnobody
    -- who does not run any more has ended
    have hsub : List.range services.length ⊆ (endings events).map Prod.fst := by
      intro i hi
      have hi' := h.running i
      rw [List.getElem?_eq_getElem (List.mem_range.mp hi), Option.map_some] at hi'
      by_contra hended
      rw [if_neg hended] at hi'
      cases hnobody _ (List.mem_of_getElem? hi')
    have hge := (List.subperm_of_subset List.nodup_range hsub).length_le
    refine le_antisymm h.length_endings_le ?_
    simpa using hge
  · intro hlength x hx
    obtain ⟨i, hi⟩ := List.mem_iff_getElem?.mp hx
    obtain ⟨service, hservice, hif⟩ := Option.map_eq_some_iff.mp (h.running i ▸ hi)
    have hlt := (List.getElem?_eq_some_iff.mp hservice).1
    have hended := (h.endings_perm hlength.ge).mem_iff.mpr (List.mem_range.mpr hlt)
    rw [if_pos hended] at hif
    exact hif.symm

/-- All is over exactly when there was a receipt for each service. -/
lemma isOver_iff (h : Kept services events s) :
    s.isOver = true ↔ ((start services).receipts events).length = services.length := by
  have hlength := h.sent.length_eq
  rw [List.length_append] at hlength
  have hle := h.length_endings_le
  rw [isOver_iff_running, h.nobody_iff, ← List.length_eq_zero_iff]
  omega

/-- When all is over each service has ended once, and its exit was received. -/
lemma each_once (h : Kept services events s) (hover : s.isOver = true) :
    ((endings events).map Prod.fst).Perm (List.range services.length) ∧
      List.Forall₂ (Sends services) (endings events) ((start services).receipts events) := by
  have hreceipts := h.isOver_iff.mp hover
  have hlength := h.sent.length_eq
  rw [List.length_append] at hlength
  have hle := h.length_endings_le
  have hqueue : s.queue = [] := List.length_eq_zero_iff.mp (by omega)
  refine ⟨h.endings_perm (by omega), ?_⟩
  have hsent := h.sent
  rwa [hqueue, List.append_nil] at hsent

lemma stopping_iff (h : Kept services events s) :
    s.stopping = true ↔ ∃ n ∈ (start services).notices events, n.stops = true := by
  rw [h.stopping, List.find?_isSome]

/-- The result is the error of the failure that decided, or else all receipts. -/
lemma result_cases (h : Kept services events s) :
    (∃ e err, ((start services).notices events).find? Notice.stops = some (.exit e) ∧
      e.ending.isFailure = true ∧ s.result = .error err ∧ err.Tells e) ∨
    ((∀ e, ((start services).notices events).find? Notice.stops = some (.exit e) →
      e.ending.isFailure = false) ∧ s.result = .ok ((start services).receipts events)) := by
  cases hf : s.failure with
  | none =>
    refine .inr ⟨fun e he => ?_, by simp [result, hf, h.exits hf]⟩
    have hnone := h.failure
    rw [hf, he] at hnone
    simpa [Notice.failure?] using hnone.symm
  | some e =>
    obtain ⟨n, hn, hfailure⟩ := Option.bind_eq_some_iff.mp (h.failure.symm.trans hf)
    cases n with
    | shutdown => cases hfailure
    | exit e' =>
      simp only [Notice.failure?] at hfailure
      split_ifs at hfailure with hfails
      cases hfailure
      rcases SupervisionError.ofExit?_cases e with ⟨-, err, herr, htells⟩ | ⟨hclean, -⟩
      · exact .inl ⟨e, err, hn, hfails, by simp [result, hf, herr], htells⟩
      · rw [hclean] at hfails
        cases hfails

end Kept

/-- What supervision comes to: when it returns, with what, and what makes the services stop. -/
structure Accounted (services : List Service) (events : List Event) (s : Supervision) : Prop where
  /-- It returns exactly when there was a receipt for each service. -/
  returns_iff : (∃ r, s.Returns r) ↔
    ((start services).receipts events).length = services.length
  /-- It does once all services have ended, however late their exits are received. -/
  returns : (endings events).length = services.length →
    ∃ t r, s.steps (List.replicate s.queue.length .received) = some t ∧ t.Returns r
  /-- By then every service has ended just once, and sent the one exit that was received. -/
  each_once : ∀ r, s.Returns r → ((endings events).map Prod.fst).Perm (List.range services.length) ∧
    List.Forall₂ (Sends services) (endings events) ((start services).receipts events)
  /-- It returns an error exactly if the first notice that calls for a stop is a failure. -/
  error_iff : ∀ r, s.Returns r → ((∃ err, r = .error err) ↔
    ∃ e, ((start services).notices events).find? Notice.stops = some (.exit e) ∧
      e.ending.isFailure = true)
  /-- The error is that of this failure. -/
  error_tells : ∀ err, s.Returns (.error err) → ∀ e,
    ((start services).notices events).find? Notice.stops = some (.exit e) → err.Tells e
  /-- What it returns otherwise is all exits, in the order they were received in. -/
  ok_eq : ∀ exits, s.Returns (.ok exits) → exits = (start services).receipts events
  /-- The services are told to stop exactly if a notice has called for it. -/
  stopping_iff : s.stopping = true ↔ ∃ n ∈ (start services).notices events, n.stops = true
  /-- No service is stopped before that. -/
  stopped : ∀ before index after, events = before ++ .ends index .stopped :: after →
    ∃ n ∈ (start services).notices before, n.stops = true

/-- Whatever happens in whatever order, supervision returns once it has received one exit of each
service, and it fails with the failure that made it stop the services, if that was a failure. -/
theorem steps_accounted (h : (start services).steps events = some s) :
    Accounted services events s := by
  have hkept := Kept.of_steps h
  refine ⟨?_, ?_, ?_, ?_, ?_, ?_, hkept.stopping_iff, ?_⟩
  · rw [← hkept.isOver_iff]
    exact ⟨fun ⟨_, hover, _⟩ => hover, fun hover => ⟨_, hover, rfl⟩⟩
  · intro hall
    obtain ⟨t, ht, hqueue, hrunning⟩ := exists_drained s
    refine ⟨t, _, ht, isOver_iff_running.mpr ⟨?_, hqueue⟩, rfl⟩
    rw [hrunning]
    exact hkept.nobody_iff.mpr hall
  · rintro r ⟨hover, -⟩
    exact hkept.each_once hover
  · rintro r ⟨-, rfl⟩
    rcases hkept.result_cases with ⟨e, err, hfirst, hfails, hresult, -⟩ | ⟨hclean, hresult⟩
    · exact iff_of_true ⟨err, hresult⟩ ⟨e, hfirst, hfails⟩
    · refine iff_of_false ?_ ?_
      · rintro ⟨err, herr⟩
        rw [hresult] at herr
        cases herr
      · rintro ⟨e, hfirst, hfails⟩
        rw [hclean e hfirst] at hfails
        cases hfails
  · rintro err ⟨-, herr⟩ e he
    rcases hkept.result_cases with ⟨e', err', hfirst, -, hresult, htells⟩ | ⟨-, hresult⟩
    · rw [hfirst] at he
      rw [hresult] at herr
      cases he
      cases herr
      exact htells
    · rw [hresult] at herr
      cases herr
  · rintro exits ⟨-, hok⟩
    rcases hkept.result_cases with ⟨e, err, -, -, hresult, -⟩ | ⟨-, hresult⟩
    · rw [hresult] at hok
      cases hok
    · rw [hresult] at hok
      cases hok
      rfl
  · rintro before index after rfl
    obtain ⟨u, hu, hafter⟩ := exists_of_steps_append h
    obtain ⟨v, hv, -⟩ := Option.bind_eq_some_iff.mp hafter
    cases happens_of_step hv with
    | ends _ service _ hrunning hstopped => exact (Kept.of_steps hu).stopping_iff.mp (hstopped rfl)

/-- The relay fails after a shutdown was asked for but before it is noticed; the engine is
stopped. -/
theorem relayFails_accounted :
    let services : List Service :=
      [⟨"engine", ⟨"server"⟩, []⟩, ⟨"relay", ⟨"python3"⟩, ["relay.py"]⟩]
    let events : List Event :=
      [.shutdown, .ends 1 (.exited (.ofCode 3)), .received, .ends 0 .stopped, .received]
    ∃ s, (start services).steps events = some s ∧ Accounted services events s ∧
      s.Returns (.error (.exited "relay" (.ofCode 3))) :=
  ⟨_, rfl, steps_accounted rfl, rfl, rfl⟩

end Supervision

end Patchbay
