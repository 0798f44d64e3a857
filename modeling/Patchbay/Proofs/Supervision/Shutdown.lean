import Patchbay.Proofs.Supervision

/-!
# Shutdowns

A shutdown that is asked for before any service has failed is to stop the services without an error.
It does not always: when a service fails after the shutdown was asked for, and its exit is received
before the shutdown is noticed, this failure is the error of the whole. There is no other way to
fail then, and none at all if no exit is received while a shutdown waits to be noticed.
-/

namespace Patchbay.Supervision

/-- Whether a service ends that has not done what it had to. -/
def Event.fails : Event → Bool
  | ends _ ending => ending.isFailure
  | _ => false

/-- A failure overtakes a shutdown: the service ends after the shutdown was asked for, and its exit
is received when nothing has called for a stop yet. -/
inductive Overtakes (services : List Service) (before : List Event) : List Event → Exit → Prop
  | received {between rest : List Event} {index : Nat} {e : Exit}
      (hfails : e.ending.isFailure = true)
      (hends : .ends index e.ending ∈ between)
      (hsends : Sends services (index, e.ending) e)
      (hgoing : ∀ n ∈ (start services).notices (before ++ .shutdown :: between), n.stops = false)
      (hreceived : (start services).notices (before ++ .shutdown :: between ++ [.received])
        = (start services).notices (before ++ .shutdown :: between) ++ [.exit e]) :
      Overtakes services before (between ++ .received :: rest) e

/-- No exit is received while a shutdown waits to be noticed. -/
def Prompt (services : List Service) (events : List Event) : Prop :=
  ∀ before after s, events = before ++ .received :: after →
    (start services).steps before = some s → s.shutdown = true → s.stopping = true

variable {services : List Service} {events before after : List Event} {event : Event}
  {s t : Supervision} {r : Except SupervisionError (List Exit)} {e : Exit}

/-! ### Parts of a history -/

/-- The notices of events after each other are taken in two parts. -/
lemma notices_append (h : s.steps before = some t) :
    s.notices (before ++ after) = s.notices before ++ t.notices after := by
  induction before generalizing s with
  | nil =>
    cases h
    rfl
  | cons event before ih =>
    obtain ⟨u, hu, h⟩ := Option.bind_eq_some_iff.mp h
    simp only [List.cons_append, notices, hu, ih h, List.append_assoc]

/-- A shutdown stays asked for. -/
lemma shutdown_step (h : s.step event = some t) (hasked : s.shutdown = true ∨ event = .shutdown) :
    t.shutdown = true := by
  cases happens_of_step h with
  | shutdown => rfl
  | ends | noticed => exact hasked.resolve_right nofun
  | received e queue =>
    have hs : s.shutdown = true := hasked.resolve_right nofun
    unfold receive
    split_ifs <;> exact hs

/-- A shutdown that was asked for stays asked for. -/
lemma shutdown_of_mem (h : s.steps events = some t) (hmem : .shutdown ∈ events) :
    t.shutdown = true := by
  induction events using List.reverseRecOn generalizing t with
  | nil => cases hmem
  | append_singleton events event ih =>
    rw [steps_concat] at h
    obtain ⟨u, hu, h⟩ := Option.bind_eq_some_iff.mp h
    refine shutdown_step h ?_
    rcases List.mem_append.mp hmem with hmem | hmem
    · exact .inl (ih hu hmem)
    · exact .inr (List.mem_singleton.mp hmem).symm

/-- If an exit is the first notice that calls for a stop, then it was received when none had. -/
lemma exists_received_of_find? (h : s.steps events = some t)
    (hfirst : (s.notices events).find? Notice.stops = some (.exit e)) :
    ∃ before after u, events = before ++ .received :: after ∧ s.steps before = some u ∧
      u.queue.head? = some e ∧ ∀ n ∈ s.notices before, n.stops = false := by
  induction events using List.reverseRecOn generalizing t with
  | nil => cases hfirst
  | append_singleton events event ih =>
    rw [steps_concat] at h
    obtain ⟨u, hu, h⟩ := Option.bind_eq_some_iff.mp h
    rw [notices_concat hu, List.find?_append] at hfirst
    cases hearlier : (s.notices events).find? Notice.stops with
    | some n =>
      rw [hearlier, Option.some_or] at hfirst
      obtain ⟨before, after, v, rfl, hv, hqueue, hgoing⟩ := ih hu (hearlier.trans hfirst)
      exact ⟨before, after ++ [event], v, by simp, hv, hqueue, hgoing⟩
    -- the last event brought the notice, so it received the exit
    | none =>
      rw [hearlier, Option.none_or] at hfirst
      have hnotice : u.notice? event = some (.exit e) := by
        have hmem := List.mem_of_find?_eq_some hfirst
        exact Option.mem_toList.mp hmem
      cases event with
      | ends | shutdown | noticed => cases hnotice
      | received =>
        obtain ⟨e', hqueue, he⟩ := Option.map_eq_some_iff.mp hnotice
        cases he
        exact ⟨events, [], u, rfl, hu, hqueue, by simpa using hearlier⟩

/-- Where an exit is received that calls for a stop when nothing else has, it is the first notice
that does. -/
lemma find?_of_received {rest : List Event} (h : s.steps (before ++ .received :: rest) = some t)
    (hgoing : ∀ n ∈ s.notices before, n.stops = false)
    (hreceived : s.notices (before ++ [.received]) = s.notices before ++ [.exit e])
    (hstops : (Notice.exit e).stops = true) :
    (s.notices (before ++ .received :: rest)).find? Notice.stops = some (.exit e) := by
  rw [← List.singleton_append, ← List.append_assoc] at h ⊢
  obtain ⟨u, hu, -⟩ := exists_of_steps_append h
  have hnone : (s.notices before).find? Notice.stops = none := by simpa using hgoing
  rw [notices_append hu, hreceived, List.append_assoc, List.find?_append, hnone, Option.none_or,
    List.singleton_append, List.find?_cons_of_pos hstops]

/-! ### The failure that decides -/

/-- If nothing has failed before a shutdown was asked for, then a failure that decides has overtaken
it. -/
lemma overtakes_of_find? (h : (start services).steps (before ++ .shutdown :: after) = some s)
    (hbefore : ∀ event ∈ before, event.fails = false)
    (hfirst : ((start services).notices (before ++ .shutdown :: after)).find? Notice.stops
      = some (.exit e))
    (hfails : e.ending.isFailure = true) : Overtakes services before after e := by
  obtain ⟨earlier, rest, u, hsplit, hu, hqueue, hgoing⟩ := exists_received_of_find? h hfirst
  -- The exit was sent by a service that had ended before.
  obtain ⟨index, hended, hsends⟩ :
      ∃ index, .ends index e.ending ∈ earlier ∧ Sends services (index, e.ending) e := by
    have hmem : e ∈ (start services).receipts earlier ++ u.queue :=
      List.mem_append_right _ (List.mem_of_head? hqueue)
    obtain ⟨⟨index, ending⟩, hp, hsends⟩ := forall₂_exists_right (Kept.of_steps hu).sent.flip hmem
    obtain ⟨event, hevent, hending⟩ := List.mem_filterMap.mp hp
    obtain ⟨service, -, rfl⟩ := id hsends
    cases event with
    | shutdown | noticed | received => cases hending
    | ends =>
      cases hending
      exact ⟨index, hevent, hsends⟩
  -- As nothing had failed before, this was after the shutdown was asked for.
  rcases List.append_eq_append_iff.mp hsplit with ⟨between, rfl, hafter⟩ | ⟨between, rfl, hafter⟩
  · cases between with
    | nil => cases hafter
    | cons event between =>
      obtain ⟨rfl, rfl⟩ := List.cons.inj hafter
      refine .received hfails ?_ hsends hgoing ?_
      · rcases List.mem_append.mp hended with hmem | hmem
        · have hnot := hbefore _ hmem
          rw [Event.fails, hfails] at hnot
          cases hnot
        · exact (List.mem_cons.mp hmem).resolve_left nofun
      · rw [notices_concat hu, notice?, hqueue]
        rfl
  · have hnot := hbefore _ (List.mem_append_left _ hended)
    rw [Event.fails, hfails] at hnot
    cases hnot

/-- A failure that overtakes a shutdown decides. -/
lemma Overtakes.find? (hover : Overtakes services before after e)
    (h : (start services).steps (before ++ .shutdown :: after) = some s) :
    ((start services).notices (before ++ .shutdown :: after)).find? Notice.stops
      = some (.exit e) := by
  obtain @⟨between, rest, index, _, hfails, hends, hsends, hgoing, hreceived⟩ := hover
  rw [← List.cons_append, ← List.append_assoc] at h ⊢
  exact find?_of_received h hgoing hreceived (by simp [Notice.stops, hfails])

/-- Nothing overtakes a shutdown if no exit is received while it waits to be noticed. -/
lemma Prompt.not_overtakes (hprompt : Prompt services (before ++ .shutdown :: after))
    (h : (start services).steps (before ++ .shutdown :: after) = some s) :
    ¬ Overtakes services before after e := by
  rintro @⟨between, rest, index, _, hfails, hends, hsends, hgoing, hreceived⟩
  rw [← List.cons_append, ← List.append_assoc] at h hprompt
  obtain ⟨u, hu, -⟩ := exists_of_steps_append h
  have hstopping := hprompt _ rest u rfl hu (shutdown_of_mem hu (by simp))
  obtain ⟨n, hn, hstops⟩ := (Kept.of_steps hu).stopping_iff.mp hstopping
  rw [hgoing n hn] at hstops
  cases hstops

/-! ### How a shutdown ends -/

/-- What supervision returns if a shutdown was asked for before anything had failed. -/
structure ShutDown (services : List Service) (before after : List Event)
    (r : Except SupervisionError (List Exit)) : Prop where
  /-- It returns all exits, in the order they were received in, unless a failure overtakes the
  shutdown. -/
  ok_iff : r = .ok ((start services).receipts (before ++ .shutdown :: after)) ↔
    ∀ e, ¬ Overtakes services before after e
  /-- It fails only with a failure that overtakes the shutdown. -/
  error_tells : ∀ err, r = .error err → ∃ e, Overtakes services before after e ∧ err.Tells e
  /-- It does not fail if no exit is received while the shutdown waits to be noticed. -/
  ok_of_prompt : Prompt services (before ++ .shutdown :: after) →
    r = .ok ((start services).receipts (before ++ .shutdown :: after))

/-- Supervision that is shut down before anything has failed returns without an error, whatever the
services end with, unless a failure overtakes the shutdown. -/
theorem steps_shutDown (h : (start services).steps (before ++ .shutdown :: after) = some s)
    (hbefore : ∀ event ∈ before, event.fails = false) (hr : s.Returns r) :
    ShutDown services before after r := by
  obtain ⟨-, rfl⟩ := hr
  rcases (Kept.of_steps h).result_cases with
    ⟨e, err, hfirst, hfails, hresult, htells⟩ | ⟨hclean, hresult⟩
  · have hover := overtakes_of_find? h hbefore hfirst hfails
    rw [hresult]
    refine ⟨iff_of_false nofun fun hnone => hnone e hover, ?_, fun hprompt => ?_⟩
    · rintro err ⟨⟩
      exact ⟨e, hover, htells⟩
    · exact (hprompt.not_overtakes h hover).elim
  · refine ⟨iff_of_true hresult fun e hover => ?_, ?_, fun _ => hresult⟩
    · have hfails := hclean e (hover.find? h)
      obtain ⟨hfails', -⟩ := hover
      rw [hfails] at hfails'
      cases hfails'
    · rintro err herr
      rw [hresult] at herr
      cases herr

/-- The engine has ended; the relay fails while it is shut down, and its exit is received when the
shutdown was noticed. -/
theorem lateRelay_shutDown :
    let services : List Service := [⟨"engine", ⟨"server"⟩, []⟩, ⟨"relay", ⟨"python3"⟩, []⟩]
    let before : List Event := [.ends 0 (.exited (.ofCode 0))]
    let after : List Event := [.ends 1 (.exited (.ofCode 3)), .noticed, .received, .received]
    let exits : List Exit := [⟨"engine", .exited (.ofCode 0)⟩, ⟨"relay", .exited (.ofCode 3)⟩]
    (∃ s, (start services).steps (before ++ .shutdown :: after) = some s ∧ s.Returns (.ok exits)) ∧
      ShutDown services before after (.ok exits) :=
  ⟨⟨_, rfl, rfl, rfl⟩, steps_shutDown rfl (by decide) ⟨rfl, rfl⟩⟩

/-- That a shutdown which is asked for before anything has failed is without an error does not hold:
the failure of a relay can overtake it. -/
theorem not_ok_of_shutdown :
    ¬ ∀ services before after s r,
      (start services).steps (before ++ .shutdown :: after) = some s →
      (∀ event ∈ before, event.fails = false) → s.Returns r → ∃ exits, r = .ok exits := by
  intro hall
  obtain ⟨exits, hexits⟩ := hall [⟨"relay", ⟨"python3"⟩, []⟩] []
    [.ends 0 (.exited (.ofCode 3)), .received] _ _ rfl (by simp) ⟨rfl, rfl⟩
  cases hexits

end Patchbay.Supervision
