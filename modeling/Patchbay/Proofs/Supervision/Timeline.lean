import Patchbay.Proofs.Supervision
import Patchbay.Supervision.Timeline

/-!
# Supervision on a host

Whatever the host does, a run of services on it is one of the histories of events that supervision
can have: each service ends because it could not be started, because the host told that its program
has ended, or because it was stopped. So what decides is the status that the host tells: zero is no
failure, nor is the signal by which a user interrupts a program; all else is.

If the host keeps a true account of the programs that run on it, then each service has ended when
the run is over, unless the end of a program never comes.
-/

namespace Patchbay

/-! ### Statuses -/

lemma ExitStatus.isSuccess_iff (s : ExitStatus) : s.isSuccess = true ↔ s.word.toNat = 0 := by
  rw [isSuccess, decide_eq_true_iff, ← UInt32.toNat_inj]
  rfl

lemma ExitStatus.toNat_word_ofCode (code : UInt8) :
    (ofCode code).word.toNat = code.toNat * 0x100 := by
  have hlt := code.toNat_lt
  simp only [ofCode, UInt32.toNat_shiftLeft, UInt8.toNat_toUInt32, Nat.shiftLeft_eq]
  change code.toNat * 2 ^ 8 % 2 ^ 32 = _
  omega

namespace Ending

/-- A program counts as interrupted exactly if the signal of a user has ended it, whether or not it
left its memory behind. -/
theorem ofStatus_isInterruption_iff (s : ExitStatus) :
    (ofStatus s).isInterruption = true ↔ s.word.toNat % 0x80 = ExitStatus.interrupt := by
  have hsignal : s.signal? = some ExitStatus.interrupt ↔
      s.word.toNat % 0x80 = ExitStatus.interrupt := by
    unfold ExitStatus.signal? ExitStatus.interrupt
    grind
  rw [← hsignal, ofStatus]
  split_ifs with hif <;> simp [isInterruption, hif]

/-- A program has failed exactly if its status is neither zero nor that of an interruption. -/
theorem ofStatus_isFailure_iff (s : ExitStatus) :
    (ofStatus s).isFailure = true ↔
      s.word.toNat ≠ 0 ∧ s.word.toNat % 0x80 ≠ ExitStatus.interrupt := by
  rw [Ne, Ne, ← s.isSuccess_iff, ← ofStatus_isInterruption_iff, ofStatus]
  split_ifs <;> simp [isFailure, isInterruption]

lemma ofStatus_ne_stopped (s : ExitStatus) : ofStatus s ≠ .stopped := by
  unfold ofStatus
  split_ifs <;> nofun

lemma ofStatus_of_not_interrupt {s : ExitStatus}
    (h : s.word.toNat % 0x80 ≠ ExitStatus.interrupt) : ofStatus s = .exited s := by
  rw [Ne, ← ofStatus_isInterruption_iff] at h
  unfold ofStatus at h ⊢
  split_ifs at h ⊢ with hsignal
  · exact (h rfl).elim
  · rfl

/-- A program that exits is not interrupted, and it fails unless its code is zero. -/
theorem ofStatus_ofCode (code : UInt8) :
    (ofStatus (.ofCode code)).isInterruption = false ∧
      ((ofStatus (.ofCode code)).isFailure = true ↔ code ≠ 0) := by
  have hcode : code.toNat = 0 ↔ code = 0 := by
    rw [← UInt8.toNat_inj]
    rfl
  rw [← Bool.not_eq_true, ofStatus_isInterruption_iff, ofStatus_isFailure_iff,
    ExitStatus.toNat_word_ofCode, ExitStatus.interrupt, ne_eq code, ← hcode]
  omega

/-- A program that a signal ends fails, unless it is the one by which a user interrupts a program.
Signals have seven bits, and a word with all of these means something else. -/
theorem ofStatus_ofSignal {signal : UInt32} (hpos : 0 < signal.toNat)
    (hlt : signal.toNat < 0x7f) :
    ((ofStatus (.ofSignal signal)).isInterruption = true ↔
        signal.toNat = ExitStatus.interrupt) ∧
      ((ofStatus (.ofSignal signal)).isFailure = true ↔
        signal.toNat ≠ ExitStatus.interrupt) := by
  rw [ofStatus_isInterruption_iff, ofStatus_isFailure_iff]
  simp only [ExitStatus.ofSignal, ExitStatus.interrupt]
  omega

end Ending

/-! ### What a host tells -/

variable {σ : Type} {host : Host σ} {h : σ}

/-- A host that is waited for again and again tells in the end how a program has ended. -/
inductive Host.Tells (host : Host σ) : σ → Nat → ExitStatus → Prop
  | now {h h' : σ} {id : Nat} {status : ExitStatus} (hwait : host.wait h = some (id, status, h')) :
      Tells host h id status
  | later {h h' : σ} {id id' : Nat} {status status' : ExitStatus}
      (hwait : host.wait h = some (id', status', h')) (htells : Tells host h' id status) :
      Tells host h id status

/-- A host keeps account of the programs that run on it: it takes up what it starts, gives each a
number that no other has, and tells the end of none but these, and of each once. -/
structure Host.Lawful (host : Host σ) (Runs : σ → List Nat → Prop) : Prop where
  boot : ∀ t entries, Runs (host.boot t entries) []
  start_ok : ∀ {h h' ids service id}, Runs h ids → host.start service h = (.ok id, h') →
    id ∉ ids ∧ Runs h' (ids ++ [id])
  start_error : ∀ {h h' ids service e}, Runs h ids → host.start service h = (.error e, h') →
    Runs h' ids
  wait : ∀ {h h' ids id status}, Runs h ids → host.wait h = some (id, status, h') →
    id ∈ ids ∧ Runs h' (ids.filter (· ≠ id))

namespace Supervision

variable {services : List Service} {service : Service} {s t u : Supervision}
  {P Q : Nat → Ending → Prop} {results : List (Except OsError Nat)} {started : List (Nat × Nat)}

/-- How a service ends on a host: it is not started, or it runs as a program whose end the host
tells, or which is stopped. -/
inductive Ends (host : Host σ) (h : σ) (results : List (Except OsError Nat)) : Nat → Ending → Prop
  | spawnFailed {i : Nat} {e : OsError} (hresult : results[i]? = some (.error e)) :
      Ends host h results i (.spawnFailed e)
  | told {i id : Nat} {status : ExitStatus} (hresult : results[i]? = some (.ok id))
      (htells : host.Tells h id status) : Ends host h results i (.ofStatus status)
  | stopped {i id : Nat} (hresult : results[i]? = some (.ok id)) :
      Ends host h results i .stopped

/-! ### A run is a history -/

/-- One state comes out of another by events in which services end in certain ways only. -/
def Leads (P : Nat → Ending → Prop) (s t : Supervision) : Prop :=
  ∃ events, s.steps events = some t ∧ ∀ p ∈ endings events, P p.1 p.2

namespace Leads

lemma refl : Leads P s s := ⟨[], rfl, by simp [endings]⟩

/-- Two histories after each other are one. -/
lemma trans (hst : Leads P s t) (htu : Leads P t u) : Leads P s u := by
  obtain ⟨before, hbefore, hp⟩ := hst
  obtain ⟨after, hafter, hq⟩ := htu
  refine ⟨before ++ after, ?_, fun p hmem => ?_⟩
  · rw [steps_append, hbefore]
    exact hafter
  · rw [endings, List.filterMap_append, List.mem_append] at hmem
    exact hmem.elim (hp p) (hq p)

lemma mono (hst : Leads P s t) (hpq : ∀ i e, P i e → Q i e) : Leads Q s t := by
  obtain ⟨events, hsteps, hp⟩ := hst
  exact ⟨events, hsteps, fun p hmem => hpq _ _ (hp p hmem)⟩

/-- A service ends, or nothing happens if it cannot. -/
lemma settle {i : Nat} {e : Ending} (hend : P i e) : Leads P s (s.settle i e) := by
  unfold Supervision.settle
  cases hsteps : s.steps [.ends i e, .received] with
  | none => exact refl
  | some t =>
    refine ⟨_, hsteps, fun p hmem => ?_⟩
    obtain rfl : p = (i, e) := by simpa [endings, Event.ending?] using hmem
    exact hend

/-- Services end one after the other. -/
lemma foldl {α : Type} {f : Supervision → α → Supervision} {as : List α}
    (hstep : ∀ a ∈ as, ∀ s, Leads P s (f s a)) (s : Supervision) : Leads P s (as.foldl f s) := by
  induction as generalizing s with
  | nil => exact refl
  | cons a as ih =>
    obtain ⟨ha, has⟩ := List.forall_mem_cons.mp hstep
    exact (ha s).trans (ih has _)

end Leads

/-- A process belongs to the service that it was started for. -/
lemma mem_processes {p : Nat × Nat} :
    p ∈ processes results ↔ results[p.2]? = some (.ok p.1) := by
  obtain ⟨id, i⟩ := p
  simp only [processes, List.mem_filterMap, List.mem_zipIdx_iff_getElem?, Prod.exists]
  constructor
  · rintro ⟨result, j, hresult, hid⟩
    cases result with
    | error e => cases hid
    | ok id' =>
      cases hid
      exact hresult
  · intro hresult
    exact ⟨_, i, hresult, rfl⟩

lemma leads_begun {shutdown : Bool} : Leads P (start services) (begun services shutdown) := by
  cases shutdown with
  | false => exact .refl
  | true => exact ⟨[.shutdown, .noticed], rfl, by simp [endings, Event.ending?]⟩

/-- The services that could not be started end, one after the other. -/
lemma leads_settleFailures :
    Leads (Ends host h results) s (s.settleFailures results) := by
  refine Leads.foldl ?_ s
  rintro ⟨result, i⟩ hmem s
  have hresult := List.mem_zipIdx_iff_getElem?.mp hmem
  cases result with
  | ok id => exact .refl
  | error e => exact .settle (.spawnFailed hresult)

/-- The induction is on how often the host is waited for: what it tells after it has told of one
program it tells of the others. -/
lemma leads_settleAll {fuel : Nat} (hstarted : ∀ p ∈ started, results[p.2]? = some (.ok p.1)) :
    Leads (Ends host h results) s (settleAll host s started fuel h).1 := by
  induction fuel generalizing s h started with
  | zero => exact .refl
  | succ fuel ih =>
    unfold settleAll
    split_ifs
    · exact .foldl (fun p hp _ => .settle (.stopped (hstarted p hp))) s
    · split
      · exact .refl
      · rename_i id status h' hwait
        refine .trans ?_ (.mono (ih fun p hp => hstarted p (List.mem_of_mem_filter hp)) ?_)
        · cases hlookup : started.lookup id with
          | none => exact .refl
          | some i =>
            exact .settle (.told (hstarted _ (mem_of_lookup hlookup)) (.now hwait))
        · rintro i e (hresult | ⟨hresult, htells⟩ | hresult)
          · exact .spawnFailed hresult
          · exact .told hresult (.later hwait htells)
          · exact .stopped hresult

/-- A run on a host is a history of events, whatever the host does. -/
theorem run_leads (host : Host σ) (services : List Service) (shutdown : Bool) (h : σ) :
    Leads (Ends host (startAll host services h).2 (startAll host services h).1) (start services)
      (run host services shutdown h).1 := by
  exact (leads_begun.trans leads_settleFailures).trans
    (leads_settleAll fun _ hp => mem_processes.mp hp)

/-! ### How a run fails -/

/-- The fault of a run: a service that could not be started, or one whose program has failed by what
the host tells of its status. -/
inductive Fault (host : Host σ) (h : σ) (services : List Service)
    (results : List (Except OsError Nat)) : SupervisionError → Prop
  | spawn {i : Nat} {service : Service} {e : OsError} (hservice : services[i]? = some service)
      (hresult : results[i]? = some (.error e)) :
      Fault host h services results (.spawn service.name e)
  | exited {i id : Nat} {service : Service} {status : ExitStatus}
      (hservice : services[i]? = some service) (hresult : results[i]? = some (.ok id))
      (htells : host.Tells h id status) (hfails : status.word.toNat ≠ 0)
      (hsignal : status.word.toNat % 0x80 ≠ ExitStatus.interrupt) :
      Fault host h services results (.exited service.name status)

/-- A run fails only by a service that could not be started, or by a program whose status the host
tells and that is neither zero nor that of an interruption. -/
theorem run_error {shutdown : Bool} {err : SupervisionError}
    (herr : (run host services shutdown h).1.result = .error err) :
    Fault host (startAll host services h).2 services (startAll host services h).1 err := by
  obtain ⟨events, hsteps, hends⟩ := run_leads host services shutdown h
  have hkept := Kept.of_steps hsteps
  rcases hkept.result_cases with ⟨e, err', hfirst, hfails, hresult, htells⟩ | ⟨-, hresult⟩
  · obtain rfl : err' = err := by
      rw [hresult] at herr
      exact Except.error.inj herr
    -- The exit that decides was received, so a service has sent it.
    have hreceipt : e ∈ (start services).receipts events :=
      List.mem_filterMap.mpr ⟨_, List.mem_of_find?_eq_some hfirst, rfl⟩
    obtain ⟨⟨i, ending⟩, hp, service, hservice, rfl⟩ :=
      forall₂_exists_right hkept.sent.flip (List.mem_append_left _ hreceipt)
    have hend : Ends host _ _ i ending := hends _ hp
    cases hend with
    | spawnFailed hstart =>
      cases htells
      exact .spawn hservice hstart
    | told hstart htold =>
      obtain ⟨hne, hsignal⟩ := (Ending.ofStatus_isFailure_iff _).mp hfails
      rw [Ending.ofStatus_of_not_interrupt hsignal] at htells
      cases htells
      exact .exited hservice hstart htold hne hsignal
    | stopped => cases hfails
  · rw [hresult] at herr
    cases herr

/-- A run that is shut down from the start does not fail. -/
theorem run_shutDown (host : Host σ) (services : List Service) (h : σ) :
    ∃ exits, (run host services true h).1.result = .ok exits := by
  obtain ⟨events, hsteps, -⟩ : Leads (Ends host (startAll host services h).2
      (startAll host services h).1) (begun services true) (run host services true h).1 :=
    leads_settleFailures.trans (leads_settleAll fun _ hp => mem_processes.mp hp)
  have hkept : Kept services (.shutdown :: .noticed :: events) (run host services true h).1 :=
    .of_steps hsteps
  have hfailure : (run host services true h).1.failure = none := hkept.failure
  exact ⟨_, by rw [result, hfailure]; rfl⟩

/-! ### When a run is over -/

/-- Nothing waits to be received, and only certain services run. -/
structure Idle (s : Supervision) (running : Nat → Prop) : Prop where
  queue : s.queue = []
  running : ∀ i service, s.running[i]? = some (some service) → running i

lemma Idle.imp {running running' : Nat → Prop} (hidle : Idle s running)
    (h : ∀ i, running i → running' i) : Idle s running' :=
  ⟨hidle.queue, fun i service hi => h i (hidle.running i service hi)⟩

/-- When no exit waits and nobody runs, all is over. -/
lemma Idle.isOver {running : Nat → Prop} (hidle : Idle s running) (hnone : ∀ i, ¬ running i) :
    s.isOver = true := by
  refine isOver_iff_running.mpr ⟨fun x hx => ?_, hidle.queue⟩
  obtain ⟨i, hi⟩ := List.mem_iff_getElem?.mp hx
  cases x with
  | none => rfl
  | some service => exact (hnone i (hidle.running i service hi)).elim

lemma settle_of_not_running {i : Nat} {e : Ending}
    (hrunning : ∀ service, s.running[i]? ≠ some (some service)) : s.settle i e = s := by
  have hstep : s.step (.ends i e) = none := by simp only [step]
  rw [settle, steps, hstep, Option.bind_none, Option.getD_none]

/-- A service that ends while no exit waits is received at once. -/
lemma settle_of_running {i : Nat} {e : Ending} (hqueue : s.queue = [])
    (hrunning : s.running[i]? = some (some service)) (hcan : e = .stopped → s.stopping = true) :
    s.settle i e
      = receive { s with running := s.running.set i none, queue := [] } ⟨service.name, e⟩ := by
  have hnot : ¬ (e = .stopped ∧ ¬ s.stopping) := fun ⟨he, hgoing⟩ => hgoing (hcan he)
  simp only [settle, steps, step, hrunning, if_neg hnot, hqueue, List.nil_append,
    Option.bind_some, Option.getD_some]

/-- When a service has ended and its exit was received, it does not run any more. -/
lemma Idle.settle {running : Nat → Prop} (hidle : Idle s running) (i : Nat) {e : Ending}
    (hcan : e = .stopped → s.stopping = true) :
    Idle (s.settle i e) fun j => running j ∧ j ≠ i := by
  by_cases hrunning : ∃ service, s.running[i]? = some (some service)
  · obtain ⟨service, hservice⟩ := hrunning
    rw [settle_of_running hidle.queue hservice hcan]
    refine ⟨receive_queue, fun j other hj => ?_⟩
    rw [receive_running, List.getElem?_set] at hj
    split_ifs at hj with hij
    · cases hj
    · exact ⟨hidle.running j other hj, Ne.symm hij⟩
  · rw [not_exists] at hrunning
    rw [settle_of_not_running hrunning]
    refine ⟨hidle.queue, fun j other hj => ⟨hidle.running j other hj, ?_⟩⟩
    rintro rfl
    exact hrunning other hj

lemma settle_stopping {i : Nat} {e : Ending} (hidle : s.queue = []) (h : s.stopping = true) :
    (s.settle i e).stopping = true := by
  by_cases hrunning : ∃ service, s.running[i]? = some (some service)
  · obtain ⟨service, hservice⟩ := hrunning
    rw [settle_of_running hidle hservice fun _ => h]
    exact receive_stopping h
  · rw [not_exists] at hrunning
    rwa [settle_of_not_running hrunning]

/-- After several steps only those run that go on in each of them. -/
lemma Idle.foldl {α : Type} {P : Supervision → Prop} {f : Supervision → α → Supervision}
    {goesOn : α → Nat → Prop}
    (hstep : ∀ {s running} a, P s → Idle s running →
      P (f s a) ∧ Idle (f s a) fun i => running i ∧ goesOn a i)
    {running : Nat → Prop} (hs : P s) (hidle : Idle s running) (as : List α) :
    Idle (as.foldl f s) fun i => running i ∧ ∀ a ∈ as, goesOn a i := by
  induction as generalizing s running with
  | nil => exact hidle.imp fun i hi => ⟨hi, by simp⟩
  | cons a as ih =>
    obtain ⟨hs', hidle'⟩ := hstep a hs hidle
    refine (ih hs' hidle').imp ?_
    rintro i ⟨⟨hi, ha⟩, has⟩
    exact ⟨hi, List.forall_mem_cons.mpr ⟨ha, has⟩⟩

/-- Services whose programs run end when they are stopped. -/
lemma Idle.stopAll {running : Nat → Prop} (hidle : Idle s running) (hstopping : s.stopping = true) :
    Idle (started.foldl (fun s p => s.settle p.2 .stopped) s)
      fun i => running i ∧ ∀ p ∈ started, i ≠ p.2 :=
  .foldl (P := (·.stopping = true)) (fun p hs hidle =>
    ⟨settle_stopping hidle.queue hs, hidle.settle p.2 fun _ => hs⟩) hstopping hidle started

lemma Idle.settleFailure {running : Nat → Prop} (hidle : Idle s running)
    (p : Except OsError Nat × Nat) :
    Idle (s.settleFailure p) fun i => running i ∧ ∀ e, (.error e, i) ≠ p := by
  obtain ⟨result, j⟩ := p
  cases result with
  | ok id => exact hidle.imp fun i hi => ⟨hi, nofun⟩
  | error e =>
    have hsettled : Idle (s.settle j (.spawnFailed e)) fun i => running i ∧ i ≠ j :=
      hidle.settle j nofun
    exact hsettled.imp fun i ⟨hi, hne⟩ => ⟨hi, fun _ heq => hne (congrArg Prod.snd heq)⟩

/-- Services that could not be started do not run. -/
lemma Idle.settleFailures {running : Nat → Prop} (hidle : Idle s running) :
    Idle (s.settleFailures results) fun i => running i ∧ ∀ e, (.error e, i) ∉ results.zipIdx := by
  have hfold := Idle.foldl (P := fun _ => True) (fun p _ hidle => ⟨trivial, hidle.settleFailure p⟩)
    trivial hidle results.zipIdx
  exact hfold.imp fun i ⟨hi, hall⟩ => ⟨hi, fun e hmem => hall _ hmem e rfl⟩

lemma idle_begun {shutdown : Bool} : Idle (begun services shutdown) (· < services.length) := by
  have hstart : ∀ i service, (start services).running[i]? = some (some service) →
      i < services.length := fun i service hi => by
    simpa [start] using (List.getElem?_eq_some_iff.mp hi).1
  cases shutdown <;> exact ⟨rfl, hstart⟩

/-- Once those that could not be started have ended, the services that run are those whose programs
were started. -/
lemma idle_started {shutdown : Bool} (hlength : results.length = services.length) :
    Idle ((begun services shutdown).settleFailures results)
      fun i => ∃ id, (id, i) ∈ processes results := by
  have hidle : Idle ((begun services shutdown).settleFailures results)
      fun i => i < services.length ∧ ∀ e, (.error e, i) ∉ results.zipIdx :=
    idle_begun.settleFailures
  refine hidle.imp ?_
  rintro i ⟨hlt, hstarted⟩
  rw [← hlength] at hlt
  cases hresult : results[i] with
  | ok id => exact ⟨id, mem_processes.mpr (List.getElem?_eq_some_iff.mpr ⟨hlt, hresult⟩)⟩
  | error e =>
    refine (hstarted e (List.mem_zipIdx_iff_getElem?.mpr ?_)).elim
    exact List.getElem?_eq_some_iff.mpr ⟨hlt, hresult⟩

section Account

variable {Runs : σ → List Nat → Prop}

lemma map_fst_processes :
    (processes results).map Prod.fst = results.filterMap Except.toOption := by
  have hfst := congrArg (List.filterMap Except.toOption) (List.zipIdx_map_fst 0 results)
  rw [List.filterMap_map] at hfst
  rw [← hfst, processes, List.map_filterMap]
  refine List.filterMap_congr fun p _ => ?_
  simp [Function.comp_def]

lemma length_startAll : (startAll host services h).1.length = services.length := by
  induction services generalizing h with
  | nil => rfl
  | cons service services ih => exact congrArg (· + 1) ih

lemma length_processes_le : (processes results).length ≤ results.length := by
  have hle := List.length_filterMap_le (fun p => p.1.toOption.map (·, p.2)) results.zipIdx
  rwa [List.length_zipIdx] at hle

/-- What a host has started runs on it. -/
lemma runs_startAll (hlaw : host.Lawful Runs) {ids : List Nat} (hruns : Runs h ids)
    (hids : ids.Nodup) :
    (ids ++ (startAll host services h).1.filterMap Except.toOption).Nodup ∧
      Runs (startAll host services h).2
        (ids ++ (startAll host services h).1.filterMap Except.toOption) := by
  induction services generalizing h ids with
  | nil => simpa [startAll] using ⟨hids, hruns⟩
  | cons service services ih =>
    rcases hstart : host.start service h with ⟨result, h'⟩
    simp only [startAll, hstart]
    cases result with
    | error e => exact ih (hlaw.start_error hruns hstart) hids
    | ok id =>
      obtain ⟨hnew, hruns'⟩ := hlaw.start_ok hruns hstart
      have hrest := ih hruns' (List.concat_eq_append ▸ hids.concat hnew)
      rwa [List.append_assoc] at hrest

/-- The host is waited for in vain: programs run on it, and the end of none comes. -/
def Stuck (host : Host σ) (Runs : σ → List Nat → Prop) (h : σ) : Prop :=
  host.wait h = none ∧ ∃ ids, Runs h ids ∧ ids ≠ []

/-- The induction is on how often the host is waited for. The programs that run on it are those of
the services that have not ended. -/
lemma isOver_settleAll (hlaw : host.Lawful Runs) {fuel : Nat}
    (hidle : Idle s fun i => ∃ id, (id, i) ∈ started) (hruns : Runs h (started.map Prod.fst))
    (hids : (started.map Prod.fst).Nodup) (hfuel : started.length < fuel) :
    (settleAll host s started fuel h).1.isOver = true ∨
      Stuck host Runs (settleAll host s started fuel h).2 := by
  induction fuel generalizing s h started with
  | zero => simp at hfuel
  | succ fuel ih =>
    unfold settleAll
    split_ifs with hstopping
    · -- once a stop was called for, all that were started are stopped
      exact .inl ((hidle.stopAll hstopping).isOver fun i ⟨⟨id, hi⟩, hnot⟩ => hnot _ hi rfl)
    · split
      · rename_i hwait
        rcases started.eq_nil_or_concat with rfl | ⟨_, _, hstarted⟩
        · exact .inl (hidle.isOver (by simp))
        · -- the host tells of no end although programs run
          exact .inr ⟨hwait, _, hruns, by simp [hstarted]⟩
      · rename_i id status h' hwait
        obtain ⟨hid, hruns'⟩ := hlaw.wait hruns hwait
        obtain ⟨⟨id', i⟩, hi, hid'⟩ := List.mem_map.mp hid
        obtain rfl : id' = id := hid'
        have hlookup : started.lookup id' = some i := lookup_of_mem hids hi
        rw [hlookup]
        have hsettled : Idle (s.settle i (.ofStatus status))
            fun j => (∃ id, (id, j) ∈ started) ∧ j ≠ i :=
          hidle.settle i (Ending.ofStatus_ne_stopped status).elim
        refine ih (hsettled.imp ?_) ?_ ?_ ?_
        · -- The one whose end was told is the only service that the program belongs to.
          rintro j ⟨⟨id, hj⟩, hne⟩
          refine ⟨id, List.mem_filter.mpr ⟨hj, ?_⟩⟩
          rw [decide_eq_true_iff]
          rintro rfl
          rw [lookup_of_mem hids hj] at hlookup
          exact hne (Option.some.inj hlookup)
        · rwa [List.filter_map] at hruns'
        · exact hids.sublist (List.filter_sublist.map _)
        · have hlt : (started.filter (·.1 ≠ id')).length < started.length :=
            List.length_filter_lt_length_iff_exists.mpr ⟨(id', i), hi, by simp⟩
          omega

/-- If the host keeps account of the programs, then all services have ended when a run is over,
unless the host is waited for in vain. -/
theorem run_isOver (hlaw : host.Lawful Runs) (hruns : Runs h []) (services : List Service)
    (shutdown : Bool) :
    (run host services shutdown h).1.isOver = true ∨
      Stuck host Runs (run host services shutdown h).2 := by
  obtain ⟨hids, hruns'⟩ := runs_startAll hlaw hruns List.nodup_nil
  rw [List.nil_append, ← map_fst_processes] at hids hruns'
  exact isOver_settleAll hlaw (idle_started length_startAll) hruns' hids
    (Nat.lt_succ_of_le (length_processes_le.trans length_startAll.le))

end Account

end Supervision

end Patchbay
