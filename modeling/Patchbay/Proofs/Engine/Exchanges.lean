import Patchbay.Proofs.Bindings
import Patchbay.Proofs.Engine.Conversation
import Patchbay.Proofs.Engine.History

/-!
# What follows what

The engine is asked for the ports of a bus or module at once when it has made it, provided that its
id can be a part of an address.
-/

namespace Patchbay

variable {σ : Type}

def Request.makes : Request → Bool
  | addBus .. | addModule .. | addConnection .. => true
  | listMain | listBusPorts _ | listModulePorts _ => false

/-- The request that has to come next: for the ports of the bus or module that was made. -/
def Exchange.followUp? : Exchange → Option Request
  | ⟨.addBus .., .ok id⟩ => if isOpaque id then some (.listBusPorts id) else none
  | ⟨.addModule .., .ok id⟩ => if isOpaque id then some (.listModulePorts id) else none
  | _ => none

lemma Exchange.followUp?_eq_some {x : Exchange} {r : Request} (h : x.followUp? = some r) :
    (∃ id, r = .listBusPorts id) ∨ ∃ id, r = .listModulePorts id := by
  unfold followUp? at h
  split at h
  · split_ifs at h
    exact .inl ⟨_, (Option.some.inj h).symm⟩
  · split_ifs at h
    exact .inr ⟨_, (Option.some.inj h).symm⟩
  · cases h

lemma Exchange.followUp?_addBus {parent title inputs outputs id : String}
    (hid : isOpaque id = true) :
    followUp? ⟨.addBus parent title inputs outputs, .ok id⟩ = some (.listBusPorts id) :=
  if_pos hid

lemma Exchange.followUp?_addModule {bus id : String} {spec : ModuleSpec}
    (hid : isOpaque id = true) :
    followUp? ⟨.addModule bus spec, .ok id⟩ = some (.listModulePorts id) :=
  if_pos hid

/-- After some exchanges a request was made, and the one that has to come next too. -/
inductive Asked (r : Request) (h : List Exchange) : List Exchange → Prop
  | alone (answer : Except EngineError r.Answer) (hnext : Exchange.followUp? ⟨r, answer⟩ = none) :
      Asked r h (h ++ [⟨r, answer⟩])
  | followed (answer : Except EngineError r.Answer) (r' : Request)
      (answer' : Except EngineError r'.Answer)
      (hnext : Exchange.followUp? ⟨r, answer⟩ = some r') :
      Asked r h (h ++ [⟨r, answer⟩] ++ [⟨r', answer'⟩])

namespace Engine

variable (engine : Engine σ)

/-- A bus takes two requests. Only if the id in the first answer is of no use, or there is none, the
second is not sent. -/
lemma newBus_asked (parent title : String) (inputs outputs : List String)
    (e : σ × List Exchange) :
    Ends (engine.logged.newBus parent title inputs outputs) e
      (fun ids e' => isOpaque ids.id = true ∧ ∃ ports : PortList,
        e'.2 = e.2 ++ [⟨.addBus parent title (Text.joinCommas inputs) (Text.joinCommas outputs),
          .ok ids.id⟩] ++ [⟨.listBusPorts ids.id, .ok ports⟩] ∧
        ∀ d, (ports.ports d).map Port.id = ids.ports d ∧
          ∀ p ∈ ports.ports d, isOpaque p.id = true)
      (fun _ e' => Asked (.addBus parent title (Text.joinCommas inputs) (Text.joinCommas outputs))
        e.2 e'.2) := by
  rw [newBus, Ends.bind_iff]
  refine (engine.ask_logged _ e).imp (fun id e₁ h₁ => ?_) fun err e₁ h₁ => h₁ ▸ .alone _ rfl
  simp only [Ends.bind_iff, Ends.proceed_iff, Ends.pure_iff]
  refine ⟨fun _ hok => ?_, fun err herr => ?_⟩
  · have hid := checkOpaque_ok_iff.mp hok
    refine (engine.ask_logged _ e₁).imp (fun ports e₂ h₂ => ?_) fun err e₂ h₂ =>
      h₂ ▸ h₁ ▸ .followed _ _ _ (Exchange.followUp?_addBus hid)
    refine ⟨fun ins hins => ⟨fun outs houts => ?_, fun _ _ =>
      h₂ ▸ h₁ ▸ .followed _ _ _ (Exchange.followUp?_addBus hid)⟩, fun _ _ =>
      h₂ ▸ h₁ ▸ .followed _ _ _ (Exchange.followUp?_addBus hid)⟩
    obtain ⟨-, hoi, hi⟩ := busPortIds_ok_iff.mp hins
    obtain ⟨-, hoo, ho⟩ := busPortIds_ok_iff.mp houts
    refine ⟨hid, ports, h₂.trans (h₁ ▸ rfl), ?_⟩
    rintro (_ | _)
    · exact ⟨hi, hoi⟩
    · exact ⟨ho, hoo⟩
  · -- an id that holds a separator: nothing has to come next
    exact h₁ ▸ .alone (.ok id) (if_neg (by simp [checkOpaque_error herr]))

/-- A module takes two requests, and the second is not sent in the same cases. -/
lemma newModule_asked (bus : String) (spec : ModuleSpec) (e : σ × List Exchange) :
    Ends (engine.logged.newModule bus spec) e
      (fun ids e' => isOpaque ids.id = true ∧
        e'.2 = e.2 ++ [⟨.addModule bus spec, .ok ids.id⟩] ++
          [⟨.listModulePorts ids.id, .ok ids.ports⟩] ∧
        ∀ d, ∀ p ∈ ids.ports.ports d, isOpaque p.id = true)
      (fun _ e' => Asked (.addModule bus spec) e.2 e'.2) := by
  rw [newModule, Ends.bind_iff]
  refine (engine.ask_logged _ e).imp (fun id e₁ h₁ => ?_) fun err e₁ h₁ => h₁ ▸ .alone _ rfl
  simp only [Ends.bind_iff, Ends.proceed_iff, Ends.pure_iff]
  refine ⟨fun _ hok => ?_, fun err herr => ?_⟩
  · have hid := checkOpaque_ok_iff.mp hok
    refine (engine.ask_logged _ e₁).imp (fun ports e₂ h₂ => ?_) fun err e₂ h₂ =>
      h₂ ▸ h₁ ▸ .followed _ _ _ (Exchange.followUp?_addModule hid)
    refine ⟨fun _ hports => ⟨hid, h₂.trans (h₁ ▸ rfl), ?_⟩, fun _ _ =>
      h₂ ▸ h₁ ▸ .followed _ _ _ (Exchange.followUp?_addModule hid)⟩
    have hclean := forM_checkOpaque_ok_iff.mp hports
    rintro (_ | _) p hp
    · exact hclean p (List.mem_append_left _ hp)
    · exact hclean p (List.mem_append_right _ hp)
  · exact h₁ ▸ .alone (.ok id) (if_neg (by simp [checkOpaque_error herr]))

end Engine

end Patchbay
