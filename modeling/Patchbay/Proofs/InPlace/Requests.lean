import Patchbay.Proofs.Engine.Exchanges
import Patchbay.Proofs.InPlace.Nodes

/-!
# What is asked for in place

A document that is built in place asks the engine for the physical ports first. Then it asks for
each bus and each module to be made and at once for its ports, and for each link that is not left
out to connect two addresses. It asks for nothing else; when the engine refuses something, or
answers what is of no use, it asks for nothing more.
-/

namespace Patchbay

variable {σ : Type}

namespace Worker

/-- A bus is asked for with the names of its ports, and they are listed by the id that the engine
gave it. -/
theorem makeBus_requests (engine : Engine σ) (bus title : String) (inputs outputs : List String)
    (p : Progress (σ × List Exchange)) :
    Ends (makeBus engine.logged bus title inputs outputs) p
      (fun ids p' => isOpaque ids.id = true ∧ ∃ ports : PortList,
        p'.engine.2 = p.engine.2 ++
          [⟨.addBus bus title (Text.joinCommas inputs) (Text.joinCommas outputs), .ok ids.id⟩] ++
          [⟨.listBusPorts ids.id, .ok ports⟩] ∧
        ∀ d, (ports.ports d).map Port.id = ids.ports d)
      (fun _ p' => Asked (.addBus bus title (Text.joinCommas inputs) (Text.joinCommas outputs))
        p.engine.2 p'.engine.2) := by
  rw [makeBus_iff]
  refine (engine.newBus_asked bus title inputs outputs p.engine).imp ?_ fun _ _ => id
  rintro ids e ⟨hid, ports, hlog, hports⟩
  exact ⟨hid, ports, hlog, fun d => (hports d).1⟩

/-- A module is asked for in its bus, and its ports are listed by the id that the engine gave it. -/
theorem makeModule_requests (engine : Engine σ) (place : BusPath) (bus : String) (n : Node)
    (spec : ModuleSpec) (p : Progress (σ × List Exchange)) :
    Ends (makeModule engine.logged place bus n spec) p
      (fun ids p' => isOpaque ids.id = true ∧
        p'.engine.2 = p.engine.2 ++ [⟨.addModule bus spec, .ok ids.id⟩] ++
          [⟨.listModulePorts ids.id, .ok ids.ports⟩])
      (fun _ p' => Asked (.addModule bus spec) p.engine.2 p'.engine.2) := by
  rw [makeModule_iff]
  refine (engine.newModule_asked bus spec p.engine).imp ?_ fun _ _ => id
  rintro ids e ⟨hid, hlog, -⟩
  exact ⟨hid, hlog⟩

/-- A link is connected by one request, for the addresses of its ends. There is none if the link is
left out or has no addresses. -/
theorem connect_requests (engine : Engine σ) (place : BusPath) (anchors : List (Int × Anchor))
    (l : Link) (p : Progress (σ × List Exchange)) :
    Ends (connect engine.logged place anchors l) p
      (fun l' p' => (l' = l ∧ (l.leftOut? anchors).isSome ∧ p'.engine.2 = p.engine.2) ∨
        ∃ origin target id, l.address place anchors .origin = .ok origin ∧
          l.address place anchors .target = .ok target ∧
          l' = { l with connectionId := .string id } ∧
          p'.engine.2 = p.engine.2 ++ [⟨.addConnection origin.text target.text, .ok id⟩])
      (fun _ p' => p'.engine.2 = p.engine.2 ∨ ∃ origin target err,
        l.address place anchors .origin = .ok origin ∧
          l.address place anchors .target = .ok target ∧
          p'.engine.2 = p.engine.2 ++ [⟨.addConnection origin.text target.text, .error err⟩]) := by
  unfold connect
  cases hout : l.leftOut? anchors with
  | some node => exact .inl ⟨rfl, rfl, rfl⟩
  | none =>
    simp only [Ends.bind_iff, Ends.proceed_iff, talk_iff]
    refine ⟨fun origin horigin => ⟨fun target htarget => ?_, fun _ _ => .inl trivial⟩,
      fun _ _ => .inl trivial⟩
    refine (engine.ask_logged _ p.engine).imp (fun id e he => ?_) fun err e he => ?_
    · exact .inr ⟨origin, target, id, horigin, htarget, rfl, he⟩
    · -- an engine that refuses the connection has been asked for it all the same
      exact .inr ⟨origin, target, err, horigin, htarget, he⟩

end Worker

/-! ### All requests -/

/-- Exchanges come in groups: after the physical ports, a bus or a module with its ports, or a
connection. All of them are granted, and the ids are of use. -/
inductive Grouped : List Exchange → Prop
  | mains (ports : MainPorts) : Grouped [⟨.listMain, .ok ports⟩]
  | bus {xs : List Exchange} {id : String} (hxs : Grouped xs) (hid : isOpaque id = true)
      (parent title inputs outputs : String) (ports : PortList) :
      Grouped (xs ++ [⟨.addBus parent title inputs outputs, .ok id⟩] ++
        [⟨.listBusPorts id, .ok ports⟩])
  | module {xs : List Exchange} {id : String} (hxs : Grouped xs) (hid : isOpaque id = true)
      (bus : String) (spec : ModuleSpec) (ports : PortList) :
      Grouped (xs ++ [⟨.addModule bus spec, .ok id⟩] ++ [⟨.listModulePorts id, .ok ports⟩])
  | connection {xs : List Exchange} (hxs : Grouped xs) (origin target id : String) :
      Grouped (xs ++ [⟨.addConnection origin target, .ok id⟩])

/-- Exchanges come in groups up to a last one, which is refused or answered with what is of no use,
or may be missing. -/
inductive CutShort : List Exchange → Prop
  | mains (err : EngineError) : CutShort [⟨.listMain, .error err⟩]
  | between {xs : List Exchange} (hxs : Grouped xs) : CutShort xs
  | bus {xs ys : List Exchange} {parent title inputs outputs : String} (hxs : Grouped xs)
      (hasked : Asked (.addBus parent title inputs outputs) xs ys) : CutShort ys
  | module {xs ys : List Exchange} {bus : String} {spec : ModuleSpec} (hxs : Grouped xs)
      (hasked : Asked (.addModule bus spec) xs ys) : CutShort ys
  | connection {xs : List Exchange} (hxs : Grouped xs) (origin target : String)
      (err : EngineError) : CutShort (xs ++ [⟨.addConnection origin target, .error err⟩])

/-- A part of the recursion adds groups of exchanges, and if it fails then the last one is the one
that it fails on. -/
def KeepsGrouped {α : Type} (x : Worker (σ × List Exchange) α) : Prop :=
  ∀ p, Grouped p.engine.2 → Ends x p (fun _ p' => Grouped p'.engine.2)
    fun _ p' => CutShort p'.engine.2

namespace KeepsGrouped

variable {α β : Type}

lemma pure (a : α) : KeepsGrouped (σ := σ) (Pure.pure a) := fun _ hp => hp

lemma bind {x : Worker (σ × List Exchange) α} {f : α → Worker (σ × List Exchange) β}
    (hx : KeepsGrouped x) (hf : ∀ a, KeepsGrouped (f a)) : KeepsGrouped (x >>= f) := by
  intro p hp
  rw [Ends.bind_iff]
  exact (hx p hp).imp (fun a p' hp' => hf a p' hp') fun _ _ => id

lemma enter (change : Account → Account) : KeepsGrouped (σ := σ) (Worker.enter change) :=
  fun _ hp => hp

lemma notice (ns : List Notice) : KeepsGrouped (σ := σ) (Worker.notice ns) := fun _ hp => hp

lemma makeBus (engine : Engine σ) (bus title : String) (inputs outputs : List String) :
    KeepsGrouped (Worker.makeBus engine.logged bus title inputs outputs) := by
  intro p hp
  refine (Worker.makeBus_requests engine bus title inputs outputs p).imp ?_ fun _ _ => .bus hp
  rintro ids p' ⟨hid, ports, hlog, -⟩
  exact hlog ▸ .bus hp hid bus title _ _ ports

lemma makeModule (engine : Engine σ) (place : BusPath) (bus : String) (n : Node)
    (spec : ModuleSpec) : KeepsGrouped (Worker.makeModule engine.logged place bus n spec) := by
  intro p hp
  refine (Worker.makeModule_requests engine place bus n spec p).imp ?_ fun _ _ => .module hp
  rintro ids p' ⟨hid, hlog⟩
  exact hlog ▸ .module hp hid bus spec ids.ports

lemma connect (engine : Engine σ) (place : BusPath) (anchors : List (Int × Anchor)) (l : Link) :
    KeepsGrouped (Worker.connect engine.logged place anchors l) := by
  intro p hp
  refine (Worker.connect_requests engine place anchors l p).imp ?_ ?_
  · rintro l' p' (⟨-, -, hlog⟩ | ⟨origin, target, id, -, -, -, hlog⟩)
    · exact hlog ▸ hp
    · exact hlog ▸ .connection hp _ _ id
  · rintro err p' (hlog | ⟨origin, target, err, -, -, hlog⟩)
    · exact .between (hlog ▸ hp)
    · exact hlog ▸ .connection hp _ _ err

/-- Links are connected by one request each. -/
lemma connectAll (engine : Engine σ) (place : BusPath) (anchors : List (Int × Anchor))
    (ls : List Link) : KeepsGrouped (Worker.connectAll engine.logged place anchors ls) := by
  induction ls with
  | nil => exact .pure _
  | cons l ls ih => exact .bind (.connect engine place anchors l) fun _ => .bind ih fun _ => .pure _

mutual

lemma treat (engine : Engine σ) : ∀ (place : BusPath) (bus : String)
    (ports : List (Int × String)) (d : Document),
    KeepsGrouped (Worker.treat engine.logged place bus ports d)
  | place, bus, ports, ⟨nodes, links, busId, extra⟩ => by
    rw [Worker.treat]
    refine .bind (.enter _) fun _ => .bind (treatNodes engine place bus ports nodes) fun _ => ?_
    exact .bind (.connectAll engine place _ links) fun _ => .pure _

lemma treatNodes (engine : Engine σ) (place : BusPath) (bus : String)
    (ports : List (Int × String)) : ∀ ns : List Node,
    KeepsGrouped (Worker.treatNodes engine.logged place bus ports ns)
  | [] => by
    rw [Worker.treatNodes]
    exact .pure _
  | n :: ns => by
    rw [Worker.treatNodes]
    refine .bind (treatNode engine place bus ports n) fun _ => ?_
    exact .bind (treatNodes engine place bus ports ns) fun _ => .pure _

/-- Only a bus and a module ask for anything themselves. -/
lemma treatNode (engine : Engine σ) (place : BusPath) (bus : String)
    (ports : List (Int × String)) : ∀ n : Node,
    KeepsGrouped (Worker.treatNode engine.logged place bus ports n)
  | ⟨id, type, title, properties, subgraph, inputs, outputs, extra⟩ => by
    rw [Worker.treatNode]
    split
    · exact .pure _
    · exact .pure _
    · split <;> exact .pure _
    · split <;> exact .pure _
    · refine .bind (.makeBus engine bus _ _ _) fun ids => ?_
      exact .bind (treatChild engine (place ++ [id]) ids subgraph) fun _ => .pure _
    · exact .bind (.makeModule engine place bus _ _) fun _ => .pure _
    · exact .bind (.notice _) fun _ => .pure _

lemma treatChild (engine : Engine σ) (place : BusPath) (ids : BusIds) : ∀ sub : Option Document,
    KeepsGrouped (Worker.treatChild engine.logged place ids sub)
  | none => by
    rw [Worker.treatChild]
    exact .pure _
  | some ⟨nodes, links, busId, extra⟩ => by
    rw [Worker.treatChild]
    exact .bind (treat engine place ids.id _ _) fun _ => .pure _

end

end KeepsGrouped

/-- All that an engine is asked while a document is built in place: groups of exchanges, and if the
document is not built then a last one after which nothing more is asked. -/
theorem Document.buildInPlace_grouped (engine : Engine σ) (d : Document) (state : σ) :
    (∀ r, (d.buildInPlace engine.logged (state, [])).1 = .ok r →
      Grouped (d.buildInPlace engine.logged (state, [])).2.2) ∧
    ∀ err, (d.buildInPlace engine.logged (state, [])).1 = .error err →
      CutShort (d.buildInPlace engine.logged (state, [])).2.2 := by
  have hends : Ends (Worker.build engine.logged d) { engine := (state, []) }
      (fun _ p => Grouped p.engine.2) fun _ p => CutShort p.engine.2 := by
    rw [Worker.build, Ends.bind_iff, Worker.talk_iff]
    refine (engine.ask_logged .listMain (state, [])).imp (fun mains e he => ?_) fun err e he => ?_
    · have hmains : Grouped e.2 := he ▸ .mains mains
      rw [Ends.bind_iff, Ends.proceed_iff]
      exact ⟨fun _ _ => KeepsGrouped.treat engine [] "" [] _ _ hmains, fun _ _ => .between hmains⟩
    · exact he ▸ .mains err
  unfold Ends at hends
  unfold Document.buildInPlace
  revert hends
  rcases (Worker.build engine.logged d).run { engine := (state, []) } with ⟨_ | _, p⟩
  · exact fun h => ⟨nofun, fun _ _ => h⟩
  · exact fun h => ⟨fun _ _ => h, nofun⟩

end Patchbay
