import Headset.Proofs.Exits
import Headset.Proofs.Queries

/-!
# What the client is told about the stream

The client is told of the stream by the four calls that may start it, and by no other step of a rig
(`Rig.offers_of_step?`).  An activation that makes up for a queued start tells it once, of the
stream that is configured (`Device.Activation.offers`).
-/

namespace Headset

/-- What a call tells the client about the stream, with the fault it is answered with. -/
def Effect.offer? : Effect → Option (StreamConfig × Option Fault)
  | .sendStreamConfig s fault => some (s, fault)
  | _ => none

/-- What the client is told about the stream, in order. -/
def offers (log : List Effect) : List (StreamConfig × Option Fault) := log.filterMap Effect.offer?

/-- Whether a step may start the stream. -/
def Step.mayOffer : Step → Bool
  | .call (.activate _) => true
  | .call .resume => true
  | .call .startStreaming => true
  | .call .streamStart => true
  | _ => false

variable {l m : List Effect}

theorem offers_append : offers (l ++ m) = offers l ++ offers m := List.filterMap_append

theorem offers_eq_nil_iff : offers l = [] ↔ ∀ x ∈ l, x.offer? = none :=
  List.filterMap_eq_nil_iff

namespace Device

variable {d : Device} {h : History} {a : Answers}

/-! ## Calls that tell it nothing -/

theorem offers_haltStream (d : Device) : offers d.haltStream.log = [] := by
  rw [haltStream_log]
  cases d.stream? <;> rfl

theorem offers_teardown (d : Device) : offers d.teardown.log = [] := by
  rw [teardown_log]
  cases d.vsync <;> cases d.stream? <;> cases d.encoder? <;>
    cases d.renderReady && d.render.isSome <;> rfl

theorem offers_requestKeyframe (d : Device) : offers d.requestKeyframe.log = [] := by
  unfold requestKeyframe
  repeat' split
  all_goals rfl

theorem offers_runFrame (d : Device) : offers d.runFrame.log = [] := by
  unfold runFrame
  dsimp only
  repeat' split
  all_goals rfl

theorem offers_refresh (d : Device) (p : Pacer) (a : Answers) :
    offers (d.refresh p a).log = [] := by
  unfold refresh
  split <;> rfl

theorem Ticks.offers {e : Device} (h : d.Ticks a e l) : offers l = [] := by
  cases h with
  | unheard => rfl
  | inTime =>
    unfold tick
    split
    · rfl
    · exact offers_refresh ..
  | stray age =>
    unfold strayTick
    split
    · rfl
    · exact offers_refresh ..

theorem offers_getPose? {o : Outcome DevicePose} (ho : d.getPose? h a = some o) :
    offers o.log = [] := by
  refine offers_eq_nil_iff.2 fun x hx => ?_
  rcases log_getPose? ho x hx with rfl | ⟨time, rfl⟩ <;> rfl

theorem offers_markFresh (d : Device) (h : History) : offers (d.markFresh h).log = [] := by
  refine offers_eq_nil_iff.2 fun x hx => ?_
  rw [log_markFresh d h x hx]
  rfl

theorem offers_poseUpdated? {o : Outcome Unit} (ho : d.poseUpdated? h a = some o) :
    offers o.log = [] := by
  obtain ⟨q, hq, rfl⟩ := Option.map_eq_some_iff.1 ho
  simp only [offers_append, offers_getPose? hq, offers_markFresh, List.append_nil, List.nil_append]
  repeat' split
  all_goals rfl

theorem offers_updateControllers (d : Device) (packet : TrackingPacket) (a : Answers) :
    offers (d.updateControllers packet a).log = [] := by
  refine offers_eq_nil_iff.2 fun x hx => ?_
  rcases log_updateControllers d packet a x hx with
    ⟨n, active, rfl⟩ | ⟨n, tracking, target, rfl⟩ <;> rfl

theorem offers_tracking? {h' : History} {packet : TrackingPacket} {o : Outcome Unit}
    (ho : d.tracking? h packet a = some (h', o)) : offers o.log = [] := by
  cases tracking?_cases ho with
  | headless => exact offers_updateControllers ..
  | lost => rfl
  | @relayed head q headed there hq =>
    have pushed : offers [.historyPush ⟨packet.target, head⟩] = [] := rfl
    have queried := offers_poseUpdated? hq
    rw [List.cons_append, ← List.singleton_append, offers_append, offers_append, pushed, queried,
      offers_updateControllers]
    rfl

theorem offers_setViews (d : Device) (views : Views) : offers (d.setViews views).log = [] := by
  unfold setViews
  split
  · rfl
  · dsimp only
    split <;> rfl

theorem offers_debug? {request : String} {buffer : List UInt8} {o : Outcome (Nat × List UInt8)}
    (ho : d.debug? request buffer = some o) : offers o.log = [] := by
  obtain ⟨text, -, rfl⟩ := Option.map_eq_some_iff.1 ho
  dsimp only
  split
  · exact offers_requestKeyframe d
  · rfl

end Device

/-- Only a step that may start the stream tells the client of it. -/
theorem Rig.offers_of_step? {r r' : Rig} {s : Step} {a : Answers} {reply : Reply}
    (silent : s.mayOffer = false) (step : r.step? s a = some (r', l, reply)) : offers l = [] := by
  cases s with
  | call c =>
    cases c with
    | activate | resume | startStreaming | streamStart => cases silent
    | deactivate =>
      cases step
      unfold Device.deactivate
      split
      · rfl
      · exact Device.offers_teardown _
    | enterStandby =>
      cases step
      unfold Device.enterStandby
      split
      · rfl
      · exact Device.offers_haltStream _
    | shutDown =>
      cases step
      unfold Device.shutDown
      dsimp only
      split
      · exact Device.offers_teardown _
      · rfl
    | stopStreaming => cases step; exact Device.offers_haltStream _
    | packetLoss => cases step; exact Device.offers_requestKeyframe _
    | requestKeyframe => cases step; exact Device.offers_requestKeyframe _
    | runFrame => cases step; exact Device.offers_runFrame _
    | getPose =>
      obtain ⟨o, ho, step⟩ := Option.map_eq_some_iff.1 step
      cases step
      exact Device.offers_getPose? ho
    | poseUpdated =>
      obtain ⟨o, ho, step⟩ := Option.map_eq_some_iff.1 step
      cases step
      exact Device.offers_poseUpdated? ho
    | setPoseOffset | frameEncoded => cases step; rfl
    | tracking packet =>
      obtain ⟨⟨history, o⟩, ho, step⟩ := Option.map_eq_some_iff.1 step
      cases step
      exact Device.offers_tracking? ho
    | updateControllers => cases step; exact Device.offers_updateControllers ..
    | clientReport report =>
      obtain ⟨e, he, step⟩ := Option.map_eq_some_iff.1 step
      cases step
      rfl
    | setViews => cases step; exact Device.offers_setViews ..
    | debug =>
      obtain ⟨o, ho, step⟩ := Option.map_eq_some_iff.1 step
      cases step
      exact Device.offers_debug? ho
  | tick | lateTick | strayTick => exact (ticks_of_step? rfl step).1.offers
  | pushHistory | clearHistory => cases step; rfl

/-! ## An activation with a queued start -/

namespace Device

variable {d : Device} {a : Answers} {index : UInt32}

/-- No stage of an activation tells the client of the stream. -/
theorem Allocation.offers {o : Outcome (Except DriverError Pacer)} (h : d.Allocation index a o) :
    offers o.log = [] := by
  refine offers_eq_nil_iff.2 fun x hx => ?_
  have staged := h.isStaged x hx
  cases x <;> first | rfl | exact staged.elim

/-- A start that is tried tells the client of the stream, if it is there. -/
theorem Coherent.offers_startStreaming (h : d.Coherent) (idle : d.IsIdle)
    (connected : a.connected = true) :
    offers (d.startStreaming a).log = [(d.config.stream, a.streamConfig)] := by
  obtain ⟨n, -, log⟩ := (h.startExit a).log_of_isIdle h idle
  rw [log, Config.startCalls, if_pos connected]
  cases a.streamConfig <;> rfl

/-- Of a queued start the client is told once, unless starts wait for the host. -/
theorem Activation.offers (coherent : d.Coherent) {o : Outcome (Except DriverError Unit)}
    (h : d.Activation index a o) (done : o.answer = .ok ()) (queued : d.pendingStart = true)
    (connected : a.connected = true) (stillConnected : a.stillConnected = true) :
    offers o.log = if d.config.streaming.startOnClientReady then [(d.config.stream, a.streamConfig)]
      else [] := by
  cases h with
  | @done o p up hs ho hp =>
    have active : (o.device.activated index p).Coherent := (coherent.allocation hs up ho).2 p hp
    have idle : (o.device.activated index p).IsIdle := by
      cases ho <;> cases hp
      exact ⟨rfl, rfl⟩
    have config : (o.device.activated index p).config = d.config := by cases ho <;> rfl
    have pending : (o.device.activated index p).pendingStart = true :=
      (Allocation.pendingStart ho).trans queued
    have up : (o.device.activated index p).isShutDown = false := by cases ho <;> exact up
    have related : (o.device.activated index p).relays.isNone = false := by
      rw [active.relays_isNone, up]
    have started := active.offers_startStreaming (a := { a with connected := a.stillConnected })
      idle stillConnected
    rw [offers_append, Allocation.offers ho, List.nil_append, startPending, config, pending,
      related, connected]
    cases on : d.config.streaming.startOnClientReady with
    | false => rfl
    | true =>
      rw [config] at started
      exact started
  | _ => cases done

end Device

end Headset
