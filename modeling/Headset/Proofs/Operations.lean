import Headset.Proofs.Footing

/-!
# What the steering calls do

Every call of the lifecycle or of the stream is put together from a few parts: the stream begins
(`Begins`) or halts, the collaborators are torn down, and an activation goes through its stages
(`Allocation`).  Each part is described here once, by an equation or by its cases.
-/

namespace Headset.Device

/-! ## Halt and teardown -/

theorem haltStream_device (d : Device) :
    d.haltStream.device =
      { d with pipeline := d.pipeline.map fun p => { p with streaming := false } } := by
  have unchanged : ∀ o, o = d.pipeline → d = { d with pipeline := o } := by
    rintro o rfl
    rfl
  unfold haltStream
  split
  · next hp => exact unchanged _ (by simp [hp])
  · next p hp =>
    split
    · simp [hp]
    · next hs =>
      have idle : p.streaming = false := by simpa using hs
      exact unchanged _ (by simp [hp, ← idle])

theorem haltStream_log (d : Device) :
    d.haltStream.log = (d.stream?.map Effect.encoderStop).toList := by
  unfold haltStream stream?
  split
  · next hp => simp [hp]
  · next p hp => by_cases hs : p.streaming <;> simp [hp, hs, Option.filter]

theorem releaseRender_device (d : Device) :
    d.releaseRender.device = { d with renderReady := false } := by
  unfold releaseRender
  split
  · rfl
  · next hr =>
    have : d.renderReady = false := by simpa using hr
    simp [← this]

theorem releaseRender_log (d : Device) :
    d.releaseRender.log = if d.renderReady && d.render.isSome then [.renderShutdown] else [] := by
  unfold releaseRender
  cases d.renderReady <;> simp

theorem teardown_device (d : Device) :
    d.teardown.device = { d with
      vsync := none
      pipeline := none
      retired := (d.pipeline.map Pacer.release).toList ++ d.retired
      renderReady := false
      pendingStart := false
      deviceIndex := none
      state := .inactive
      counters := { d.counters with deactivations := d.counters.deactivations + 1 }
      status := Status.line d.serial "inactive" } := by
  simp only [teardown, haltStream_device, releaseRender_device]
  cases d.pipeline <;> rfl

/-- A teardown stops the timer, then the encoder if it streams; then it shuts down the encoder and
the backend. -/
theorem teardown_log (d : Device) :
    d.teardown.log = (d.vsync.map Effect.vsyncStop).toList ++
      (d.stream?.map Effect.encoderStop).toList ++
      (d.encoder?.map Effect.encoderShutdown).toList ++
      if d.renderReady && d.render.isSome then [.renderShutdown] else [] := by
  have halted : ({ d with vsync := none } : Device).haltStream.log =
      (d.stream?.map Effect.encoderStop).toList :=
    haltStream_log _
  simp only [teardown, halted]
  rw [haltStream_device, releaseRender_log]
  unfold encoder?
  cases d.vsync <;> cases d.pipeline <;> rfl

/-! ## The start of the stream -/

/-- The stream begins: calls that pass, then a start of the encoder that succeeds. -/
inductive Begins (d : Device) : Device → List Effect → Prop
  | intro {p : Pacer} {before : List Effect} (hp : d.pipeline = some p) (active : d.state = .active)
    (idle : p.streaming = false) (up : d.isShutDown = false)
    (passes : ∀ x ∈ before, d.MayPass x) :
    d.Begins (withStatus { d with
        pipeline := some { p with streaming := true }, pendingStart := false } "streaming")
      (before ++ [.encoderStart p.encoder none])

theorem Begins.cons {d e : Device} {log : List Effect} (h : d.Begins e log) {x : Effect}
    (hx : d.MayPass x) : d.Begins e (x :: log) := by
  obtain ⟨hp, active, idle, up, passes⟩ := h
  exact @Begins.intro d _ (x :: _) hp active idle up (List.forall_mem_cons.2 ⟨hx, passes⟩)

theorem Begins.state {d e : Device} {log : List Effect} (h : d.Begins e log) :
    e.state = d.state := by
  cases h
  rfl

/-- A start of the stream leaves the device as it is, or the stream begins. -/
theorem startStreaming_cases (d : Device) (a : Answers) :
    (d.startStreaming a).device = d ∧ d.Stays d (d.startStreaming a).log ∨
      d.Begins (d.startStreaming a).device (d.startStreaming a).log := by
  unfold startStreaming
  split
  · exact .inl ⟨rfl, .refl d⟩
  next up =>
  split
  · exact .inl ⟨rfl, .refl d⟩
  next active =>
  split
  · exact .inl ⟨rfl, .refl d⟩
  next p hp =>
  split
  · exact .inl ⟨rfl, .refl d⟩
  next idle =>
  split
  · exact .inl ⟨rfl, .refl d⟩
  split
  · exact .inl ⟨rfl, .refl d, by simp⟩
  have hs : d.stream? = none := by simp [stream?, hp, idle, Option.filter]
  dsimp only
  split
  · exact .inl ⟨rfl, .refl d, by simp⟩
  split
  · next f hf =>
    exact .inl ⟨rfl, .refl d, by simp [hf, encoder?_of_pipeline hp, hs]⟩
  · next hf =>
    rw [hf]
    exact .inr (.intro hp (by simpa using active) (by simpa using idle) (by simpa using up)
      (by simp))

/-- The same of a start that was queued. -/
theorem startPending_cases (d : Device) (a : Answers) :
    (d.startPending a).device = d ∧ d.Stays d (d.startPending a).log ∨
      d.Begins (d.startPending a).device (d.startPending a).log := by
  unfold startPending
  split
  · exact .inl ⟨rfl, .refl d⟩
  split
  · exact .inl ⟨rfl, .refl d, by simp⟩
  rcases d.startStreaming_cases { a with connected := a.stillConnected } with ⟨same, stays⟩ | begins
  · exact .inl ⟨same, .refl d, List.forall_mem_cons.2 ⟨trivial, stays.passes⟩⟩
  · exact .inr (begins.cons trivial)

/-! ## The stages of an activation -/

/-- The adapter becomes known: it was, or the factory is asked for it. -/
inductive Resolves (d : Device) (a : Answers) (adapter : Adapter) : List Effect → Prop
  | known (hd : d.adapter = some adapter) : d.Resolves a adapter []
  | asked (hd : d.adapter = none) (ha : a.adapter = .ok adapter) :
    d.Resolves a adapter [.resolveAdapter d.config.identity.adapter (.ok adapter)]

/-- The initialisation of the backend, if there is one. -/
def backendUp (d : Device) (adapter : Adapter) : List Effect :=
  if d.render.isSome then [.renderInitialize adapter none] else []

/-- The end of the backend, if there is one. -/
def backendDown (d : Device) : List Effect := if d.render.isSome then [.renderShutdown] else []

/-- The calls of the first two stages, and of the third one, when none of them fails. -/
def opening (d : Device) (index : UInt32) (adapter : Adapter) (resolution : List Effect) :
    List Effect :=
  resolution ++ .registerDisplay index d.config.display.properties none :: d.backendUp adapter

/-- The ways an allocation goes, by the first stage that fails. -/
inductive Allocation (d : Device) (index : UInt32) (a : Answers) :
    Outcome (Except DriverError Pacer) → Prop
  | adapter {f : Fault} (hd : d.adapter = none) (ha : a.adapter = .error f) :
    d.Allocation index a ⟨d, [.resolveAdapter d.config.identity.adapter (.error f)],
      .error (.initialization .adapter f)⟩
  | display {ad : Adapter} {l : List Effect} {f : Fault} (hr : d.Resolves a ad l)
    (hf : a.display = some f) :
    d.Allocation index a ⟨{ d with adapter := some ad },
      l ++ [.registerDisplay index d.config.display.properties (some f)],
      .error (.initialization .display f)⟩
  | renderBackend {ad : Adapter} {l : List Effect} {f : Fault} (hr : d.Resolves a ad l)
    (hdisplay : a.display = none) (hb : d.render.isSome) (hf : a.render = some f) :
    d.Allocation index a ⟨{ d with adapter := some ad },
      l ++ [.registerDisplay index d.config.display.properties none,
        .renderInitialize ad (some f)],
      .error (.initialization .renderBackend f)⟩
  | encoder {ad : Adapter} {l : List Effect} {f : Fault} (hr : d.Resolves a ad l)
    (hdisplay : a.display = none) (hb : d.render.isSome → a.render = none)
    (hf : a.encoder = .error f) :
    d.Allocation index a ⟨{ d with adapter := some ad },
      d.opening index ad l ++ .createEncoder ad d.config.stream (.error f) :: d.backendDown,
      .error (.initialization .encoder f)⟩
  | timer {ad : Adapter} {l : List Effect} {n : Nat} {f : Fault} (hr : d.Resolves a ad l)
    (hdisplay : a.display = none) (hb : d.render.isSome → a.render = none)
    (he : a.encoder = .ok n) (hf : a.vsync = .error f) :
    d.Allocation index a ⟨{ d with adapter := some ad },
      d.opening index ad l ++ .createEncoder ad d.config.stream (.ok n) ::
        .createVsync d.config.display.refreshRate (.error f) ::
        .encoderShutdown n :: d.backendDown,
      .error (.initialization .vsync f)⟩
  | timerStart {ad : Adapter} {l : List Effect} {n t : Nat} {f : Fault} (hr : d.Resolves a ad l)
    (hdisplay : a.display = none) (hb : d.render.isSome → a.render = none)
    (he : a.encoder = .ok n) (ht : a.vsync = .ok t) (hf : a.vsyncStart = some f) :
    d.Allocation index a ⟨{ d with adapter := some ad },
      d.opening index ad l ++ .createEncoder ad d.config.stream (.ok n) ::
        .createVsync d.config.display.refreshRate (.ok t) :: .vsyncStart t n (some f) ::
        .encoderShutdown n :: d.backendDown,
      .error (.initialization .vsync f)⟩
  | done {ad : Adapter} {l : List Effect} {n t : Nat} (hr : d.Resolves a ad l)
    (hdisplay : a.display = none) (hb : d.render.isSome → a.render = none)
    (he : a.encoder = .ok n) (ht : a.vsync = .ok t) (hs : a.vsyncStart = none) :
    d.Allocation index a ⟨{ d with
        adapter := some ad, renderReady := d.render.isSome, vsync := some t },
      d.opening index ad l ++ [.createEncoder ad d.config.stream (.ok n),
        .createVsync d.config.display.refreshRate (.ok t), .vsyncStart t n none],
      .ok (.ofEncoder n)⟩

theorem resolveAdapter_cases (d : Device) (a : Answers) :
    (∃ f, d.adapter = none ∧ a.adapter = .error f ∧ d.resolveAdapter a =
        ⟨d, [.resolveAdapter d.config.identity.adapter (.error f)], .error f⟩) ∨
      ∃ ad l, d.Resolves a ad l ∧
        d.resolveAdapter a = ⟨{ d with adapter := some ad }, l, .ok ad⟩ := by
  unfold resolveAdapter
  cases hd : d.adapter with
  | some ad => exact .inr ⟨ad, [], .known hd, by simp [← hd]⟩
  | none =>
    cases ha : a.adapter with
    | error f => exact .inl ⟨f, rfl, rfl, rfl⟩
    | ok ad => exact .inr ⟨ad, _, .asked hd ha, rfl⟩

/-- The third stage on a device that has initialised nothing. -/
theorem initializeRender_cases {d : Device} (hr : d.renderReady = false) (ad : Adapter)
    (a : Answers) :
    (∃ f, d.render.isSome ∧ a.render = some f ∧ d.initializeRender ad a =
        ⟨d, [.renderInitialize ad (some f)], .error (.initialization .renderBackend f)⟩) ∨
      (d.render.isSome → a.render = none) ∧ d.initializeRender ad a =
        ⟨{ d with renderReady := d.render.isSome }, d.backendUp ad, .ok ()⟩ := by
  have idle (hb : d.render = none) : d = { d with renderReady := d.render.isSome } := by
    have same : d.render.isSome = d.renderReady := by simp [hb, hr]
    rw [same]
  unfold initializeRender backendUp
  cases hb : d.render with
  | none => exact .inr ⟨by simp, by simpa [hb] using idle hb⟩
  | some name =>
    cases ha : a.render with
    | some f => exact .inl ⟨f, rfl, rfl, rfl⟩
    | none => exact .inr ⟨fun _ => rfl, by simp⟩

/-- Whatever way an activation goes, it is one of `Allocation`. -/
theorem allocate_cases {d : Device} (hr : d.renderReady = false) (index : UInt32) (a : Answers) :
    d.Allocation index a (d.allocate index a) := by
  rcases d.resolveAdapter_cases a with ⟨f, hd, ha, h⟩ | ⟨ad, l, hres, h⟩
  · simp only [allocate, h]
    exact .adapter hd ha
  cases hdisplay : a.display with
  | some f =>
    simp only [allocate, h, hdisplay]
    exact .display hres hdisplay
  | none =>
  have hr' : ({ d with adapter := some ad } : Device).renderReady = false := hr
  rcases initializeRender_cases hr' ad a with ⟨f, hb, hf, hi⟩ | ⟨hb, hi⟩
  · simp only [allocate, h, hdisplay, hi, List.append_assoc]
    exact .renderBackend hres hdisplay hb hf
  -- a stage that fails from here on shuts the backend down again
  have undone : (releaseRender { d with adapter := some ad, renderReady := d.render.isSome }) =
      ⟨{ d with adapter := some ad }, d.backendDown, ()⟩ := by
    simp only [releaseRender, backendDown]
    cases d.render <;> simp [← hr]
  cases he : a.encoder with
  | error f =>
    simp only [allocate, h, hdisplay, hi, allocateEncoder, he, undone]
    have way : d.Allocation index a _ := .encoder hres hdisplay hb he
    simpa [opening, backendUp] using way
  | ok n =>
    cases ht : a.vsync with
    | error f =>
      simp only [allocate, h, hdisplay, hi, allocateEncoder, he, startTimer, ht, undone]
      have way : d.Allocation index a _ := .timer hres hdisplay hb he ht
      simpa [opening, backendUp] using way
    | ok t =>
      cases hs : a.vsyncStart with
      | some f =>
        simp only [allocate, h, hdisplay, hi, allocateEncoder, he, startTimer, ht, hs, undone]
        have way : d.Allocation index a _ := .timerStart hres hdisplay hb he ht hs
        simpa [opening, backendUp] using way
      | none =>
        simp only [allocate, h, hdisplay, hi, allocateEncoder, he, startTimer, ht, hs]
        have way : d.Allocation index a _ := .done hres hdisplay hb he ht hs
        simpa [opening, backendUp] using way

/-- Whether a call belongs to the stages of an activation, or undoes one of them. -/
def IsStaged : Effect → Prop
  | .resolveAdapter _ _ => True
  | .registerDisplay _ _ _ => True
  | .renderInitialize _ _ => True
  | .renderShutdown => True
  | .createEncoder _ _ _ => True
  | .createVsync _ _ => True
  | .vsyncStart _ _ _ => True
  | .encoderShutdown _ => True
  | _ => False

theorem Allocation.isStaged {d : Device} {index : UInt32} {a : Answers}
    {o : Outcome (Except DriverError Pacer)} (h : d.Allocation index a o) :
    ∀ x ∈ o.log, IsStaged x := by
  have resolved {ad : Adapter} {l : List Effect} (hr : d.Resolves a ad l) :
      ∀ x ∈ l, IsStaged x := by
    cases hr <;> simp [IsStaged]
  have opened {ad : Adapter} {l : List Effect} (hr : d.Resolves a ad l) :
      ∀ x ∈ d.opening index ad l, IsStaged x := by
    have up : ∀ x ∈ d.backendUp ad, IsStaged x := by
      cases hb : d.render.isSome <;> simp [backendUp, hb, IsStaged]
    exact List.forall_mem_append.2 ⟨resolved hr, List.forall_mem_cons.2 ⟨trivial, up⟩⟩
  have closed : ∀ x ∈ d.backendDown, IsStaged x := by
    cases hb : d.render.isSome <;> simp [backendDown, hb, IsStaged]
  cases h with
  | adapter hd ha => simp [IsStaged]
  | display hr hf => exact List.forall_mem_append.2 ⟨resolved hr, by simp [IsStaged]⟩
  | renderBackend hr hdisplay hb hf =>
    exact List.forall_mem_append.2 ⟨resolved hr, by simp [IsStaged]⟩
  | encoder hr hdisplay hb hf | timer hr hdisplay hb he hf | timerStart hr hdisplay hb he ht hf =>
    exact List.forall_mem_append.2 ⟨opened hr, by simpa [IsStaged] using closed⟩
  | done hr hdisplay hb he ht hs =>
    exact List.forall_mem_append.2 ⟨opened hr, by simp [IsStaged]⟩

/-! ## Activation -/

/-- The device once its allocation is done. -/
def activated (d : Device) (index : UInt32) (p : Pacer) : Device :=
  withStatus { d with
    pipeline := some p
    deviceIndex := indexOf? index
    state := .active
    counters := { d.counters with activations := d.counters.activations + 1 } } "active"

/-- The ways an activation goes. -/
inductive Activation (d : Device) (index : UInt32) (a : Answers) :
    Outcome (Except DriverError Unit) → Prop
  | shutDown (down : d.isShutDown = true) : d.Activation index a ⟨d, [], .error .shutDown⟩
  | refused (up : d.isShutDown = false) (hs : d.state ≠ .inactive) :
    d.Activation index a ⟨d, [], .error (.invalidState .activate d.state)⟩
  | failed {o : Outcome (Except DriverError Pacer)} {e : DriverError} (up : d.isShutDown = false)
    (hs : d.state = .inactive) (ho : Allocation { d with state := .activating } index a o)
    (he : o.answer = .error e) :
    d.Activation index a
      ⟨withStatus { o.device with state := .inactive } "failed to activate", o.log, .error e⟩
  | done {o : Outcome (Except DriverError Pacer)} {p : Pacer} (up : d.isShutDown = false)
    (hs : d.state = .inactive) (ho : Allocation { d with state := .activating } index a o)
    (hp : o.answer = .ok p) :
    d.Activation index a ⟨((o.device.activated index p).startPending a).device,
      o.log ++ ((o.device.activated index p).startPending a).log, .ok ()⟩

theorem transition_activate (s : ActivationState) :
    transition s .activate = if s = .inactive then some .active else none := by
  cases s <;> rfl

/-- Whatever way an activation goes, it is one of `Activation`. -/
theorem activate_cases {d : Device} (hr : d.renderReady = true → d.state ≠ .inactive)
    (index : UInt32) (a : Answers) : d.Activation index a (d.activate index a) := by
  by_cases down : d.isShutDown = true
  · rw [activate, if_pos down]
    exact .shutDown down
  have up : d.isShutDown = false := by simpa using down
  by_cases hs : d.state = .inactive
  · have idle : d.renderReady = false := by simpa [hs] using hr
    have ho := @allocate_cases { d with state := .activating } idle index a
    rw [activate, if_neg down, transition_activate, if_pos hs]
    generalize allocate { d with state := .activating } index a = o at ho ⊢
    obtain ⟨device, log, e | p⟩ := o
    · exact .failed up hs ho rfl
    · exact .done up hs ho rfl
  · rw [activate, if_neg down, transition_activate, if_neg hs]
    exact .refused up hs

/-! ## Parts of a call -/

/-- The device back from standby. -/
def resumed (d : Device) : Device := withStatus { d with state := .active } "active"

/-- The device gone for good. -/
def gone (d : Device) : Device :=
  withStatus { d with isShutDown := true, relays := none, lastPose := none } "shut down"

/-- The parts that calls on a device are put together from. -/
inductive Part (d : Device) : Device → List Effect → Prop
  | stays {e : Device} {log : List Effect} (h : d.Stays e log) : d.Part e log
  | begins {e : Device} {log : List Effect} (h : d.Begins e log) : d.Part e log
  | halts : d.Part d.haltStream.device d.haltStream.log
  | queues (up : d.isShutDown = false)
    (waits : d.config.streaming.startOnClientReady = true → d.state ≠ .active) :
    d.Part { d with pendingStart := true } []
  | forgets : d.Part { d with pendingStart := false } []
  | resumes (hs : d.state = .standby) : d.Part d.resumed []
  | rests (hs : d.state = .active) (idle : d.stream? = none) :
    d.Part (withStatus { d with state := .standby } "standby") []
  | tearsDown (used : d.state ≠ .inactive ∨ d.pipeline.isSome) :
    d.Part d.teardown.device d.teardown.log
  | fails {index : UInt32} {a : Answers} {o : Outcome (Except DriverError Pacer)} {e : DriverError}
    (up : d.isShutDown = false) (hs : d.state = .inactive)
    (ho : Allocation { d with state := .activating } index a o) (he : o.answer = .error e) :
    d.Part (withStatus { o.device with state := .inactive } "failed to activate") o.log
  | activates {index : UInt32} {a : Answers} {o : Outcome (Except DriverError Pacer)} {p : Pacer}
    (up : d.isShutDown = false) (hs : d.state = .inactive)
    (ho : Allocation { d with state := .activating } index a o) (hp : o.answer = .ok p) :
    d.Part (o.device.activated index p) o.log
  | leaves (hs : d.state = .inactive) : d.Part d.gone []

/-- Parts that follow one another. -/
inductive Parts : Device → Device → List Effect → Prop
  | nil (d : Device) : Parts d d []
  | cons {d e f : Device} {l m : List Effect} (first : d.Part e l) (rest : Parts e f m) :
    Parts d f (l ++ m)

variable {d e f : Device} {l m : List Effect} {a : Answers}

theorem Part.parts (h : d.Part e l) : d.Parts e l := by
  simpa using Parts.cons h (.nil e)

theorem Part.then (h : d.Part e l) (k : e.Part f m) : d.Parts f (l ++ m) :=
  .cons h k.parts

theorem part_startStreaming (d : Device) (a : Answers) :
    d.Part (d.startStreaming a).device (d.startStreaming a).log := by
  rcases d.startStreaming_cases a with ⟨same, stays⟩ | begins
  · rw [same]
    exact .stays stays
  · exact .begins begins

theorem part_startPending (d : Device) (a : Answers) :
    d.Part (d.startPending a).device (d.startPending a).log := by
  rcases d.startPending_cases a with ⟨same, stays⟩ | begins
  · rw [same]
    exact .stays stays
  · exact .begins begins

theorem Activation.parts {index : UInt32} {o : Outcome (Except DriverError Unit)}
    (h : d.Activation index a o) : d.Parts o.device o.log := by
  cases h with
  | shutDown down => exact .nil d
  | refused up hs => exact .nil d
  | failed up hs ho he => exact (Part.fails up hs ho he).parts
  | done up hs ho hp => exact (Part.activates up hs ho hp).then (part_startPending _ a)

theorem parts_deactivate (d : Device) : d.Parts d.deactivate.device d.deactivate.log := by
  unfold deactivate
  split
  · exact .nil d
  · next used =>
    refine (Part.tearsDown ?_).parts
    rcases hp : d.pipeline with _ | p
    · exact .inl fun hs => used ⟨hs, by simp [hp]⟩
    · exact .inr rfl

theorem stream?_haltStream (d : Device) : d.haltStream.device.stream? = none := by
  rw [haltStream_device]
  cases d.pipeline <;> simp [stream?, Option.filter]

theorem transition_enterStandby (s : ActivationState) :
    transition s .enterStandby = if s = .active then some .standby else none := by
  cases s <;> rfl

theorem transition_resume (s : ActivationState) :
    transition s .resume = if s = .standby then some .active else none := by
  cases s <;> rfl

theorem parts_enterStandby (d : Device) : d.Parts d.enterStandby.device d.enterStandby.log := by
  by_cases hs : d.state = .active
  · simp only [enterStandby, transition_enterStandby, if_pos hs]
    have active : d.haltStream.device.state = .active := by rw [haltStream_device]; exact hs
    simpa using Part.halts.then (.rests active d.stream?_haltStream)
  · simp only [enterStandby, transition_enterStandby, if_neg hs]
    exact .nil d

theorem leaveStandby_eq (d : Device) :
    d.leaveStandby = if d.state = .standby then .ok d.resumed
      else .error (.invalidState .resume d.state) := by
  unfold leaveStandby
  rw [transition_resume]
  split <;> simp_all [resumed]

theorem parts_resume (d : Device) (a : Answers) : d.Parts (d.resume a).device (d.resume a).log := by
  by_cases hs : d.state = .standby
  · simp only [resume, leaveStandby_eq, if_pos hs]
    exact (Part.resumes hs).then (part_startPending _ a)
  · simp only [resume, leaveStandby_eq, if_neg hs]
    exact .nil d

theorem parts_stopStreaming (d : Device) : d.Parts d.stopStreaming.device d.stopStreaming.log :=
  Part.forgets.then .halts

theorem part_clientReady {d : Device} (up : d.isShutDown = false) (a : Answers) :
    d.Part (d.clientReady a).device (d.clientReady a).log := by
  unfold clientReady
  split
  · exact part_startStreaming d a
  · next off => exact .queues up fun on => absurd on off

theorem parts_streamStart (d : Device) (a : Answers) :
    d.Parts (d.streamStart a).device (d.streamStart a).log := by
  unfold streamStart
  split
  · exact .nil d
  · next down =>
    have up : d.isShutDown = false := by simpa using down
    split
    · exact (part_clientReady up a).parts
    · next hs =>
      have resumedUp : d.resumed.isShutDown = false := up
      rw [leaveStandby_eq, if_pos hs]
      exact (Part.resumes hs).then (part_clientReady resumedUp a)
    · next hs => exact (Part.queues up fun _ => by simp [hs]).parts
    · next hs => exact (Part.queues up fun _ => by simp [hs]).parts

theorem parts_shutDown (d : Device) : d.Parts d.shutDown.device d.shutDown.log := by
  unfold shutDown
  dsimp only
  by_cases used : d.state ≠ .inactive ∨ d.pipeline.isSome
  · rw [if_pos used]
    have torn : d.teardown.device.state = .inactive := by rw [teardown_device]
    have parts := (Part.tearsDown used).then (.leaves torn)
    -- the mark of the shutdown is set before the teardown, which does not look at it
    have device : ({ d with isShutDown := true } : Device).teardown.device =
        { d.teardown.device with isShutDown := true } := by
      rw [teardown_device, teardown_device]
      rfl
    have log : ({ d with isShutDown := true } : Device).teardown.log = d.teardown.log := by
      rw [teardown_log, teardown_log]
      rfl
    rw [device, log]
    rwa [List.append_nil] at parts
  · rw [if_neg used]
    have hs : d.state = .inactive := by simpa using (not_or.1 used).1
    exact (Part.leaves hs).parts

/-- Each step of a rig is put together from parts, if a device that is not in use holds neither
timer nor backend. -/
theorem Takes.parts {s : Step} (hr : d.renderReady = true → d.state ≠ .inactive)
    (h : d.Takes a s e l) : d.Parts e l := by
  cases h with
  | activate index => exact (activate_cases hr index a).parts
  | deactivate => exact parts_deactivate d
  | enterStandby => exact parts_enterStandby d
  | resume => exact parts_resume d a
  | shutDown => exact parts_shutDown d
  | startStreaming => exact (part_startStreaming d a).parts
  | stopStreaming => exact parts_stopStreaming d
  | streamStart => exact parts_streamStart d a
  | other hs stays => exact (Part.stays stays).parts

/-- No part changes what a device was built with. -/
theorem Part.built (h : d.Part e l) : e.config = d.config ∧ e.render = d.render := by
  cases h with
  | stays h => exact ⟨h.footing.config, h.footing.render⟩
  | begins h => cases h; exact ⟨rfl, rfl⟩
  | halts => rw [haltStream_device]; exact ⟨rfl, rfl⟩
  | tearsDown used => rw [teardown_device]; exact ⟨rfl, rfl⟩
  | fails up hs ho he => cases ho <;> exact ⟨rfl, rfl⟩
  | activates up hs ho hp => cases ho <;> exact ⟨rfl, rfl⟩
  | queues | forgets | resumes | rests | leaves => exact ⟨rfl, rfl⟩

/-- What holds before some parts and is kept by each of them holds afterwards. -/
theorem Parts.preserve {motive : Device → Prop}
    (step : ∀ {d e l}, motive d → d.Part e l → motive e) (h : d.Parts e l) (hd : motive d) :
    motive e := by
  induction h with
  | nil d => exact hd
  | cons first rest ih => exact ih (step hd first)

/-! ## What is set apart from the stream -/

section

variable {α : Type} {f : Device → α}

/-- `f` reads nothing of a device that the stream, standby and the return from it change. -/
def Aside (f : Device → α) : Prop :=
  ∀ (d : Device) (pipeline : Option Pacer) (pendingStart : Bool) (state : ActivationState)
    (status : String), f { d with pipeline, pendingStart, state, status } = f d

namespace Aside

theorem begins (h : Aside f) (k : d.Begins e l) : f e = f d := by
  cases k
  exact h d _ _ _ _

theorem startStreaming (h : Aside f) (d : Device) (a : Answers) :
    f (d.startStreaming a).device = f d := by
  rcases d.startStreaming_cases a with ⟨same, -⟩ | begins
  · rw [same]
  · exact h.begins begins

theorem startPending (h : Aside f) (d : Device) (a : Answers) :
    f (d.startPending a).device = f d := by
  rcases d.startPending_cases a with ⟨same, -⟩ | begins
  · rw [same]
  · exact h.begins begins

theorem haltStream (h : Aside f) (d : Device) : f d.haltStream.device = f d := by
  rw [haltStream_device]
  exact h ..

theorem stopStreaming (h : Aside f) (d : Device) : f d.stopStreaming.device = f d :=
  (h.haltStream { d with pendingStart := false }).trans (h ..)

theorem enterStandby (h : Aside f) (d : Device) : f d.enterStandby.device = f d := by
  by_cases hs : d.state = .active
  · simp only [Device.enterStandby, transition_enterStandby, if_pos hs]
    exact Eq.trans (h d.haltStream.device _ _ _ _) (h.haltStream d)
  · simp only [Device.enterStandby, transition_enterStandby, if_neg hs]

theorem resumed (h : Aside f) (d : Device) : f d.resumed = f d :=
  h d _ _ _ _

theorem resume (h : Aside f) (d : Device) (a : Answers) : f (d.resume a).device = f d := by
  by_cases hs : d.state = .standby
  · simp only [Device.resume, leaveStandby_eq, if_pos hs]
    exact (h.startPending d.resumed a).trans (h.resumed d)
  · simp only [Device.resume, leaveStandby_eq, if_neg hs]

theorem clientReady (h : Aside f) (d : Device) (a : Answers) :
    f (d.clientReady a).device = f d := by
  unfold Device.clientReady
  split
  · exact h.startStreaming d a
  · exact h ..

theorem streamStart (h : Aside f) (d : Device) (a : Answers) :
    f (d.streamStart a).device = f d := by
  unfold Device.streamStart
  split
  · rfl
  split
  · exact h.clientReady d a
  · next hs =>
    rw [leaveStandby_eq, if_pos hs]
    exact (h.clientReady d.resumed a).trans (h.resumed d)
  · exact h ..
  · exact h ..

end Aside

end

end Headset.Device
