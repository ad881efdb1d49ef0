import Headset.Latency
import Mathlib.Data.List.Induction
import Mathlib.Data.List.Nodup

/-!
# Open frames

What becomes of frames is told by a log of notices: samples that came in, frames that were presented
or encoded, reports of the client.  `opened` lists the frames that a log opens, newest first.  The
newest `k` of them are open, where `k` is the capacity (`targets_follow`); each is stamped by the
notices since it was opened (`Opens.getElem?_frames`), and by nothing before, also if a frame of
its target was open earlier.  So a report is answered from the log alone (`frames_of_log`).
-/

namespace Headset

/-- What comes in about frames. -/
inductive Notice where
  | received (target now : Span)
  | presented (target now : Span)
  | encoded (target now : Span) (bytes : Nat) (keyframe : Bool)
  | reported (report : ClientReport)

namespace Notice

/-- When the frame of a target is presented, if it is. -/
def presentedAt? (target : Span) : Notice → Option Span
  | .presented t now => if target = t then some now else none
  | _ => none

/-- When the frame of a target is encoded, if it is. -/
def encodedAt? (target : Span) : Notice → Option Span
  | .encoded t now _ _ => if target = t then some now else none
  | _ => none

/-- The targets of the frames opened, newest first, after one more notice.  A sample opens a frame,
unless its target is among the newest `k`. -/
def collect (k : Nat) (opened : List Span) : Notice → List Span
  | .received target _ => if target ∈ opened.take k then opened else target :: opened
  | _ => opened

/-- What a notice changes of an open frame. -/
def stamp (f : OpenFrame) : Notice → OpenFrame
  | .presented target now =>
    if f.target = target then { f with presented := some (f.presented.getD now) } else f
  | .encoded target now bytes keyframe =>
    if f.target = target then { f with encoded := some now, bytes, keyframe } else f
  | _ => f

/-! ## Stamps -/

theorem target_stamp (f : OpenFrame) (n : Notice) : (n.stamp f).target = f.target := by
  cases n <;> simp [stamp, apply_ite OpenFrame.target]

theorem received_stamp (f : OpenFrame) (n : Notice) : (n.stamp f).received = f.received := by
  cases n <;> simp [stamp, apply_ite OpenFrame.received]

theorem presented_stamp (f : OpenFrame) (n : Notice) :
    (n.stamp f).presented = f.presented.or (n.presentedAt? f.target) := by
  cases n with
  | presented target now =>
    by_cases same : f.target = target
    · cases hp : f.presented <;> simp [stamp, presentedAt?, same, hp]
    · simp [stamp, presentedAt?, same]
  | _ => simp [stamp, presentedAt?, apply_ite OpenFrame.presented]

theorem encoded_stamp (f : OpenFrame) (n : Notice) :
    (n.stamp f).encoded = (n.encodedAt? f.target).or f.encoded := by
  cases n with
  | encoded target now bytes keyframe =>
    by_cases same : f.target = target <;> simp [stamp, encodedAt?, same]
  | _ => simp [stamp, encodedAt?, apply_ite OpenFrame.encoded]

end Notice

namespace Latency

/-- Takes in a notice.  A report that has no answer changes nothing. -/
def notice (l : Latency) : Notice → Latency
  | .received target now => l.received target now
  | .presented target now => l.presented target now
  | .encoded target now bytes keyframe => l.encoded target now bytes keyframe
  | .reported r => ((l.reported? r).map (·.1)).getD l

def follow (l : Latency) (log : List Notice) : Latency := log.foldl notice l

/-- The targets of all frames that a log opens, newest first, if the newest `k` are open. -/
def opened (k : Nat) (log : List Notice) : List Span := log.foldl (Notice.collect k) []

/-- In the log, a sample that came in at `now` has opened a frame for `target`.  After it came the
notices `since`, which opened the frames `further`. -/
def Opens (k : Nat) (log : List Notice) (target now : Span) (since : List Notice)
    (further : List Span) : Prop :=
  ∃ before, log = before ++ .received target now :: since ∧ target ∉ (opened k before).take k ∧
    opened k log = further ++ target :: opened k before

/-- When the frame was presented: the first time that is told, else when it came in. -/
def presentation (target now : Span) (since : List Notice) : Span :=
  (since.findSome? (·.presentedAt? target)).getD now

/-- From the arrival to the presentation. -/
def gameShare (target now : Span) (since : List Notice) : Span :=
  presentation target now since - now

/-- From the presentation to the last time that the frame was encoded; zero if it was not. -/
def encodeShare (target now : Span) (since : List Notice) : Span :=
  ((since.reverse.findSome? (·.encodedAt? target)).map (· - presentation target now since)).getD
    .zero

/-- All stages that a report on the frame accounts for, in nanoseconds. -/
def stageNanos (r : ClientReport) (now : Span) (since : List Notice) : Nat :=
  (gameShare r.target now since).nanos + (encodeShare r.target now since).nanos + r.decode.nanos +
    r.decoderQueue.nanos + r.rendering.nanos + r.vsyncQueue.nanos

variable {k : Nat} {l : Latency} {log since : List Notice} {target now : Span}

/-! ## One notice -/

theorem follow_concat (l : Latency) (log : List Notice) (n : Notice) :
    l.follow (log ++ [n]) = (l.follow log).notice n := by
  simp [follow]

theorem opened_concat (k : Nat) (log : List Notice) (n : Notice) :
    opened k (log ++ [n]) = n.collect k (opened k log) := by
  simp [opened]

theorem frame?_eq_none_iff : l.frame? target = none ↔ target ∉ l.frames.map (·.target) := by
  simp [frame?, List.find?_eq_none]

theorem received_of_mem (h : target ∈ l.frames.map (·.target)) (now : Span) :
    l.received target now = l := by
  unfold received
  cases hf : l.frame? target with
  | some f => rfl
  | none => exact absurd h (frame?_eq_none_iff.1 hf)

theorem received_of_not_mem (h : target ∉ l.frames.map (·.target)) (now : Span) :
    l.received target now =
      { l with frames := ({ target, received := now } :: l.frames).take l.capacity } := by
  unfold received
  rw [frame?_eq_none_iff.2 h]

theorem reported?_of_frame? {f : OpenFrame} {r : ClientReport} (h : l.frame? r.target = some f)
    (room : l.CanCount 1 r.dropped.toNat) :
    l.reported? r = (f.networkTime? r).map fun network => (l.submit f r network, some network) := by
  simp [reported?, h, room]

theorem reported?_of_full {f : OpenFrame} {r : ClientReport} (h : l.frame? r.target = some f)
    (full : ¬ l.CanCount 1 r.dropped.toNat) : l.reported? r = none := by
  simp [reported?, h, full]

theorem reported?_of_absent {r : ClientReport} (h : l.frame? r.target = none) :
    l.reported? r = some (l, none) := by
  simp [reported?, h]

/-- A report adds to the windows, if its frame is open, and changes nothing else. -/
theorem reported?_cases {r : ClientReport} {m : Latency} {network : Option Span}
    (h : l.reported? r = some (m, network)) :
    (l.frame? r.target = none ∧ m = l ∧ network = none) ∨
      ∃ f n, l.frame? r.target = some f ∧ l.CanCount 1 r.dropped.toNat ∧
        f.networkTime? r = some n ∧ m = l.submit f r n ∧ network = some n := by
  cases hf : l.frame? r.target with
  | none =>
    rw [reported?_of_absent hf] at h
    cases h
    exact .inl ⟨rfl, rfl, rfl⟩
  | some f =>
    by_cases room : l.CanCount 1 r.dropped.toNat
    · rw [reported?_of_frame? hf room] at h
      obtain ⟨n, told, h⟩ := Option.map_eq_some_iff.1 h
      cases h
      exact .inr ⟨f, n, rfl, room, told, rfl, rfl⟩
    · rw [reported?_of_full hf room] at h
      cases h

theorem notice_reported_cases (l : Latency) (r : ClientReport) :
    l.notice (.reported r) = l ∨ ∃ f n, l.notice (.reported r) = l.submit f r n := by
  cases h : l.reported? r with
  | none => exact .inl (by simp [notice, h])
  | some o =>
    rcases reported?_cases h with ⟨-, same, -⟩ | ⟨f, n, -, -, -, same, -⟩
    · exact .inl (by simp [notice, h, same])
    · exact .inr ⟨f, n, by simp [notice, h, same]⟩

/-- A notice changes neither the capacity nor what the host is granted, nor what becomes of full
counts. -/
theorem fixed_notice (l : Latency) (n : Notice) :
    (l.notice n).capacity = l.capacity ∧ (l.notice n).hostPipeline = l.hostPipeline ∧
      (l.notice n).overflow = l.overflow := by
  cases n with
  | received target now =>
    by_cases there : target ∈ l.frames.map (·.target)
    · rw [notice, received_of_mem there]
      exact ⟨rfl, rfl, rfl⟩
    · rw [notice, received_of_not_mem there]
      exact ⟨rfl, rfl, rfl⟩
  | presented | encoded => exact ⟨rfl, rfl, rfl⟩
  | reported r =>
    rcases l.notice_reported_cases r with same | ⟨f, n, same⟩
    · rw [same]
      exact ⟨rfl, rfl, rfl⟩
    · rw [same, submit]
      exact ⟨rfl, rfl, rfl⟩

theorem fixed_follow (l : Latency) (log : List Notice) :
    (l.follow log).hostPipeline = l.hostPipeline ∧ (l.follow log).overflow = l.overflow := by
  induction log using List.reverseRecOn with
  | nil => exact ⟨rfl, rfl⟩
  | append_singleton log n ih =>
    obtain ⟨-, hostPipeline, overflow⟩ := (l.follow log).fixed_notice n
    rw [follow_concat, hostPipeline, overflow]
    exact ih

/-- A notice that opens no frame only stamps those that are open. -/
theorem frames_notice {n : Notice}
    (h : ∀ target now, n = .received target now → target ∈ l.frames.map (·.target)) :
    (l.notice n).frames = l.frames.map (Notice.stamp · n) := by
  cases n with
  | received target now => simp [notice, received_of_mem (h _ _ rfl), Notice.stamp]
  | presented | encoded => rfl
  | reported r =>
    have unstamped : l.frames.map (Notice.stamp · (.reported r)) = l.frames := by
      simp [Notice.stamp]
    rw [unstamped]
    rcases l.notice_reported_cases r with same | ⟨f, n, same⟩
    · rw [same]
    · rw [same, submit]

/-! ## The targets -/

/-- The frames that are open are the newest `k` of those opened. -/
theorem targets_notice (room : l.capacity = k) {opens : List Span}
    (h : l.frames.map (·.target) = opens.take k) (n : Notice) :
    (l.notice n).frames.map (·.target) = (n.collect k opens).take k := by
  have stamped (unopened : n.collect k opens = opens)
      (there : ∀ target now, n = .received target now → target ∈ l.frames.map (·.target)) :
      (l.notice n).frames.map (·.target) = (n.collect k opens).take k := by
    rw [frames_notice there, unopened, ← h, List.map_map]
    exact List.map_congr_left fun f _ => Notice.target_stamp f n
  cases n with
  | received target now =>
    by_cases there : target ∈ opens.take k
    · refine stamped (by simp [Notice.collect, there]) fun t u same => ?_
      cases same
      rwa [h]
    · have absent : target ∉ l.frames.map (·.target) := by rwa [h]
      rw [notice, received_of_not_mem absent, Notice.collect, if_neg there, room,
        List.map_take, List.map_cons, h]
      cases k with
      | zero => rfl
      | succ k => simp [List.take_take]
  | presented | encoded | reported => exact stamped rfl (by simp)

theorem targets_follow (new : l.frames = []) (log : List Notice) :
    (l.follow log).capacity = l.capacity ∧
      (l.follow log).frames.map (·.target) = (opened l.capacity log).take l.capacity := by
  induction log using List.reverseRecOn with
  | nil => simp [follow, opened, new]
  | append_singleton log n ih =>
    obtain ⟨room, targets⟩ := ih
    rw [follow_concat, opened_concat]
    exact ⟨(fixed_notice _ n).1.trans room, targets_notice room targets n⟩

theorem collect_cases (k : Nat) (opens : List Span) (n : Notice) :
    n.collect k opens = opens ∨ ∃ target now, n = .received target now ∧
      target ∉ opens.take k ∧ n.collect k opens = target :: opens := by
  cases n with
  | received target now =>
    by_cases there : target ∈ opens.take k
    · exact .inl (if_pos there)
    · exact .inr ⟨target, now, rfl, there, if_neg there⟩
  | presented | encoded | reported => exact .inl rfl

/-- No two frames that are open are for the same target. -/
theorem nodup_opened (k : Nat) (log : List Notice) : ((opened k log).take k).Nodup := by
  induction log using List.reverseRecOn with
  | nil => simp [opened]
  | append_singleton log n ih =>
    rw [opened_concat]
    rcases collect_cases k (opened k log) n with same | ⟨target, now, -, absent, new⟩
    · rwa [same]
    · rw [new]
      cases k with
      | zero => simp
      | succ k =>
        have older : ((opened (k + 1) log).take k).Sublist ((opened (k + 1) log).take (k + 1)) :=
          List.take_sublist_take_left (Nat.le_succ k)
        rw [List.take_succ_cons]
        exact List.nodup_cons.2 ⟨fun there => absent (older.subset there), ih.sublist older⟩

/-- What was opened stays on the list. -/
theorem opened_append (k : Nat) (log since : List Notice) :
    ∃ further, opened k (log ++ since) = further ++ opened k log := by
  induction since using List.reverseRecOn with
  | nil => exact ⟨[], by simp⟩
  | append_singleton since n ih =>
    obtain ⟨further, ih⟩ := ih
    rw [← List.append_assoc, opened_concat]
    rcases collect_cases k (opened k (log ++ since)) n with same | ⟨target, now, -, -, new⟩
    · exact ⟨further, by rw [same, ih]⟩
    · exact ⟨target :: further, by rw [new, ih, List.cons_append]⟩

/-- A frame was opened while there was none of its target. -/
theorem not_mem_of_opened {newer older : List Span}
    (h : opened k log = newer ++ target :: older) : target ∉ older.take k := by
  induction log using List.reverseRecOn generalizing newer with
  | nil => simp [opened] at h
  | append_singleton log n ih =>
    rw [opened_concat] at h
    rcases collect_cases k (opened k log) n with same | ⟨t, now, -, absent, new⟩
    · exact ih (same ▸ h)
    · rw [new] at h
      cases newer with
      | nil =>
        cases h
        exact absent
      | cons u newer => exact ih (List.cons.inj h).2

/-- Each frame on the list was opened by a sample. -/
theorem exists_opening {newer older : List Span} (h : opened k log = newer ++ target :: older) :
    ∃ before now since, log = before ++ .received target now :: since ∧
      opened k before = older := by
  induction log using List.reverseRecOn generalizing newer with
  | nil => simp [opened] at h
  | append_singleton log n ih =>
    rw [opened_concat] at h
    rcases collect_cases k (opened k log) n with same | ⟨t, now, rfl, absent, new⟩
    · obtain ⟨before, now, since, rfl, ho⟩ := ih (same ▸ h)
      exact ⟨before, now, since ++ [n], by simp, ho⟩
    · rw [new] at h
      cases newer with
      | nil =>
        cases h
        exact ⟨log, now, [], rfl, rfl⟩
      | cons u newer =>
        obtain ⟨before, now', since, rfl, ho⟩ := ih (List.cons.inj h).2
        exact ⟨before, now', since ++ [.received t now], by simp, ho⟩

/-! ## The stamps -/

/-- The frame that a sample opens, after the notices since. -/
def stamped (target now : Span) (since : List Notice) : OpenFrame :=
  since.foldl Notice.stamp { target, received := now }

theorem stamped_concat (target now : Span) (since : List Notice) (n : Notice) :
    stamped target now (since ++ [n]) = n.stamp (stamped target now since) := by
  simp [stamped]

theorem target_stamped (target now : Span) (since : List Notice) :
    (stamped target now since).target = target := by
  induction since using List.reverseRecOn with
  | nil => rfl
  | append_singleton since n ih => rw [stamped_concat, Notice.target_stamp, ih]

theorem received_stamped (target now : Span) (since : List Notice) :
    (stamped target now since).received = now := by
  induction since using List.reverseRecOn with
  | nil => rfl
  | append_singleton since n ih => rw [stamped_concat, Notice.received_stamp, ih]

/-- The first presentation counts. -/
theorem presented_stamped (target now : Span) (since : List Notice) :
    (stamped target now since).presented = since.findSome? (·.presentedAt? target) := by
  induction since using List.reverseRecOn with
  | nil => rfl
  | append_singleton since n ih =>
    rw [stamped_concat, Notice.presented_stamp, ih, target_stamped, List.findSome?_append,
      List.findSome?_singleton]

/-- The last time of encoding counts. -/
theorem encoded_stamped (target now : Span) (since : List Notice) :
    (stamped target now since).encoded = since.reverse.findSome? (·.encodedAt? target) := by
  induction since using List.reverseRecOn with
  | nil => rfl
  | append_singleton since n ih =>
    rw [stamped_concat, Notice.encoded_stamp, ih, target_stamped, List.reverse_concat,
      List.findSome?_cons]
    cases n.encodedAt? target <;> rfl

/-- The frames opened after a frame of `target` stand before it. -/
theorem exists_further {before : List Notice} (absent : target ∉ (opened k before).take k)
    (now : Span) (since : List Notice) :
    ∃ further, opened k (before ++ .received target now :: since) =
      further ++ target :: opened k before := by
  obtain ⟨further, h⟩ := opened_append k (before ++ [.received target now]) since
  refine ⟨further, ?_⟩
  rw [List.append_assoc, opened_concat] at h
  simpa [Notice.collect, absent] using h

/-- A frame is in its place as long as fewer than `k` further frames were opened, stamped by the
notices since. -/
theorem Opens.getElem?_frames (new : l.frames = []) {further : List Span}
    (h : Opens l.capacity log target now since further) (few : further.length < l.capacity) :
    (l.follow log).frames[further.length]? = some (stamped target now since) := by
  obtain ⟨before, rfl, absent, place⟩ := h
  induction since using List.reverseRecOn generalizing further with
  | nil =>
    obtain ⟨capacity, targets⟩ := targets_follow new before
    have fresh : target ∉ (l.follow before).frames.map (·.target) := by rwa [targets]
    have none : further = [] := by
      rw [opened_concat, Notice.collect, if_neg absent] at place
      simpa using place
    rw [follow_concat, notice, received_of_not_mem fresh, capacity,
      List.getElem?_take_of_lt few, none]
    rfl
  | append_singleton since n ih =>
    obtain ⟨older, place'⟩ := exists_further absent now since
    have front : before ++ .received target now :: (since ++ [n]) =
        (before ++ .received target now :: since) ++ [n] := by simp
    rw [front, opened_concat] at place
    rw [front, follow_concat, stamped_concat]
    obtain ⟨capacity, targets⟩ := targets_follow new (before ++ .received target now :: since)
    rcases collect_cases _ (opened _ (before ++ .received target now :: since)) n with
      same | ⟨t, u, rfl, other, opens⟩
    · -- nothing is opened, and the frame is stamped where it is
      obtain rfl : further = older :=
        List.append_cancel_right (place.symm.trans (same.trans place'))
      have known : ∀ t u, n = .received t u →
          t ∈ (l.follow (before ++ .received target now :: since)).frames.map (·.target) := by
        rintro t u rfl
        rw [targets]
        by_contra other
        simp [Notice.collect, other] at same
      rw [frames_notice known, List.getElem?_map, ih few place']
      rfl
    · -- the frame goes one place further
      obtain rfl : further = t :: older :=
        List.append_cancel_right (place.symm.trans (opens.trans (by rw [place', List.cons_append])))
      rw [← targets] at other
      rw [notice, received_of_not_mem other, capacity, List.getElem?_take_of_lt few,
        List.length_cons, List.getElem?_cons_succ, ih (Nat.lt_of_succ_lt few) place']
      rfl

/-! ## The frame of a target -/

theorem frame?_of_getElem? {i : Nat} {f : OpenFrame} (distinct : (l.frames.map (·.target)).Nodup)
    (h : l.frames[i]? = some f) : l.frame? f.target = some f := by
  obtain ⟨there, rfl⟩ := List.getElem?_eq_some_iff.1 h
  rw [frame?, List.find?_eq_some_iff_getElem]
  refine ⟨by simp, i, there, rfl, fun j before => ?_⟩
  have other := List.pairwise_iff_getElem.1 distinct j i (by simp; omega) (by simpa) before
  simpa using other

/-- A sample of a new target opens its frame. -/
theorem frame?_received (absent : target ∉ l.frames.map (·.target)) (room : 0 < l.capacity)
    (now : Span) : (l.received target now).frame? target = some { target, received := now } := by
  obtain ⟨k, hk⟩ := Nat.exists_eq_add_of_lt room
  rw [received_of_not_mem absent, frame?, hk, Nat.zero_add, List.take_succ_cons]
  exact List.find?_cons_of_pos (by simp)

theorem nodup_targets_follow (new : l.frames = []) (log : List Notice) :
    ((l.follow log).frames.map (·.target)).Nodup := by
  rw [(targets_follow new log).2]
  exact nodup_opened l.capacity log

theorem Opens.frame? (new : l.frames = []) {further : List Span}
    (h : Opens l.capacity log target now since further) (few : further.length < l.capacity) :
    (l.follow log).frame? target = some (stamped target now since) := by
  have located := frame?_of_getElem? (nodup_targets_follow new log) (h.getElem?_frames new few)
  rwa [target_stamped] at located

/-- A frame is gone once as many further ones were opened as there is room for. -/
theorem Opens.frame?_eq_none (new : l.frames = []) {further : List Span}
    (h : Opens l.capacity log target now since further) (full : further.length = l.capacity) :
    (l.follow log).frame? target = none := by
  obtain ⟨before, rfl, absent, place⟩ := h
  rw [frame?_eq_none_iff, (targets_follow new _).2, place, List.take_left' full]
  intro there
  -- the later frame of the target would have been opened while this one was still there
  obtain ⟨newer, older, rfl⟩ := List.append_of_mem there
  rw [List.append_assoc, List.cons_append] at place
  have close : older.length < l.capacity := by
    rw [← full, List.length_append, List.length_cons]
    omega
  refine not_mem_of_opened place (List.mem_of_getElem? (i := older.length) ?_)
  rw [List.getElem?_take_of_lt close, List.getElem?_append_right (Nat.le_refl _), Nat.sub_self,
    List.getElem?_cons_zero]

/-- A frame that is there was opened by a sample, and not too long ago. -/
theorem exists_opens (new : l.frames = []) (there : ((l.follow log).frame? target).isSome) :
    ∃ now since further, Opens l.capacity log target now since further ∧
      further.length < l.capacity := by
  have listed : target ∈ (opened l.capacity log).take l.capacity := by
    rw [← (targets_follow new log).2]
    by_contra absent
    simp [frame?_eq_none_iff.2 absent] at there
  obtain ⟨newer, older, split⟩ := List.append_of_mem listed
  have place : opened l.capacity log =
      newer ++ target :: (older ++ (opened l.capacity log).drop l.capacity) := by
    rw [← List.cons_append, ← List.append_assoc, ← split, List.take_append_drop]
  have few : newer.length < l.capacity := by
    have all := List.length_take_le l.capacity (opened l.capacity log)
    rw [split, List.length_append, List.length_cons] at all
    omega
  obtain ⟨before, now, since, rfl, earlier⟩ := exists_opening place
  refine ⟨now, since, newer, ⟨before, rfl, ?_, ?_⟩, few⟩
  · rw [earlier]
    exact not_mem_of_opened place
  · rw [earlier]
    exact place

/-! ## Reports -/

theorem gameTime_stamped (target now : Span) (since : List Notice) :
    (stamped target now since).gameTime = gameShare target now since := by
  rw [OpenFrame.gameTime, gameShare, presentation, presented_stamped, received_stamped]

theorem encodeTime_stamped (target now : Span) (since : List Notice) :
    (stamped target now since).encodeTime = encodeShare target now since := by
  rw [OpenFrame.encodeTime, encodeShare, presentation, presented_stamped, received_stamped,
    encoded_stamped]
  cases since.reverse.findSome? (·.encodedAt? target) <;> rfl

/-- The network's share is what the stages leave of the total. -/
theorem networkTime?_stamped (r : ClientReport) (now : Span) (since : List Notice) :
    (stamped r.target now since).networkTime? r =
      (Span.ofNanos? (stageNanos r now since)).map fun stages => r.total - stages := by
  rw [OpenFrame.networkTime?, gameTime_stamped, encodeTime_stamped]
  simp [Span.sum?, stageNanos]

/-- Whatever is noticed about frames in whatever order: those open are the last that were opened,
as many as there is room for, and of distinct targets.  A sample opens a frame if there is none of
its target, and else changes nothing; the frame stays, with the arrival of that sample, until as
many further frames are opened as there is room for, and there is no other.  A report whose target
has no frame is left out.  Any other is answered with what the stages leave of the total, and these
are told by the notices since the frame was opened; there is no answer if they leave the range of
times.  (In a build that stops when a count is full, there is none either if the report cannot be
counted.) -/
theorem frames_of_log (capacity : Nat) (interval : Span) (hostFrames : Float32)
    (overflow : Overflow) (log : List Notice) :
    let k := max capacity 1
    let l := (empty capacity interval hostFrames overflow).follow log
    (l.frames.map (·.target) = (opened k log).take k ∧ (l.frames.map (·.target)).Nodup ∧
      l.frames.length ≤ k) ∧
    (∀ target now, l.frame? target = none →
      (l.received target now).frame? target = some { target, received := now }) ∧
    (∀ target now, (l.frame? target).isSome → l.received target now = l) ∧
    (∀ target now since further, Opens k log target now since further →
      (further.length < k → ∃ f, l.frame? target = some f ∧ f.received = now) ∧
      (further.length = k → l.frame? target = none)) ∧
    (∀ target, (l.frame? target).isSome →
      ∃ now since further, Opens k log target now since further ∧ further.length < k) ∧
    (∀ r, l.frame? r.target = none → l.reported? r = some (l, none)) ∧
    ∀ r now since further, Opens k log r.target now since further → further.length < k →
      (stageNanos r now since < Span.limit → (overflow = .stops → l.CanCount 1 r.dropped.toNat) →
        ∃ m network, l.reported? r = some (m, some network) ∧
          network.nanos = r.total.nanos - stageNanos r now since ∧ m.frames = l.frames) ∧
      (Span.limit ≤ stageNanos r now since → l.reported? r = none) ∧
      (¬ l.CanCount 1 r.dropped.toNat → l.reported? r = none) := by
  intro k l
  have new : (empty capacity interval hostFrames overflow).frames = [] := rfl
  have room : (empty capacity interval hostFrames overflow).capacity = k := rfl
  obtain ⟨sized, targets⟩ := targets_follow new log
  rw [room] at sized targets
  refine ⟨⟨targets, nodup_targets_follow new log, ?_⟩, fun target now absent => ?_,
    fun target now there => ?_, fun target now since further opens => ⟨fun few => ?_, ?_⟩,
    fun target => exists_opens new, fun r => reported?_of_absent,
    fun r now since further opens few => ?_⟩
  · rw [← List.length_map (f := (·.target)), targets]
    exact List.length_take_le k _
  · have positive : 0 < l.capacity := by
      rw [sized]
      exact Nat.lt_of_lt_of_le Nat.zero_lt_one (Nat.le_max_right capacity 1)
    exact frame?_received (frame?_eq_none_iff.1 absent) positive now
  · refine received_of_mem ?_ now
    by_contra absent
    simp [frame?_eq_none_iff.2 absent] at there
  · exact ⟨_, opens.frame? new few, received_stamped ..⟩
  · exact opens.frame?_eq_none new
  · have opened := opens.frame? new few
    have full : ¬ l.CanCount 1 r.dropped.toNat → l.reported? r = none := reported?_of_full opened
    refine ⟨fun fits stops => ?_, fun exceeds => ?_, full⟩
    · have counted : l.CanCount 1 r.dropped.toNat := fun overflow' =>
        stops ((fixed_follow _ log).2.symm.trans overflow') overflow'
      have answer := reported?_of_frame? opened counted
      rw [networkTime?_stamped, Span.ofNanos?_of_lt fits] at answer
      exact ⟨_, _, answer, Span.nanos_sub .., rfl⟩
    · by_cases counted : l.CanCount 1 r.dropped.toNat
      · have answer := reported?_of_frame? opened counted
        rw [networkTime?_stamped, Span.ofNanos?_of_le exceeds] at answer
        exact answer
      · exact full counted

end Latency

end Headset
