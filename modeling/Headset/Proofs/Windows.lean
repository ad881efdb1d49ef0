import Headset.Proofs.Frames
import Headset.Proofs.Since
import Mathlib.Data.List.DropRight

/-!
# The windows of the reports

A report counts if its frame is open when it comes in.  `accepted` lists those of a log that do,
each with the notices before it, and what such a report adds to a window is told by these
(`IsShare`).  The five windows hold the shares of the same reports, the last `k` that counted
(`Latency.Filled`), and nothing else in a log changes them.  So the averages, the offset and the
snapshot are those of the last `k` reports (`windows_of_log`).
-/

namespace Headset

/-- What a report is split into, with a window for each. -/
inductive Share where
  | total | game | encode | network | decode

/-- The average of no values is zero.  That of others is their sum, divided by their number. -/
def Span.IsAverage (values : List Span) (average : Span) : Prop :=
  (values = [] ∧ average = .zero) ∨
    (values ≠ [] ∧ ∃ sum : Span, sum.nanos = values.foldl (fun n v => n + v.nanos) 0 ∧
      sum.div? values.length = some average)

def Notice.report? : Notice → Option ClientReport
  | .reported r => some r
  | _ => none

namespace Window

variable {w : Window}

theorem average?_eq_some_iff {average : Span} :
    w.average? = some average ↔ Span.IsAverage w.values average := by
  have summed (sum : Span) : Span.sum? w.values = some sum ↔
      sum.nanos = w.values.foldl (fun n v => n + v.nanos) 0 := by
    unfold Span.sum? Span.ofNanos?
    split
    · rw [Option.some.injEq, ← Span.nanos_inj, eq_comm]
    · next exceeds =>
      have := sum.nanos_lt
      simp only [Span.limit] at exceeds
      simp only [reduceCtorEq, false_iff]
      omega
  unfold average? Span.IsAverage
  by_cases unfilled : w.values = []
  · simp [unfilled, eq_comm]
  · simp [unfilled, Option.bind_eq_some_iff, summed]

/-- A window that is in line with the end of a list stays so when both get one more. -/
theorem forall₂_submit {α : Type} {R : α → Span → Prop} {xs : List α} {x : α} {v : Span}
    (room : w.capacity ≠ 0) (h : List.Forall₂ R (xs.rtake w.capacity) w.values) (hx : R x v) :
    List.Forall₂ R ((xs ++ [x]).rtake w.capacity) (w.submit v).values := by
  obtain ⟨k, hk⟩ := Nat.exists_eq_succ_of_ne_zero room
  have size := h.length_eq
  rw [hk] at h size ⊢
  rw [List.rtake, List.length_drop] at size
  rw [List.rtake_concat_succ, submit, hk]
  refine List.rel_append ?_ (.cons hx .nil)
  split
  · next full =>
    have newer : xs.rtake k = (xs.rtake (k + 1)).drop 1 := by
      have later : xs.length - k = xs.length - (k + 1) + 1 := by omega
      rw [List.rtake, List.rtake, List.drop_drop, later]
    rw [newer, ← List.drop_one]
    exact List.forall₂_drop 1 h
  · next part =>
    have short : xs.length - k = xs.length - (k + 1) := by omega
    rwa [List.rtake, short]

end Window

theorem Span.IsAverage.unique {values : List Span} {average average' : Span}
    (h : Span.IsAverage values average) (k : Span.IsAverage values average') :
    average = average' := by
  have found := Window.average?_eq_some_iff (w := ⟨0, values⟩).2 h
  rw [Window.average?_eq_some_iff (w := ⟨0, values⟩).2 k] at found
  exact (Option.some.inj found).symm

namespace Latency

def window (l : Latency) : Share → Window
  | .total => l.total
  | .game => l.game
  | .encode => l.encode
  | .network => l.network
  | .decode => l.decode

/-- Takes in a notice, if times do not leave the range. -/
def notice? (l : Latency) : Notice → Option Latency
  | .reported r => (l.reported? r).map (·.1)
  | n => some (l.notice n)

def follow? (l : Latency) (log : List Notice) : Option Latency := log.foldlM notice? l

/-- A notice counts if it is a report whose frame is open after those before. -/
def accepted? (k : Nat) (x : List Notice × Notice) : Option (List Notice × ClientReport) :=
  (x.2.report?.filter fun r => r.target ∈ (opened k x.1).take k).map (x.1, ·)

/-- The reports that count, each with what was noticed before. -/
def accepted (k : Nat) (log : List Notice) : List (List Notice × ClientReport) :=
  (withEarlier log).filterMap (accepted? k)

/-- What the stages leave of the total. -/
def networkShare (r : ClientReport) (now : Span) (since : List Notice) : Span :=
  ⟨r.total.nanos - stageNanos r now since, by have := r.total.nanos_lt; omega⟩

/-- What of a report goes into a window, if its frame came in at `now` and the notices `since`
followed. -/
def share (r : ClientReport) (now : Span) (since : List Notice) : Share → Span
  | .total => r.total
  | .game => gameShare r.target now since
  | .encode => encodeShare r.target now since
  | .network => networkShare r now since
  | .decode => r.decode

/-- What of a report goes into a window, by the frame that was open for it. -/
def IsShare (k : Nat) (s : Share) (x : List Notice × ClientReport) (v : Span) : Prop :=
  ∃ now since further, Opens k x.1 x.2.target now since further ∧ further.length < k ∧
    v = share x.2 now since s

/-- What a snapshot tells, with the averages of the windows. -/
def overview (l : Latency) (averages : Share → Span) : LatencySnapshot where
  total := (averages .total).toMillis
  game := (averages .game).toMillis
  encode := (averages .encode).toMillis
  network := (averages .network).toMillis
  decode := (averages .decode).toMillis
  hostPipeline := l.hostPipeline.toMillis
  poseOffset := (l.hostPipeline - averages .total).toMillis
  reports := l.reports
  framesDropped := l.framesDropped
  historySize := l.frames.length

/-- The frames that some reports miss, all together. -/
def missed (reports : List ClientReport) : Nat :=
  reports.foldr (fun r n => r.dropped.toNat + n) 0

/-- The windows and counts are those of the reports that a log has.  A count that stops when it is
full has not started again from zero. -/
structure Filled (k : Nat) (log : List Notice) (l : Latency) : Prop where
  room : ∀ s, (l.window s).capacity = k
  held : ∀ s, List.Forall₂ (IsShare k s) ((accepted k log).rtake k) (l.window s).values
  reports : l.reports = .ofNat (accepted k log).length
  dropped : l.framesDropped = .ofNat (missed ((accepted k log).map (·.2)))
  exact : l.overflow = .stops → (accepted k log).length < UInt64.size ∧
    missed ((accepted k log).map (·.2)) < UInt64.size

variable {k : Nat} {l m : Latency} {log : List Notice} {n : Notice} {r : ClientReport}

/-! ## Logs that are followed to their end -/

theorem notice_of_notice? (h : l.notice? n = some m) : l.notice n = m := by
  cases n with
  | reported r =>
    show ((l.reported? r).map (·.1)).getD l = m
    rw [show (l.reported? r).map (·.1) = some m from h, Option.getD_some]
  | received | presented | encoded => exact Option.some.inj h

theorem follow?_append (l : Latency) (log since : List Notice) :
    l.follow? (log ++ since) = (l.follow? log).bind (follow? · since) := by
  simp [follow?, List.foldlM_append]

theorem follow?_concat (l : Latency) (log : List Notice) (n : Notice) :
    l.follow? (log ++ [n]) = (l.follow? log).bind (notice? · n) := by
  simp [follow?, List.foldlM_append]

theorem follow_of_follow? (h : l.follow? log = some m) : l.follow log = m := by
  induction log using List.reverseRecOn generalizing m with
  | nil => exact Option.some.inj h
  | append_singleton log n ih =>
    rw [follow?_concat] at h
    obtain ⟨before, hb, hn⟩ := Option.bind_eq_some_iff.1 h
    rw [follow_concat, ih hb, notice_of_notice? hn]

/-- Only reports may have no answer. -/
theorem follow?_of_unreported (h : ∀ n ∈ log, n.report? = none) :
    l.follow? log = some (l.follow log) := by
  induction log using List.reverseRecOn with
  | nil => rfl
  | append_singleton log n ih =>
    rw [follow?_concat, ih fun m hm => h m (List.mem_append_left _ hm), Option.bind_some,
      follow_concat]
    have other := h n (by simp)
    cases n with
    | reported r => cases other
    | received | presented | encoded => rfl

/-! ## Reports that count -/

theorem accepted_concat (k : Nat) (log : List Notice) (n : Notice) :
    accepted k (log ++ [n]) = accepted k log ++ (accepted? k (log, n)).toList := by
  rw [accepted, withEarlier_concat, List.filterMap_append, ← accepted]
  cases h : accepted? k (log, n) <;> simp [h]

theorem accepted_concat_of_other (h : n.report? = none) :
    accepted k (log ++ [n]) = accepted k log := by
  simp [accepted_concat, accepted?, h]

theorem accepted_concat_of_mem (h : r.target ∈ (opened k log).take k) :
    accepted k (log ++ [.reported r]) = accepted k log ++ [(log, r)] := by
  simp [accepted_concat, accepted?, Notice.report?, h]

theorem accepted_concat_of_not_mem (h : r.target ∉ (opened k log).take k) :
    accepted k (log ++ [.reported r]) = accepted k log := by
  simp [accepted_concat, accepted?, Notice.report?, h]

theorem missed_append (reports later : List ClientReport) :
    missed (reports ++ later) = missed reports + missed later := by
  induction reports with
  | nil => exact (Nat.zero_add _).symm
  | cons r reports ih =>
    show r.dropped.toNat + missed (reports ++ later) = r.dropped.toNat + missed reports + _
    rw [ih, Nat.add_assoc]

theorem missed_singleton (r : ClientReport) : missed [r] = r.dropped.toNat := rfl

theorem Opens.mem_take {target now : Span} {since : List Notice} {further : List Span}
    (h : Opens k log target now since further) (few : further.length < k) :
    target ∈ (opened k log).take k := by
  obtain ⟨before, -, -, place⟩ := h
  rw [place]
  apply List.mem_of_getElem? (i := further.length)
  rw [List.getElem?_take_of_lt few, List.getElem?_append_right (Nat.le_refl _), Nat.sub_self,
    List.getElem?_cons_zero]

/-- The frame that is open for a report is the same, however its opening is found in the log. -/
theorem IsShare.unique {s : Share} {x : List Notice × ClientReport} {v w : Span}
    (hv : IsShare k s x v) (hw : IsShare k s x w) : v = w := by
  obtain ⟨now, since, further, opens, few, rfl⟩ := hv
  obtain ⟨now', since', further', opens', few', rfl⟩ := hw
  have found := opens.frame? (l := { (default : Latency) with capacity := k }) rfl few
  have found' := opens'.frame? (l := { (default : Latency) with capacity := k }) rfl few'
  have frame : stamped x.2.target now since = stamped x.2.target now' since' :=
    Option.some.inj (found.symm.trans found')
  have game : gameShare x.2.target now since = gameShare x.2.target now' since' := by
    rw [← gameTime_stamped, frame, gameTime_stamped]
  have encode : encodeShare x.2.target now since = encodeShare x.2.target now' since' := by
    rw [← encodeTime_stamped, frame, encodeTime_stamped]
  cases s with
  | total | decode => rfl
  | game => exact game
  | encode => exact encode
  | network => simp [share, networkShare, stageNanos, game, encode]

/-- The window of the total holds the totals themselves. -/
theorem totals_of_shares {xs : List (List Notice × ClientReport)} {values : List Span}
    (h : List.Forall₂ (IsShare k .total) xs values) : values = xs.map (·.2.total) := by
  induction h with
  | nil => rfl
  | cons share _ ih =>
    obtain ⟨-, -, -, -, -, rfl⟩ := share
    rw [ih, List.map_cons]
    rfl

/-! ## One notice -/

/-- A notice that is no report leaves the windows and counts as they are. -/
theorem windows_notice (h : n.report? = none) (l : Latency) :
    (l.notice n).window = l.window ∧ (l.notice n).reports = l.reports ∧
      (l.notice n).framesDropped = l.framesDropped := by
  cases n with
  | received target now =>
    by_cases there : target ∈ l.frames.map (·.target)
    · rw [notice, received_of_mem there]
      exact ⟨rfl, rfl, rfl⟩
    · rw [notice, received_of_not_mem there]
      exact ⟨rfl, rfl, rfl⟩
  | presented | encoded => exact ⟨rfl, rfl, rfl⟩
  | reported r => cases h

theorem networkTime?_eq_some {now network : Span} {since : List Notice}
    (h : (stamped r.target now since).networkTime? r = some network) :
    network = networkShare r now since := by
  rw [networkTime?_stamped] at h
  obtain ⟨stages, summed, rfl⟩ := Option.map_eq_some_iff.1 h
  have sum : stages.nanos = stageNanos r now since := by
    unfold Span.ofNanos? at summed
    split at summed
    · cases summed
      rfl
    · cases summed
  rw [← Span.nanos_inj, Span.nanos_sub, sum]
  rfl

/-- A report on the frame that a sample opened adds a share to each window. -/
theorem window_submit (l : Latency) (r : ClientReport) (now : Span) (since : List Notice)
    (s : Share) :
    (l.submit (stamped r.target now since) r (networkShare r now since)).window s =
      (l.window s).submit (share r now since s) := by
  cases s with
  | game => exact congrArg l.game.submit (gameTime_stamped ..)
  | encode => exact congrArg l.encode.submit (encodeTime_stamped ..)
  | total | network | decode => rfl

theorem filled_empty (capacity : Nat) (interval : Span) (hostFrames : Float32)
    (overflow : Overflow) :
    Filled (max capacity 1) [] (empty capacity interval hostFrames overflow) := by
  have unfilled (s : Share) :
      (empty capacity interval hostFrames overflow).window s = .empty (max capacity 1) := by
    cases s <;> rfl
  have room : 0 < UInt64.size := by decide
  refine ⟨fun s => ?_, fun s => ?_, rfl, rfl, fun _ => ⟨room, room⟩⟩
  · rw [unfilled]
    rfl
  · rw [unfilled, show accepted (max capacity 1) [] = [] from rfl, List.rtake_nil]
    exact .nil

/-- What does not count leaves the windows in line with the log. -/
theorem Filled.keep (filled : l.Filled k log) (same : accepted k (log ++ [n]) = accepted k log)
    (windows : m.window = l.window) (reports : m.reports = l.reports)
    (dropped : m.framesDropped = l.framesDropped) (overflow : m.overflow = l.overflow) :
    m.Filled k (log ++ [n]) where
  room s := by rw [windows, filled.room]
  held s := by
    rw [same, windows]
    exact filled.held s
  reports := by rw [same, reports, filled.reports]
  dropped := by rw [same, dropped, filled.dropped]
  exact := by
    rw [same, overflow]
    exact filled.exact

/-- A report on an open frame puts a share of its own into each window. -/
theorem Filled.submit {now : Span} {since : List Notice} {further : List Span} (room : k ≠ 0)
    (filled : l.Filled k log) (opens : Opens k log r.target now since further)
    (few : further.length < k) (counted : l.CanCount 1 r.dropped.toNat) :
    (l.submit (stamped r.target now since) r (networkShare r now since)).Filled k
      (log ++ [.reported r]) := by
  have more := accepted_concat_of_mem (opens.mem_take few)
  have missed' : missed ((accepted k (log ++ [.reported r])).map (·.2)) =
      missed ((accepted k log).map (·.2)) + r.dropped.toNat := by
    rw [more, List.map_append, missed_append, List.map_singleton, missed_singleton]
  refine ⟨fun s => ?_, fun s => ?_, ?_, ?_, fun stops => ?_⟩
  · rw [window_submit]
    exact filled.room s
  · have held := filled.held s
    rw [← filled.room s] at held room
    rw [more, window_submit, ← filled.room s]
    apply Window.forall₂_submit room held
    rw [filled.room s]
    exact ⟨now, since, further, opens, few, rfl⟩
  · rw [more, List.length_append, UInt64.ofNat_add, ← filled.reports]
    rfl
  · rw [missed', UInt64.ofNat_add, ← filled.dropped, UInt64.ofNat_uInt32ToNat]
    rfl
  · obtain ⟨fits, fits'⟩ := filled.exact stops
    obtain ⟨room, room'⟩ := counted stops
    rw [filled.reports, UInt64.toNat_ofNat_of_lt' fits] at room
    rw [filled.dropped, UInt64.toNat_ofNat_of_lt' fits'] at room'
    rw [missed', more, List.length_append]
    exact ⟨room, room'⟩

theorem Filled.notice? {start : Latency} (new : start.frames = []) (room : start.capacity ≠ 0)
    (told : start.follow? log = some l) (filled : l.Filled start.capacity log)
    (h : l.notice? n = some m) : m.Filled start.capacity (log ++ [n]) := by
  have followed := follow_of_follow? told
  cases hn : n.report? with
  | none =>
    obtain ⟨windows, reports, dropped⟩ := windows_notice hn l
    have overflow := (fixed_notice l n).2.2
    rw [notice_of_notice? h] at windows reports dropped overflow
    exact filled.keep (accepted_concat_of_other hn) windows reports dropped overflow
  | some r =>
    obtain rfl : n = .reported r := by
      cases n <;> simp_all [Notice.report?]
    obtain ⟨⟨m, network⟩, reported, rfl⟩ := Option.map_eq_some_iff.1 h
    rcases reported?_cases reported with
      ⟨absent, rfl, -⟩ | ⟨f, value, found, counted, hv, rfl, -⟩
    · have closed : r.target ∉ (opened start.capacity log).take start.capacity := by
        rw [← (targets_follow new log).2, followed]
        exact frame?_eq_none_iff.1 absent
      exact filled.keep (accepted_concat_of_not_mem closed) rfl rfl rfl rfl
    · -- the frame was opened by a sample of the log, which tells what is in each share
      have there : ((start.follow log).frame? r.target).isSome := by
        rw [followed, found]
        rfl
      obtain ⟨now, since, further, opens, few⟩ := exists_opens new there
      have located := opens.frame? new few
      rw [followed, found, Option.some.injEq] at located
      subst located
      rw [networkTime?_eq_some hv]
      exact filled.submit room opens few counted

/-! ## All notices -/

theorem filled_of_follow? {capacity : Nat} {interval : Span} {hostFrames : Float32}
    {overflow : Overflow}
    (h : (empty capacity interval hostFrames overflow).follow? log = some l) :
    l.Filled (max capacity 1) log := by
  induction log using List.reverseRecOn generalizing l with
  | nil =>
    obtain rfl := Option.some.inj h
    exact filled_empty ..
  | append_singleton log n ih =>
    rw [follow?_concat] at h
    obtain ⟨before, told, last⟩ := Option.bind_eq_some_iff.1 h
    have new : (empty capacity interval hostFrames overflow).frames = [] := rfl
    have room : (empty capacity interval hostFrames overflow).capacity ≠ 0 := by
      show max capacity 1 ≠ 0
      omega
    exact Filled.notice? new room told (ih told) last

theorem snapshot?_eq_some_iff {snapshot : LatencySnapshot} :
    l.snapshot? = some snapshot ↔ ∃ averages : Share → Span,
      (∀ s, Span.IsAverage (l.window s).values (averages s)) ∧ snapshot = l.overview averages := by
  simp only [snapshot?, Option.bind_eq_bind, Option.bind_eq_some_iff, Option.pure_def,
    Option.some.injEq, Window.average?_eq_some_iff]
  constructor
  · rintro ⟨total, ht, game, hg, encode, he, network, hn, decode, hd, rfl⟩
    let averages : Share → Span
      | .total => total
      | .game => game
      | .encode => encode
      | .network => network
      | .decode => decode
    exact ⟨averages, fun s => by cases s <;> assumption, rfl⟩
  · rintro ⟨averages, h, rfl⟩
    exact ⟨_, h .total, _, h .game, _, h .encode, _, h .network, _, h .decode, rfl⟩

/-- Whatever is noticed about frames in whatever order, as long as times stay in range: each window
holds the shares of the last `k` reports that counted, in their order, or of all if they were
fewer; a report has one share for each window.  The reports that counted are counted, and the frames
that they miss, in 64 bits each: a count is the number itself in a build that stops when it is full,
and in one that goes on from zero as long as the number has 64 bits.  The averages are those of the
windows, and the offset is what the average of the total leaves of the host's grant.  A report on a
frame that is not open changes nothing. -/
theorem windows_of_log {capacity : Nat} {interval : Span} {hostFrames : Float32}
    {overflow : Overflow} {log : List Notice} {l : Latency}
    (returned : (empty capacity interval hostFrames overflow).follow? log = some l) :
    let k := max capacity 1
    let reports := accepted k log
    let missed := missed (reports.map (·.2))
    l.frames.map (·.target) = (opened k log).take k ∧
    (∀ s, List.Forall₂ (IsShare k s) (reports.rtake k) (l.window s).values ∧
      (∀ x v w, IsShare k s x v → IsShare k s x w → v = w) ∧
      (l.window s).values.length = min reports.length k) ∧
    l.reports = .ofNat reports.length ∧
    l.framesDropped = .ofNat missed ∧
    (overflow = .stops ∨ reports.length < UInt64.size → l.reports.toNat = reports.length) ∧
    (overflow = .stops ∨ missed < UInt64.size → l.framesDropped.toNat = missed) ∧
    l.hostPipeline = (empty capacity interval hostFrames overflow).hostPipeline ∧
    (∀ s average, (l.window s).average? = some average ↔
      Span.IsAverage (l.window s).values average) ∧
    (∀ offset, l.poseOffset? = some offset ↔ ∃ average,
      Span.IsAverage (l.window .total).values average ∧ l.hostPipeline - average = offset) ∧
    (∀ snapshot, l.snapshot? = some snapshot ↔ ∃ averages : Share → Span,
      (∀ s, Span.IsAverage (l.window s).values (averages s)) ∧ snapshot = l.overview averages) ∧
    ∀ r, r.target ∉ l.frames.map (·.target) → l.reported? r = some (l, none) := by
  intro k reports missed
  have filled := filled_of_follow? returned
  have followed := follow_of_follow? returned
  obtain ⟨host, kind⟩ := fixed_follow (empty capacity interval hostFrames overflow) log
  rw [followed] at host kind
  refine ⟨?_, fun s => ⟨filled.held s, fun x v w => IsShare.unique, ?_⟩, filled.reports,
    filled.dropped, fun fits => ?_, fun fits => ?_, host,
    fun s average => Window.average?_eq_some_iff, fun offset => ?_,
    fun snapshot => snapshot?_eq_some_iff,
    fun r absent => reported?_of_absent (frame?_eq_none_iff.2 absent)⟩
  · rw [← followed]
    exact (targets_follow rfl log).2
  · have size : reports.length - (reports.length - k) = (l.window s).values.length := by
      rw [← (filled.held s).length_eq, List.rtake, List.length_drop]
    omega
  · have fits := fits.elim (fun stops => (filled.exact (kind.trans stops)).1) id
    rw [filled.reports, UInt64.toNat_ofNat_of_lt' fits]
  · have fits := fits.elim (fun stops => (filled.exact (kind.trans stops)).2) id
    rw [filled.dropped, UInt64.toNat_ofNat_of_lt' fits]
  · rw [poseOffset?, Option.map_eq_some_iff]
    simp only [window, Window.average?_eq_some_iff]

/-- Of three frames with room for two, the first has to leave, and its second report comes late. -/
def crowded : List Notice :=
  let report (frame total : Span) : Notice :=
    .reported { (default : ClientReport) with target := frame, total, dropped := 1 }
  [.received ⟨1, by omega⟩ .zero, report ⟨1, by omega⟩ ⟨50, by omega⟩,
    .received ⟨2, by omega⟩ .zero, report ⟨2, by omega⟩ ⟨30, by omega⟩,
    .received ⟨3, by omega⟩ .zero, report ⟨1, by omega⟩ ⟨90, by omega⟩,
    report ⟨3, by omega⟩ ⟨10, by omega⟩]

/-- The window of the total holds the last two of the three reports that count. -/
theorem windows_of_crowded : ∃ l, (empty 2 .zero 0 .stops).follow? crowded = some l ∧
    l.reports = 3 ∧ l.framesDropped = 3 ∧ (l.window .total).values.length = 2 ∧
    (l.window .total).values.map (·.nanos) = [30, 10] ∧
    l.total.average? = some ⟨20, by omega⟩ := by
  have computed : ((empty 2 .zero 0 .stops).follow? crowded).any fun l =>
      decide ((l.window .total).values.map (·.nanos) = [30, 10] ∧
        l.total.average? = some ⟨20, by omega⟩) := by
    decide +kernel
  obtain ⟨l, followed, computed⟩ := (Option.any_eq_true _ _).1 computed
  obtain ⟨values, average⟩ := of_decide_eq_true computed
  obtain ⟨-, held, reports, dropped, -⟩ := windows_of_log followed
  have three : (accepted 2 crowded).length = 3 := by decide +kernel
  have missing : missed ((accepted 2 crowded).map (·.2)) = 3 := by decide +kernel
  refine ⟨l, followed, reports.trans (congrArg _ three), dropped.trans (congrArg _ missing), ?_,
    values, average⟩
  rw [(held .total).2.2]
  exact congrArg (min · 2) three

end Latency

end Headset
