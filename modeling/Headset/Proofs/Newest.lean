import Headset.History
import Headset.Proofs.Since
import Mathlib.Data.Finset.Card

/-!
# The newest samples

However a history is used, it holds the newest of the samples that were pushed since it was last
cleared: one for each time, the last that was pushed for it, as many as there is room for.  All
samples of a history without bounds stand in a line (`line`).  To drop the oldest after each push
is to drop them once at the end (`keep_insert_keep`), so a history is the end of that line
(`samples_follow`); what it answers is read off there (`newest_of_accesses`).
-/

namespace Headset.History

/-- What is done with a history. -/
inductive Access where
  | push (s : Sample)
  | sampleAt (time : Span)
  | latest
  | clear

/-- The history after an access; looking into it does not change it. -/
def access (h : History) : Access → History
  | .push s => h.push s
  | .clear => h.clear
  | .sampleAt _ => h
  | .latest => h

def follow (h : History) (accesses : List Access) : History := accesses.foldl access h

/-- The samples pushed, after one more access. -/
def Access.collect (pushes : List Sample) : Access → List Sample
  | .push s => pushes ++ [s]
  | .clear => []
  | .sampleAt _ => pushes
  | .latest => pushes

/-- The samples pushed since the last clear, in the order of their arrival. -/
def pushed (accesses : List Access) : List Sample := accesses.foldl Access.collect []

/-- `s` is the last sample pushed for its time. -/
def IsLast (pushes : List Sample) (s : Sample) : Prop :=
  Since (· = s) (fun t => t.time ≠ s.time) pushes

/-- The times of some samples. -/
def times (samples : List Sample) : Finset Span := (samples.map (·.time)).toFinset

/-- Each sample is of a later time than those before it. -/
def Sorted (samples : List Sample) : Prop := samples.Pairwise fun s t => s.time < t.time

/-- These are the samples of the `k` latest times: for each time the last one pushed, oldest time
first. -/
structure NewestOf (k : Nat) (pushes samples : List Sample) : Prop where
  sorted : Sorted samples
  mem_iff : ∀ s, s ∈ samples ↔
    IsLast pushes s ∧ ((times pushes).filter fun time => s.time < time).card < k
  length_eq : samples.length = min (times pushes).card k

/-- Of the samples that satisfy `p`, the one of the latest time. -/
def IsNewest (p : Sample → Prop) (samples : List Sample) (s : Sample) : Prop :=
  (s ∈ samples ∧ p s) ∧ ∀ t ∈ samples, p t → t.time ≤ s.time

variable {k : Nat} {s t : Sample} {l pushes : List Sample}

/-! ## Insertion -/

theorem mem_insert (h : t ∈ insert s l) : t = s ∨ t ∈ l := by
  induction l with
  | nil => simpa [insert] using h
  | cons u l ih =>
    unfold insert at h
    split at h
    · rcases List.mem_cons.1 h with rfl | h
      · simp
      · exact (ih h).imp_right (List.mem_cons_of_mem u)
    · split at h
      · exact (List.mem_cons.1 h).imp_right (List.mem_cons_of_mem u)
      · exact List.mem_cons.1 h

theorem time_lt_of_not (before : ¬ t.time < s.time) (other : t.time ≠ s.time) :
    s.time < t.time := by
  rw [Ne, ← Span.nanos_inj] at other
  rw [Span.lt_iff] at *
  omega

/-- A sample older than all others goes first. -/
theorem insert_eq_cons (h : ∀ t ∈ l, s.time < t.time) : insert s l = s :: l := by
  cases l with
  | nil => rfl
  | cons t l =>
    have later := Span.lt_iff.1 (h t (by simp))
    have notBefore : ¬ t.time < s.time := Nat.not_lt.2 (Nat.le_of_lt later)
    have other : t.time ≠ s.time := fun same => by simp [same] at later
    simp [insert, notBefore, other]

theorem Sorted.insert (h : Sorted l) (s : Sample) : Sorted (insert s l) := by
  induction l with
  | nil => simp [History.insert, Sorted]
  | cons t l ih =>
    obtain ⟨first, rest⟩ := List.pairwise_cons.1 h
    unfold History.insert
    split
    · next before =>
      refine List.pairwise_cons.2 ⟨fun u hu => ?_, ih rest⟩
      rcases mem_insert hu with rfl | hu
      · exact before
      · exact first u hu
    split
    · next same => exact List.pairwise_cons.2 ⟨fun u hu => same ▸ first u hu, rest⟩
    · next notBefore other =>
      have after := time_lt_of_not notBefore other
      refine List.pairwise_cons.2 ⟨fun u hu => ?_, h⟩
      rcases List.mem_cons.1 hu with rfl | hu
      · exact after
      · exact Nat.lt_trans after (first u hu)

/-- An inserted sample stands for its time; the samples of other times stay. -/
theorem mem_insert_iff (h : Sorted l) : t ∈ insert s l ↔ t = s ∨ t ∈ l ∧ t.time ≠ s.time := by
  induction l with
  | nil => simp [insert]
  | cons u l ih =>
    obtain ⟨first, rest⟩ := List.pairwise_cons.1 h
    have later : ∀ v ∈ l, v.time ≠ u.time := fun v hv same => by
      have lt := Span.lt_iff.1 (first v hv)
      simp [same] at lt
    unfold insert
    split
    · next before =>
      have other : u.time ≠ s.time := fun same => by simp [Span.lt_iff, same] at before
      rw [List.mem_cons, ih rest, List.mem_cons]
      constructor
      · rintro (rfl | rfl | ⟨ht, hs⟩)
        · exact .inr ⟨.inl rfl, other⟩
        · exact .inl rfl
        · exact .inr ⟨.inr ht, hs⟩
      · rintro (rfl | ⟨rfl | ht, hs⟩)
        · exact .inr (.inl rfl)
        · exact .inl rfl
        · exact .inr (.inr ⟨ht, hs⟩)
    split
    · next same =>
      rw [List.mem_cons, List.mem_cons, ← same]
      constructor
      · rintro (rfl | ht)
        · exact .inl rfl
        · exact .inr ⟨.inr ht, later t ht⟩
      · rintro (rfl | ⟨rfl | ht, hs⟩)
        · exact .inl rfl
        · exact absurd rfl hs
        · exact .inr ht
    · next notBefore other =>
      have after := time_lt_of_not notBefore other
      have absent : ∀ v ∈ u :: l, v.time ≠ s.time := by
        intro v hv same
        have lt : s.time.nanos < v.time.nanos := by
          rcases List.mem_cons.1 hv with rfl | hv
          · exact after
          · exact Nat.lt_trans after (first v hv)
        simp [same] at lt
      rw [List.mem_cons]
      exact or_congr_right ⟨fun ht => ⟨ht, absent t ht⟩, fun ht => ht.1⟩

theorem length_le_length_insert (s : Sample) (l : List Sample) :
    l.length ≤ (insert s l).length := by
  induction l with
  | nil => simp
  | cons t l ih =>
    unfold insert
    split
    · simpa using ih
    · split <;> simp

/-! ## The end of a line -/

/-- The last `k` samples. -/
def keep (k : Nat) (l : List Sample) : List Sample := l.drop (l.length - k)

theorem samples_push (h : History) (s : Sample) :
    (h.push s).samples = keep h.capacity (insert s h.samples) :=
  rfl

theorem keep_of_length_le (h : l.length ≤ k) : keep k l = l := by
  rw [keep, Nat.sub_eq_zero_of_le h, List.drop_zero]

/-- What stands before the last `k` samples makes no difference. -/
theorem keep_cons_of_le (h : k ≤ l.length) (s : Sample) : keep k (s :: l) = keep k l := by
  rw [keep, List.length_cons, Nat.sub_add_comm h, List.drop_succ_cons, keep]

theorem length_keep (k : Nat) (l : List Sample) : (keep k l).length = min l.length k := by
  rw [keep, List.length_drop]
  omega

theorem Sorted.keep (h : Sorted l) (k : Nat) : Sorted (keep k l) :=
  List.Pairwise.sublist (List.drop_sublist _ _) h

/-- A sample inserted into the last `k` of a line pushes the same one out as if it were inserted
into the whole line: what was dropped before can never be among the last `k` again. -/
theorem keep_insert_keep (h : Sorted l) (k : Nat) (s : Sample) :
    keep k (insert s (keep k l)) = keep k (insert s l) := by
  induction l with
  | nil => simp [keep]
  | cons t l ih =>
    by_cases room : (t :: l).length ≤ k
    · rw [keep_of_length_le room]
    have full : k ≤ l.length := by
      rw [List.length_cons] at room
      omega
    obtain ⟨first, rest⟩ := List.pairwise_cons.1 h
    rw [keep_cons_of_le full, ih rest, insert]
    split
    · rw [keep_cons_of_le (Nat.le_trans full (length_le_length_insert s l))]
    split
    · next same => rw [insert_eq_cons fun u hu => same ▸ first u hu]
    · next notBefore other =>
      have after := time_lt_of_not notBefore other
      rw [insert_eq_cons fun u hu => Nat.lt_trans after (first u hu), keep_cons_of_le full,
        keep_cons_of_le (Nat.le_succ_of_le full), keep_cons_of_le full]

/-- A sample is among the last `k` if fewer than `k` are of a later time. -/
theorem mem_keep_iff (h : Sorted l) :
    s ∈ keep k l ↔ s ∈ l ∧ l.countP (fun t => s.time < t.time) < k := by
  induction l with
  | nil => simp [keep]
  | cons t l ih =>
    obtain ⟨first, rest⟩ := List.pairwise_cons.1 h
    by_cases room : (t :: l).length ≤ k
    · rw [keep_of_length_le room]
      refine ⟨fun hs => ⟨hs, ?_⟩, fun hs => hs.1⟩
      -- the sample itself is not of a later time
      refine Nat.lt_of_lt_of_le (List.countP_lt_length_iff.2 ⟨s, hs, ?_⟩) room
      simp [Span.lt_iff]
    · have full : k ≤ l.length := by
        rw [List.length_cons] at room
        omega
      rw [keep_cons_of_le full, ih rest, List.mem_cons]
      constructor
      · rintro ⟨hs, few⟩
        have notLater : ¬ s.time < t.time := Nat.not_lt.2 (Nat.le_of_lt (first s hs))
        rw [List.countP_cons_of_neg (by simpa using notLater)]
        exact ⟨.inr hs, few⟩
      · rintro ⟨rfl | hs, few⟩
        · have all : l.countP (fun t => s.time < t.time) = l.length :=
            List.countP_eq_length.2 fun u hu => by simpa using first u hu
          rw [List.countP_cons, all] at few
          omega
        · refine ⟨hs, Nat.lt_of_le_of_lt ?_ few⟩
          rw [List.countP_cons]
          omega

/-! ## The line of all samples -/

/-- All samples in their places, none dropped. -/
def line (pushes : List Sample) : List Sample := pushes.foldl (fun l s => insert s l) []

theorem line_concat (pushes : List Sample) (s : Sample) :
    line (pushes ++ [s]) = insert s (line pushes) := by
  simp [line]

theorem sorted_line (pushes : List Sample) : Sorted (line pushes) := by
  induction pushes using List.reverseRecOn with
  | nil => exact List.Pairwise.nil
  | append_singleton pushes s ih =>
    rw [line_concat]
    exact ih.insert s

theorem isLast_concat :
    IsLast (pushes ++ [s]) t ↔ t = s ∨ IsLast pushes t ∧ t.time ≠ s.time := by
  rw [IsLast, since_concat, IsLast, eq_comm, ne_comm]

/-- The line holds for each time the last sample pushed. -/
theorem mem_line_iff : s ∈ line pushes ↔ IsLast pushes s := by
  induction pushes using List.reverseRecOn with
  | nil => simp [line, IsLast, not_since_nil]
  | append_singleton pushes t ih =>
    rw [line_concat, mem_insert_iff (sorted_line pushes), isLast_concat, ih]

theorem times_line (pushes : List Sample) : times (line pushes) = times pushes := by
  induction pushes using List.reverseRecOn with
  | nil => rfl
  | append_singleton pushes s ih =>
    ext time
    have before := Finset.ext_iff.1 ih time
    simp only [times, List.mem_toFinset, List.mem_map, line_concat,
      mem_insert_iff (sorted_line pushes)] at before ⊢
    constructor
    · rintro ⟨t, rfl | ⟨ht, -⟩, rfl⟩
      · exact ⟨t, by simp, rfl⟩
      · obtain ⟨u, hu, same⟩ := before.1 ⟨t, ht, rfl⟩
        exact ⟨u, by simp [hu], same⟩
    · rintro ⟨t, ht, rfl⟩
      by_cases same : t.time = s.time
      · exact ⟨s, .inl rfl, same.symm⟩
      · rcases List.mem_append.1 ht with ht | ht
        · obtain ⟨u, hu, hut⟩ := before.2 ⟨t, ht, rfl⟩
          exact ⟨u, .inr ⟨hu, hut ▸ same⟩, hut⟩
        · simp at ht
          simp [ht] at same

theorem Sorted.nodup_times (h : Sorted l) : (l.map (·.time)).Nodup := by
  refine List.pairwise_map.2 (List.Pairwise.imp (fun {s t} lt same => ?_) h)
  simp [Span.lt_iff, same] at lt

theorem card_times (pushes : List Sample) : (times pushes).card = (line pushes).length := by
  rw [← times_line, times, List.toFinset_card_of_nodup (sorted_line pushes).nodup_times,
    List.length_map]

/-- How many times are later than `time`. -/
theorem card_later (pushes : List Sample) (time : Span) :
    ((times pushes).filter fun u => time < u).card =
      (line pushes).countP fun t => time < t.time := by
  have nodup : (((line pushes).filter fun t => time < t.time).map (·.time)).Nodup :=
    Sorted.nodup_times (List.Pairwise.filter _ (sorted_line pushes))
  have same : (times pushes).filter (fun u => time < u) =
      (((line pushes).filter fun t => time < t.time).map (·.time)).toFinset := by
    rw [← times_line]
    ext u
    simp only [times, Finset.mem_filter, List.mem_toFinset, List.mem_map, List.mem_filter,
      decide_eq_true_eq]
    constructor
    · rintro ⟨⟨t, ht, rfl⟩, later⟩
      exact ⟨t, ⟨ht, later⟩, rfl⟩
    · rintro ⟨t, ⟨ht, later⟩, rfl⟩
      exact ⟨⟨t, ht, rfl⟩, later⟩
  rw [same, List.toFinset_card_of_nodup nodup, List.length_map, List.countP_eq_length_filter]

theorem newestOf_keep_line (k : Nat) (pushes : List Sample) :
    NewestOf k pushes (keep k (line pushes)) where
  sorted := (sorted_line pushes).keep k
  mem_iff s := by rw [mem_keep_iff (sorted_line pushes), mem_line_iff, card_later]
  length_eq := by rw [length_keep, card_times]

/-! ## Runs of accesses -/

theorem capacity_access (h : History) (x : Access) : (h.access x).capacity = h.capacity := by
  cases x <;> rfl

/-- An access takes a history from the end of a line to the end of the line after it. -/
theorem samples_access {h : History} (line_eq : h.samples = keep h.capacity (line pushes))
    (x : Access) : (h.access x).samples = keep h.capacity (line (x.collect pushes)) := by
  cases x with
  | push s =>
    rw [access, samples_push, line_eq, keep_insert_keep (sorted_line pushes), Access.collect,
      line_concat]
  | clear => simp [access, clear, Access.collect, line, keep]
  | sampleAt | latest => exact line_eq

theorem samples_follow (capacity : Nat) (accesses : List Access) :
    ((empty capacity).follow accesses).capacity = max capacity 1 ∧
      ((empty capacity).follow accesses).samples =
        keep (max capacity 1) (line (pushed accesses)) := by
  induction accesses using List.reverseRecOn with
  | nil => exact ⟨rfl, by simp [follow, pushed, line, keep, empty]⟩
  | append_singleton accesses x ih =>
    obtain ⟨room, line_eq⟩ := ih
    simp only [follow, pushed, List.foldl_append, List.foldl_cons, List.foldl_nil] at *
    refine ⟨(capacity_access _ x).trans room, ?_⟩
    rw [← room] at line_eq
    rw [samples_access line_eq x, room]

/-! ## Answers -/

/-- What is at or before a time stands in front. -/
theorem Sorted.takeWhile_eq_filter (h : Sorted l) (time : Span) :
    l.takeWhile (fun s => decide (s.time ≤ time)) = l.filter fun s => decide (s.time ≤ time) := by
  induction l with
  | nil => rfl
  | cons t l ih =>
    obtain ⟨first, rest⟩ := List.pairwise_cons.1 h
    by_cases early : t.time ≤ time
    · simp [early, ih rest]
    · have none : ∀ u ∈ l, ¬ u.time ≤ time := fun u hu => by
        have lt := first u hu
        rw [Span.lt_iff] at lt
        rw [Span.le_iff] at *
        omega
      simpa [early] using none

/-- The last of a line is the newest. -/
theorem Sorted.getLast?_eq_some_iff (h : Sorted l) :
    l.getLast? = some s ↔ s ∈ l ∧ ∀ t ∈ l, t.time ≤ s.time := by
  rcases List.eq_nil_or_concat' l with rfl | ⟨l, u, rfl⟩
  · simp
  have before : ∀ t ∈ l, t.time < u.time := by
    simpa using (List.pairwise_append.1 h).2.2
  rw [List.getLast?_append, List.getLast?_singleton, Option.some_or, Option.some.injEq]
  constructor
  · rintro rfl
    refine ⟨by simp, fun t ht => ?_⟩
    rcases List.mem_append.1 ht with ht | ht
    · exact Nat.le_of_lt (before t ht)
    · obtain rfl : t = u := by simpa using ht
      exact Nat.le_refl _
  · rintro ⟨hs, newest⟩
    rcases List.mem_append.1 hs with hs | hs
    · exact absurd (newest u (by simp)) (Nat.not_le.2 (before s hs))
    · exact (by simpa using hs : s = u).symm

theorem Sorted.sampleAt_eq_some_iff {h : History} (sorted : Sorted h.samples) (time : Span)
    (s : Sample) : h.sampleAt time = some s ↔ IsNewest (fun t => t.time ≤ time) h.samples s := by
  have early : Sorted (h.samples.filter fun s => decide (s.time ≤ time)) :=
    List.Pairwise.filter _ sorted
  rw [sampleAt, sorted.takeWhile_eq_filter, early.getLast?_eq_some_iff]
  simp [IsNewest]

theorem Sorted.sampleAt_eq_none_iff {h : History} (sorted : Sorted h.samples) (time : Span) :
    h.sampleAt time = none ↔ ∀ s ∈ h.samples, ¬ s.time ≤ time := by
  rw [sampleAt, sorted.takeWhile_eq_filter, List.getLast?_eq_none_iff, List.filter_eq_nil_iff]
  simp

/-- However a history was used, it holds the newest samples of those pushed since the last clear, as
many as there is room for; it answers for a time with the newest one up to then, if there is any,
and its latest is the newest of all. -/
theorem newest_of_accesses (capacity : Nat) (accesses : List Access) :
    let h := (empty capacity).follow accesses
    NewestOf (max capacity 1) (pushed accesses) h.samples ∧
    h.size ≤ max capacity 1 ∧
    (∀ time s, h.sampleAt time = some s ↔ IsNewest (fun t => t.time ≤ time) h.samples s) ∧
    (∀ time, h.sampleAt time = none ↔ ∀ s ∈ h.samples, ¬ s.time ≤ time) ∧
    (∀ s, h.latest = some s ↔ IsNewest (fun _ => True) h.samples s) ∧
    (h.latest = none ↔ pushed accesses = []) := by
  intro h
  have newest : NewestOf (max capacity 1) (pushed accesses) h.samples := by
    rw [(samples_follow capacity accesses).2]
    exact newestOf_keep_line _ _
  refine ⟨newest, ?_, newest.sorted.sampleAt_eq_some_iff, newest.sorted.sampleAt_eq_none_iff,
    fun s => ?_, ?_⟩
  · rw [size, newest.length_eq]
    exact Nat.min_le_right _ _
  · rw [latest, newest.sorted.getLast?_eq_some_iff]
    simp [IsNewest]
  · have card : h.samples.length = min (times (pushed accesses)).card (max capacity 1) :=
      newest.length_eq
    have nothing : (times (pushed accesses)).card = 0 ↔ pushed accesses = [] := by
      simp [times]
    rw [latest, List.getLast?_eq_none_iff, ← List.length_eq_zero_iff, card, ← nothing]
    omega

end Headset.History
