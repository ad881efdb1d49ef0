import Headset.Proofs.Coherence
import Headset.Proofs.Responses
import Headset.Proofs.Windows

/-!
# Inquiries of the host

A request is read as a word in any mixture of cases with padding around it
(`Inquiry.parse?_eq_some_iff`).  Its answer does not depend on the buffer, which holds as much of it
as there is room for.  A request for a keyframe has the encoder asked for one, if there is an
encoder, and counts that; no other request changes anything (`inquiry_of_run`).
-/

namespace Headset

namespace Inquiry

/-! ## Requests -/

/-- The code points of the property `White_Space`. -/
def whiteSpace : List Nat :=
  [0x9, 0xa, 0xb, 0xc, 0xd, 0x20, 0x85, 0xa0, 0x1680, 0x2000, 0x2001, 0x2002, 0x2003, 0x2004,
    0x2005, 0x2006, 0x2007, 0x2008, 0x2009, 0x200a, 0x2028, 0x2029, 0x202f, 0x205f, 0x3000]

/-- White space or a zero character. -/
def Pads (c : Char) : Prop := c.toNat ∈ whiteSpace ∨ c.toNat = 0

/-- A letter `l`, or the capital letter that comes 32 places before it. -/
def IsVariant (c l : Char) : Prop := c = l ∨ c.toNat + 32 = l.toNat

/-- A request for this: its word, in any mixture of cases, with padding around it. -/
inductive Asks (i : Inquiry) (request : String) : Prop
  | intro {before word after : List Char} (split : request.toList = before ++ word ++ after)
    (hb : ∀ c ∈ before, Pads c) (hw : List.Forall₂ IsVariant word i.word.toList)
    (ha : ∀ c ∈ after, Pads c)

theorem isPadding_iff {c : Char} : isPadding c = true ↔ Pads c := by
  have zero : c = '\x00' ↔ c.toNat = 0 := by
    rw [← Char.toNat_inj]
    rfl
  simp only [isPadding, isWhiteSpace, Pads, whiteSpace, zero, Bool.or_eq_true, Bool.and_eq_true,
    decide_eq_true_iff, List.mem_cons, List.not_mem_nil, or_false]
  omega

/-- The small letters. -/
def IsSmall (l : Char) : Prop := 97 ≤ l.toNat ∧ l.toNat ≤ 122

theorem toNat_toLower (c : Char) :
    c.toLower.toNat = if 65 ≤ c.toNat ∧ c.toNat ≤ 90 then c.toNat + 32 else c.toNat := by
  unfold Char.toLower
  split
  · next capital =>
    have bounds : 65 ≤ c.toNat ∧ c.toNat ≤ 90 := capital
    rw [if_pos bounds]
    show (c.val + 32).toNat = c.toNat + 32
    have exact : c.val.toNat = c.toNat := rfl
    rw [UInt32.toNat_add]
    have : (32 : UInt32).toNat = 32 := rfl
    omega
  · next other =>
    have bounds : ¬ (65 ≤ c.toNat ∧ c.toNat ≤ 90) := other
    rw [if_neg bounds]

theorem toLower_eq_iff {c l : Char} (small : IsSmall l) : c.toLower = l ↔ IsVariant c l := by
  obtain ⟨low, high⟩ := small
  rw [IsVariant, ← Char.toNat_inj, ← Char.toNat_inj, toNat_toLower]
  split <;> omega

theorem isSmall_of_mem_word (i : Inquiry) : ∀ l ∈ i.word.toList, IsSmall l := by
  have all : ∀ i ∈ all, i.word.toList.all fun l => 97 ≤ l.toNat && l.toNat ≤ 122 := by
    decide +kernel
  intro l hl
  have small := List.all_eq_true.1 (all i (by cases i <;> decide)) l hl
  simpa [IsSmall] using small

/-- No letter pads. -/
theorem not_pads_of_isVariant {c l : Char} (small : IsSmall l) (h : IsVariant c l) : ¬ Pads c := by
  obtain ⟨low, high⟩ := small
  have letter : (97 ≤ c.toNat ∧ c.toNat ≤ 122) ∨ (65 ≤ c.toNat ∧ c.toNat ≤ 90) := by
    rcases h with rfl | capital <;> omega
  simp only [Pads, whiteSpace, List.mem_cons, List.not_mem_nil, or_false]
  omega

/-- A text in lower case is a word if and only if its letters are variants of those of the word. -/
theorem map_toLower_eq_iff {word : List Char} {i : Inquiry} :
    word.map Char.toLower = i.word.toList ↔ List.Forall₂ IsVariant word i.word.toList := by
  have small := i.isSmall_of_mem_word
  generalize i.word.toList = letters at small
  induction letters generalizing word with
  | nil => simp
  | cons l letters ih =>
    obtain ⟨hl, others⟩ := List.forall_mem_cons.1 small
    cases word with
    | nil => simp
    | cons c word =>
      rw [List.map_cons, List.cons.injEq, toLower_eq_iff hl, List.forall₂_cons]
      exact and_congr_right fun _ => ih others

theorem exists_variant {word letters : List Char} (h : List.Forall₂ IsVariant word letters) :
    ∀ c ∈ word, ∃ l ∈ letters, IsVariant c l := by
  induction h with
  | nil => simp
  | cons hc _ ih =>
    refine List.forall_mem_cons.2 ⟨⟨_, List.mem_cons_self .., hc⟩, fun d hd => ?_⟩
    obtain ⟨l, hl, variant⟩ := ih d hd
    exact ⟨l, List.mem_cons_of_mem _ hl, variant⟩

theorem dropWhile_of_forall_not {p : Char → Bool} {l : List Char} (h : ∀ c ∈ l, p c = false) :
    l.dropWhile p = l := by
  cases l with
  | nil => rfl
  | cons c l => exact List.dropWhile_cons_of_neg (by simp [h c])

/-- Trimming leaves what stands between the padding. -/
theorem trim_eq {before word after : List Char} (hb : ∀ c ∈ before, isPadding c = true)
    (hw : ∀ c ∈ word, isPadding c = false) (ha : ∀ c ∈ after, isPadding c = true) :
    trim (before ++ word ++ after) = word := by
  rw [trim, List.append_assoc, List.dropWhile_append_of_pos hb]
  cases word with
  | nil => rw [List.nil_append, List.dropWhile_eq_nil_iff.2 ha]; rfl
  | cons c word =>
    have stops : ¬ isPadding c = true := by simp [hw c]
    have behind : ∀ c ∈ after.reverse, isPadding c = true := by simpa using ha
    have front : ∀ d ∈ (c :: word).reverse, isPadding d = false := fun d hd =>
      hw d (List.mem_reverse.1 hd)
    rw [List.cons_append, List.dropWhile_cons_of_neg stops, ← List.cons_append,
      List.reverse_append, List.dropWhile_append_of_pos behind, dropWhile_of_forall_not front,
      List.reverse_reverse]

/-- What trimming takes away is padding. -/
theorem exists_trim (text : List Char) : ∃ before after, text = before ++ trim text ++ after ∧
    (∀ c ∈ before, isPadding c = true) ∧ ∀ c ∈ after, isPadding c = true := by
  let rest := text.dropWhile isPadding
  refine ⟨text.takeWhile isPadding, (rest.reverse.takeWhile isPadding).reverse, ?_,
    fun c hc => List.mem_takeWhile_imp hc,
    fun c hc => List.mem_takeWhile_imp (List.mem_reverse.1 hc)⟩
  have split : rest = trim text ++ (rest.reverse.takeWhile isPadding).reverse := by
    rw [trim, ← List.reverse_append, List.takeWhile_append_dropWhile, List.reverse_reverse]
  calc
    text = text.takeWhile isPadding ++ rest := List.takeWhile_append_dropWhile.symm
    _ = _ := by rw [List.append_assoc, ← split]

/-- Every inquiry has a word of its own. -/
theorem find?_word_eq_some_iff {word : List Char} {i : Inquiry} :
    (all.find? fun i => i.word.toList = word) = some i ↔ word = i.word.toList := by
  constructor
  · intro found
    have same := List.find?_some found
    exact (of_decide_eq_true same).symm
  · rintro rfl
    cases i <;> decide +kernel

/-- A request is read as an inquiry if and only if it is one for it. -/
theorem parse?_eq_some_iff {request : String} {i : Inquiry} :
    parse? request = some i ↔ Asks i request := by
  rw [parse?, find?_word_eq_some_iff, map_toLower_eq_iff]
  constructor
  · intro variant
    obtain ⟨before, after, split, hb, ha⟩ := exists_trim request.toList
    exact ⟨split, fun c hc => isPadding_iff.1 (hb c hc), variant,
      fun c hc => isPadding_iff.1 (ha c hc)⟩
  · intro asks
    cases asks with
    | @intro before word after split hb hw ha =>
      have letters : ∀ c ∈ word, isPadding c = false := fun c hc => by
        obtain ⟨l, hl, variant⟩ := exists_variant hw c hc
        have apart := not_pads_of_isVariant (i.isSmall_of_mem_word l hl) variant
        simpa [← isPadding_iff] using apart
      rwa [split, trim_eq (fun c hc => isPadding_iff.2 (hb c hc)) letters
        fun c hc => isPadding_iff.2 (ha c hc)]

theorem parse?_eq_none_iff {request : String} :
    parse? request = none ↔ ∀ i, ¬ Asks i request := by
  simp only [Option.eq_none_iff_forall_ne_some, ne_eq, parse?_eq_some_iff]

end Inquiry

/-! ## Effects -/

theorem Latency.isSome_snapshot? {l : Latency} (averaged : ∀ s, (l.window s).average?.isSome) :
    l.snapshot?.isSome := by
  choose averages found using fun s => Option.isSome_iff_exists.1 (averaged s)
  have shown : l.snapshot? = some (l.overview averages) :=
    snapshot?_eq_some_iff.2 ⟨averages, fun s => Window.average?_eq_some_iff.1 (found s), rfl⟩
  rw [shown, Option.isSome_some]

namespace Device

variable {d : Device}

/-- A device in use has an encoder, which is asked. -/
theorem Coherent.requestKeyframe_of_used (h : d.Coherent) (used : d.state ≠ .inactive) :
    ∃ n, d.encoder? = some n ∧ d.requestKeyframe = ⟨{ d with counters := { d.counters with
      keyframeRequests := d.counters.keyframeRequests + 1 } }, [.requestKeyframe n], ()⟩ := by
  obtain ⟨p, hp⟩ := Option.isSome_iff_exists.1 (h.pipeline_isSome_iff.2 used)
  exact ⟨p.encoder, encoder?_of_pipeline hp, by simp [requestKeyframe, hp, h.not_released p hp]⟩

theorem Coherent.requestKeyframe_of_unused (h : d.Coherent) (unused : d.state = .inactive) :
    d.requestKeyframe = ⟨d, [], ()⟩ := by
  simp [requestKeyframe, h.pipeline_eq_none unused]

/-- Every request has an answer, if the averages stay in range. -/
theorem isSome_debugAnswer? {command : Option Inquiry}
    (averaged : command = some .latency → ∀ s, (d.latency.window s).average?.isSome) :
    (d.debugAnswer? command).isSome := by
  match command with
  | some .latency => simpa [debugAnswer?] using Latency.isSome_snapshot? (averaged rfl)
  | some .status | some .counters | some .views | some .keyframe | none => rfl

end Device

namespace Rig

variable {r : Rig} {request text : String}

/-- A request that is not for a keyframe is answered, and that is all. -/
theorem step?_of_inquiry (answered : r.device.debugAnswer? (Inquiry.parse? request) = some text)
    (other : Inquiry.parse? request ≠ some .keyframe) (buffer : List UInt8) (a : Answers) :
    r.step? (.call (.debug request buffer)) a =
      some (r, [], .response (Response.write buffer text).1 (Response.write buffer text).2) := by
  simp [step?, call?, Device.debug?, answered, other, settle]

/-- A request for a keyframe does what `requestKeyframe` does. -/
theorem step?_of_keyframeInquiry (asked : Inquiry.parse? request = some .keyframe)
    (buffer : List UInt8) (a : Answers) :
    r.step? (.call (.debug request buffer)) a =
      some ((r.settle r.device.requestKeyframe fun _ => .none).1, r.device.requestKeyframe.log,
        .response (Response.write buffer "ok").1 (Response.write buffer "ok").2) := by
  simp [step?, call?, Device.debug?, Device.debugAnswer?, asked, settle]

end Rig

/-- On every device a request is read as an inquiry if it is its word in any mixture of cases with
padding around it, and anything else is answered as unknown.  The answer is the same for every
buffer, which holds the longest front of it that leaves room for the zero byte.  A request for a
keyframe is answered with `ok`; on a device in use it asks the encoder, once, and is counted.
Nothing else is called or changed, whatever is asked. -/
theorem inquiry_of_run {config : Config} {equipment : Equipment} {d : Device} {capacity : Nat}
    {r : Rig} {steps : List (Step × Answers)} {log : List Effect}
    (built : Device.build? config equipment = some (.ok d))
    (ran : (Rig.ofDevice d capacity).run? steps = some (r, log)) (request : String)
    (averaged : Inquiry.Asks .latency request → ∀ s, (r.device.latency.window s).average?.isSome) :
    (∀ i, Inquiry.parse? request = some i ↔ Inquiry.Asks i request) ∧
    ∃ text r' l, r.device.debugAnswer? (Inquiry.parse? request) = some text ∧
      (∀ buffer a, ∃ n written,
        r.step? (.call (.debug request buffer)) a = some (r', l, .response n written) ∧
        Response.Written buffer text n written) ∧
      ((∀ i, ¬ Inquiry.Asks i request) → text = "error: unknown request") ∧
      (¬ Inquiry.Asks .keyframe request → r' = r ∧ l = []) ∧
      (Inquiry.Asks .keyframe request → text = "ok" ∧
        (r.device.state = .active ∨ r.device.state = .standby → ∃ n,
          r.device.encoder? = some n ∧ l = [.requestKeyframe n] ∧
          r' = { r with device := { r.device with counters := { r.device.counters with
            keyframeRequests := r.device.counters.keyframeRequests + 1 } } }) ∧
        (¬ (r.device.state = .active ∨ r.device.state = .standby) → r' = r ∧ l = [])) := by
  have coherent : r.device.Coherent :=
    Rig.coherent_of_run? (Device.fresh_of_build? built).coherent ran
  refine ⟨fun i => Inquiry.parse?_eq_some_iff, ?_⟩
  obtain ⟨text, answered⟩ := Option.isSome_iff_exists.1
    (r.device.isSome_debugAnswer? fun asks => averaged (Inquiry.parse?_eq_some_iff.1 asks))
  have unknown (none : ∀ i, ¬ Inquiry.Asks i request) : text = "error: unknown request" := by
    rw [Inquiry.parse?_eq_none_iff.2 none] at answered
    exact (Option.some.inj answered).symm
  by_cases asks : Inquiry.Asks .keyframe request
  · have asked := Inquiry.parse?_eq_some_iff.2 asks
    have ok : text = "ok" := by
      rw [asked] at answered
      exact (Option.some.inj answered).symm
    subst ok
    refine ⟨"ok", _, _, answered, fun buffer a =>
      ⟨_, _, Rig.step?_of_keyframeInquiry asked buffer a, Response.written_write buffer "ok"⟩,
      unknown, fun other => absurd asks other, fun _ =>
      ⟨rfl, fun used => ?_, fun unused => ?_⟩⟩
    · obtain ⟨n, encoder, requested⟩ := coherent.requestKeyframe_of_used (coherent.used_iff.1 used)
      exact ⟨n, encoder, by rw [requested], by simp [requested, Rig.settle, Effect.isTimerStart]⟩
    · rw [coherent.requestKeyframe_of_unused (not_not.1 (mt coherent.used_iff.2 unused))]
      simp [Rig.settle]
  · have other : Inquiry.parse? request ≠ some .keyframe := mt Inquiry.parse?_eq_some_iff.1 asks
    exact ⟨text, r, [], answered, fun buffer a =>
      ⟨_, _, Rig.step?_of_inquiry answered other buffer a, Response.written_write buffer text⟩,
      unknown, fun _ => ⟨rfl, rfl⟩, fun h => absurd h asks⟩

/-- A request for a keyframe with an ideographic blank in front and a zero character behind. -/
def Inquiry.padded : String := "\u3000IdR\x00"

/-- A buffer of two bytes has room for the first letter of the answer. -/
theorem inquiry_while_streaming : ∃ r log r' n,
    (Rig.ofDevice .standard 4).run? Rig.upToStream = some (r, log) ∧
      r.device.encoder? = some n ∧
      r.step? (.call (.debug Inquiry.padded [7, 7])) .willing =
        some (r', [.requestKeyframe n], .response 1 [111, 0]) ∧
      r'.device.counters.keyframeRequests = r.device.counters.keyframeRequests + 1 := by
  obtain ⟨r, log, ran, -, active, -⟩ := Rig.run?_upToStream
  have parsed : Inquiry.parse? Inquiry.padded = some .keyframe := by decide +kernel
  have other : ¬ Inquiry.Asks .latency Inquiry.padded := fun asks => by
    rw [Inquiry.parse?_eq_some_iff.2 asks] at parsed
    cases parsed
  obtain ⟨reads, text, r', l, -, answers, -, -, keyframe⟩ :=
    inquiry_of_run Device.build?_standard ran Inquiry.padded fun asks => absurd asks other
  obtain ⟨rfl, used, -⟩ := keyframe ((reads .keyframe).1 parsed)
  obtain ⟨n, encoder, rfl, rfl⟩ := used (.inl active)
  obtain ⟨size, written, step, holds⟩ := answers [7, 7] .willing
  have cut : Response.write [7, 7] "ok" = (1, [111, 0]) := by decide +kernel
  obtain ⟨rfl, rfl⟩ : size = 1 ∧ written = [111, 0] := by
    rw [holds.write_eq] at cut
    simpa using cut
  exact ⟨r, log, _, n, ran, encoder, step, rfl⟩

end Headset
