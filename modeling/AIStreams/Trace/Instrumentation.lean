import AIStreams.Base.Packet
import AIStreams.Memo.FirstWins
import Mathlib.Data.Rat.Floor
import Mathlib.Tactic.Linarith

/-!
# Trace contexts

`aistreams/trace/instrumentation.{h,cc}`.  Probabilities are exact numbers, and `opencensus` is a
parameter: the spans that it starts with a sampler, and the header that carries a context.

* `getProbabilitySampler_eq`: the samplers are a cache in which the first one stays.
* `samplesIndependently_iff`: for which runs every call samples with its own probability.
-/

namespace AIStreams.Trace

/-! ### `opencensus` -/

/-- A sampler, by the probability it was created with. -/
structure ProbabilitySampler where
  probability : ℚ
  deriving DecidableEq

structure SpanContext where
  traceId : ℕ
  spanId : ℕ
  sampled : Bool

/-- The `n`-th span of the process, started with a sampler, and `trace_context.h`.  A sampler of
probability 0 never samples, and one of probability 1 always does. -/
structure Opencensus where
  startSpan : ProbabilitySampler → ℕ → SpanContext
  toTraceParentHeader : SpanContext → String
  fromTraceParentHeader : String → SpanContext
  sampled_from : ∀ c, (fromTraceParentHeader (toTraceParentHeader c)).sampled = c.sampled
  never : ∀ n, (startSpan ⟨0⟩ n).sampled = false
  always : ∀ n, (startSpan ⟨1⟩ n).sampled = true

/-! ### The functions -/

def kProbabilityScaleMultiplier : ℚ := 10000

/-- `static_cast<int>(probability * kProbabilityScaleMultiplier)`. -/
def scaledProbability (probability : ℚ) : ℤ :=
  (probability * kProbabilityScaleMultiplier).num.tdiv
    (probability * kProbabilityScaleMultiplier).den

/-- The global `samplers`. -/
abbrev Samplers := ℤ → Option ProbabilitySampler

/-- `GetProbabilitySampler`, and the `samplers` that it leaves. -/
def getProbabilitySampler (samplers : Samplers) (probability : ℚ) :
    ProbabilitySampler × Samplers :=
  let scaled := scaledProbability probability
  match samplers scaled with
  | none => (⟨probability⟩, Function.update samplers scaled (some ⟨probability⟩))
  | some sampler => (sampler, samplers)

/-- A call of `Instrument`; without a header the pointer is null. -/
structure Call where
  header : Option PacketHeader
  probability : ℚ

/-- What a call does: the header it leaves, the sampler of its span, if it starts one, and the
`samplers`. -/
structure Instrumented where
  header : Option PacketHeader
  sampler : Option ProbabilitySampler
  samplers : Samplers

/-- `Instrument`, when it would start the `n`-th span. -/
def instrument (oc : Opencensus) (n : ℕ) (samplers : Samplers) (call : Call) : Instrumented :=
  if call.probability < 0 ∨ 1 < call.probability then ⟨call.header, none, samplers⟩
  else
    match call.header with
    | none => ⟨none, none, samplers⟩
    | some header =>
      let (sampler, samplers) := getProbabilitySampler samplers call.probability
      let context := oc.toTraceParentHeader (oc.startSpan sampler n)
      ⟨some { header with traceContext := context }, some sampler, samplers⟩

/-! ### Runs -/

/-- The probability that a call samples with; an invalid one, or a call without a header, does
nothing. -/
def Call.samples (call : Call) : Option ℚ :=
  if call.probability < 0 ∨ 1 < call.probability then none
  else call.header.map fun _ => call.probability

/-- The `samplers` after some calls. -/
def samplersAfter (oc : Opencensus) (calls : List Call) : Samplers :=
  calls.foldl (fun samplers call => (instrument oc 0 samplers call).samplers) fun _ => none

/-- A call that comes after others samples with the probability it was given. -/
structure SamplesOwn (oc : Opencensus) (before : List Call) (n : ℕ) (call : Call) : Prop where
  sampler : (instrument oc n (samplersAfter oc before) call).sampler = some ⟨call.probability⟩
  never : call.probability = 0 →
    ∀ header, (instrument oc n (samplersAfter oc before) call).header = some header →
      (oc.fromTraceParentHeader header.traceContext).sampled = false
  always : call.probability = 1 →
    ∀ header, (instrument oc n (samplersAfter oc before) call).header = some header →
      (oc.fromTraceParentHeader header.traceContext).sampled = true

/-- Every call of the run samples with its own probability, whatever came before. -/
def SamplesIndependently (oc : Opencensus) (calls : List Call) : Prop :=
  ∀ before call after, calls = before ++ call :: after → call.samples.isSome = true →
    ∀ n, SamplesOwn oc before n call

/-! ### The samplers as a cache -/

/-- **The samplers are a cache** in which the first one of a scaled probability stays. -/
theorem getProbabilitySampler_eq (samplers : Samplers) (probability : ℚ) :
    getProbabilitySampler samplers probability =
      Memo.lookUp scaledProbability ProbabilitySampler.mk samplers probability := by
  simp only [getProbabilitySampler, Memo.lookUp]
  cases samplers (scaledProbability probability) <;> rfl

section Run

variable (oc : Opencensus) (n : ℕ) (samplers : Samplers) {call : Call} {p : ℚ}

/-- A call that samples. -/
theorem instrument_of_samples (h : call.samples = some p) : call.probability = p ∧
    ∃ header : PacketHeader, instrument oc n samplers call =
      ⟨some { header with
          traceContext := oc.toTraceParentHeader
            (oc.startSpan (getProbabilitySampler samplers p).1 n) },
        some (getProbabilitySampler samplers p).1, (getProbabilitySampler samplers p).2⟩ := by
  unfold Call.samples at h
  split at h
  · cases h
  · rename_i hvalid
    obtain ⟨header, hheader, rfl⟩ := Option.map_eq_some_iff.mp h
    refine ⟨rfl, header, ?_⟩
    unfold instrument
    rw [if_neg hvalid, hheader]

/-- A call that does not sample leaves the samplers alone. -/
theorem instrument_of_not_samples (h : call.samples = none) :
    (instrument oc n samplers call).samplers = samplers := by
  unfold Call.samples at h
  unfold instrument
  split at h
  · rename_i hinvalid
    rw [if_pos hinvalid]
  · rename_i hvalid
    rw [if_neg hvalid, Option.map_eq_none_iff.mp h]

/-- **The samplers after a run** are the first ones of their scaled probabilities. -/
theorem samplersAfter_eq (calls : List Call) : samplersAfter oc calls =
    Memo.firsts scaledProbability ProbabilitySampler.mk (calls.filterMap Call.samples) := by
  induction calls using List.reverseRecOn with
  | nil => rfl
  | append_singleton calls call ih =>
    rw [samplersAfter, List.foldl_append, ← samplersAfter, List.filterMap_append]
    cases hsamples : call.samples with
    | none =>
      have hnil : [call].filterMap Call.samples = [] := by simp [hsamples]
      rw [hnil, List.append_nil, ← ih]
      exact instrument_of_not_samples oc 0 _ hsamples
    | some p =>
      have hone : [call].filterMap Call.samples = [p] := by simp [hsamples]
      obtain ⟨_, header, hcall⟩ := instrument_of_samples oc 0 (samplersAfter oc calls) hsamples
      rw [hone, ← (Memo.lookUp_firsts scaledProbability ProbabilitySampler.mk _ p).2, ← ih,
        ← getProbabilitySampler_eq, List.foldl_cons, List.foldl_nil, hcall]

/-- A call samples with its own probability exactly if its sampler has it. -/
theorem samplesOwn_iff {before : List Call} (h : call.samples = some p) :
    SamplesOwn oc before n call ↔
      (Memo.lookUp scaledProbability ProbabilitySampler.mk (samplersAfter oc before) p).1 =
        ⟨p⟩ := by
  rw [← getProbabilitySampler_eq]
  obtain ⟨rfl, header, hcall⟩ := instrument_of_samples oc n (samplersAfter oc before) h
  constructor
  · intro hown
    have hsampler := hown.sampler
    rw [hcall] at hsampler
    exact Option.some.inj hsampler
  · intro hsampler
    rw [hsampler] at hcall
    refine ⟨by rw [hcall], fun hzero header' hheader => ?_, fun hone header' hheader => ?_⟩
    · rw [hcall, hzero] at hheader
      obtain rfl := Option.some.inj hheader
      exact (oc.sampled_from _).trans (oc.never n)
    · rw [hcall, hone] at hheader
      obtain rfl := Option.some.inj hheader
      exact (oc.sampled_from _).trans (oc.always n)

/-- The calls that sample, one by one. -/
theorem samplesIndependently_iff_getsOwn (calls : List Call) : SamplesIndependently oc calls ↔
    Memo.GetsOwn scaledProbability ProbabilitySampler.mk (calls.filterMap Call.samples) := by
  constructor
  · intro h before p after hsplit
    obtain ⟨callsBefore, callsAfter, rfl, rfl, hafter⟩ := List.filterMap_eq_append_iff.mp hsplit
    obtain ⟨idle, call, rest, rfl, hidle, hcall, rfl⟩ := List.filterMap_eq_cons_iff.mp hafter
    have hown := h (callsBefore ++ idle) call rest (by rw [List.append_assoc])
      (by rw [hcall]; rfl) 0
    have hnone : idle.filterMap Call.samples = [] := List.filterMap_eq_nil_iff.mpr hidle
    rw [samplesOwn_iff oc 0 hcall, samplersAfter_eq, List.filterMap_append, hnone,
      List.append_nil] at hown
    exact hown
  · rintro h before call after rfl hsamples n
    obtain ⟨p, hp⟩ := Option.isSome_iff_exists.mp hsamples
    rw [samplesOwn_iff oc n hp, samplersAfter_eq]
    refine h _ p (after.filterMap Call.samples) ?_
    rw [List.filterMap_append, List.filterMap_cons, hp]

/-- **When sampling is independent of history**: exactly if no two calls of the run have different
probabilities that are scaled to the same integer. -/
theorem samplesIndependently_iff (calls : List Call) : SamplesIndependently oc calls ↔
    calls.Pairwise fun c d => ∀ p, c.samples = some p → ∀ q, d.samples = some q →
      scaledProbability p = scaledProbability q → p = q := by
  rw [samplesIndependently_iff_getsOwn, Memo.getsOwn_iff, List.pairwise_filterMap]
  simp only [ProbabilitySampler.mk.injEq]

/-! ### Probability 1 -/

theorem scaledProbability_eq_floor (h : 0 ≤ p) :
    scaledProbability p = ⌊p * kProbabilityScaleMultiplier⌋ := by
  have hnonneg : 0 ≤ p * kProbabilityScaleMultiplier := mul_nonneg h (by decide)
  rw [scaledProbability, Int.tdiv_eq_ediv_of_nonneg (Rat.num_nonneg.mpr hnonneg), Rat.floor_def']

/-- No other valid probability is scaled as 1 is. -/
theorem eq_one_of_scaledProbability (h0 : 0 ≤ p) (h1 : p ≤ 1)
    (h : scaledProbability p = scaledProbability 1) : p = 1 := by
  rw [scaledProbability_eq_floor h0, scaledProbability_eq_floor zero_le_one] at h
  have hone : ⌊(1 : ℚ) * kProbabilityScaleMultiplier⌋ = 10000 := by
    rw [one_mul]
    exact Int.floor_ofNat 10000
  have hle : ((10000 : ℤ) : ℚ) ≤ p * kProbabilityScaleMultiplier := by
    rw [← hone, ← h]
    exact Int.floor_le _
  have hscale : kProbabilityScaleMultiplier = 10000 := rfl
  rw [hscale] at hle
  push_cast at hle
  linarith

/-- **A call with probability 1 always samples**, whatever came before. -/
theorem samplesOwn_one (h : call.samples = some 1) (before : List Call) :
    SamplesOwn oc before n call := by
  rw [samplesOwn_iff oc n h, samplersAfter_eq]
  unfold Memo.lookUp Memo.firsts
  cases hfind : (before.filterMap Call.samples).find?
      (fun p => scaledProbability p = scaledProbability 1) with
  | none => rfl
  | some p =>
    have hscaled : scaledProbability p = scaledProbability 1 := by simpa using List.find?_some hfind
    obtain ⟨c, _, hc⟩ := List.mem_filterMap.mp (List.mem_of_find?_eq_some hfind)
    unfold Call.samples at hc
    split at hc
    · cases hc
    · rename_i hvalid
      obtain ⟨_, _, rfl⟩ := Option.map_eq_some_iff.mp hc
      have hone := eq_one_of_scaledProbability (not_lt.mp fun h => hvalid (Or.inl h))
        (not_lt.mp fun h => hvalid (Or.inr h)) hscaled
      exact congrArg ProbabilitySampler.mk hone

end Run

/-! ### A small probability, and none -/

/-- Every span has the lowest of all trace ids. -/
def lowestIds : Opencensus where
  startSpan sampler n := ⟨0, n, decide (0 < sampler.probability)⟩
  toTraceParentHeader c := if c.sampled then "01" else "00"
  fromTraceParentHeader header := ⟨0, 0, header = "01"⟩
  sampled_from c := by cases hc : c.sampled <;> simp
  never n := by simp
  always n := by simp

/-- **After a call with probability 0.00005, one with probability 0 may sample.** -/
theorem not_samplesIndependently_zero : ¬ SamplesIndependently lowestIds
    [⟨some .default, 1 / 20000⟩, ⟨some .default, 0⟩] := by
  intro h
  rw [samplesIndependently_iff_getsOwn, Memo.getsOwn_iff, List.pairwise_filterMap] at h
  have hsmall : Call.samples ⟨some .default, 1 / 20000⟩ = some (1 / 20000) := if_neg (by norm_num)
  have hzero : Call.samples ⟨some .default, 0⟩ = some 0 := if_neg (by norm_num)
  have hscaled : scaledProbability (1 / 20000) = scaledProbability 0 := by decide +kernel
  have hsame := (List.pairwise_pair.mp h) _ hsmall _ hzero hscaled
  exact absurd (ProbabilitySampler.mk.inj hsame) (by norm_num)

end AIStreams.Trace
