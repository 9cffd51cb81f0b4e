import Mathlib.Data.Rat.Floor
import Telescope.Data.Exception
import Telescope.Data.Json
import Telescope.Data.Sequence
import Telescope.Data.Statistics
import Telescope.Data.Store
import Telescope.Text.Integer

namespace Telescope.Iperf3

/-! The summary of an iperf3 run over TCP. -/

/-- `value[key]` -/
def item (key : Text) : Json → Except Error Json
  | .obj fields =>
      match Fields.get? fields key with
      | some value => .ok value
      | none => .error ⟨.external, lit "'" ++ key ++ lit "'"⟩
  | _ => .error (.typeError (lit "indices must be integers or slices, not str"))

/-- `value.get(key, default)` -/
def getOr (key : Text) (default : Json) : Json → Except Error Json
  | .obj fields => .ok ((Fields.get? fields key).getD default)
  | _ => .error ⟨.attributeError, lit "object has no attribute 'get'"⟩

def iterate (value : Json) : Except Error (List Json) :=
  match value.entries? with
  | some items => .ok items
  | none => .error (.typeError (lit "object is not iterable"))

/-- `int(value)` of a number. -/
def truncate (value : ℚ) : Int := if 0 ≤ value then ⌊value⌋ else ⌈value⌉

def intOf : Json → Except Error Int
  | .num value => .ok (truncate value)
  | .bool value => .ok value.toNat
  | .str text =>
      match parseInteger? text with
      | some value => .ok value
      | none => .error (.valueError (lit "invalid literal for int() with base 10: '" ++ text ++ lit "'"))
  | _ => .error (.typeError (lit "int() argument must be a string or a real number"))

/-- A term of `sum`. -/
def addend : Json → Except Error ℚ
  | .num value => .ok value
  | .bool value => .ok value.toNat
  | _ => .error (.typeError (lit "unsupported operand type(s) for +"))

/-! The samples. -/

/-- `stream_rtts` and `combined_rtts`. -/
structure Samples where
  streamRtts : Store Nat (List Int)
  combinedRtts : List Int

namespace Samples

def empty : Samples := ⟨Store.empty, []⟩

def add (samples : Samples) (streamIndex : Nat) (rtt : Int) : Samples where
  streamRtts := samples.streamRtts.put streamIndex
    ((samples.streamRtts.get? streamIndex).getD [] ++ [rtt])
  combinedRtts := samples.combinedRtts ++ [rtt]

end Samples

def addStream (samples : Samples) (stream : Json × Nat) : Except Error Samples := do
  let rtt ← intOf (← item (lit "rtt") stream.1)
  return samples.add stream.2 rtt

def addInterval (samples : Samples) (interval : Json) : Except Error Samples := do
  let streams ← iterate (← item (lit "streams") interval)
  streams.zipIdx.foldlM addStream samples

/-! The statistics, on arrays that are not empty. -/

def emptyArray : Error := .valueError (lit "zero-size array")

def npPercentile (q : ℚ) (samples : List Int) : Except Error ℚ :=
  if samples.isEmpty then .error emptyArray else .ok (percentile q (samples.map Int.cast))

def npMax (samples : List Int) : Except Error Int :=
  match samples.max? with
  | some value => .ok value
  | none => .error emptyArray

def npMin (samples : List Int) : Except Error Int :=
  match samples.min? with
  | some value => .ok value
  | none => .error emptyArray

structure StreamRtts where
  p90 : ℚ
  p99 : ℚ
  max : Int
  min : Int
  mean : ℚ

def streamRtts (rtts : List Int) : Except Error StreamRtts := do
  let p90 ← npPercentile 90 rtts
  let p99 ← npPercentile 99 rtts
  let max ← npMax rtts
  let min ← npMin rtts
  return ⟨p90, p99, max, min, mean (rtts.map Int.cast)⟩

structure RttSummary where
  p50Rtt : ℚ
  p90Rtt : ℚ
  p99Rtt : ℚ
  maxRtt : Int
  minRtt : Int
  rtt : ℚ

/-- The p50 is that of all samples; the others are taken of each stream first. -/
def summarize (samples : Samples) : Except Error RttSummary := do
  let p50 ← npPercentile 50 samples.combinedRtts
  let streams ← samples.streamRtts.values.mapM streamRtts
  let maxRtt ← npMax (streams.map (·.max))
  let minRtt ← npMin (streams.map (·.min))
  return {
    p50Rtt := p50
    p90Rtt := mean (streams.map (·.p90))
    p99Rtt := mean (streams.map (·.p99))
    maxRtt := maxRtt
    minRtt := minRtt
    rtt := mean (streams.map (·.mean)) }

structure TcpResult extends RttSummary where
  timestamp : Text
  totalThroughput : ℚ
  retransmits : Int
  rttUnit : Text
  cpuUsageClient : Json
  cpuUsageServer : Json

def senderTotal (key : Text) (streams : List Json) : Except Error ℚ := do
  let values ← streams.mapM fun stream => do
    addend (← getOr key (.num 0) (← getOr (lit "sender") (.obj []) stream))
  return values.sum

structure EndSection where
  totalThroughput : ℚ
  totalRetransmits : Int
  cpuUtilizationPercent : Json

def readEnd (data : Json) : Except Error EndSection := do
  let ended ← getOr (lit "end") (.obj []) data
  let streams ← iterate (← getOr (lit "streams") (.arr []) ended)
  let bits ← senderTotal (lit "bits_per_second") streams
  let retransmits ← senderTotal (lit "retransmits") streams
  let cpu ← getOr (lit "cpu_utilization_percent") (.obj []) ended
  return ⟨bits / 1000000, truncate retransmits, cpu⟩

/-- `parse_tcp_output` on what `json.loads` makes of the output. -/
def parseTcpOutput (convertTimestamp : Json → Except Error Text) (data : Json) :
    Except Error TcpResult := do
  let start ← getOr (lit "start") (.obj []) data
  let timestamp ← getOr (lit "timestamp") (.obj []) start
  let intervals ← getOr (lit "intervals") (.obj []) data
  let samples ← (← iterate intervals).foldlM addInterval Samples.empty
  let summary ← summarize samples
  let ended ← readEnd data
  let stamp ← convertTimestamp (← getOr (lit "timesecs") .null timestamp)
  let client ← getOr (lit "host_total") .null ended.cpuUtilizationPercent
  let server ← getOr (lit "remote_total") .null ended.cpuUtilizationPercent
  return {
    toRttSummary := summary
    timestamp := stamp
    totalThroughput := ended.totalThroughput
    retransmits := ended.totalRetransmits
    rttUnit := lit "us"
    cpuUsageClient := client
    cpuUsageServer := server }

structure UdpResult where
  timestamp : Text
  totalThroughput : ℚ
  jitter : Json
  jitterUnit : Text
  lostDatagrams : Json
  totalDatagrams : Json
  lostPercent : Json
  cpuUsageClient : Json
  cpuUsageServer : Json

/-- `parse_udp_output` on what `json.loads` makes of the output. -/
def parseUdpOutput (convertTimestamp : Json → Except Error Text) (data : Json) :
    Except Error UdpResult := do
  let start ← getOr (lit "start") (.obj []) data
  let timestamp ← getOr (lit "timestamp") (.obj []) start
  let ended ← getOr (lit "end") (.obj []) data
  let sumValue ← getOr (lit "sum") (.obj []) ended
  let cpu ← getOr (lit "cpu_utilization_percent") (.obj []) ended
  let stamp ← convertTimestamp (← getOr (lit "timesecs") .null timestamp)
  let bits ← addend (← getOr (lit "bits_per_second") .null sumValue)
  return {
    timestamp := stamp
    totalThroughput := bits / 1000000
    jitter := ← getOr (lit "jitter_ms") .null sumValue
    jitterUnit := lit "ms"
    lostDatagrams := ← getOr (lit "lost_packets") .null sumValue
    totalDatagrams := ← getOr (lit "packets") .null sumValue
    lostPercent := ← getOr (lit "lost_percent") .null sumValue
    cpuUsageClient := ← getOr (lit "host_total") .null cpu
    cpuUsageServer := ← getOr (lit "remote_total") .null cpu }

/-! The outputs of iperf3, by the RTTs of the streams in each interval. -/

def IsStream (stream : Json) (rtt : Nat) : Prop := item (lit "rtt") stream = .ok (.num rtt)

def IsInterval (interval : Json) (rtts : List Nat) : Prop :=
  ∃ streams, item (lit "streams") interval = .ok (.arr streams) ∧ List.Forall₂ IsStream streams rtts

/-- The start and the end can be read, and the intervals hold the given RTTs. -/
structure IsTcpOutput (convertTimestamp : Json → Except Error Text) (data : Json)
    (rtts : List (List Nat)) : Prop where
  start : ∃ start timestamp timesecs stamp, getOr (lit "start") (.obj []) data = .ok start ∧
    getOr (lit "timestamp") (.obj []) start = .ok timestamp ∧
    getOr (lit "timesecs") .null timestamp = .ok timesecs ∧ convertTimestamp timesecs = .ok stamp
  intervals : ∃ intervals, getOr (lit "intervals") (.obj []) data = .ok (.arr intervals) ∧
    List.Forall₂ IsInterval intervals rtts
  ended : ∃ ended client server, readEnd data = .ok ended ∧
    getOr (lit "host_total") .null ended.cpuUtilizationPercent = .ok client ∧
    getOr (lit "remote_total") .null ended.cpuUtilizationPercent = .ok server

namespace Samples

def addStreams (samples : Samples) (rtts : List (Nat × Nat)) : Samples :=
  rtts.foldl (fun samples (rtt, streamIndex) => samples.add streamIndex rtt) samples

/-- The samples of intervals with the given RTTs. -/
def ofIntervals (rtts : List (List Nat)) : Samples :=
  rtts.foldl (fun samples streams => samples.addStreams streams.zipIdx) empty

end Samples

private theorem intOf_natCast (rtt : Nat) : intOf (.num rtt) = .ok rtt := by
  have nonneg : (0 : ℚ) ≤ rtt := rtt.cast_nonneg
  simp [intOf, truncate]

private theorem foldlM_addStream {streams : List Json} {rtts : List Nat}
    (read : List.Forall₂ IsStream streams rtts) (samples : Samples) (first : Nat) :
    (streams.zipIdx first).foldlM addStream samples =
      .ok (samples.addStreams (rtts.zipIdx first)) := by
  induction read generalizing samples first with
  | nil => rfl
  | @cons stream rtt streams rtts here later induction =>
      have added : addStream samples (stream, first) = .ok (samples.add first rtt) := by
        rw [addStream, here]
        change (intOf (.num rtt) >>= fun rtt => pure (samples.add first rtt)) = _
        rw [intOf_natCast]
        rfl
      rw [List.zipIdx_cons, List.zipIdx_cons, List.foldlM_cons, added]
      exact induction (samples.add first rtt) (first + 1)

private theorem foldlM_addInterval {intervals : List Json} {rtts : List (List Nat)}
    (read : List.Forall₂ IsInterval intervals rtts) (samples : Samples) :
    intervals.foldlM addInterval samples =
      .ok (rtts.foldl (fun samples streams => samples.addStreams streams.zipIdx) samples) := by
  induction read generalizing samples with
  | nil => rfl
  | @cons interval streamRtts intervals rtts here later induction =>
      obtain ⟨streams, found, readStreams⟩ := here
      have added : addInterval samples interval = .ok (samples.addStreams streamRtts.zipIdx) := by
        rw [addInterval, found]
        exact foldlM_addStream readStreams samples 0
      rw [List.foldlM_cons, added]
      exact induction _

/-! The same samples, together and by stream. -/

namespace Samples

/-- The RTTs of the streams are those of all samples, and no stream is without one. -/
structure Agree (samples : Samples) : Prop where
  nonempty : ∀ rtts ∈ samples.streamRtts.values, rtts ≠ []
  perm : samples.streamRtts.values.flatten.Perm samples.combinedRtts

private theorem agree_empty : empty.Agree := ⟨fun _ member => absurd member List.not_mem_nil, .nil⟩

private theorem agree_add {samples : Samples} (agree : samples.Agree) (streamIndex : Nat)
    (rtt : Int) :
    (samples.add streamIndex rtt).Agree := by
  obtain ⟨nonempty, perm⟩ := agree
  rcases samples.streamRtts.values_put_cases streamIndex with
    ⟨absent, appended⟩ | ⟨before, old, after, found, split, replaced⟩
  · have values : (samples.add streamIndex rtt).streamRtts.values =
        samples.streamRtts.values ++ [[rtt]] := by
      rw [Samples.add, appended, absent]
      rfl
    refine ⟨?_, ?_⟩
    · intro rtts member
      rw [values, List.mem_append, List.mem_singleton] at member
      rcases member with earlier | rfl
      · exact nonempty rtts earlier
      · exact List.cons_ne_nil rtt []
    · rw [values, List.flatten_append]
      exact perm.append_right [rtt]
  · have values : (samples.add streamIndex rtt).streamRtts.values =
        before ++ (old ++ [rtt]) :: after := by
      rw [Samples.add, replaced, found]
      rfl
    refine ⟨?_, ?_⟩
    · intro rtts member
      rw [values, List.mem_append, List.mem_cons] at member
      rcases member with left | rfl | right
      · exact nonempty rtts (by simp [split, left])
      · exact List.append_ne_nil_of_right_ne_nil old (List.cons_ne_nil rtt [])
      · exact nonempty rtts (by simp [split, right])
    · rw [split] at perm
      have moved : (before.flatten ++ ((old ++ [rtt]) ++ after.flatten)).Perm
          ((before.flatten ++ (old ++ after.flatten)) ++ [rtt]) := by
        simp only [List.append_assoc]
        exact (List.perm_append_comm.append_left old).append_left before.flatten
      rw [values]
      simp only [List.flatten_append, List.flatten_cons] at perm ⊢
      exact moved.trans (perm.append_right [rtt])

private theorem agree_addStreams {samples : Samples} (agree : samples.Agree)
    (rtts : List (Nat × Nat)) :
    (samples.addStreams rtts).Agree := by
  induction rtts generalizing samples with
  | nil => exact agree
  | cons first rest induction => exact induction (agree_add agree first.2 first.1)

private theorem agree_ofIntervals (rtts : List (List Nat)) : (ofIntervals rtts).Agree := by
  unfold ofIntervals
  induction rtts using List.reverseRecOn with
  | nil => exact agree_empty
  | append_singleton earlier streams induction =>
      rw [List.foldl_append]
      exact agree_addStreams induction _

private theorem combinedRtts_addStreams (samples : Samples) (rtts : List (Nat × Nat)) :
    (samples.addStreams rtts).combinedRtts =
      samples.combinedRtts ++ rtts.map fun stream => (stream.1 : Int) := by
  induction rtts generalizing samples with
  | nil => exact (List.append_nil _).symm
  | cons first rest induction =>
      refine (induction (samples.add first.2 first.1)).trans ?_
      rw [Samples.add, List.append_assoc]
      rfl

private theorem combinedRtts_ofIntervals (rtts : List (List Nat)) :
    (ofIntervals rtts).combinedRtts = rtts.flatten.map (Nat.cast : Nat → Int) := by
  unfold ofIntervals
  induction rtts using List.reverseRecOn with
  | nil => rfl
  | append_singleton earlier streams induction =>
      have values : (streams.zipIdx.map fun stream => (stream.1 : Int)) =
          (streams.zipIdx.map Prod.fst).map (Nat.cast : Nat → Int) := by
        rw [List.map_map]
        rfl
      rw [List.foldl_append, List.foldl_cons, List.foldl_nil, combinedRtts_addStreams, induction,
        values, List.zipIdx_map_fst]
      simp

private theorem keys_addStreams {samples : Samples} {bound : Nat} {rtts : List (Nat × Nat)}
    (before : ∀ key ∈ samples.streamRtts.keys, key < bound)
    (inside : ∀ stream ∈ rtts, stream.2 < bound) :
    ∀ key ∈ (samples.addStreams rtts).streamRtts.keys, key < bound := by
  induction rtts generalizing samples with
  | nil => exact before
  | cons first rest induction =>
      obtain ⟨here, later⟩ := List.forall_mem_cons.mp inside
      have added : ∀ key ∈ (samples.add first.2 first.1).streamRtts.keys, key < bound := by
        intro key member
        rcases samples.streamRtts.mem_keys_put.mp member with rfl | earlier
        · exact here
        · exact before key earlier
      exact induction added later

/-- The streams are numbered from 0 in every interval. -/
theorem keys_ofIntervals {rtts : List (List Nat)} {bound : Nat}
    (few : ∀ streams ∈ rtts, streams.length ≤ bound) :
    ∀ key ∈ (ofIntervals rtts).streamRtts.keys, key < bound := by
  unfold ofIntervals
  induction rtts using List.reverseRecOn with
  | nil => exact fun key member => absurd member List.not_mem_nil
  | append_singleton earlier streams induction =>
      have before := induction fun other member => few other (List.mem_append_left _ member)
      have short : streams.length ≤ bound := few streams (by simp)
      rw [List.foldl_append]
      apply keys_addStreams before
      rintro ⟨rtt, index⟩ member
      exact (List.snd_lt_of_mem_zipIdx member).trans_le (by simpa using short)

end Samples

/-! The summary. -/

structure IsSummaryOf (rtts : List Int) (stream : StreamRtts) : Prop where
  p90 : stream.p90 = percentile 90 (rtts.map Int.cast)
  p99 : stream.p99 = percentile 99 (rtts.map Int.cast)
  mean : stream.mean = Telescope.mean (rtts.map Int.cast)
  max : stream.max ∈ rtts ∧ ∀ rtt ∈ rtts, rtt ≤ stream.max
  min : stream.min ∈ rtts ∧ ∀ rtt ∈ rtts, stream.min ≤ rtt

theorem npPercentile_eq {rtts : List Int} (nonempty : rtts ≠ []) (q : ℚ) :
    npPercentile q rtts = .ok (percentile q (rtts.map Int.cast)) := by
  rw [npPercentile, if_neg (by simpa using nonempty)]

theorem npMax_spec {values : List Int} (nonempty : values ≠ []) :
    ∃ value, npMax values = .ok value ∧ value ∈ values ∧ ∀ other ∈ values, other ≤ value := by
  unfold npMax
  cases found : values.max? with
  | none => exact absurd (List.max?_eq_none_iff.mp found) nonempty
  | some value => exact ⟨value, rfl, List.max?_eq_some_iff.mp found⟩

theorem npMin_spec {values : List Int} (nonempty : values ≠ []) :
    ∃ value, npMin values = .ok value ∧ value ∈ values ∧ ∀ other ∈ values, value ≤ other := by
  unfold npMin
  cases found : values.min? with
  | none => exact absurd (List.min?_eq_none_iff.mp found) nonempty
  | some value => exact ⟨value, rfl, List.min?_eq_some_iff.mp found⟩

private theorem streamRtts_spec {rtts : List Int} (nonempty : rtts ≠ []) :
    ∃ stream, streamRtts rtts = .ok stream ∧ IsSummaryOf rtts stream := by
  obtain ⟨greatest, maxFound, isMax⟩ := npMax_spec nonempty
  obtain ⟨least, minFound, isMin⟩ := npMin_spec nonempty
  refine ⟨⟨_, _, greatest, least, _⟩, ?_, ⟨rfl, rfl, rfl, isMax, isMin⟩⟩
  rw [streamRtts, npPercentile_eq nonempty, npPercentile_eq nonempty, maxFound, minFound]
  rfl

/-- What is summarized, by the streams. -/
structure Summarizes (samples : Samples) (streams : List StreamRtts) (summary : RttSummary) :
    Prop where
  pairs : List.Forall₂ IsSummaryOf samples.streamRtts.values streams
  nonempty : streams ≠ []
  p50 : summary.p50Rtt = percentile 50 (samples.combinedRtts.map Int.cast)
  p90 : summary.p90Rtt = mean (streams.map (·.p90))
  p99 : summary.p99Rtt = mean (streams.map (·.p99))
  rtt : summary.rtt = mean (streams.map (·.mean))
  max : ∀ stream ∈ streams, stream.max ≤ summary.maxRtt
  min : ∀ stream ∈ streams, summary.minRtt ≤ stream.min

private theorem summarize_ok {samples : Samples} (agree : samples.Agree)
    (sampled : samples.combinedRtts ≠ []) :
    ∃ streams summary, summarize samples = .ok summary ∧ Summarizes samples streams summary := by
  obtain ⟨streams, summarized, pairs⟩ := (exists_mapM_iff streamRtts IsSummaryOf
    samples.streamRtts.values).mpr fun rtts member => streamRtts_spec (agree.nonempty rtts member)
  have nonempty : streams ≠ [] := by
    rintro rfl
    have none : samples.streamRtts.values = [] := List.forall₂_nil_right_iff.mp pairs
    have perm := agree.perm
    rw [none] at perm
    exact sampled perm.symm.eq_nil
  have maxima : streams.map (·.max) ≠ [] := by simpa using nonempty
  have minima : streams.map (·.min) ≠ [] := by simpa using nonempty
  obtain ⟨maxRtt, maxFound, -, isMax⟩ := npMax_spec maxima
  obtain ⟨minRtt, minFound, -, isMin⟩ := npMin_spec minima
  refine ⟨streams, ⟨_, _, _, maxRtt, minRtt, _⟩, ?_, pairs, nonempty, rfl, rfl, rfl, rfl, ?_, ?_⟩
  · rw [summarize, npPercentile_eq sampled, summarized]
    change (npMax (streams.map (·.max)) >>= _) = _
    rw [maxFound]
    change (npMin (streams.map (·.min)) >>= _) = _
    rw [minFound]
    rfl
  · exact fun stream member => isMax _ (List.mem_map_of_mem member)
  · exact fun stream member => isMin _ (List.mem_map_of_mem member)

section Summarized

variable {samples : Samples} {streams : List StreamRtts} {summary : RttSummary}

/-- Every sample lies between the least and the greatest. -/
theorem Summarizes.ofStream (summarizes : Summarizes samples streams summary) {rtts : List Int}
    {stream : StreamRtts} (member : stream ∈ streams) (own : IsSummaryOf rtts stream) :
    ∀ rtt ∈ rtts.map (Int.cast : Int → ℚ),
      rtt ∈ Set.Icc (summary.minRtt : ℚ) summary.maxRtt := by
  intro value listed
  obtain ⟨rtt, inStream, rfl⟩ := List.mem_map.mp listed
  refine ⟨?_, ?_⟩
  · exact Int.cast_le.mpr ((summarizes.min stream member).trans (own.min.2 rtt inStream))
  · exact Int.cast_le.mpr ((own.max.2 rtt inStream).trans (summarizes.max stream member))

theorem Summarizes.combined (summarizes : Summarizes samples streams summary)
    (agree : samples.Agree) : ∀ rtt ∈ samples.combinedRtts.map (Int.cast : Int → ℚ),
      rtt ∈ Set.Icc (summary.minRtt : ℚ) summary.maxRtt := by
  intro value listed
  obtain ⟨rtt, inSamples, rfl⟩ := List.mem_map.mp listed
  obtain ⟨rtts, member, inStream⟩ := List.mem_flatten.mp (agree.perm.mem_iff.mpr inSamples)
  obtain ⟨stream, streamMember, own⟩ := exists_related_of_mem summarizes.pairs member
  exact summarizes.ofStream streamMember own _ (List.mem_map_of_mem inStream)

/-- A statistic that lies between the bounds of its stream does so in the mean. -/
theorem Summarizes.mean_mem (summarizes : Summarizes samples streams summary)
    (agree : samples.Agree) (statistic : StreamRtts → ℚ)
    (inside : ∀ rtts stream, IsSummaryOf rtts stream → rtts.map (Int.cast : Int → ℚ) ≠ [] →
      (∀ rtt ∈ rtts.map (Int.cast : Int → ℚ),
        rtt ∈ Set.Icc (summary.minRtt : ℚ) summary.maxRtt) →
      statistic stream ∈ Set.Icc (summary.minRtt : ℚ) summary.maxRtt) :
    mean (streams.map statistic) ∈ Set.Icc (summary.minRtt : ℚ) summary.maxRtt := by
  apply mean_mem_Icc (by simpa using summarizes.nonempty)
  intro value listed
  obtain ⟨stream, member, rfl⟩ := List.mem_map.mp listed
  obtain ⟨rtts, inValues, own⟩ := exists_related_of_mem summarizes.pairs.flip member
  have filled : rtts.map (Int.cast : Int → ℚ) ≠ [] := by
    simpa using agree.nonempty rtts inValues
  exact inside rtts stream own filled (summarizes.ofStream member own)

/-- The order of the summary; the p50 is that of all samples and need not lie below the mean
of the p90 of the streams. -/
structure RttSummary.Ordered (summary : RttSummary) : Prop where
  p50 : summary.p50Rtt ∈ Set.Icc (summary.minRtt : ℚ) summary.maxRtt
  min_le_p90 : summary.minRtt ≤ summary.p90Rtt
  p90_le_p99 : summary.p90Rtt ≤ summary.p99Rtt
  p99_le_max : summary.p99Rtt ≤ summary.maxRtt
  rtt : summary.rtt ∈ Set.Icc (summary.minRtt : ℚ) summary.maxRtt

theorem Summarizes.ordered (summarizes : Summarizes samples streams summary)
    (agree : samples.Agree) (sampled : samples.combinedRtts ≠ []) : summary.Ordered := by
  refine ⟨?_, ?_, ?_, ?_, ?_⟩
  · rw [summarizes.p50]
    exact percentile_mem_Icc (by norm_num) (by simpa using sampled) (summarizes.combined agree)
  · rw [summarizes.p90]
    refine (summarizes.mean_mem agree (·.p90) ?_).1
    intro rtts stream own filled inside
    rw [own.p90]
    exact percentile_mem_Icc (by norm_num) filled inside
  · rw [summarizes.p90, summarizes.p99]
    apply mean_map_le_mean_map
    intro stream member
    obtain ⟨rtts, -, own⟩ := exists_related_of_mem summarizes.pairs.flip member
    rw [own.p90, own.p99]
    exact percentile_mono (by norm_num) (by norm_num) _
  · rw [summarizes.p99]
    refine (summarizes.mean_mem agree (·.p99) ?_).2
    intro rtts stream own filled inside
    rw [own.p99]
    exact percentile_mem_Icc (by norm_num) filled inside
  · rw [summarizes.rtt]
    apply summarizes.mean_mem agree (·.mean)
    intro rtts stream own filled inside
    rw [own.mean]
    exact mean_mem_Icc filled inside

/-- A single stream holds all samples. -/
theorem Summarizes.p50_le_p90 (summarizes : Summarizes samples streams summary)
    (agree : samples.Agree) (single : samples.streamRtts.values.length ≤ 1) :
    summary.p50Rtt ≤ summary.p90Rtt := by
  obtain ⟨stream, later, rfl⟩ := List.exists_cons_of_ne_nil summarizes.nonempty
  obtain ⟨rtts, others, own, rest, values⟩ := List.forall₂_cons_right_iff.mp summarizes.pairs
  have none : others = [] := by
    rw [values, List.length_cons] at single
    exact List.eq_nil_of_length_eq_zero (by omega)
  subst none
  obtain rfl : later = [] := List.forall₂_nil_left_iff.mp rest
  have same : rtts.Perm samples.combinedRtts := by
    have perm := agree.perm
    rwa [values, List.flatten_singleton] at perm
  calc summary.p50Rtt
      = percentile 50 (samples.combinedRtts.map Int.cast) := summarizes.p50
    _ = percentile 50 (rtts.map Int.cast) := percentile_perm 50 (same.symm.map _)
    _ ≤ percentile 90 (rtts.map Int.cast) := percentile_mono (by norm_num) (by norm_num) _
    _ = stream.p90 := own.p90.symm
    _ = summary.p90Rtt := by simp [summarizes.p90, mean]

end Summarized

private theorem Samples.length_values_le {samples : Samples} {bound : Nat}
    (inside : ∀ key ∈ samples.streamRtts.keys, key < bound) :
    samples.streamRtts.values.length ≤ bound := by
  have fewer := (List.subperm_of_subset samples.streamRtts.keysNodup
    fun key member => List.mem_range.mpr (inside key member)).length_le
  rwa [List.length_range, List.length_map, ← List.length_map Prod.snd] at fewer

/-- The summary of an output with samples is ordered but for p50 and p90, and these are
ordered as well when there is one stream. -/
theorem rtt_summary_ordered (convertTimestamp : Json → Except Error Text) (data : Json)
    (rtts : List (List Nat)) (output : IsTcpOutput convertTimestamp data rtts)
    (sampled : rtts.flatten ≠ []) :
    ∃ result, parseTcpOutput convertTimestamp data = .ok result ∧
      result.toRttSummary.Ordered ∧
      ((∀ streams ∈ rtts, streams.length ≤ 1) → result.p50Rtt ≤ result.p90Rtt) := by
  obtain ⟨start, timestamp, timesecs, stamp, startFound, timestampFound, timesecsFound,
    converted⟩ := output.start
  obtain ⟨intervals, intervalsFound, read⟩ := output.intervals
  obtain ⟨ended, client, server, endFound, clientFound, serverFound⟩ := output.ended
  have agree := Samples.agree_ofIntervals rtts
  have combined : (Samples.ofIntervals rtts).combinedRtts ≠ [] := by
    rw [Samples.combinedRtts_ofIntervals]
    simpa using sampled
  obtain ⟨streams, summary, summarized, summarizes⟩ := summarize_ok agree combined
  refine ⟨⟨summary, stamp, ended.totalThroughput, ended.totalRetransmits, lit "us", client,
    server⟩, ?_, summarizes.ordered agree combined, ?_⟩
  · have collected : intervals.foldlM addInterval Samples.empty =
        .ok (Samples.ofIntervals rtts) := foldlM_addInterval read Samples.empty
    have iterated : iterate (.arr intervals) = .ok intervals := rfl
    simp [parseTcpOutput, startFound, timestampFound, intervalsFound, iterated, collected,
      summarized, endFound, timesecsFound, converted, clientFound, serverFound, bind, Except.bind,
      pure, Except.pure]
  · intro single
    exact summarizes.p50_le_p90 agree (Samples.length_values_le (Samples.keys_ofIntervals single))

/-- One interval of three streams with the RTTs 100, 100 and 0. -/
def unequalStreams : Json :=
  .obj [
    (lit "start", .obj [(lit "timestamp", .obj [(lit "timesecs", .num 1585574400)])]),
    (lit "intervals", .arr [.obj [(lit "streams", .arr [
      .obj [(lit "rtt", .num 100)], .obj [(lit "rtt", .num 100)], .obj [(lit "rtt", .num 0)]])]]),
    (lit "end", .obj [(lit "streams", .arr []), (lit "cpu_utilization_percent", .obj [])])]

theorem unequalStreams_isTcpOutput :
    IsTcpOutput (fun _ => .ok (lit "2020-03-30T13:20:00Z")) unequalStreams [[100, 100, 0]] := by
  refine ⟨⟨_, _, _, _, rfl, rfl, rfl, rfl⟩, ⟨_, rfl, ?_⟩, ⟨_, _, _, rfl, rfl, rfl⟩⟩
  have streams : List.Forall₂ IsStream [.obj [(lit "rtt", .num 100)], .obj [(lit "rtt", .num 100)],
      .obj [(lit "rtt", .num 0)]] [100, 100, 0] :=
    .cons rfl (.cons rfl (.cons rfl .nil))
  exact .cons ⟨_, rfl, streams⟩ .nil

theorem unequal_streams_summarized :
    ∃ result, parseTcpOutput (fun _ => .ok (lit "2020-03-30T13:20:00Z")) unequalStreams =
        .ok result ∧ result.toRttSummary.Ordered ∧
      ((∀ streams ∈ [[100, 100, 0]], streams.length ≤ 1) → result.p50Rtt ≤ result.p90Rtt) :=
  rtt_summary_ordered _ unequalStreams [[100, 100, 0]] unequalStreams_isTcpOutput (by decide)

/-- The p50 of 100, 100 and 0 is above the mean of 100, 100 and 0. -/
theorem p50_above_p90_of_unequal_streams :
    IsTcpOutput (fun _ => .ok (lit "2020-03-30T13:20:00Z")) unequalStreams [[100, 100, 0]] ∧
      ∃ result, parseTcpOutput (fun _ => .ok (lit "2020-03-30T13:20:00Z")) unequalStreams =
          .ok result ∧
        result.p50Rtt = 100 ∧ result.p90Rtt = 200 / 3 ∧ ¬ result.p50Rtt ≤ result.p90Rtt := by
  refine ⟨unequalStreams_isTcpOutput, ?_⟩
  have values : (parseTcpOutput (fun _ => .ok (lit "2020-03-30T13:20:00Z"))
      unequalStreams).toOption.map (fun result => (result.p50Rtt, result.p90Rtt)) =
        some (100, 200 / 3) := by
    decide +kernel
  cases parsed : parseTcpOutput (fun _ => .ok (lit "2020-03-30T13:20:00Z")) unequalStreams with
  | error error =>
      rw [parsed] at values
      exact nomatch values
  | ok result =>
      rw [parsed] at values
      obtain ⟨p50, p90⟩ := Prod.mk.inj (Option.some.inj values)
      refine ⟨result, rfl, p50, p90, ?_⟩
      rw [p50, p90]
      norm_num

end Telescope.Iperf3
