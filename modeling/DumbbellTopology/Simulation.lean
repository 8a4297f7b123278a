import DumbbellTopology.Main

/-! `TraceDataArrival`, the two globals it updates and the utilization `main` computes from them,
the settings `main` hands to the applications and queue discs, and the whole of
`Simulator::Run()`: the firings of the trace sources `main` connects to files, interleaved in any
order with data packet arrivals. -/
namespace DumbbellTopology

/-- `#define START_TIME 1.0` -/
def startTime : Float := 1.0

/-- The globals `lastDataArrivalTime` and `totalDataReceived`. -/
structure ArrivalCounters where
  lastDataArrivalTime : Float
  totalDataReceived : BitVec 64

/-- `lastDataArrivalTime` has static storage and no initialiser, so it starts at zero. -/
def ArrivalCounters.init : ArrivalCounters := ⟨0.0, 0⟩

/-- `Ipv4Header().GetSerializedSize()` and `BoltHeader().GetSerializedSize()`. -/
structure HeaderSizes where
  ipv4 : BitVec 32
  bolt : BitVec 32

/-- A firing of `DataPktArrival`: `Simulator::Now().GetSeconds()` and the packet. The addresses,
ports, message id, sequence number and flag it also passes are not read. -/
structure DataArrival where
  seconds : Float
  msg : Packet

/-- `TraceDataArrival` bound to `duration`. The three sizes are added as `uint32_t`, then into
the `uint64_t` total. -/
def traceDataArrival (hs : HeaderSizes) (duration : Float) (c : ArrivalCounters)
    (a : DataArrival) : ArrivalCounters :=
  if a.seconds ≤ startTime + duration then
    ⟨a.seconds, c.totalDataReceived + (a.msg.size + hs.ipv4 + hs.bolt).setWidth 64⟩
  else c

def runArrivals (hs : HeaderSizes) (duration : Float) (c : ArrivalCounters)
    (run : List DataArrival) : ArrivalCounters :=
  run.foldl (traceDataArrival hs duration) c

/-- `totalUtilization`, in Gbps, after the run. -/
def totalUtilization (c : ArrivalCounters) : Float :=
  (UInt64.ofNat c.totalDataReceived.toNat).toFloat * 8.0 / 1e9 / (c.lastDataArrivalTime - startTime)

def DataArrival.wireBytes (hs : HeaderSizes) (a : DataArrival) : Nat :=
  (a.msg.size.toNat + hs.ipv4.toNat + hs.bolt.toNat) % 2 ^ 32

def countedBytes (hs : HeaderSizes) (duration : Float) : List DataArrival → Nat
  | [] => 0
  | a :: run =>
    (if a.seconds ≤ startTime + duration then a.wireBytes hs else 0) + countedBytes hs duration run

theorem traceDataArrival_total (hs : HeaderSizes) (duration : Float) (c : ArrivalCounters)
    (a : DataArrival) :
    (traceDataArrival hs duration c a).totalDataReceived.toNat =
      (c.totalDataReceived.toNat + if a.seconds ≤ startTime + duration then a.wireBytes hs else 0) %
        2 ^ 64 := by
  unfold traceDataArrival
  split_ifs
  · have hlt : a.wireBytes hs < 2 ^ 64 := by unfold DataArrival.wireBytes; omega
    simp only [BitVec.toNat_add, BitVec.toNat_setWidth, Nat.mod_add_mod]
    rw [← DataArrival.wireBytes, Nat.mod_eq_of_lt hlt]
  · simp [Nat.mod_eq_of_lt c.totalDataReceived.isLt]

theorem runArrivals_total (hs : HeaderSizes) (duration : Float) (c : ArrivalCounters)
    (run : List DataArrival) :
    (runArrivals hs duration c run).totalDataReceived.toNat =
      (c.totalDataReceived.toNat + countedBytes hs duration run) % 2 ^ 64 := by
  induction run generalizing c with
  | nil => simp [runArrivals, countedBytes, Nat.mod_eq_of_lt c.totalDataReceived.isLt]
  | cons a run ih =>
    rw [runArrivals, List.foldl_cons, ← runArrivals, ih, traceDataArrival_total, countedBytes,
      Nat.mod_add_mod, Nat.add_assoc]

theorem runArrivals_lastDataArrivalTime (hs : HeaderSizes) (duration : Float)
    (c : ArrivalCounters) (run : List DataArrival) :
    (runArrivals hs duration c run).lastDataArrivalTime =
      ((run.filter fun a => a.seconds ≤ startTime + duration).getLast?.map
        DataArrival.seconds).getD c.lastDataArrivalTime := by
  induction run generalizing c with
  | nil => rfl
  | cons a run ih =>
    rw [runArrivals, List.foldl_cons, ← runArrivals, ih, List.filter_cons]
    by_cases h : a.seconds ≤ startTime + duration
    · rw [decide_eq_true h, if_pos rfl, List.getLast?_cons, traceDataArrival, if_pos h]
      cases (run.filter fun a => a.seconds ≤ startTime + duration).getLast? <;> rfl
    · rw [decide_eq_false h, if_neg Bool.false_ne_true, traceDataArrival, if_neg h]

theorem countedBytes_perm (hs : HeaderSizes) (duration : Float) {run run' : List DataArrival}
    (h : run.Perm run') : countedBytes hs duration run = countedBytes hs duration run' := by
  induction h with
  | nil => rfl
  | cons a _ ih => simp only [countedBytes, ih]
  | swap a b l => simp only [countedBytes]; omega
  | trans _ _ ih1 ih2 => exact ih1.trans ih2

/-- What happens while `Simulator::Run()` runs: a trace source `main` connects to a file fires,
or a data packet arrives at a `BoltL4Protocol`. -/
inductive SimEvent
  | trace (f : TraceFiring)
  | dataArrival (a : DataArrival)

def SimEvent.firing : SimEvent → Option TraceFiring
  | .trace f => some f
  | .dataArrival _ => none

def SimEvent.arrival : SimEvent → Option DataArrival
  | .trace _ => none
  | .dataArrival a => some a

structure SimState where
  files : Files
  counters : ArrivalCounters

def simStep (c : MainConfig) (hs : HeaderSizes) (duration : Float) (s : SimState) :
    SimEvent → SimState
  | .trace f => { s with files := fire c s.files f }
  | .dataArrival a => { s with counters := traceDataArrival hs duration s.counters a }

/-- The streams are created, the globals hold their initial values, and the events of the run
happen in order. -/
def runSimulation (c : MainConfig) (hs : HeaderSizes) (duration : Float) (fs : Files)
    (run : List SimEvent) : SimState :=
  run.foldl (simStep c hs duration) ⟨c.createFileStreams fs, .init⟩

theorem foldl_simStep (c : MainConfig) (hs : HeaderSizes) (duration : Float) (s : SimState)
    (run : List SimEvent) :
    run.foldl (simStep c hs duration) s =
      ⟨(run.filterMap SimEvent.firing).foldl (fire c) s.files,
        runArrivals hs duration s.counters (run.filterMap SimEvent.arrival)⟩ := by
  induction run generalizing s with
  | nil => rfl
  | cons e run ih =>
    cases e <;> simp [ih, simStep, SimEvent.firing, SimEvent.arrival, runArrivals]

/-- What `main` reads after `Simulator::Run()`: the bytes of the arrivals by
`START_TIME + duration`, each wrapped to 32 bits, summed modulo 2^64, whatever the firings
around them. -/
theorem runSimulation_totalDataReceived (c : MainConfig) (hs : HeaderSizes) (duration : Float)
    (fs : Files) (run : List SimEvent) :
    (runSimulation c hs duration fs run).counters.totalDataReceived.toNat =
      countedBytes hs duration (run.filterMap SimEvent.arrival) % 2 ^ 64 := by
  rw [runSimulation, foldl_simStep, runArrivals_total]
  simp [ArrivalCounters.init]

/-- What `main` reads after `Simulator::Run()`: the time of the last arrival by
`START_TIME + duration`, or zero when there is none. -/
theorem runSimulation_lastDataArrivalTime (c : MainConfig) (hs : HeaderSizes) (duration : Float)
    (fs : Files) (run : List SimEvent) :
    (runSimulation c hs duration fs run).counters.lastDataArrivalTime =
      (((run.filterMap SimEvent.arrival).filter fun a => a.seconds ≤ startTime + duration).getLast?.map
        DataArrival.seconds).getD 0.0 := by
  rw [runSimulation, foldl_simStep, runArrivals_lastDataArrivalTime]
  rfl

/-- `totalDataReceived` after a simulation depends neither on the configuration of the trace
files, nor on the firings, nor on the order the packets arrive in. -/
theorem totalDataReceived_perm (c c' : MainConfig) (hs : HeaderSizes) (duration : Float)
    (fs fs' : Files) (run run' : List SimEvent)
    (h : (run.filterMap SimEvent.arrival).Perm (run'.filterMap SimEvent.arrival)) :
    (runSimulation c hs duration fs run).counters.totalDataReceived =
      (runSimulation c' hs duration fs' run').counters.totalDataReceived := by
  simp only [runSimulation, foldl_simStep]
  exact BitVec.eq_of_toNat_eq (by simp only [runArrivals_total, countedBytes_perm hs duration h])

theorem totalDataReceived_perm_swap :
    (runSimulation mainConfig ⟨20, 16⟩ 2.0 (fun _ => "") [.dataArrival ⟨1.5, ⟨1000⟩⟩,
      .trace (.s1s2PruTokensInQueue 0 0 5), .dataArrival ⟨2.5, ⟨64⟩⟩]).counters.totalDataReceived =
    (runSimulation { mainConfig with traceQueues := false } ⟨20, 16⟩ 2.0 (fun _ => "")
      [.dataArrival ⟨2.5, ⟨64⟩⟩, .dataArrival ⟨1.5, ⟨1000⟩⟩]).counters.totalDataReceived :=
  totalDataReceived_perm _ _ _ _ _ _ _ _ (List.Perm.swap _ _ [])

/-- `payloadSize = mtu - bolth.GetSerializedSize() - ipv4h.GetSerializedSize()`, as `uint32_t`. -/
def payloadSize (mtu : BitVec 32) (hs : HeaderSizes) : BitVec 32 := mtu - hs.bolt - hs.ipv4

/-- `c1MsgSize` and `c2MsgSize`. -/
def msgSize : BitVec 32 := 1000 * 1000 / 8

/-- `CreateFixedSizeCDF`: the `std::map<double, int>` holding the one point `1.0`, with
`msgSize` converted to `int`. -/
def createFixedSizeCDF (msgSize : BitVec 32) : List (Float × Int) := [(1.0, msgSize.toInt)]

/-- The Bolt switches `main` passes to `BoltL4Protocol` and `PfifoBoltQueueDisc`. -/
structure BoltSettings where
  enableMsgAgg : Bool
  enableBts : Bool
  enablePru : Bool
  enableAbs : Bool
  ccThreshold : String

/-- Their initial values, then `if (ccMode == "DEFAULT")`. -/
def boltSettings (ccMode : String) : BoltSettings :=
  let s : BoltSettings := ⟨true, false, false, false, "3KB"⟩
  if ccMode = "DEFAULT" then { s with enableBts := false, enablePru := true, enableAbs := false }
  else s

theorem wireBytes_payloadSize (hs : HeaderSizes) (mtu : BitVec 32) (a : DataArrival)
    (h : a.msg.size = payloadSize mtu hs) : a.wireBytes hs = mtu.toNat := by
  have hsum : payloadSize mtu hs + hs.ipv4 + hs.bolt = mtu := by
    rw [payloadSize, BitVec.sub_add_cancel, BitVec.sub_add_cancel]
  calc a.wireBytes hs = (payloadSize mtu hs + hs.ipv4 + hs.bolt).toNat := by
        simp only [DataArrival.wireBytes, h, BitVec.toNat_add, Nat.mod_add_mod]
    _ = mtu.toNat := by rw [hsum]

theorem countedBytes_payloadSize (hs : HeaderSizes) (duration : Float) (mtu : BitVec 32)
    (run : List DataArrival) (h : ∀ a ∈ run, a.msg.size = payloadSize mtu hs) :
    countedBytes hs duration run =
      (run.countP fun a => a.seconds ≤ startTime + duration) * mtu.toNat := by
  induction run with
  | nil => simp [countedBytes]
  | cons a run ih =>
    simp only [List.mem_cons, forall_eq_or_imp] at h
    rw [countedBytes, ih h.2, wireBytes_payloadSize hs mtu a h.1, List.countP_cons]
    by_cases ht : a.seconds ≤ startTime + duration <;> simp [ht, Nat.add_mul, Nat.add_comm]

/-- When every data packet carries `payloadSize` bytes, the total `main` reads after the run is
`mtu` bytes per arrival by `START_TIME + duration`, modulo 2^64. -/
theorem runSimulation_totalDataReceived_payloadSize (c : MainConfig) (hs : HeaderSizes)
    (duration : Float) (fs : Files) (run : List SimEvent) (mtu : BitVec 32)
    (h : ∀ a ∈ run.filterMap SimEvent.arrival, a.msg.size = payloadSize mtu hs) :
    (runSimulation c hs duration fs run).counters.totalDataReceived.toNat =
      ((run.filterMap SimEvent.arrival).countP fun a => a.seconds ≤ startTime + duration) *
        mtu.toNat % 2 ^ 64 := by
  rw [runSimulation, foldl_simStep, runArrivals_total, countedBytes_payloadSize hs duration mtu _ h]
  simp [ArrivalCounters.init]

theorem runSimulation_totalDataReceived_payloadSize_mtu :
    (runSimulation mainConfig ⟨20, 16⟩ 2.0 (fun _ => "") [.dataArrival ⟨1.5, ⟨1464⟩⟩,
      .trace (.s1s2PruTokensInQueue 0 0 5), .dataArrival ⟨2.5, ⟨1464⟩⟩]).counters.totalDataReceived.toNat =
      (([.dataArrival ⟨1.5, ⟨1464⟩⟩, .trace (.s1s2PruTokensInQueue 0 0 5),
        .dataArrival ⟨2.5, ⟨1464⟩⟩] : List SimEvent).filterMap SimEvent.arrival |>.countP
          fun a => a.seconds ≤ startTime + 2.0) * (1500 : BitVec 32).toNat % 2 ^ 64 :=
  runSimulation_totalDataReceived_payloadSize _ _ _ _ _ 1500 fun a ha => by
    simp only [List.filterMap_cons, SimEvent.arrival, List.filterMap_nil, List.mem_cons,
      List.not_mem_nil, or_false] at ha
    rcases ha with rfl | rfl <;> rfl

end DumbbellTopology
