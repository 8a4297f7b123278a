import DumbbellTopology.RoundTrip

/-! `main` of `DumbbellTopology.cc` as far as the trace files go: the file names it builds, the
streams it creates, the trace sources it connects to them, and the
`AnalyzePruTokens(qStreamName)` call after the run. The simulation itself is a run: the
firings of the connected sources, in order. -/
namespace DumbbellTopology
open Cxx

/-- The locals of `main` that decide the file names and which trace sources are connected. -/
structure MainConfig where
  traceMessages : Bool
  traceQueues : Bool
  traceFlowStats : Bool
  tracePruTokens : Bool
  debugMode : Bool
  ccMode : String
  simIdx : BitVec 32

/-- The values `main` gives them. -/
def mainConfig : MainConfig := ⟨true, true, true, true, false, "DEFAULT", 0⟩

def MainConfig.tracesFileName (c : MainConfig) : String :=
  "outputs" ++ "/bolt-simple-dumbbell" ++ "_" ++ c.ccMode ++
    if c.debugMode then "_debug" else "_" ++ toString c.simIdx.toNat

def MainConfig.qStreamName (c : MainConfig) : String := c.tracesFileName ++ ".qlen"

def MainConfig.msgTracesFileName (c : MainConfig) : String := c.tracesFileName ++ ".tr"

def MainConfig.statsTracesFileName (c : MainConfig) : String := c.tracesFileName ++ ".log"

def MainConfig.pruTracesFileName (c : MainConfig) : String := c.tracesFileName ++ ".pru"

abbrev Files := String → String

/-- One firing of a trace source `main` connects, with what the source passes. The message and
flow sources are those of the `BoltL4Protocol` of any node. -/
inductive TraceFiring
  | s1s2BytesInQueue (now : BitVec 64) (oldval newval : BitVec 32)
  | s2c3BytesInQueue (now : BitVec 64) (oldval newval : BitVec 32)
  | s2c4BytesInQueue (now : BitVec 64) (oldval newval : BitVec 32)
  | s1s2PruTokensInQueue (now : BitVec 64) (oldval newval : BitVec 16)
  | msgBegin (now : BitVec 64) (msg : Packet) (saddr daddr : Ipv4Address) (sport dport : BitVec 16)
      (txMsgId : BitVec 32)
  | msgAcked (now : BitVec 64) (msgSize : BitVec 32) (saddr daddr : Ipv4Address)
      (sport dport : BitVec 16) (txMsgId : BitVec 32)
  | flowStats (now : BitVec 64) (saddr daddr : Ipv4Address) (sport dport : BitVec 16)
      (txMsgId cwnd : BitVec 32) (rtt : BitVec 64)

/-- The queue-disc callback a firing runs: the file of its stream and the record it writes;
`none` when the source is not a connected queue-disc source. -/
def MainConfig.bound (c : MainConfig) : TraceFiring → Option (String × TraceRecord)
  | .s1s2BytesInQueue now oldval newval =>
    if c.traceQueues then some (c.qStreamName, .bytesInQueue now "S1-S2" oldval newval) else none
  | .s2c3BytesInQueue now oldval newval =>
    if c.traceQueues then some (c.qStreamName, .bytesInQueue now "S2-C3" oldval newval) else none
  | .s2c4BytesInQueue now oldval newval =>
    if c.traceQueues then some (c.qStreamName, .bytesInQueue now "S2-C4" oldval newval) else none
  | .s1s2PruTokensInQueue now oldval newval =>
    if c.tracePruTokens then some (c.pruTracesFileName, .pruTokensInQueue now "S1-S2" oldval newval)
    else none
  | _ => none

/-- The message or flow callback a firing runs, with the file of its stream. -/
def MainConfig.boundMessage (c : MainConfig) : TraceFiring → Option (String × (String → String))
  | .msgBegin now msg saddr daddr sport dport txMsgId =>
    if c.traceMessages then
      some (c.msgTracesFileName, fun s => traceMsgBegin now s msg saddr daddr sport dport txMsgId)
    else none
  | .msgAcked now msgSize saddr daddr sport dport txMsgId =>
    if c.traceMessages then
      some (c.msgTracesFileName, fun s => traceMsgAcked now s msgSize saddr daddr sport dport txMsgId)
    else none
  | .flowStats now saddr daddr sport dport txMsgId cwnd rtt =>
    if c.traceFlowStats then
      some (c.statsTracesFileName,
        fun s => DumbbellTopology.traceFlowStats now s saddr daddr sport dport txMsgId cwnd rtt)
    else none
  | _ => none

/-- The callback a firing runs, with the file of the stream bound to it; `none` when nothing is
connected to the source. -/
def MainConfig.callback (c : MainConfig) (f : TraceFiring) : Option (String × (String → String)) :=
  match c.bound f with
  | some (name, r) => some (name, r.write)
  | none => c.boundMessage f

def fire (c : MainConfig) (fs : Files) (f : TraceFiring) : Files :=
  match c.callback f with
  | some (name, write) => Function.update fs name (write (fs name))
  | none => fs

/-- The `CreateFileStream` calls, each truncating its file. -/
def MainConfig.createFileStreams (c : MainConfig) (fs : Files) : Files :=
  let fs := Function.update (Function.update fs c.qStreamName "") c.pruTracesFileName ""
  let fs := if c.traceMessages then Function.update fs c.msgTracesFileName "" else fs
  if c.traceFlowStats then Function.update fs c.statsTracesFileName "" else fs

/-- The streams are created, then the firings of the run happen in order. -/
def runMain (c : MainConfig) (fs : Files) (run : List TraceFiring) : Files :=
  run.foldl (fire c) (c.createFileStreams fs)

/-- What `main` prints from `AnalyzePruTokens(qStreamName)` after a run. -/
def mainPruReport (c : MainConfig) (time : BitVec 64) (tokenVal : BitVec 16) (fs : Files)
    (run : List TraceFiring) : List String :=
  if c.tracePruTokens then analyzePruTokens time tokenVal (runMain c fs run c.qStreamName) else []

def MainConfig.recordsTo (c : MainConfig) (name : String) (run : List TraceFiring) :
    List TraceRecord :=
  run.filterMap fun f => (c.bound f).bind fun b => if b.1 = name then some b.2 else none

def MainConfig.records (c : MainConfig) (run : List TraceFiring) : List TraceRecord :=
  run.filterMap fun f => (c.bound f).map Prod.snd

def intendedPruReport (run : List TraceFiring) : List String :=
  (pruNodeIds (mainConfig.records run)).map fun k =>
    expectedStatsLine k ((pruValues (mainConfig.records run) k).map BitVec.toNat)

def MainConfig.Created (c : MainConfig) (name : String) : Prop :=
  name = c.qStreamName ∨ name = c.pruTracesFileName ∨
    (c.traceMessages = true ∧ name = c.msgTracesFileName) ∨
    (c.traceFlowStats = true ∧ name = c.statsTracesFileName)

instance (c : MainConfig) : DecidablePred c.Created := fun _ =>
  inferInstanceAs (Decidable (_ ∨ _ ∨ _ ∨ _))

def MainConfig.textsTo (c : MainConfig) (name : String) (run : List TraceFiring) : List String :=
  run.filterMap fun f => (c.callback f).bind fun b => if b.1 = name then some (b.2 "") else none

def MainConfig.textTo (c : MainConfig) (name : String) (f : TraceFiring) : Option String :=
  (c.callback f).bind fun b => if b.1 = name then some (b.2 "") else none

def TraceFiring.msgLine : TraceFiring → Option String
  | .msgBegin now msg saddr daddr sport dport txMsgId =>
    some (msgEventLine "+" now msg.size saddr daddr sport dport txMsgId)
  | .msgAcked now msgSize saddr daddr sport dport txMsgId =>
    some (msgEventLine "-" now msgSize saddr daddr sport dport txMsgId)
  | _ => none

def TraceFiring.flowLine : TraceFiring → Option String
  | .flowStats now saddr daddr sport dport txMsgId cwnd rtt =>
    some (flowStatsLine now saddr daddr sport dport txMsgId cwnd rtt)
  | _ => none

@[simp] theorem MainConfig.tracesFileName_append_inj (c : MainConfig) (a b : String) :
    c.tracesFileName ++ a = c.tracesFileName ++ b ↔ a = b :=
  ⟨fun he => String.ext (List.append_cancel_left (congrArg String.data he)), congrArg _⟩

/-- Two configurations in the same mode write the same trace files exactly when they agree on
`ccMode` and, outside debug mode, on `simIdx`: debug runs of one mode overwrite each other. -/
theorem tracesFileName_eq_iff (c c' : MainConfig) (h : c.debugMode = c'.debugMode) :
    c.tracesFileName = c'.tracesFileName ↔
      c.ccMode = c'.ccMode ∧ (c.debugMode = false → c.simIdx = c'.simIdx) := by
  simp only [MainConfig.tracesFileName, ← h, String.ext_iff, String.data_append, List.append_assoc,
    List.append_cancel_left_eq]
  cases c.debugMode with
  | true => simp [String.ext_iff]
  | false =>
    simp only [if_false, Bool.false_eq_true, forall_const]
    refine ⟨fun he => ?_, by rintro ⟨h1, h2⟩; rw [h1, h2]⟩
    have hu : "_".data = ['_'] := rfl
    have hr := congrArg List.reverse he
    simp only [String.data_append, hu, data_toString_nat, List.reverse_append, List.reverse_cons,
      List.reverse_nil, List.nil_append, List.append_assoc, List.singleton_append] at hr
    have hd (n : Nat) : '_' ∉ (Nat.toDigits 10 n).reverse := by
      simpa using not_mem_toDigits '_' rfl n
    obtain ⟨hdigits, hmode⟩ := append_cons_inj_of_not_mem (hd _) (hd _) hr
    rw [List.reverse_inj, toDigits_inj] at hdigits
    exact ⟨List.reverse_inj.mp hmode, BitVec.eq_of_toNat_eq hdigits⟩

theorem tracesFileName_ne_of_simIdx :
    mainConfig.tracesFileName ≠ { mainConfig with simIdx := 1 }.tracesFileName := fun he =>
  absurd ((tracesFileName_eq_iff mainConfig { mainConfig with simIdx := 1 } rfl).mp he).2 (by decide)

theorem qStreamName_ne_pruTracesFileName (c : MainConfig) : c.qStreamName ≠ c.pruTracesFileName := by
  simp [MainConfig.qStreamName, MainConfig.pruTracesFileName]

theorem MainConfig.bound_cases (c : MainConfig) (f : TraceFiring) (hf : c.bound f = some (n, r)) :
    (n = c.qStreamName ∧ ∃ now nodeId oldval newval,
      nodeId ∈ ["S1-S2", "S2-C3", "S2-C4"] ∧ r = .bytesInQueue now nodeId oldval newval) ∨
    (n = c.pruTracesFileName ∧ ∃ now oldval newval,
      f = .s1s2PruTokensInQueue now oldval newval ∧ r = .pruTokensInQueue now "S1-S2" oldval newval) := by
  cases f <;> simp only [MainConfig.bound] at hf <;> (try split_ifs at hf) <;> cases hf
  all_goals first
    | exact .inl ⟨rfl, _, _, _, _, by decide, rfl⟩
    | exact .inr ⟨rfl, _, _, _, rfl, rfl⟩

theorem MainConfig.boundMessage_cases (c : MainConfig) (f : TraceFiring)
    (hf : c.boundMessage f = some (n, w)) :
    (c.traceMessages = true ∧ n = c.msgTracesFileName ∧
      ∃ l, f.msgLine = some l ∧ w = fun s => s ++ l ++ "\n") ∨
    (c.traceFlowStats = true ∧ n = c.statsTracesFileName ∧
      ∃ l, f.flowLine = some l ∧ w = fun s => s ++ l ++ "\n") := by
  cases f <;> simp only [MainConfig.boundMessage, reduceCtorEq] at hf <;> split_ifs at hf with h <;>
    cases hf
  all_goals first
    | exact .inl ⟨h, rfl, _, rfl, rfl⟩
    | exact .inr ⟨h, rfl, _, rfl, rfl⟩

theorem MainConfig.callback_cases (c : MainConfig) (f : TraceFiring)
    (hf : c.callback f = some (n, w)) :
    (∃ r, c.bound f = some (n, r) ∧ w = r.write) ∨ c.boundMessage f = some (n, w) := by
  unfold MainConfig.callback at hf
  split at hf
  · cases hf; exact .inl ⟨_, ‹_›, rfl⟩
  · exact .inr hf

theorem MainConfig.callback_appends (c : MainConfig) (f : TraceFiring)
    (hf : c.callback f = some (n, w)) (s : String) : w s = s ++ w "" := by
  rcases c.callback_cases f hf with ⟨r, -, rfl⟩ | hm
  · simp [TraceRecord.write_eq, String.append_assoc]
  · rcases c.boundMessage_cases f hm with ⟨-, -, l, -, rfl⟩ | ⟨-, -, l, -, rfl⟩ <;>
      simp [String.append_assoc]

theorem MainConfig.callback_created (c : MainConfig) (f : TraceFiring)
    (hf : c.callback f = some (n, w)) : c.Created n := by
  rcases c.callback_cases f hf with ⟨r, hb, -⟩ | hm
  · rcases c.bound_cases f hb with ⟨rfl, -⟩ | ⟨rfl, -⟩
    exacts [.inl rfl, .inr (.inl rfl)]
  · rcases c.boundMessage_cases f hm with ⟨h, rfl, -⟩ | ⟨h, rfl, -⟩
    exacts [.inr (.inr (.inl ⟨h, rfl⟩)), .inr (.inr (.inr ⟨h, rfl⟩))]

theorem MainConfig.createFileStreams_apply (c : MainConfig) (fs : Files) (name : String) :
    c.createFileStreams fs name = if c.Created name then "" else fs name := by
  split_ifs with h
  · unfold MainConfig.createFileStreams
    rcases h with rfl | rfl | ⟨hm, rfl⟩ | ⟨hf, rfl⟩ <;> split_ifs <;>
      simp [Function.update_apply, MainConfig.qStreamName, MainConfig.pruTracesFileName,
        MainConfig.msgTracesFileName, MainConfig.statsTracesFileName, *]
  · simp only [MainConfig.Created, not_or, not_and] at h
    obtain ⟨hq, hp, hm, hf⟩ := h
    unfold MainConfig.createFileStreams
    split_ifs <;> simp [Function.update_apply, *]

theorem foldl_fire_apply (c : MainConfig) (fs : Files) (run : List TraceFiring) (name : String) :
    run.foldl (fire c) fs name = fs name ++ String.join (c.textsTo name run) := by
  induction run generalizing fs with
  | nil => simp [MainConfig.textsTo]
  | cons f run ih =>
    rw [List.foldl_cons, ih]
    unfold fire MainConfig.textsTo
    rcases hcb : c.callback f with _ | ⟨n, w⟩
    · simp [hcb]
    · by_cases hn : n = name
      · subst hn
        simp [hcb, c.callback_appends f hcb (fs n), String.append_assoc]
      · simp [hcb, hn, Function.update_noteq (Ne.symm hn)]

theorem runMain_apply (c : MainConfig) (fs : Files) (run : List TraceFiring) (name : String) :
    runMain c fs run name =
      (if c.Created name then "" else fs name) ++ String.join (c.textsTo name run) := by
  rw [runMain, foldl_fire_apply, c.createFileStreams_apply]

/-- A run of `main` leaves every file it creates no stream for as it was. -/
theorem runMain_of_not_created (c : MainConfig) (fs : Files) (run : List TraceFiring)
    (name : String) (h : ¬ c.Created name) : runMain c fs run name = fs name := by
  have hnil : c.textsTo name run = [] := List.filterMap_eq_nil_iff.mpr fun f _ => by
    rcases hcb : c.callback f with _ | ⟨n, w⟩
    · rfl
    · have hn : n ≠ name := fun hn => h (hn ▸ c.callback_created f hcb)
      simp [hn]
  rw [runMain_apply, if_neg h, hnil]
  simp

theorem runMain_of_not_created_readme :
    runMain mainConfig (fun _ => "notes") [.s1s2PruTokensInQueue 0 0 5] "README" = "notes" :=
  runMain_of_not_created mainConfig _ _ _ (by decide)

/-- The files are append-only: later firings add text after what a run wrote and rewrite none
of it. -/
theorem runMain_append (c : MainConfig) (fs : Files) (run run' : List TraceFiring) (name : String) :
    runMain c fs (run ++ run') name = runMain c fs run name ++ String.join (c.textsTo name run') := by
  simp only [runMain_apply, MainConfig.textsTo, List.filterMap_append, string_join_append,
    String.append_assoc]

theorem MainConfig.mem_recordsTo (c : MainConfig) (name : String) (run : List TraceFiring)
    (r : TraceRecord) : r ∈ c.recordsTo name run ↔ ∃ f ∈ run, c.bound f = some (name, r) := by
  simp only [MainConfig.recordsTo, List.mem_filterMap, Option.bind_eq_some]
  refine exists_congr fun f => and_congr_right fun _ => ⟨?_, fun hb => ⟨_, hb, by simp⟩⟩
  rintro ⟨⟨n, r'⟩, hb, hn⟩
  split_ifs at hn with h
  cases hn
  exact h ▸ hb

theorem textsTo_of_queueDisc (c : MainConfig) (run : List TraceFiring) (name : String)
    (hname : name = c.qStreamName ∨ name = c.pruTracesFileName) :
    c.textsTo name run = (c.recordsTo name run).map (·.write "") := by
  rw [MainConfig.textsTo, MainConfig.recordsTo, List.map_filterMap]
  refine List.filterMap_congr fun f _ => ?_
  unfold MainConfig.callback
  rcases hb : c.bound f with _ | ⟨n, r⟩
  · rcases hm : c.boundMessage f with _ | ⟨n, w⟩
    · rfl
    · have hn : n ≠ name := by
        rcases c.boundMessage_cases f hm with ⟨-, rfl, -⟩ | ⟨-, rfl, -⟩ <;>
          rcases hname with rfl | rfl <;>
          simp [MainConfig.msgTracesFileName, MainConfig.statsTracesFileName,
            MainConfig.qStreamName, MainConfig.pruTracesFileName]
      simp [hn]
  · by_cases hn : n = name <;> simp [hn]

theorem runMain_traceFile (c : MainConfig) (fs : Files) (run : List TraceFiring) (name : String)
    (hname : name = c.qStreamName ∨ name = c.pruTracesFileName) :
    runMain c fs run name = writeTrace "" (c.recordsTo name run) := by
  have hc : c.Created name := by rcases hname with rfl | rfl <;> simp [MainConfig.Created]
  rw [runMain_apply, if_pos hc, textsTo_of_queueDisc c run name hname, writeTrace_eq_join]

theorem recordsTo_qStreamName (c : MainConfig) (run : List TraceFiring) :
    ∀ r ∈ c.recordsTo c.qStreamName run, r.Readable ∧ r.pruEntry = none := by
  intro r hr
  obtain ⟨f, -, hb⟩ := (c.mem_recordsTo _ run r).mp hr
  rcases c.bound_cases f hb with ⟨-, now, nodeId, oldval, newval, hid, rfl⟩ | ⟨hp, -⟩
  · have hw : IsWord nodeId.data := by
      simp only [List.mem_cons, List.mem_singleton, List.not_mem_nil, or_false] at hid
      rcases hid with rfl | rfl | rfl <;> exact ⟨by decide, by decide⟩
    exact ⟨⟨hw, by simp [TraceRecord.pruEntry]⟩, rfl⟩
  · exact absurd hp (qStreamName_ne_pruTracesFileName c)

theorem mainPruReport_eq_nil (c : MainConfig) (time : BitVec 64) (tokenVal : BitVec 16)
    (fs : Files) (run : List TraceFiring) : mainPruReport c time tokenVal fs run = [] := by
  unfold mainPruReport
  split_ifs
  · have h := recordsTo_qStreamName c run
    have hq := runMain_traceFile c fs run c.qStreamName (.inl rfl)
    have hnone : (c.recordsTo c.qStreamName run).filterMap TraceRecord.pruEntry = [] :=
      List.filterMap_eq_nil_iff.mpr fun r hr => (h r hr).2
    rw [hq, analyzePruTokens, parseLines_writeTrace _ _ fun r hr => (h r hr).1, hnone]
    rfl
  · rfl

/-- One PRU event: a line for `S1-S2` is expected, and `main` prints none. -/
theorem mainPruReport_one_pru_event (time : BitVec 64) (tokenVal : BitVec 16) (fs : Files) :
    mainPruReport mainConfig time tokenVal fs [.s1s2PruTokensInQueue 0 0 5] = [] ∧
      intendedPruReport [.s1s2PruTokensInQueue 0 0 5] =
        ["PRU Token stats for S1-S2: Max=5, Avg=5, Count=1"] :=
  ⟨mainPruReport_eq_nil _ _ _ _ _, by decide⟩

theorem pruEntries_recordsTo_pruTracesFileName (c : MainConfig) (run : List TraceFiring) :
    (c.recordsTo c.pruTracesFileName run).filterMap TraceRecord.pruEntry =
      (c.records run).filterMap TraceRecord.pruEntry := by
  induction run with
  | nil => rfl
  | cons f run ih =>
    simp only [MainConfig.recordsTo, MainConfig.records, List.filterMap_cons] at ih ⊢
    rcases hb : c.bound f with _ | ⟨n, r⟩
    · simpa using ih
    · rcases c.bound_cases f hb with ⟨rfl, _, _, _, _, -, rfl⟩ | ⟨rfl, _, _, _, -, rfl⟩
      · simpa [qStreamName_ne_pruTracesFileName, TraceRecord.pruEntry] using ih
      · simpa [TraceRecord.pruEntry] using ih

/-- `AnalyzePruTokens` given `pruTracesFileName`, the file the PRU callback writes, would print
what is expected. -/
theorem analyzePruTokens_pruTracesFileName (time : BitVec 64) (tokenVal : BitVec 16) (fs : Files)
    (run : List TraceFiring)
    (hnow : ∀ now oldval newval, .s1s2PruTokensInQueue now oldval newval ∈ run → 0 ≤ now.toInt)
    (hn : ((mainConfig.records run).filterMap TraceRecord.pruEntry).length < 2 ^ 48) :
    analyzePruTokens time tokenVal (runMain mainConfig fs run mainConfig.pruTracesFileName) =
      intendedPruReport run := by
  have hfile := runMain_traceFile mainConfig fs run mainConfig.pruTracesFileName (.inr rfl)
  have hwf : ∀ r ∈ mainConfig.recordsTo mainConfig.pruTracesFileName run, r.WellFormed := by
    intro r hr
    obtain ⟨f, hf, hb⟩ := (mainConfig.mem_recordsTo _ run r).mp hr
    rcases mainConfig.bound_cases f hb with ⟨hq, -⟩ | ⟨-, now, oldval, newval, rfl, rfl⟩
    · exact absurd hq.symm (qStreamName_ne_pruTracesFileName _)
    · exact ⟨hnow _ _ _ hf, show "S1-S2" ≠ "" by decide,
        show ∀ c ∈ "S1-S2".data, isSpace c = false by decide⟩
  have he := pruEntries_recordsTo_pruTracesFileName mainConfig run
  rw [hfile, analyzePruTokens_writeTrace _ _ _ hwf (he ▸ hn), intendedPruReport]
  simp only [pruNodeIds, pruValues, he]

theorem analyzePruTokens_pruTracesFileName_s1s2 :
    analyzePruTokens 0 0 (runMain mainConfig (fun _ => "") [.s1s2PruTokensInQueue 0 0 5,
      .s1s2BytesInQueue 1 0 1500, .s1s2PruTokensInQueue 2 5 9, .s1s2PruTokensInQueue 3 9 4]
      mainConfig.pruTracesFileName) = ["PRU Token stats for S1-S2: Max=9, Avg=6, Count=3"] :=
  (analyzePruTokens_pruTracesFileName 0 0 _ _ (fun now _ _ h => by
    simp only [List.mem_cons, TraceFiring.s1s2PruTokensInQueue.injEq, reduceCtorEq, false_or,
      List.mem_nil_iff, or_false] at h
    rcases h with ⟨rfl, -⟩ | ⟨rfl, -⟩ | ⟨rfl, -⟩ <;> decide) (by decide)).trans (by decide)

theorem MainConfig.textTo_messageFiles (c : MainConfig) (f : TraceFiring) :
    (c.traceMessages = true → c.textTo c.msgTracesFileName f = f.msgLine.map (· ++ "\n")) ∧
      (c.traceFlowStats = true → c.textTo c.statsTracesFileName f = f.flowLine.map (· ++ "\n")) := by
  refine ⟨fun h => ?_, fun h => ?_⟩ <;> cases f <;>
    simp only [MainConfig.textTo, MainConfig.callback, MainConfig.bound, MainConfig.boundMessage,
      TraceFiring.msgLine, TraceFiring.flowLine, h, if_true] <;> (try split_ifs) <;>
    simp [MainConfig.msgTracesFileName, MainConfig.statsTracesFileName, MainConfig.qStreamName,
      MainConfig.pruTracesFileName, traceMsgBegin, traceMsgAcked, DumbbellTopology.traceFlowStats]

theorem TraceFiring.newline_not_mem_lines (f : TraceFiring) :
    (∀ l, f.msgLine = some l → '\n' ∉ l.data) ∧ (∀ l, f.flowLine = some l → '\n' ∉ l.data) := by
  refine ⟨fun l hl => ?_, fun l hl => ?_⟩ <;> cases f <;>
    simp only [TraceFiring.msgLine, TraceFiring.flowLine, reduceCtorEq, Option.some.injEq] at hl <;>
    subst hl
  · exact newline_not_mem_msgEventLine _ (by decide) _ _ _ _ _ _ _
  · exact newline_not_mem_msgEventLine _ (by decide) _ _ _ _ _ _ _
  · exact newline_not_mem_flowStatsLine _ _ _ _ _ _ _ _

theorem splitLines_runMain_lines (c : MainConfig) (fs : Files) (run : List TraceFiring)
    (name : String) (line : TraceFiring → Option String) (hc : c.Created name)
    (htext : ∀ f, c.textTo name f = (line f).map (· ++ "\n"))
    (hnl : ∀ f l, line f = some l → '\n' ∉ l.data) :
    splitLines [] (runMain c fs run name).data = (run.filterMap line).map String.data := by
  have ht : c.textsTo name run = (run.filterMap line).map (· ++ "\n") := by
    rw [MainConfig.textsTo, List.map_filterMap]
    exact List.filterMap_congr fun f _ => htext f
  rw [runMain_apply, if_pos hc, ht, String.empty_append]
  refine splitLines_join _ fun l hl => ?_
  obtain ⟨f, -, hf⟩ := List.mem_filterMap.mp hl
  exact hnl f l hf

/-- Reading the message trace back with `getline` gives one line per `MsgBegin` or `MsgAcked`
firing of the run, in order. -/
theorem splitLines_msgTraces (c : MainConfig) (fs : Files) (run : List TraceFiring)
    (h : c.traceMessages = true) :
    splitLines [] (runMain c fs run c.msgTracesFileName).data =
      (run.filterMap TraceFiring.msgLine).map String.data :=
  splitLines_runMain_lines c fs run _ _ (.inr (.inr (.inl ⟨h, rfl⟩)))
    (fun f => (c.textTo_messageFiles f).1 h) fun f => f.newline_not_mem_lines.1

theorem splitLines_msgTraces_begin_acked :
    splitLines [] (runMain mainConfig (fun _ => "") [.msgBegin 0 ⟨1000⟩ 0x0a000001 0x0a000002 49153 1000 0,
      .s1s2BytesInQueue 10 0 1000, .msgAcked 5000 1000 0x0a000001 0x0a000002 49153 1000 0]
      mainConfig.msgTracesFileName).data =
      ["+ 0 1000 10.0.0.1:49153 10.0.0.2:1000 0".data, "- 5000 1000 10.0.0.1:49153 10.0.0.2:1000 0".data] :=
  (splitLines_msgTraces mainConfig _ _ rfl).trans (by decide)

/-- Reading the flow statistics trace back with `getline` gives one line per `FlowStats` firing
of the run, in order. -/
theorem splitLines_statsTraces (c : MainConfig) (fs : Files) (run : List TraceFiring)
    (h : c.traceFlowStats = true) :
    splitLines [] (runMain c fs run c.statsTracesFileName).data =
      (run.filterMap TraceFiring.flowLine).map String.data :=
  splitLines_runMain_lines c fs run _ _ (.inr (.inr (.inr ⟨h, rfl⟩)))
    (fun f => (c.textTo_messageFiles f).2 h) fun f => f.newline_not_mem_lines.2

theorem splitLines_statsTraces_one_flow :
    splitLines [] (runMain mainConfig (fun _ => "") [.flowStats 7 0x0a000001 0x0a000002 49153 1000 0 3000 12000]
      mainConfig.statsTracesFileName).data = ["7 10.0.0.1:49153 10.0.0.2:1000 0 3000 12000".data] :=
  (splitLines_statsTraces mainConfig _ _ rfl).trans (by decide)

end DumbbellTopology
