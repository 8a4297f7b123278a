import DumbbellTopology.Trace
import DumbbellTopology.AnalyzePruTokens

/-! A stream written by `BytesInQueueDiscTrace` and `PruTokensInQueueDiscTrace`, read back by
`AnalyzePruTokens`: every written line is a line of the parser's grammar, so the parse loop
recovers the PRU values of each node and the statistics loop prints them. -/
namespace DumbbellTopology
open Cxx

def pruValues (rs : List TraceRecord) (nodeId : String) : List (BitVec 16) :=
  valuesOf (rs.filterMap TraceRecord.pruEntry) nodeId

def pruNodeIds (rs : List TraceRecord) : List String :=
  ((rs.filterMap TraceRecord.pruEntry).map Prod.fst).dedup.insertionSort (· ≤ ·)

theorem TraceRecord.grammarLine (r : TraceRecord) (h : r.Readable) :
    GrammarLine r.line.data ∧ grammarEntry r.line.data = r.pruEntry := by
  obtain ⟨hid, hnow⟩ := h
  cases r with
  | bytesInQueue now nodeId oldval newval =>
    obtain ⟨ws, hw⟩ := words_bytesInQueueLine now nodeId newval
    refine ⟨.inl ⟨_, ws, hw, by decide⟩, ?_⟩
    simp [TraceRecord.line, grammarEntry, hw, TraceRecord.pruEntry]
  | pruTokensInQueue now nodeId oldval newval =>
    have ht := toDigits_isDecimal now.toNat 64 now.isLt
    have hv := toDigits_isDecimal newval.toNat 16 newval.isLt
    have hw := words_pruTokensLine now nodeId newval hid
    rw [toInt_eq_toNat_of_nonneg now (hnow (by simp [TraceRecord.pruEntry]))] at hw
    refine ⟨.inr ⟨_, _, _, [], hw, ht.1, hv.1⟩, ?_⟩
    simp [TraceRecord.line, grammarEntry, hw, TraceRecord.pruEntry, hv.2]

theorem parseLines_writeTrace (st : ParseState) (rs : List TraceRecord)
    (h : ∀ r ∈ rs, r.Readable) :
    (parseLines st (splitLines [] (writeTrace "" rs).data)).pruTokens =
      st.pruTokens.pushAll (rs.filterMap TraceRecord.pruEntry) := by
  rw [splitLines_writeTrace rs fun r hr => (h r hr).1, parseLines_grammar _ _
    (by simpa using fun r hr => (r.grammarLine (h r hr)).1), List.filterMap_map]
  exact congrArg _ (List.filterMap_congr fun r hr => (r.grammarLine (h r hr)).2)

theorem find_parse_writeTrace (time : BitVec 64) (tokenVal : BitVec 16) (rs : List TraceRecord)
    (hwf : ∀ r ∈ rs, r.WellFormed) (nodeId : String) :
    (parseLines (.init time tokenVal) (splitLines [] (writeTrace "" rs).data)).pruTokens.find
      nodeId = pruValues rs nodeId := by
  rw [parseLines_writeTrace _ _ fun r hr => (hwf r hr).readable, TokenMap.find_pushAll]
  rfl

theorem analyzePruTokens_writeTrace (time : BitVec 64) (tokenVal : BitVec 16)
    (rs : List TraceRecord) (hwf : ∀ r ∈ rs, r.WellFormed)
    (hn : (rs.filterMap TraceRecord.pruEntry).length < 2 ^ 48) :
    analyzePruTokens time tokenVal (writeTrace "" rs) =
      (pruNodeIds rs).map fun k => expectedStatsLine k ((pruValues rs k).map BitVec.toNat) := by
  have hm := parseLines_writeTrace (.init time tokenVal) rs fun r hr => (hwf r hr).readable
  have hne : (TokenMap.empty.pushAll (rs.filterMap TraceRecord.pruEntry)).NoEmpty :=
    TokenMap.noEmpty_pushAll _ _ fun k hk => by simp [TokenMap.keys, TokenMap.empty] at hk
  have hkeys : (TokenMap.empty.pushAll (rs.filterMap TraceRecord.pruEntry)).keys = pruNodeIds rs :=
    TokenMap.keys_eq_sort _ _ fun k => by
      rw [TokenMap.mem_keys_pushAll]
      simp [TokenMap.keys, TokenMap.empty]
  have hfind (k : String) :
      (TokenMap.empty.pushAll (rs.filterMap TraceRecord.pruEntry)).find k = pruValues rs k := by
    rw [TokenMap.find_pushAll]
    rfl
  simp only [analyzePruTokens, ParseState.init] at hm ⊢
  rw [hm, statsLines_eq _ hne, hkeys]
  refine List.map_congr_left fun k hk => ?_
  have hvals := hne k (hkeys ▸ hk)
  rw [hfind] at hvals ⊢
  exact statsLine_eq_expected _ _ hvals ((List.length_filterMap_le _ _).trans_lt hn)

/-- Writing records with the two callbacks and reading the stream back: each node's PRU values
come back in order, the printed statistics are their maximum, floor mean and count, and the
`uint64_t` sum and the `uint16_t` cast lose nothing. -/
theorem analyzePruTokens_roundTrip (time : BitVec 64) (tokenVal : BitVec 16)
    (rs : List TraceRecord) (hwf : ∀ r ∈ rs, r.WellFormed)
    (hn : (rs.filterMap TraceRecord.pruEntry).length < 2 ^ 48) :
    (∀ nodeId, (parseLines (.init time tokenVal)
      (splitLines [] (writeTrace "" rs).data)).pruTokens.find nodeId = pruValues rs nodeId) ∧
    analyzePruTokens time tokenVal (writeTrace "" rs) =
      (pruNodeIds rs).map (fun k => expectedStatsLine k ((pruValues rs k).map BitVec.toNat)) ∧
    ∀ nodeId, (tokenSum (pruValues rs nodeId)).toNat = ((pruValues rs nodeId).map BitVec.toNat).sum ∧
      (tokenSum (pruValues rs nodeId) / BitVec.ofNat 64 (pruValues rs nodeId).length).toNat <
        2 ^ 16 ∧
      (avgToken (pruValues rs nodeId)).toNat ≤ (maxToken (pruValues rs nodeId)).toNat := by
  refine ⟨find_parse_writeTrace time tokenVal rs hwf,
    analyzePruTokens_writeTrace time tokenVal rs hwf hn, fun k => ?_⟩
  have hl : (pruValues rs k).length < 2 ^ 48 := (List.length_filterMap_le _ _).trans_lt hn
  exact ⟨tokenSum_toNat _ hl, (avgToken_toNat _ hl).1, (avgToken_toNat _ hl).2.2⟩

def s1s2Trace : List TraceRecord :=
  [.pruTokensInQueue 1000 "S1-S2" 0 7, .bytesInQueue 1500 "S2-C3" 0 1500,
    .pruTokensInQueue 2000 "S1-S2" 7 3]

theorem analyzePruTokens_roundTrip_s1s2 :
    (∀ r ∈ s1s2Trace, r.WellFormed) ∧
    (s1s2Trace.filterMap TraceRecord.pruEntry).length < 2 ^ 48 ∧
    ((∀ nodeId, (parseLines (.init 0 0) (splitLines [] (writeTrace "" s1s2Trace).data)).pruTokens.find
      nodeId = pruValues s1s2Trace nodeId) ∧
    analyzePruTokens 0 0 (writeTrace "" s1s2Trace) = (pruNodeIds s1s2Trace).map
      (fun k => expectedStatsLine k ((pruValues s1s2Trace k).map BitVec.toNat)) ∧
    ∀ nodeId, (tokenSum (pruValues s1s2Trace nodeId)).toNat =
        ((pruValues s1s2Trace nodeId).map BitVec.toNat).sum ∧
      (tokenSum (pruValues s1s2Trace nodeId) /
        BitVec.ofNat 64 (pruValues s1s2Trace nodeId).length).toNat < 2 ^ 16 ∧
      (avgToken (pruValues s1s2Trace nodeId)).toNat ≤ (maxToken (pruValues s1s2Trace nodeId)).toNat) :=
  ⟨by decide, by decide, analyzePruTokens_roundTrip 0 0 _ (by decide) (by decide)⟩

end DumbbellTopology
