import DumbbellTopology.Cxx.IStream
import DumbbellTopology.Cxx.TokenMap
import Mathlib.Algebra.Order.BigOperators.Group.List

/-! `AnalyzePruTokens`: the loop that reads the trace file line by line into `pruTokens`, and
the loop that prints the statistics of each node. The loop's locals are declared once, before
it, and are only overwritten by extractions that succeed. -/
namespace DumbbellTopology
open Cxx

/-- The locals the parse loop keeps from one line to the next. -/
structure ParseState where
  logType : String
  time : BitVec 64
  nodeId : String
  tokenVal : BitVec 16
  pruTokens : TokenMap

/-- Before the loop; `time` and `tokenVal` are uninitialised, so their values are arguments. -/
def ParseState.init (time : BitVec 64) (tokenVal : BitVec 16) : ParseState :=
  ⟨"", time, "", tokenVal, .empty⟩

/-- One pass of the body of `while (getline(qSizeTraceFile, line))`. -/
def parseLine (st : ParseState) (line : List Char) : ParseState :=
  let (lineBuffer, logType) := (IStream.ofLine line).extractString st.logType
  if logType = "pru" then
    let (lineBuffer, time) := lineBuffer.extractUnsigned st.time
    let (lineBuffer, nodeId) := lineBuffer.extractString st.nodeId
    let tokenVal := (lineBuffer.extractUnsigned st.tokenVal).2
    ⟨logType, time, nodeId, tokenVal, st.pruTokens.push nodeId tokenVal⟩
  else { st with logType }

def parseLines (st : ParseState) (lines : List (List Char)) : ParseState :=
  lines.foldl parseLine st

/-- `maxToken = std::max(maxToken, t)` from 0. -/
def maxToken (tokens : List (BitVec 16)) : BitVec 16 :=
  tokens.foldl (fun m t => if m < t then t else m) 0

/-- `sum += t` in a `uint64_t`. -/
def tokenSum (tokens : List (BitVec 16)) : BitVec 64 :=
  tokens.foldl (fun sum t => sum + t.setWidth 64) 0

/-- `static_cast<uint16_t>(sum / tokens.size())` -/
def avgToken (tokens : List (BitVec 16)) : BitVec 16 :=
  (tokenSum tokens / BitVec.ofNat 64 tokens.length).setWidth 16

/-- The `NS_LOG_UNCOND` message for one node. -/
def statsLine (nodeId : String) (tokens : List (BitVec 16)) : String :=
  "PRU Token stats for " ++ nodeId ++ ": Max=" ++ toString (maxToken tokens).toNat ++
    ", Avg=" ++ toString (avgToken tokens).toNat ++ ", Count=" ++ toString tokens.length

/-- The statistics loop, in key order, with `if (tokens.empty()) continue;`. -/
def statsLines (pruTokens : TokenMap) : List String :=
  pruTokens.entries.filterMap fun e => if e.2.isEmpty then none else some (statsLine e.1 e.2)

/-- The messages `AnalyzePruTokens` prints for a trace file holding `file`. -/
def analyzePruTokens (time : BitVec 64) (tokenVal : BitVec 16) (file : String) : List String :=
  statsLines (parseLines (.init time tokenVal) (splitLines [] file.data)).pruTokens

theorem pru_eq_iff (w : List Char) : String.mk w = "pru" ↔ w = ['p', 'r', 'u'] := by
  simp [String.ext_iff]

theorem parseLine_of_no_words (st : ParseState) (line : List Char) (h : words [] line = []) :
    parseLine st line = if st.logType = "pru" then
      { st with pruTokens := st.pruTokens.push st.nodeId st.tokenVal } else st := by
  obtain ⟨h1, hf⟩ := (IStream.ofLine line).extractString_of_no_words st.logType (by simp) h
  simp only [parseLine, h1]
  split_ifs
  · simp [IStream.extractUnsigned_of_fail, IStream.extractString_of_fail, hf]
  · rfl

theorem parseLine_of_word (st : ParseState) (line : List Char) (h : words [] line = w :: ws)
    (hw : String.mk w ≠ "pru") : parseLine st line = { st with logType := ⟨w⟩ } := by
  obtain ⟨h1, -⟩ := (IStream.ofLine line).extractString_of_words st.logType (by simp) h
  simp [parseLine, h1, hw]

theorem parseLine_of_pru (st : ParseState) (line : List Char)
    (h : words [] line = ['p', 'r', 'u'] :: ws) :
    ∃ nodeId tokenVal, (parseLine st line).pruTokens = st.pruTokens.push nodeId tokenVal := by
  obtain ⟨h1, -⟩ := (IStream.ofLine line).extractString_of_words st.logType (by simp) h
  simp only [parseLine, h1, (pru_eq_iff _).mpr rfl, if_true]
  exact ⟨_, _, rfl⟩

theorem parseLine_of_pruLine (st : ParseState) (line : List Char)
    (h : words [] line = ['p', 'r', 'u'] :: t :: k :: v :: rest)
    (ht : IsDecimal 64 t) (hv : IsDecimal 16 v) :
    parseLine st line = ⟨"pru", .ofNat 64 (decimalValue t), ⟨k⟩, .ofNat 16 (decimalValue v),
      st.pruTokens.push ⟨k⟩ (.ofNat 16 (decimalValue v))⟩ := by
  obtain ⟨h1, hr1, hw1⟩ := (IStream.ofLine line).extractString_of_words st.logType (by simp) h
  obtain ⟨h2, hr2, hw2⟩ := IStream.extractUnsigned_of_words _ st.time hr1 hw1 ht
  obtain ⟨h3, hr3, hw3⟩ := IStream.extractString_of_words _ st.nodeId hr2 hw2
  obtain ⟨h4, -⟩ := IStream.extractUnsigned_of_words _ st.tokenVal hr3 hw3 hv
  simp only [parseLine, h1, h2, h3, h4, (pru_eq_iff _).mpr rfl, if_true]

theorem parseLine_logType (st : ParseState) (line : List Char) :
    (parseLine st line).logType = ((words [] line).head?.map String.mk).getD st.logType := by
  rcases hw : words [] line with _ | ⟨w, ws⟩
  · rw [parseLine_of_no_words st line hw]
    split_ifs <;> rfl
  · obtain ⟨h1, -⟩ := (IStream.ofLine line).extractString_of_words st.logType (by simp) hw
    simp only [parseLine, h1]
    split_ifs <;> rfl

theorem parseLine_size (st : ParseState) (line : List Char) :
    (parseLine st line).pruTokens.size =
      st.pruTokens.size + if (parseLine st line).logType = "pru" then 1 else 0 := by
  rw [parseLine_logType]
  rcases hw : words [] line with _ | ⟨w, ws⟩
  · rw [parseLine_of_no_words st line hw]
    simp only [List.head?_nil, Option.map_none', Option.getD_none]
    split_ifs <;> simp [TokenMap.size_push]
  · by_cases hp : String.mk w = "pru"
    · obtain ⟨k, v, he⟩ := parseLine_of_pru st line (hw ▸ congrArg (· :: ws) ((pru_eq_iff w).mp hp))
      simp [he, hp, TokenMap.size_push]
    · simp [parseLine_of_word st line hw hp, hp]

def logTypes (logType : String) : List (List Char) → List String
  | [] => []
  | line :: lines =>
    let next := ((words [] line).head?.map String.mk).getD logType
    next :: logTypes next lines

/-- On every text the loop appends one value per line after which `logType` is `pru`: the
lines whose first word is `pru`, and the lines without a word that follow one. -/
theorem parseLines_size (st : ParseState) (lines : List (List Char)) :
    (parseLines st lines).pruTokens.size =
      st.pruTokens.size + (logTypes st.logType lines).count "pru" := by
  induction lines generalizing st with
  | nil => rfl
  | cons line lines ih =>
    have hl := parseLine_logType st line
    rw [parseLines, List.foldl_cons, ← parseLines, ih, parseLine_size, hl]
    simp only [logTypes, List.count_cons, beq_iff_eq]
    split_ifs <;> omega

example : (parseLines (.init 0 0) (splitLines [] "pru 1 A 5\n\nque 2 A 9\n\n".data)).pruTokens.size = 2 := by
  decide

def GrammarLine (line : List Char) : Prop :=
  (∃ w ws, words [] line = w :: ws ∧ String.mk w ≠ "pru") ∨
    ∃ t k v rest, words [] line = ['p', 'r', 'u'] :: t :: k :: v :: rest ∧
      IsDecimal 64 t ∧ IsDecimal 16 v

def grammarEntry (line : List Char) : Option (String × BitVec 16) :=
  match words [] line with
  | ['p', 'r', 'u'] :: _ :: k :: v :: _ => some (⟨k⟩, .ofNat 16 (decimalValue v))
  | _ => none

theorem parseLine_grammar (st : ParseState) (line : List Char) (h : GrammarLine line) :
    (parseLine st line).pruTokens = st.pruTokens.pushAll (grammarEntry line).toList := by
  rcases h with ⟨w, ws, hl, hw⟩ | ⟨t, k, v, rest, hl, ht, hv⟩
  · have hne : grammarEntry line = none := by
      unfold grammarEntry
      split
      · next heq => rw [hl] at heq; exact absurd ((pru_eq_iff w).mpr (List.cons.inj heq).1) hw
      · rfl
    simp [parseLine_of_word st line hl hw, hne, TokenMap.pushAll]
  · simp [parseLine_of_pruLine st line hl ht hv, grammarEntry, hl, TokenMap.pushAll]

theorem parseLines_grammar (st : ParseState) (lines : List (List Char))
    (h : ∀ l ∈ lines, GrammarLine l) :
    (parseLines st lines).pruTokens = st.pruTokens.pushAll (lines.filterMap grammarEntry) := by
  induction lines generalizing st with
  | nil => rfl
  | cons l ls ih =>
    simp only [List.mem_cons, forall_eq_or_imp] at h
    have hcons : (l :: ls).filterMap grammarEntry = (grammarEntry l).toList ++ ls.filterMap grammarEntry := by
      cases he : grammarEntry l <;> simp [List.filterMap_cons, he]
    rw [hcons, TokenMap.pushAll_append, ← parseLine_grammar _ _ h.1]
    exact ih _ h.2

theorem statsLines_eq (m : TokenMap) (h : m.NoEmpty) :
    statsLines m = m.keys.map fun k => statsLine k (m.find k) := by
  rw [statsLines, m.entries_eq, List.filterMap_map]
  exact List.filterMap_eq_map_iff_forall_eq_some.mpr fun k hk => by simp [h k hk]

/-- What the parse loop appends, from any state it can be in: nothing for a line whose first
word is not `pru`; exactly one value for a line whose first word is `pru`, whatever its other
fields hold; its own value under its own node id for a line of the grammar; and so, over a text of
grammar lines, exactly the grammar's values in order. -/
theorem parseLoop_appends :
    (∀ st line w ws, words [] line = w :: ws → String.mk w ≠ "pru" →
      (parseLine st line).pruTokens = st.pruTokens) ∧
    (∀ st line ws, words [] line = ['p', 'r', 'u'] :: ws →
      ∃ nodeId tokenVal, (parseLine st line).pruTokens = st.pruTokens.push nodeId tokenVal) ∧
    (∀ st line t k v rest, words [] line = ['p', 'r', 'u'] :: t :: k :: v :: rest →
      IsDecimal 64 t → IsDecimal 16 v →
      (parseLine st line).pruTokens = st.pruTokens.push ⟨k⟩ (.ofNat 16 (decimalValue v))) ∧
    ∀ st (text : String), (∀ l ∈ splitLines [] text.data, GrammarLine l) →
      (parseLines st (splitLines [] text.data)).pruTokens =
        st.pruTokens.pushAll ((splitLines [] text.data).filterMap grammarEntry) :=
  ⟨fun st line _ _ h hw => by rw [parseLine_of_word st line h hw],
    fun st line _ h => parseLine_of_pru st line h,
    fun st line _ _ _ _ h ht hv => by rw [parseLine_of_pruLine st line h ht hv],
    fun st _ h => parseLines_grammar st _ h⟩

theorem parseLoop_appends_pru_lines :
    (parseLine (.init 0 0) "pru 7 A 42".data).pruTokens.find "A" = [42] ∧
      (parseLines (.init 0 0) (splitLines [] "pru 1 A 5\nque 2 B 10\npru 3 A 7\n".data)).pruTokens.find "A" =
        [5, 7] := by
  have hl : splitLines [] "pru 1 A 5\nque 2 B 10\npru 3 A 7\n".data =
      ["pru 1 A 5".data, "que 2 B 10".data, "pru 3 A 7".data] := by decide
  refine ⟨(congrArg (TokenMap.find · "A") (parseLoop_appends.2.2.1 (.init 0 0) _ ['7'] ['A'] ['4', '2'] []
    (by decide) (by decide) (by decide))).trans (by decide),
    (congrArg (TokenMap.find · "A") (parseLoop_appends.2.2.2 (.init 0 0) _ ?_)).trans (by decide)⟩
  rw [hl]
  simp only [List.mem_cons, List.mem_singleton, List.not_mem_nil, or_false]
  rintro l (rfl | rfl | rfl)
  · exact .inr ⟨['1'], ['A'], ['5'], [], by decide, by decide, by decide⟩
  · exact .inl ⟨['q', 'u', 'e'], [['2'], ['B'], ['1', '0']], by decide, by decide⟩
  · exact .inr ⟨['3'], ['A'], ['7'], [], by decide, by decide, by decide⟩

/-- `pru 1 A 70000` is not a line of the grammar, its value being past `uint16_t`; the loop still
appends a value for it, the maximum `num_get` stores on overflow. -/
theorem parseLoop_out_of_range_value :
    ¬ GrammarLine "pru 1 A 70000".data ∧
      (parseLines (.init 0 0) (splitLines [] "pru 1 A 70000\n".data)).pruTokens.find "A" = [65535] := by
  have hw : words [] "pru 1 A 70000".data =
      [['p', 'r', 'u'], ['1'], ['A'], ['7', '0', '0', '0', '0']] := by decide
  refine ⟨?_, by decide⟩
  rintro (⟨w, ws, h, hne⟩ | ⟨t, k, v, rest, h, -, hv⟩) <;> simp only [hw, List.cons.injEq] at h
  · obtain ⟨rfl, -⟩ := h
    exact hne (by decide)
  · obtain ⟨-, -, -, rfl, -⟩ := h
    exact absurd hv.2.2 (by decide)

theorem foldl_max_spec (m : BitVec 16) (ts : List (BitVec 16)) :
    (ts.foldl (fun m t => if m < t then t else m) m = m ∨
        ts.foldl (fun m t => if m < t then t else m) m ∈ ts) ∧
      ∀ t ∈ m :: ts, t.toNat ≤ (ts.foldl (fun m t => if m < t then t else m) m).toNat := by
  induction ts generalizing m with
  | nil => simp
  | cons t ts ih =>
    obtain ⟨hmem, hle⟩ := ih (if m < t then t else m)
    simp only [List.foldl_cons, List.mem_cons, forall_eq_or_imp] at hmem hle ⊢
    split_ifs at hmem hle ⊢ with h
    · rw [BitVec.lt_def] at h
      exact ⟨.inr hmem, by omega, hle⟩
    · rw [BitVec.lt_def] at h
      exact ⟨hmem.imp_right .inr, hle.1, by omega, hle.2⟩

theorem max?_eq_maxToken (ts : List (BitVec 16)) (h : ts ≠ []) :
    (ts.map BitVec.toNat).max? = some (maxToken ts).toNat := by
  obtain ⟨hmem, hle⟩ := foldl_max_spec 0 ts
  simp only [List.mem_cons, forall_eq_or_imp] at hle
  refine List.max?_eq_some_iff'.mpr ⟨?_, by simpa using hle.2⟩
  rcases hmem with h0 | h0
  · obtain ⟨t, ht⟩ := List.exists_mem_of_ne_nil ts h
    have ht0 := hle.2 t ht
    rw [h0] at ht0
    rw [show maxToken ts = 0 from h0]
    exact List.mem_map.mpr ⟨t, ht, by simpa using ht0⟩
  · exact List.mem_map_of_mem _ h0

theorem foldl_sum_toNat (acc : BitVec 64) (ts : List (BitVec 16))
    (h : acc.toNat + 2 ^ 16 * ts.length ≤ 2 ^ 64) :
    (ts.foldl (fun sum t => sum + t.setWidth 64) acc).toNat =
      acc.toNat + (ts.map BitVec.toNat).sum := by
  induction ts generalizing acc with
  | nil => simp
  | cons t ts ih =>
    have ht := t.isLt
    have hadd : (acc + t.setWidth 64).toNat = acc.toNat + t.toNat := by
      simp only [List.length_cons] at h
      simp only [BitVec.toNat_add, BitVec.toNat_setWidth]
      rw [Nat.mod_eq_of_lt (show t.toNat < 2 ^ 64 by omega), Nat.mod_eq_of_lt (by omega)]
    simp only [List.foldl_cons, List.map_cons, List.sum_cons]
    rw [ih _ (by simp at h; omega), hadd]
    omega

theorem tokenSum_toNat (ts : List (BitVec 16)) (h : ts.length < 2 ^ 48) :
    (tokenSum ts).toNat = (ts.map BitVec.toNat).sum := by
  simpa using foldl_sum_toNat 0 ts (by simp; omega)

theorem sum_le_length_mul_maxToken (ts : List (BitVec 16)) :
    (ts.map BitVec.toNat).sum ≤ ts.length * (maxToken ts).toNat := by
  have hle := (foldl_max_spec 0 ts).2
  simpa using List.sum_le_card_nsmul (ts.map BitVec.toNat) (maxToken ts).toNat
    (by simpa using fun t ht => hle t (List.mem_cons_of_mem _ ht))

theorem avgToken_toNat (ts : List (BitVec 16)) (h : ts.length < 2 ^ 48) :
    (tokenSum ts / BitVec.ofNat 64 ts.length).toNat < 2 ^ 16 ∧
      (avgToken ts).toNat = (ts.map BitVec.toNat).sum / ts.length ∧
      (avgToken ts).toNat ≤ (maxToken ts).toNat := by
  have hq : (tokenSum ts / BitVec.ofNat 64 ts.length).toNat =
      (ts.map BitVec.toNat).sum / ts.length := by
    rw [BitVec.toNat_udiv, tokenSum_toNat ts h, BitVec.toNat_ofNat, Nat.mod_eq_of_lt (by omega)]
  have hle : (ts.map BitVec.toNat).sum / ts.length ≤ (maxToken ts).toNat :=
    Nat.div_le_of_le_mul (sum_le_length_mul_maxToken ts)
  have hmax := (maxToken ts).isLt
  have hlt : (ts.map BitVec.toNat).sum / ts.length < 2 ^ 16 := by omega
  have havg : (avgToken ts).toNat = (ts.map BitVec.toNat).sum / ts.length := by
    simp only [avgToken, BitVec.toNat_setWidth, hq, Nat.mod_eq_of_lt hlt]
  exact ⟨hq ▸ hlt, havg, havg ▸ hle⟩

def expectedStatsLine (nodeId : String) (vs : List Nat) : String :=
  "PRU Token stats for " ++ nodeId ++ ": Max=" ++ toString (vs.max?.getD 0) ++
    ", Avg=" ++ toString (vs.sum / vs.length) ++ ", Count=" ++ toString vs.length

theorem statsLine_eq_expected (nodeId : String) (ts : List (BitVec 16)) (h : ts ≠ [])
    (hn : ts.length < 2 ^ 48) :
    statsLine nodeId ts = expectedStatsLine nodeId (ts.map BitVec.toNat) := by
  simp [statsLine, expectedStatsLine, max?_eq_maxToken ts h, (avgToken_toNat ts hn).2.1]

end DumbbellTopology
