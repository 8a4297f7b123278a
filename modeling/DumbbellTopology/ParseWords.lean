import DumbbellTopology.AnalyzePruTokens
import DumbbellTopology.Cxx.WordStream

/-! The body of `AnalyzePruTokens`' read loop over the words of a line. The C++ extractors on the
line's characters do what the word-level reader does, so the behaviour of the loop on any line,
well formed or not, can be read off the line's words. The locals survive from one line to the
next and a failed extraction keeps its variable, so what a malformed `pru` line records depends on
the lines before it. -/
namespace DumbbellTopology
open Cxx

/-- The loop body, each `lineBuffer >> x` read from the line's words. -/
def parseWords (st : ParseState) (ws : List (List Char)) : ParseState :=
  let (lineBuffer, logType) := (⟨ws, false⟩ : WordStream).readString st.logType
  if logType = "pru" then
    let (lineBuffer, time) := lineBuffer.readUnsigned st.time
    let (lineBuffer, nodeId) := lineBuffer.readString st.nodeId
    let tokenVal := (lineBuffer.readUnsigned st.tokenVal).2
    ⟨logType, time, nodeId, tokenVal, st.pruTokens.push nodeId tokenVal⟩
  else { st with logType }

theorem parseLine_eq_parseWords (st : ParseState) (line : List Char) :
    parseLine st line = parseWords st (words [] line) := by
  obtain ⟨e1, a1⟩ := extractString_agrees (agrees_ofLine line) st.logType
  obtain ⟨e2, a2⟩ := extractUnsigned_agrees a1 st.time
  obtain ⟨e3, a3⟩ := extractString_agrees a2 st.nodeId
  obtain ⟨e4, -⟩ := extractUnsigned_agrees a3 st.tokenVal
  simp only [parseLine, parseWords, e1, e2, e3, e4]

/-- The read loop over a whole file is the word-level loop over the words of its lines. -/
theorem parseLines_eq_parseWords (st : ParseState) (lines : List (List Char)) :
    parseLines st lines = (lines.map (words [])).foldl parseWords st := by
  induction lines generalizing st with
  | nil => rfl
  | cons l ls ih => rw [List.map_cons, List.foldl_cons, ← parseLine_eq_parseWords, ← ih]; rfl

theorem parseWords_pru (st : ParseState) (ws : List (List Char)) :
    parseWords st (['p', 'r', 'u'] :: ws) =
      let (lineBuffer, time) := (⟨ws, false⟩ : WordStream).readUnsigned st.time
      let (lineBuffer, nodeId) := lineBuffer.readString st.nodeId
      let tokenVal := (lineBuffer.readUnsigned st.tokenVal).2
      ⟨"pru", time, nodeId, tokenVal, st.pruTokens.push nodeId tokenVal⟩ := by
  simp only [parseWords, WordStream.readString_cons]
  rfl

/-- A `pru` line whose time does not read, being missing, without a leading digit or past
`uint64_t`, fails `>> nodeId` and `>> tokenVal` too: it records the last node id and value read
before it once more. -/
theorem parseLine_of_bad_time (st : ParseState) (line : List Char)
    (h : words [] line = ['p', 'r', 'u'] :: ws)
    (ht : ∀ t ∈ ws.head?, leadingDigits t = [] ∨ 2 ^ 64 ≤ decimalValue (leadingDigits t)) :
    (parseLine st line).pruTokens = st.pruTokens.push st.nodeId st.tokenVal := by
  simp [parseLine_eq_parseWords, h, parseWords_pru, WordStream.readUnsigned_fail ws st.time ht]

theorem parseLine_of_bad_time_letter :
    (parseLine ⟨"pru", 1, "A", 3, .empty⟩ "pru x B 4".data).pruTokens.find "A" = [3] :=
  (congrArg (TokenMap.find · "A") (parseLine_of_bad_time _ _
    (show words [] "pru x B 4".data = ['p', 'r', 'u'] :: [['x'], ['B'], ['4']] by decide)
    (by decide))).trans (by decide)

theorem parseLine_of_good_time (st : ParseState) (line : List Char)
    (h : words [] line = ['p', 'r', 'u'] :: t :: k :: rest) (ht : IsDecimal 64 t) :
    (parseLine st line).pruTokens =
      st.pruTokens.push ⟨k⟩ ((⟨rest, false⟩ : WordStream).readUnsigned st.tokenVal).2 := by
  simp [parseLine_eq_parseWords, h, parseWords_pru, WordStream.readUnsigned_decimal _ _ _ ht]

/-- A `pru` line that ends after its node id records the value of an earlier line under the new
node id. -/
theorem parseLine_of_missing_value (st : ParseState) (line : List Char)
    (h : words [] line = ['p', 'r', 'u'] :: t :: [k]) (ht : IsDecimal 64 t) :
    (parseLine st line).pruTokens = st.pruTokens.push ⟨k⟩ st.tokenVal := by
  rw [parseLine_of_good_time st line h ht, WordStream.readUnsigned_nil]

theorem parseLine_of_missing_value_B :
    (parseLine ⟨"pru", 1, "A", 3, .empty⟩ "pru 2 B".data).pruTokens.find "B" = [3] :=
  (congrArg (TokenMap.find · "B") (parseLine_of_missing_value _ _
    (show words [] "pru 2 B".data = ['p', 'r', 'u'] :: ['2'] :: [['B']] by decide)
    (by decide))).trans (by decide)

/-- A value field is read up to its first non-digit, and the rest of the line is ignored; a `-`
before the digits stores the value negated modulo 2^16. -/
theorem parseLine_value_read (st : ParseState) (line : List Char)
    (h : words [] line = ['p', 'r', 'u'] :: t :: k :: v :: rest) (ht : IsDecimal 64 t)
    (hv : leadingDigits v ≠ []) (hlt : decimalValue (leadingDigits v) < 2 ^ 16) :
    (parseLine st line).pruTokens = st.pruTokens.push ⟨k⟩
      (if (splitSign v).1 then -.ofNat 16 (decimalValue (leadingDigits v))
        else .ofNat 16 (decimalValue (leadingDigits v))) := by
  rw [parseLine_of_good_time st line h ht, WordStream.readUnsigned_cons_value, if_neg hv,
    if_neg (Nat.not_le.mpr hlt)]

theorem parseLine_value_read_minus_one :
    (parseLine ⟨"pru", 1, "A", 3, .empty⟩ "pru 2 B -1x".data).pruTokens.find "B" = [65535] :=
  (congrArg (TokenMap.find · "B") (parseLine_value_read _ _
    (show words [] "pru 2 B -1x".data = ['p', 'r', 'u'] :: ['2'] :: ['B'] :: [['-', '1', 'x']] by decide)
    (by decide) (by decide) (by decide))).trans (by decide)

/-- A value field that does not read records 0 when no digit follows its sign, and 65535, the
largest `uint16_t`, when its digits do not fit. -/
theorem parseLine_value_unread (st : ParseState) (line : List Char)
    (h : words [] line = ['p', 'r', 'u'] :: t :: k :: v :: rest) (ht : IsDecimal 64 t)
    (hv : leadingDigits v = [] ∨ 2 ^ 16 ≤ decimalValue (leadingDigits v)) :
    (parseLine st line).pruTokens = st.pruTokens.push ⟨k⟩
      (if leadingDigits v = [] then 0 else .allOnes 16) := by
  rw [parseLine_of_good_time st line h ht, WordStream.readUnsigned_cons_value]
  by_cases h0 : leadingDigits v = []
  · simp only [h0, if_true]
  · simp only [h0, if_false, if_pos (hv.resolve_left h0)]

theorem parseLine_value_unread_letter :
    (parseLine ⟨"pru", 1, "A", 3, .empty⟩ "pru 2 B x".data).pruTokens.find "B" = [0] :=
  (congrArg (TokenMap.find · "B") (parseLine_value_unread _ _
    (show words [] "pru 2 B x".data = ['p', 'r', 'u'] :: ['2'] :: ['B'] :: [['x']] by decide)
    (by decide) (by decide))).trans (by decide)

theorem parseWords_eq (st : ParseState) (ws : List (List Char)) :
    parseWords st ws =
      let r1 := (⟨ws, false⟩ : WordStream).readString st.logType
      let r3 := (r1.1.readUnsigned st.time).1.readString st.nodeId
      let tokenVal := (r3.1.readUnsigned st.tokenVal).2
      if r1.2 = "pru" then
        ⟨r1.2, (r1.1.readUnsigned st.time).2, r3.2, tokenVal, st.pruTokens.push r3.2 tokenVal⟩
      else { st with logType := r1.2 } := rfl

theorem parseLine_pruTokens (st : ParseState) (line : List Char) :
    (parseLine st line).pruTokens = st.pruTokens ∨
      (parseLine st line).pruTokens =
        st.pruTokens.push (parseLine st line).nodeId (parseLine st line).tokenVal := by
  rw [parseLine_eq_parseWords, parseWords_eq]
  dsimp only
  split_ifs
  · exact .inr rfl
  · exact .inl rfl

theorem parseLines_noEmpty (st : ParseState) (lines : List (List Char))
    (h : st.pruTokens.NoEmpty) : (parseLines st lines).pruTokens.NoEmpty := by
  induction lines generalizing st with
  | nil => exact h
  | cons l ls ih =>
    refine ih _ ?_
    rcases parseLine_pruTokens st l with he | he <;> rw [he]
    · exact h
    · exact st.pruTokens.noEmpty_pushAll [(_, _)] h

/-- Whatever the file holds, every node id in the map has a value, so `if (tokens.empty())
continue;` never skips one: one line is printed per node id, in key order. -/
theorem analyzePruTokens_eq_keys (time : BitVec 64) (tokenVal : BitVec 16) (file : String) :
    analyzePruTokens time tokenVal file =
      let m := (parseLines (.init time tokenVal) (splitLines [] file.data)).pruTokens
      m.keys.map fun k => statsLine k (m.find k) :=
  statsLines_eq _ (parseLines_noEmpty _ _ fun _ hk => absurd hk (List.not_mem_nil _))

theorem parseLine_nodeId (st : ParseState) (line : List Char) :
    (parseLine st line).nodeId = st.nodeId ∨
      ∃ w ∈ words [] line, (parseLine st line).nodeId.data <:+ w := by
  have h0 : WordStream.TailsOf (words [] line) ⟨words [] line, false⟩ :=
    fun w hw => ⟨w, hw, List.suffix_refl w⟩
  obtain ⟨-, h3⟩ := ((h0.readString st.logType).1.readUnsigned st.time).readString st.nodeId
  rw [parseLine_eq_parseWords, parseWords_eq]
  dsimp only
  split_ifs
  · exact h3
  · exact .inl rfl

def TailOfText (lines : List (List Char)) (k : String) : Prop :=
  ∃ l ∈ lines, ∃ w ∈ words [] l, k.data <:+ w

theorem tailOfText_cons {l : List Char} {lines : List (List Char)} {k : String} :
    TailOfText (l :: lines) k ↔ (∃ w ∈ words [] l, k.data <:+ w) ∨ TailOfText lines k := by
  simp [TailOfText]

theorem parseLines_nodeIds (st : ParseState) (lines : List (List Char)) :
    ((parseLines st lines).nodeId = st.nodeId ∨ TailOfText lines (parseLines st lines).nodeId) ∧
      ∀ k ∈ (parseLines st lines).pruTokens.keys,
        k ∈ st.pruTokens.keys ∨ k = st.nodeId ∨ TailOfText lines k := by
  induction lines generalizing st with
  | nil => exact ⟨.inl rfl, fun k hk => .inl hk⟩
  | cons l ls ih =>
    obtain ⟨ihn, ihk⟩ := ih (parseLine st l)
    have hn := parseLine_nodeId st l
    simp only [parseLines, List.foldl_cons] at ihn ihk ⊢
    have hnew : (parseLine st l).nodeId = st.nodeId ∨ TailOfText (l :: ls) (parseLine st l).nodeId :=
      hn.imp_right fun h => tailOfText_cons.mpr (.inl h)
    refine ⟨?_, fun k hk => ?_⟩
    · rcases ihn with h | h
      · rw [h]
        exact hnew
      · exact .inr (tailOfText_cons.mpr (.inr h))
    · rcases ihk k hk with h | rfl | h
      · rcases parseLine_pruTokens st l with he | he
        · exact .inl (he ▸ h)
        · rw [he, TokenMap.mem_keys_push] at h
          rcases h with rfl | h
          · exact .inr hnew
          · exact .inl h
      · exact .inr hnew
      · exact .inr (.inr (tailOfText_cons.mpr (.inr h)))

/-- `AnalyzePruTokens` never makes up a node id: each line it prints names the empty string
`nodeId` starts as, or the tail of a word of the file, not always a whole one: after a time field
such as `12ab` the loop reads `ab` as the node id. -/
theorem analyzePruTokens_nodeIds (time : BitVec 64) (tokenVal : BitVec 16) (file : String)
    (out : String) (h : out ∈ analyzePruTokens time tokenVal file) :
    ∃ k ts, out = statsLine k ts ∧ (k = "" ∨ TailOfText (splitLines [] file.data) k) := by
  simp only [analyzePruTokens, statsLines, List.mem_filterMap] at h
  obtain ⟨⟨k, ts⟩, he, hk⟩ := h
  refine ⟨k, ts, ?_, ?_⟩
  · split_ifs at hk
    exact (Option.some.inj hk).symm
  · have hkeys := List.mem_map_of_mem Prod.fst he
    rcases (parseLines_nodeIds _ _).2 k hkeys with h | h | h
    · exact absurd h (List.not_mem_nil _)
    · exact .inl h
    · exact .inr h

theorem analyzePruTokens_nodeIds_time_tail :
    ∃ k ts, "PRU Token stats for ab: Max=0, Avg=0, Count=1" = statsLine k ts ∧
      (k = "" ∨ TailOfText (splitLines [] "pru 12ab X 5\n".data) k) :=
  analyzePruTokens_nodeIds 0 0 "pru 12ab X 5\n" _ (by decide)

end DumbbellTopology
