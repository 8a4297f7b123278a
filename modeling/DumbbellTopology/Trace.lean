import DumbbellTopology.Cxx.IStream
import Mathlib.Data.String.Basic

/-! The trace callbacks of `DumbbellTopology.cc`: the queue-disc ones and the message and flow
ones. Each appends one line, ended by `std::endl`, to the stream it is bound to; `now` is
`Simulator::Now().GetNanoSeconds()`, an `int64_t`. The `#if OUT` logging is compiled out (`OUT`
is 0), so `oldval` is not written. Addresses print as `Ipv4Address::Print` does. -/
namespace DumbbellTopology
open Cxx

/-- `"que " << now << " " << nodeId << " " << newval` -/
def bytesInQueueLine (now : BitVec 64) (nodeId : String) (newval : BitVec 32) : String :=
  "que " ++ toString now.toInt ++ " " ++ nodeId ++ " " ++ toString newval.toNat

/-- `"pru " << now << " " << nodeId << " " << newval` -/
def pruTokensLine (now : BitVec 64) (nodeId : String) (newval : BitVec 16) : String :=
  "pru " ++ toString now.toInt ++ " " ++ nodeId ++ " " ++ toString newval.toNat

def bytesInQueueDiscTrace (now : BitVec 64) (stream nodeId : String)
    (oldval newval : BitVec 32) : String :=
  stream ++ bytesInQueueLine now nodeId newval ++ "\n"

def pruTokensInQueueDiscTrace (now : BitVec 64) (stream nodeId : String)
    (oldval newval : BitVec 16) : String :=
  stream ++ pruTokensLine now nodeId newval ++ "\n"

/-- An `Ipv4Address`, printed as ns-3's `Ipv4Address::Print` does: the four bytes in dotted
decimal, most significant first. -/
abbrev Ipv4Address := BitVec 32

def printIpv4Address (a : Ipv4Address) : String :=
  toString ((a >>> 24) &&& 0xff).toNat ++ "." ++ toString ((a >>> 16) &&& 0xff).toNat ++ "." ++
    toString ((a >>> 8) &&& 0xff).toNat ++ "." ++ toString (a &&& 0xff).toNat

/-- A `Ptr<const Packet>`; the callbacks read only `GetSize()`. -/
structure Packet where
  size : BitVec 32

/-- `saddr << ":" << sport << " " << daddr << ":" << dport` -/
def endpointsText (saddr daddr : Ipv4Address) (sport dport : BitVec 16) : String :=
  printIpv4Address saddr ++ ":" ++ toString sport.toNat ++ " " ++ printIpv4Address daddr ++ ":" ++
    toString dport.toNat

/-- The line of `TraceFlowStats`: the time, the flow's endpoints, its message id, congestion
window and RTT. -/
def flowStatsLine (now : BitVec 64) (saddr daddr : Ipv4Address) (sport dport : BitVec 16)
    (txMsgId cwnd : BitVec 32) (rtt : BitVec 64) : String :=
  toString now.toInt ++ " " ++ endpointsText saddr daddr sport dport ++ " " ++
    toString txMsgId.toInt ++ " " ++ toString cwnd.toNat ++ " " ++ toString rtt.toNat

def traceFlowStats (now : BitVec 64) (stream : String) (saddr daddr : Ipv4Address)
    (sport dport : BitVec 16) (txMsgId cwnd : BitVec 32) (rtt : BitVec 64) : String :=
  stream ++ flowStatsLine now saddr daddr sport dport txMsgId cwnd rtt ++ "\n"

/-- The line of `TraceMsgBegin` (`event` is `+`) and of `TraceMsgAcked` (`-`). -/
def msgEventLine (event : String) (now : BitVec 64) (msgSize : BitVec 32)
    (saddr daddr : Ipv4Address) (sport dport : BitVec 16) (txMsgId : BitVec 32) : String :=
  event ++ " " ++ toString now.toInt ++ " " ++ toString msgSize.toNat ++ " " ++
    endpointsText saddr daddr sport dport ++ " " ++ toString txMsgId.toInt

def traceMsgBegin (now : BitVec 64) (stream : String) (msg : Packet) (saddr daddr : Ipv4Address)
    (sport dport : BitVec 16) (txMsgId : BitVec 32) : String :=
  stream ++ msgEventLine "+" now msg.size saddr daddr sport dport txMsgId ++ "\n"

def traceMsgAcked (now : BitVec 64) (stream : String) (msgSize : BitVec 32)
    (saddr daddr : Ipv4Address) (sport dport : BitVec 16) (txMsgId : BitVec 32) : String :=
  stream ++ msgEventLine "-" now msgSize saddr daddr sport dport txMsgId ++ "\n"

/-- One call of a queue-disc trace callback: the clock, the bound node id, the traced values. -/
inductive TraceRecord
  | bytesInQueue (now : BitVec 64) (nodeId : String) (oldval newval : BitVec 32)
  | pruTokensInQueue (now : BitVec 64) (nodeId : String) (oldval newval : BitVec 16)
deriving DecidableEq, Repr

def TraceRecord.write (stream : String) : TraceRecord → String
  | .bytesInQueue now nodeId oldval newval => bytesInQueueDiscTrace now stream nodeId oldval newval
  | .pruTokensInQueue now nodeId oldval newval =>
    pruTokensInQueueDiscTrace now stream nodeId oldval newval

/-- A stream after the records, in order, were written to it. -/
def writeTrace (stream : String) (rs : List TraceRecord) : String :=
  rs.foldl (fun s r => r.write s) stream

def TraceRecord.line : TraceRecord → String
  | .bytesInQueue now nodeId _ newval => bytesInQueueLine now nodeId newval
  | .pruTokensInQueue now nodeId _ newval => pruTokensLine now nodeId newval

def TraceRecord.now : TraceRecord → BitVec 64
  | .bytesInQueue now .. | .pruTokensInQueue now .. => now

def TraceRecord.nodeId : TraceRecord → String
  | .bytesInQueue _ nodeId .. | .pruTokensInQueue _ nodeId .. => nodeId

def TraceRecord.pruEntry : TraceRecord → Option (String × BitVec 16)
  | .bytesInQueue .. => none
  | .pruTokensInQueue _ nodeId _ newval => some (nodeId, newval)

def TraceRecord.WellFormed (r : TraceRecord) : Prop :=
  0 ≤ r.now.toInt ∧ r.nodeId ≠ "" ∧ ∀ c ∈ r.nodeId.data, isSpace c = false

instance : DecidablePred TraceRecord.WellFormed := fun r =>
  inferInstanceAs (Decidable (0 ≤ r.now.toInt ∧ r.nodeId ≠ "" ∧ ∀ c ∈ r.nodeId.data, isSpace c = false))

def TraceRecord.Readable (r : TraceRecord) : Prop :=
  IsWord r.nodeId.data ∧ (r.pruEntry ≠ none → 0 ≤ r.now.toInt)

theorem TraceRecord.WellFormed.readable {r : TraceRecord} (h : r.WellFormed) : r.Readable :=
  ⟨⟨by simpa [String.ext_iff] using h.2.1, h.2.2⟩, fun _ => h.1⟩

theorem TraceRecord.write_eq (r : TraceRecord) (stream : String) :
    r.write stream = stream ++ r.line ++ "\n" := by
  cases r <;> rfl

theorem writeTrace_data (stream : String) (rs : List TraceRecord) :
    (writeTrace stream rs).data = stream.data ++ (rs.map fun r => r.line.data ++ ['\n']).flatten := by
  induction rs generalizing stream with
  | nil => simp [writeTrace]
  | cons r rs ih =>
    simp only [writeTrace, List.foldl_cons] at ih ⊢
    rw [ih, r.write_eq]
    simp

@[simp] theorem string_join_nil : String.join [] = "" := rfl

@[simp] theorem string_join_cons (s : String) (ss : List String) :
    String.join (s :: ss) = s ++ String.join ss :=
  String.ext (by simp)

theorem string_join_append (ss ss' : List String) :
    String.join (ss ++ ss') = String.join ss ++ String.join ss' :=
  String.ext (by simp)

theorem writeTrace_eq_join (stream : String) (rs : List TraceRecord) :
    writeTrace stream rs = stream ++ String.join (rs.map (·.write "")) :=
  String.ext (by simp [writeTrace_data, TraceRecord.write_eq, Function.comp_def])

theorem toInt_eq_toNat_of_nonneg (x : BitVec 64) (h : 0 ≤ x.toInt) : x.toInt = x.toNat := by
  have := x.isLt
  rw [BitVec.toInt_eq_toNat_cond] at *
  split_ifs at h ⊢ <;> omega

@[simp] theorem data_toString_nat (n : Nat) : (toString n).data = Nat.toDigits 10 n := rfl

theorem isWord_toString_nat (n : Nat) : IsWord (toString n).data :=
  (toDigits_isDecimal n n (Nat.lt_two_pow n)).1.isWord

theorem isWord_toString_int (i : Int) : IsWord (toString i).data := by
  cases i with
  | ofNat n => exact isWord_toString_nat n
  | negSucc n =>
    refine ⟨by simp [toString], ?_⟩
    simpa [toString, forall_eq_or_imp, isSpace] using (isWord_toString_nat (n + 1)).2

theorem pruTokensLine_data (now : BitVec 64) (nodeId : String) (newval : BitVec 16) :
    (pruTokensLine now nodeId newval).data = ['p', 'r', 'u'] ++ ' ' ::
      ((toString now.toInt).data ++ ' ' :: (nodeId.data ++ ' ' :: (toString newval.toNat).data)) := by
  simp [pruTokensLine]

theorem bytesInQueueLine_data (now : BitVec 64) (nodeId : String) (newval : BitVec 32) :
    (bytesInQueueLine now nodeId newval).data = ['q', 'u', 'e'] ++ ' ' ::
      ((toString now.toInt).data ++ ' ' :: (nodeId.data ++ ' ' :: (toString newval.toNat).data)) := by
  simp [bytesInQueueLine]

theorem words_pruTokensLine (now : BitVec 64) (nodeId : String) (newval : BitVec 16)
    (h : IsWord nodeId.data) :
    words [] (pruTokensLine now nodeId newval).data =
      [['p', 'r', 'u'], (toString now.toInt).data, nodeId.data, (toString newval.toNat).data] := by
  have hv := isWord_toString_nat newval.toNat
  rw [pruTokensLine_data, words_word_space _ _ ⟨by simp, by decide⟩, words_word_space _ _ (isWord_toString_int _),
    words_word_space _ _ h, words_single _ hv]

theorem words_bytesInQueueLine (now : BitVec 64) (nodeId : String) (newval : BitVec 32) :
    ∃ ws, words [] (bytesInQueueLine now nodeId newval).data = ['q', 'u', 'e'] :: ws := by
  rw [bytesInQueueLine_data, words_word_space _ _ ⟨by simp, by decide⟩]
  exact ⟨_, rfl⟩

theorem TraceRecord.newline_not_mem_line (r : TraceRecord) (h : IsWord r.nodeId.data) :
    '\n' ∉ r.line.data := by
  have ht := (isWord_toString_int r.now.toInt).newline_not_mem
  have hid := h.newline_not_mem
  cases r with
  | bytesInQueue now nodeId oldval newval =>
    have hv := (isWord_toString_nat newval.toNat).newline_not_mem
    simp_all [TraceRecord.line, bytesInQueueLine_data, TraceRecord.now, TraceRecord.nodeId]
  | pruTokensInQueue now nodeId oldval newval =>
    have hv := (isWord_toString_nat newval.toNat).newline_not_mem
    simp_all [TraceRecord.line, pruTokensLine_data, TraceRecord.now, TraceRecord.nodeId]

theorem newline_not_mem_toString_int (i : Int) : '\n' ∉ (toString i).data :=
  (isWord_toString_int i).newline_not_mem

@[simp] theorem newline_not_mem_toDigits (n : Nat) : '\n' ∉ Nat.toDigits 10 n :=
  (isWord_toString_nat n).newline_not_mem

theorem newline_not_mem_endpointsText (saddr daddr : Ipv4Address) (sport dport : BitVec 16) :
    '\n' ∉ (endpointsText saddr daddr sport dport).data := by
  simp [endpointsText, printIpv4Address]

theorem newline_not_mem_flowStatsLine (now : BitVec 64) (saddr daddr : Ipv4Address)
    (sport dport : BitVec 16) (txMsgId cwnd : BitVec 32) (rtt : BitVec 64) :
    '\n' ∉ (flowStatsLine now saddr daddr sport dport txMsgId cwnd rtt).data := by
  simp [flowStatsLine, newline_not_mem_toString_int,
    newline_not_mem_endpointsText]

theorem newline_not_mem_msgEventLine (event : String) (h : '\n' ∉ event.data) (now : BitVec 64)
    (msgSize : BitVec 32) (saddr daddr : Ipv4Address) (sport dport : BitVec 16) (txMsgId : BitVec 32) :
    '\n' ∉ (msgEventLine event now msgSize saddr daddr sport dport txMsgId).data := by
  simp [msgEventLine, h, newline_not_mem_toString_int,
    newline_not_mem_endpointsText]

theorem printIpv4Address_data (a : Ipv4Address) :
    (printIpv4Address a).data = ['.'].intercalate [Nat.toDigits 10 ((a >>> 24) &&& 0xff).toNat,
      Nat.toDigits 10 ((a >>> 16) &&& 0xff).toNat, Nat.toDigits 10 ((a >>> 8) &&& 0xff).toNat,
      Nat.toDigits 10 (a &&& 0xff).toNat] := by
  simp [printIpv4Address, List.intercalate]

theorem not_mem_printIpv4Address (c : Char) (hc : c.isDigit = false) (hd : c ≠ '.')
    (a : Ipv4Address) : c ∉ (printIpv4Address a).data := by
  simp [printIpv4Address_data, List.intercalate, not_mem_toDigits c hc, hd]

theorem eq_of_bytes {a b : Ipv4Address}
    (h : ((a >>> 24) &&& 0xff).toNat = ((b >>> 24) &&& 0xff).toNat ∧
      ((a >>> 16) &&& 0xff).toNat = ((b >>> 16) &&& 0xff).toNat ∧
      ((a >>> 8) &&& 0xff).toNat = ((b >>> 8) &&& 0xff).toNat ∧
      (a &&& 0xff).toNat = (b &&& 0xff).toNat) : a = b := by
  have hmask (x : Nat) : x &&& 255 = x % 256 := Nat.and_pow_two_sub_one_eq_mod x 8
  have h255 : (255 : BitVec 32).toNat = 255 := rfl
  simp only [BitVec.toNat_and, BitVec.toNat_ushiftRight, Nat.shiftRight_eq_div_pow, h255, hmask] at h
  have := a.isLt
  have := b.isLt
  exact BitVec.eq_of_toNat_eq (by omega)

theorem intercalate_inj {x : Char} {ls ls' : List (List Char)} (h : ∀ l ∈ ls, x ∉ l)
    (h' : ∀ l ∈ ls', x ∉ l) (hne : ls ≠ []) (hne' : ls' ≠ [])
    (he : [x].intercalate ls = [x].intercalate ls') : ls = ls' :=
  (List.splitOn_intercalate ls x h hne).symm.trans
    ((congrArg _ he).trans (List.splitOn_intercalate ls' x h' hne'))

theorem append_cons_inj_of_not_mem {x : Char} {l l' r r' : List Char} (hl : x ∉ l) (hl' : x ∉ l')
    (h : l ++ x :: r = l' ++ x :: r') : l = l' ∧ r = r' := by
  induction l generalizing l' with
  | nil =>
    cases l' with
    | nil => simpa using h
    | cons y l' =>
      simp only [List.nil_append, List.cons_append, List.cons.injEq] at h
      exact absurd (h.1 ▸ List.mem_cons_self _ _) hl'
  | cons y l ih =>
    cases l' with
    | nil =>
      simp only [List.nil_append, List.cons_append, List.cons.injEq] at h
      exact absurd (h.1 ▸ List.mem_cons_self _ _) hl
    | cons y' l' =>
      simp only [List.cons_append, List.cons.injEq] at h
      obtain ⟨rfl, h⟩ := h
      obtain ⟨rfl, rfl⟩ := ih (fun hm => hl (List.mem_cons_of_mem _ hm))
        (fun hm => hl' (List.mem_cons_of_mem _ hm)) h
      exact ⟨rfl, rfl⟩

theorem printIpv4Address_injective : Function.Injective printIpv4Address := by
  intro a b h
  have hs := intercalate_inj (by simp [not_mem_toDigits]) (by simp [not_mem_toDigits])
    (List.cons_ne_nil _ _) (List.cons_ne_nil _ _)
    ((printIpv4Address_data a).symm.trans ((congrArg String.data h).trans (printIpv4Address_data b)))
  simp only [List.cons.injEq, toDigits_inj, and_true] at hs
  exact eq_of_bytes hs

theorem endpointsText_data (saddr daddr : Ipv4Address) (sport dport : BitVec 16) :
    (endpointsText saddr daddr sport dport).data = [' '].intercalate
      [[':'].intercalate [(printIpv4Address saddr).data, Nat.toDigits 10 sport.toNat],
       [':'].intercalate [(printIpv4Address daddr).data, Nat.toDigits 10 dport.toNat]] := by
  simp [endpointsText, List.intercalate]

/-- The endpoints a trace line prints name the flow: its two addresses and two ports. -/
theorem endpointsText_inj (saddr daddr saddr' daddr' : Ipv4Address)
    (sport dport sport' dport' : BitVec 16) :
    endpointsText saddr daddr sport dport = endpointsText saddr' daddr' sport' dport' ↔
      saddr = saddr' ∧ daddr = daddr' ∧ sport = sport' ∧ dport = dport' := by
  refine ⟨fun h => ?_, by rintro ⟨rfl, rfl, rfl, rfl⟩; rfl⟩
  have hcolon (a : Ipv4Address) (p : BitVec 16) :
      ∀ l ∈ [(printIpv4Address a).data, Nat.toDigits 10 p.toNat], ':' ∉ l := by
    simp [not_mem_printIpv4Address ':' rfl (by decide), not_mem_toDigits ':' rfl]
  have hspace (a a' : Ipv4Address) (p p' : BitVec 16) :
      ∀ l ∈ [[':'].intercalate [(printIpv4Address a).data, Nat.toDigits 10 p.toNat],
        [':'].intercalate [(printIpv4Address a').data, Nat.toDigits 10 p'.toNat]], ' ' ∉ l := by
    simp [List.intercalate, not_mem_printIpv4Address ' ' rfl (by decide), not_mem_toDigits ' ' rfl]
  have hs := intercalate_inj (hspace _ _ _ _) (hspace _ _ _ _) (List.cons_ne_nil _ _)
    (List.cons_ne_nil _ _)
    ((endpointsText_data ..).symm.trans ((congrArg String.data h).trans (endpointsText_data ..)))
  simp only [List.cons.injEq, and_true] at hs
  have hs1 := intercalate_inj (hcolon _ _) (hcolon _ _) (List.cons_ne_nil _ _) (List.cons_ne_nil _ _) hs.1
  have hs2 := intercalate_inj (hcolon _ _) (hcolon _ _) (List.cons_ne_nil _ _) (List.cons_ne_nil _ _) hs.2
  simp only [List.cons.injEq, toDigits_inj, and_true, ← String.ext_iff] at hs1 hs2
  exact ⟨printIpv4Address_injective hs1.1, printIpv4Address_injective hs2.1,
    BitVec.eq_of_toNat_eq hs1.2, BitVec.eq_of_toNat_eq hs2.2⟩

theorem splitLines_join (ls : List String) (h : ∀ l ∈ ls, '\n' ∉ l.data) :
    splitLines [] (String.join (ls.map (· ++ "\n"))).data = ls.map String.data := by
  rw [← splitLines_flatten (ls.map String.data) (by simpa using h)]
  simp [Function.comp_def]

theorem splitLines_writeTrace (rs : List TraceRecord) (h : ∀ r ∈ rs, IsWord r.nodeId.data) :
    splitLines [] (writeTrace "" rs).data = rs.map fun r => r.line.data := by
  rw [writeTrace_data, List.nil_append, ← splitLines_flatten (rs.map fun r => r.line.data)]
  · simp [Function.comp_def]
  · simpa using fun r hr => r.newline_not_mem_line (h r hr)

end DumbbellTopology
