import Mathlib.Tactic.IntervalCases
import Mathlib.Data.Nat.Digits

/-! The part of the C++ library that `AnalyzePruTokens` reads its trace through, in the "C"
locale with the default `skipws | dec` flags: `std::getline` over the file and the formatted
extractors of a reused `std::istringstream`. Where the standard leaves a case open (a sign in
front of an unsigned field) the model follows libstdc++. -/
namespace DumbbellTopology.Cxx

/-- `isspace` in the "C" locale: space and `\t \n \v \f \r`. -/
def isSpace (c : Char) : Bool := c.toNat = 32 || (9 ≤ c.toNat && c.toNat ≤ 13)

/-- Value of a run of decimal digits, most significant first. -/
def decimalValue (ds : List Char) : Nat := ds.foldl (fun n c => 10 * n + (c.toNat - 48)) 0

/-- The lines `while (getline(file, line))` visits, `line` being the one under way: each
`'\n'` ends a line and is not stored; characters after the last `'\n'` make a last line. -/
def splitLines (line : List Char) : List Char → List (List Char)
  | [] => if line = [] then [] else [line]
  | c :: cs => if c = '\n' then line :: splitLines [] cs else splitLines (line ++ [c]) cs

/-- The white-space separated words of a line, as successive `>>` of strings read them. -/
def words (word : List Char) : List Char → List (List Char)
  | [] => if word = [] then [] else [word]
  | c :: cs =>
    if isSpace c then (if word = [] then words [] cs else word :: words [] cs)
    else words (word ++ [c]) cs

/-- A `std::istringstream`: the characters not read yet, `failbit` and `eofbit`. -/
structure IStream where
  rest : List Char
  fail : Bool
  eof : Bool
deriving DecidableEq, Repr

/-- `lineBuffer.clear(); lineBuffer.str(line);` -/
def IStream.ofLine (line : List Char) : IStream := ⟨line, false, false⟩

/-- `istream::sentry` with `skipws`: fails on a stream that is not good; otherwise skips white
space and fails, setting `eofbit`, when nothing is left. -/
def IStream.sentry (s : IStream) : IStream × Bool :=
  if s.fail || s.eof then ({ s with fail := true }, false)
  else match s.rest.dropWhile isSpace with
    | [] => (⟨[], true, true⟩, false)
    | r => (⟨r, false, false⟩, true)

/-- `is >> str` into a `std::string`. When the sentry fails `str` keeps its old value. -/
def IStream.extractString (s : IStream) (str : String) : IStream × String :=
  match s.sentry with
  | (s, false) => (s, str)
  | (s, true) =>
    let r := s.rest.dropWhile (fun c => !isSpace c)
    (⟨r, false, r.isEmpty⟩, ⟨s.rest.takeWhile (fun c => !isSpace c)⟩)

/-- The sign `num_get` accepts before the digits. -/
def splitSign : List Char → Bool × List Char
  | '-' :: r => (true, r)
  | '+' :: r => (false, r)
  | r => (false, r)

/-- `is >> n` into an unsigned integer of `w` bits (`num_get::_M_extract_int`, base 10): an
optional sign and the longest run of digits. No digit stores 0 and a value past the type stores
its maximum, both with `failbit`; a `-` negates modulo `2^w`. When the sentry fails `n` keeps
its old value. -/
def IStream.extractUnsigned (s : IStream) (n : BitVec w) : IStream × BitVec w :=
  match s.sentry with
  | (s, false) => (s, n)
  | (s, true) =>
    let (neg, r) := splitSign s.rest
    let ds := r.takeWhile Char.isDigit
    let r := r.dropWhile Char.isDigit
    if ds = [] then (⟨r, true, r.isEmpty⟩, 0)
    else if 2 ^ w ≤ decimalValue ds then (⟨r, true, r.isEmpty⟩, BitVec.allOnes w)
    else (⟨r, false, r.isEmpty⟩,
      if neg then -BitVec.ofNat w (decimalValue ds) else BitVec.ofNat w (decimalValue ds))

theorem isDigit_iff (c : Char) : c.isDigit = true ↔ 48 ≤ c.toNat ∧ c.toNat ≤ 57 := by
  simp [Char.isDigit, UInt32.le_def, BitVec.le_def, Char.toNat, UInt32.toNat]

theorem isSpace_of_isDigit (c : Char) (h : c.isDigit = true) : isSpace c = false := by
  have := (isDigit_iff c).mp h
  simp only [isSpace, Bool.or_eq_false_iff, decide_eq_false_iff_not, Bool.and_eq_false_iff]
  omega

theorem splitSign_of_digit (c : Char) (d : List Char) (h : c.isDigit = true) :
    splitSign (c :: d) = (false, c :: d) := by
  have := (isDigit_iff c).mp h
  unfold splitSign
  split <;> simp_all

def IsDecimal (w : Nat) (ds : List Char) : Prop :=
  ds ≠ [] ∧ (∀ c ∈ ds, c.isDigit) ∧ decimalValue ds < 2 ^ w

instance (w : Nat) : DecidablePred (IsDecimal w) := fun _ => inferInstanceAs (Decidable (_ ∧ _ ∧ _))

theorem decimalValue_append_digit (ds : List Char) (c : Char) :
    decimalValue (ds ++ [c]) = 10 * decimalValue ds + (c.toNat - 48) := by
  simp [decimalValue, List.foldl_append]

private theorem digitChar_spec (d : Nat) (h : d < 10) :
    (Nat.digitChar d).isDigit ∧ (Nat.digitChar d).toNat - 48 = d := by
  interval_cases d <;> exact ⟨rfl, rfl⟩

theorem toDigitsCore_spec (fuel n : Nat) (ds : List Char) (h : n < fuel) :
    ∃ pre, Nat.toDigitsCore 10 fuel n ds = pre ++ ds ∧ pre ≠ [] ∧
      (∀ c ∈ pre, c.isDigit) ∧ decimalValue pre = n := by
  induction fuel generalizing n ds with
  | zero => omega
  | succ fuel ih =>
    have hd := digitChar_spec (n % 10) (Nat.mod_lt _ (by decide))
    simp only [Nat.toDigitsCore]
    split
    next hq =>
      refine ⟨[Nat.digitChar (n % 10)], rfl, by simp, by simpa using hd.1, ?_⟩
      simp [decimalValue, hd.2]
      omega
    next hq =>
      obtain ⟨pre, he, -, hdig, hval⟩ := ih (n / 10) (Nat.digitChar (n % 10) :: ds) (by omega)
      refine ⟨pre ++ [Nat.digitChar (n % 10)], by simp [he], by simp, ?_, ?_⟩
      · simpa [or_imp, forall_and, hd.1] using hdig
      · rw [decimalValue_append_digit, hval, hd.2]
        omega

theorem toDigits_isDecimal (n w : Nat) (h : n < 2 ^ w) :
    IsDecimal w (Nat.toDigits 10 n) ∧ decimalValue (Nat.toDigits 10 n) = n := by
  obtain ⟨pre, he, hne, hdig, hval⟩ := toDigitsCore_spec (n + 1) n [] (by omega)
  simp only [Nat.toDigits, he, List.append_nil]
  exact ⟨⟨hne, hdig, hval ▸ h⟩, hval⟩

theorem toDigits_inj (m n : Nat) : Nat.toDigits 10 m = Nat.toDigits 10 n ↔ m = n :=
  ⟨fun h => by rw [← (toDigits_isDecimal m m (Nat.lt_two_pow m)).2, h,
    (toDigits_isDecimal n n (Nat.lt_two_pow n)).2], congrArg _⟩

theorem not_mem_toDigits (c : Char) (hc : c.isDigit = false) (n : Nat) : c ∉ Nat.toDigits 10 n :=
  fun h => absurd ((toDigits_isDecimal n n (Nat.lt_two_pow n)).1.2.1 c h) (by simp [hc])

def IsWord (w : List Char) : Prop := w ≠ [] ∧ ∀ c ∈ w, isSpace c = false

theorem IsWord.newline_not_mem (h : IsWord w) : '\n' ∉ w :=
  fun hm => absurd (h.2 _ hm) (by decide)

theorem IsDecimal.isWord (h : IsDecimal k w) : IsWord w :=
  ⟨h.1, fun c hc => isSpace_of_isDigit c (h.2.1 c hc)⟩

def AtBoundary (r : List Char) : Prop := r.head?.all isSpace = true

theorem words_append_nonspace (word w r : List Char) (hw : ∀ c ∈ w, isSpace c = false) :
    words word (w ++ r) = words (word ++ w) r := by
  induction w generalizing word with
  | nil => simp
  | cons c w ih =>
    simp only [List.mem_cons, forall_eq_or_imp] at hw
    simp [words, hw.1, ih _ hw.2]

theorem words_append_space (sp r : List Char) (hsp : ∀ c ∈ sp, isSpace c = true) :
    words [] (sp ++ r) = words [] r := by
  induction sp with
  | nil => rfl
  | cons c sp ih =>
    simp only [List.mem_cons, forall_eq_or_imp] at hsp
    simp [words, hsp.1, ih hsp.2]

theorem words_word (w r : List Char) (hw : w ≠ []) (hnsp : ∀ c ∈ w, isSpace c = false)
    (hr : AtBoundary r) : words [] (w ++ r) = w :: words [] r := by
  rw [words_append_nonspace _ _ _ hnsp, List.nil_append]
  cases r with
  | nil => simp [words, hw]
  | cons c r =>
    simp only [AtBoundary, List.head?_cons, Option.all_some] at hr
    simp [words, hr, hw]

theorem words_word_space (w r : List Char) (hw : IsWord w) :
    words [] (w ++ ' ' :: r) = w :: words [] r := by
  rw [words_word w (' ' :: r) hw.1 hw.2 rfl]
  rfl

theorem words_single (w : List Char) (hw : IsWord w) : words [] w = [w] := by
  simpa [words] using words_word w [] hw.1 hw.2 rfl

theorem words_dropWhile (l : List Char) : words [] (l.dropWhile isSpace) = words [] l := by
  conv_rhs => rw [← List.takeWhile_append_dropWhile isSpace l]
  exact (words_append_space _ _ fun c hc => List.mem_takeWhile_imp hc).symm

theorem atBoundary_dropWhile (l : List Char) : AtBoundary (l.dropWhile fun c => !isSpace c) := by
  have := List.head?_dropWhile_not (fun c => !isSpace c) l
  unfold AtBoundary
  generalize (l.dropWhile fun c => !isSpace c).head? = o at this ⊢
  cases o <;> simp_all

theorem AtBoundary.digits {r : List Char} (hr : AtBoundary r) :
    r.takeWhile Char.isDigit = [] ∧ r.dropWhile Char.isDigit = r := by
  cases r with
  | nil => simp
  | cons c r =>
    simp only [AtBoundary, List.head?_cons, Option.all_some] at hr
    have hc : c.isDigit = false := by
      cases h : c.isDigit
      · rfl
      · simp [isSpace_of_isDigit c h] at hr
    simp [List.takeWhile_cons, List.dropWhile_cons, hc]

theorem words_of_head (c : Char) (d : List Char) (hc : isSpace c = false) :
    words [] (c :: d) = (c :: d).takeWhile (fun c => !isSpace c) ::
      words [] ((c :: d).dropWhile (fun c => !isSpace c)) := by
  conv_lhs => rw [← List.takeWhile_append_dropWhile (fun c => !isSpace c) (c :: d)]
  apply words_word
  · simp [List.takeWhile_cons, hc]
  · intro x hx
    simpa using List.mem_takeWhile_imp hx
  · exact atBoundary_dropWhile _

def IStream.Readable (s : IStream) : Prop := s.fail = false ∧ (s.eof = true → s.rest = [])

@[simp] theorem IStream.readable_ofLine (line : List Char) : (IStream.ofLine line).Readable := by
  simp [IStream.Readable, IStream.ofLine]

theorem IStream.sentry_of_words (s : IStream) (hs : s.Readable) (h : words [] s.rest = w :: ws) :
    ∃ c d, s.sentry = (⟨c :: d, false, false⟩, true) ∧ isSpace c = false ∧
      words [] (c :: d) = w :: ws := by
  obtain ⟨hf, he⟩ := hs
  cases heof : s.eof
  · have hw := words_dropWhile s.rest
    have hd := List.head?_dropWhile_not isSpace s.rest
    cases hdrop : s.rest.dropWhile isSpace with
    | nil => simp_all [words]
    | cons c d =>
      simp only [hdrop, List.head?_cons] at hd
      exact ⟨c, d, by simp [IStream.sentry, hf, heof, hdrop], hd, by rw [← hdrop, hw, h]⟩
  · simp_all [words]

theorem IStream.sentry_of_no_words (s : IStream) (hs : s.Readable) (h : words [] s.rest = []) :
    s.sentry = (⟨[], true, true⟩, false) ∨ s.sentry = ({ s with fail := true }, false) := by
  obtain ⟨hf, he⟩ := hs
  cases heof : s.eof
  · cases hdrop : s.rest.dropWhile isSpace with
    | nil => simp [IStream.sentry, hf, heof, hdrop]
    | cons c d =>
      have hd := List.head?_dropWhile_not isSpace s.rest
      simp only [hdrop, List.head?_cons] at hd
      have hw := words_dropWhile s.rest
      rw [hdrop, h, words_of_head c d hd] at hw
      cases hw
  · simp [IStream.sentry, heof]

theorem IStream.extractString_of_words (s : IStream) (str : String) (hs : s.Readable)
    (h : words [] s.rest = w :: ws) :
    (s.extractString str).2 = ⟨w⟩ ∧ (s.extractString str).1.Readable ∧
      words [] (s.extractString str).1.rest = ws := by
  obtain ⟨c, d, hsen, hc, hw⟩ := s.sentry_of_words hs h
  rw [words_of_head c d hc] at hw
  obtain ⟨rfl, rfl⟩ := List.cons.inj hw
  simp [IStream.extractString, hsen, IStream.Readable]

theorem IStream.extractString_of_no_words (s : IStream) (str : String) (hs : s.Readable)
    (h : words [] s.rest = []) :
    (s.extractString str).2 = str ∧ (s.extractString str).1.fail = true := by
  rcases s.sentry_of_no_words hs h with hsen | hsen <;> simp [IStream.extractString, hsen]

theorem IStream.extractUnsigned_of_words (s : IStream) (n : BitVec k) (hs : s.Readable)
    (h : words [] s.rest = w :: ws) (hw : IsDecimal k w) :
    (s.extractUnsigned n).2 = BitVec.ofNat k (decimalValue w) ∧
      (s.extractUnsigned n).1.Readable ∧ words [] (s.extractUnsigned n).1.rest = ws := by
  obtain ⟨hne, hdig, hlt⟩ := hw
  obtain ⟨c, d, hsen, hc, hwd⟩ := s.sentry_of_words hs h
  rw [words_of_head c d hc] at hwd
  obtain ⟨rfl, rfl⟩ := List.cons.inj hwd
  have hr := atBoundary_dropWhile (c :: d)
  have hsplit := List.takeWhile_append_dropWhile (fun c => !isSpace c) (c :: d)
  generalize (c :: d).takeWhile (fun c => !isSpace c) = w, (c :: d).dropWhile
    (fun c => !isSpace c) = r at hne hdig hlt hsplit hr ⊢
  rw [← hsplit] at hsen
  obtain ⟨c', w', rfl⟩ := List.exists_cons_of_ne_nil hne
  have hsign := splitSign_of_digit c' (w' ++ r) (hdig c' (List.mem_cons_self _ _))
  have hds : (c' :: w' ++ r).takeWhile Char.isDigit = c' :: w' := by
    rw [List.takeWhile_append_of_pos hdig, hr.digits.1, List.append_nil]
  have hrest : (c' :: w' ++ r).dropWhile Char.isDigit = r := by
    rw [List.dropWhile_append_of_pos hdig, hr.digits.2]
  simp only [List.cons_append] at hds hrest
  simp [IStream.extractUnsigned, hsen, hsign, hds, hrest, Nat.not_le.mpr hlt, IStream.Readable]

theorem IStream.extractString_of_fail (s : IStream) (str : String) (h : s.fail = true) :
    s.extractString str = ({ s with fail := true }, str) := by
  simp [IStream.extractString, IStream.sentry, h]

theorem IStream.extractUnsigned_of_fail (s : IStream) (n : BitVec k) (h : s.fail = true) :
    s.extractUnsigned n = ({ s with fail := true }, n) := by
  simp [IStream.extractUnsigned, IStream.sentry, h]

theorem splitLines_append_newline (line l cs : List Char) (hl : '\n' ∉ l) :
    splitLines line (l ++ '\n' :: cs) = (line ++ l) :: splitLines [] cs := by
  induction l generalizing line with
  | nil => simp [splitLines]
  | cons c l ih =>
    simp only [List.mem_cons, not_or] at hl
    simp [splitLines, Ne.symm hl.1, ih _ hl.2]

theorem splitLines_flatten (ls : List (List Char)) (h : ∀ l ∈ ls, '\n' ∉ l) :
    splitLines [] (ls.map (· ++ ['\n'])).flatten = ls := by
  induction ls with
  | nil => rfl
  | cons l ls ih =>
    simp only [List.mem_cons, forall_eq_or_imp] at h
    simp [splitLines_append_newline _ _ _ h.1, ih h.2]

end DumbbellTopology.Cxx
