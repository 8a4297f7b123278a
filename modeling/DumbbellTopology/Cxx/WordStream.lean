import DumbbellTopology.Cxx.IStream

/-! The extractors of `IStream` seen word by word. On one line a `std::istringstream` in the "C"
locale hands out its white-space separated words; `num_get` may stop inside a word, and what is
left of that word is read next. Once `failbit` is set every later extraction fails and keeps its
variable. `Agrees` ties the character stream to the word stream, and each extractor keeps it. -/
namespace DumbbellTopology.Cxx

structure WordStream where
  words : List (List Char)
  fail : Bool
deriving DecidableEq, Repr

/-- `is >> str`: the next word, or, with none left, `failbit` and `str` kept. -/
def WordStream.readString (s : WordStream) (str : String) : WordStream × String :=
  if s.fail then (s, str)
  else match s.words with
    | [] => (⟨[], true⟩, str)
    | w :: ws => (⟨ws, false⟩, ⟨w⟩)

def leadingDigits (w : List Char) : List Char := (splitSign w).2.takeWhile Char.isDigit

/-- `is >> n`: the sign and digits at the front of the next word, as `IStream.extractUnsigned`
reads them; the rest of the word, if any, is the next word. -/
def WordStream.readUnsigned (s : WordStream) (n : BitVec k) : WordStream × BitVec k :=
  if s.fail then (s, n)
  else match s.words with
    | [] => (⟨[], true⟩, n)
    | w :: ws =>
      let ds := leadingDigits w
      let r := (splitSign w).2.dropWhile Char.isDigit
      let ws := if r = [] then ws else r :: ws
      if ds = [] then (⟨ws, true⟩, 0)
      else if 2 ^ k ≤ decimalValue ds then (⟨ws, true⟩, BitVec.allOnes k)
      else (⟨ws, false⟩, if (splitSign w).1 then -BitVec.ofNat k (decimalValue ds)
        else BitVec.ofNat k (decimalValue ds))

@[simp] theorem WordStream.readString_of_fail (s : WordStream) (str : String) (h : s.fail = true) :
    s.readString str = (s, str) := by
  simp [WordStream.readString, h]

@[simp] theorem WordStream.readUnsigned_of_fail (s : WordStream) (n : BitVec k)
    (h : s.fail = true) : s.readUnsigned n = (s, n) := by
  simp [WordStream.readUnsigned, h]

@[simp] theorem WordStream.readString_cons (w : List Char) (ws : List (List Char)) (str : String) :
    (⟨w :: ws, false⟩ : WordStream).readString str = (⟨ws, false⟩, ⟨w⟩) := rfl

@[simp] theorem WordStream.readString_nil (str : String) :
    (⟨[], false⟩ : WordStream).readString str = (⟨[], true⟩, str) := rfl

@[simp] theorem WordStream.readUnsigned_nil (n : BitVec k) :
    (⟨[], false⟩ : WordStream).readUnsigned n = (⟨[], true⟩, n) := rfl

theorem WordStream.readUnsigned_decimal (w : List Char) (ws : List (List Char)) (n : BitVec k)
    (hw : IsDecimal k w) :
    (⟨w :: ws, false⟩ : WordStream).readUnsigned n = (⟨ws, false⟩, BitVec.ofNat k (decimalValue w)) := by
  obtain ⟨hne, hdig, hlt⟩ := hw
  obtain ⟨c, w', rfl⟩ := List.exists_cons_of_ne_nil hne
  have hs := splitSign_of_digit c w' (hdig c (List.mem_cons_self _ _))
  have hall : ∀ x ∈ c :: w', x.isDigit = true := hdig
  simp [WordStream.readUnsigned, leadingDigits, hs, List.takeWhile_eq_self_iff.mpr hall,
    List.dropWhile_eq_nil_iff.mpr hall, Nat.not_le.mpr hlt]

theorem WordStream.readUnsigned_cons_value (w : List Char) (ws : List (List Char)) (n : BitVec k) :
    ((⟨w :: ws, false⟩ : WordStream).readUnsigned n).2 =
      if leadingDigits w = [] then 0
      else if 2 ^ k ≤ decimalValue (leadingDigits w) then BitVec.allOnes k
      else if (splitSign w).1 then -BitVec.ofNat k (decimalValue (leadingDigits w))
      else BitVec.ofNat k (decimalValue (leadingDigits w)) := by
  by_cases h0 : leadingDigits w = [] <;> by_cases h1 : 2 ^ k ≤ decimalValue (leadingDigits w) <;>
    simp [WordStream.readUnsigned, h0, h1]

theorem WordStream.readUnsigned_fail (ws : List (List Char)) (n : BitVec k)
    (h : ∀ w ∈ ws.head?, leadingDigits w = [] ∨ 2 ^ k ≤ decimalValue (leadingDigits w)) :
    ((⟨ws, false⟩ : WordStream).readUnsigned n).1.fail = true := by
  rcases ws with _ | ⟨w, ws⟩
  · rfl
  · rcases h w rfl with h0 | h1
    · simp [WordStream.readUnsigned, h0]
    · by_cases h0 : leadingDigits w = [] <;> simp [WordStream.readUnsigned, h0, h1]

theorem splitSign_suffix (w : List Char) : (splitSign w).2 <:+ w := by
  unfold splitSign
  split <;> simp

def WordStream.TailsOf (ws : List (List Char)) (s : WordStream) : Prop :=
  ∀ w ∈ s.words, ∃ w' ∈ ws, w <:+ w'

theorem WordStream.TailsOf.readString {s : WordStream} (h : s.TailsOf ws) (str : String) :
    (s.readString str).1.TailsOf ws ∧
      ((s.readString str).2 = str ∨ ∃ w ∈ ws, (s.readString str).2.data <:+ w) := by
  unfold WordStream.readString
  split
  · exact ⟨h, .inl rfl⟩
  · split
    · exact ⟨fun _ hw => absurd hw (List.not_mem_nil _), .inl rfl⟩
    · next w ws' hs =>
      rw [WordStream.TailsOf, hs] at h
      exact ⟨fun x hx => h x (.tail _ hx), .inr (h w (.head _))⟩

theorem WordStream.TailsOf.readUnsigned {s : WordStream} (h : s.TailsOf ws) (n : BitVec k) :
    (s.readUnsigned n).1.TailsOf ws := by
  unfold WordStream.readUnsigned
  split
  · exact h
  · split
    · exact fun _ hw => absurd hw (List.not_mem_nil _)
    · next w ws' hs =>
      rw [WordStream.TailsOf, hs] at h
      have hrest : ∀ x ∈ (if (splitSign w).2.dropWhile Char.isDigit = [] then ws'
          else (splitSign w).2.dropWhile Char.isDigit :: ws'), ∃ w' ∈ ws, x <:+ w' := by
        obtain ⟨w', hw', hsuf⟩ := h w (.head _)
        split_ifs
        · exact fun x hx => h x (.tail _ hx)
        · rintro x (_ | ⟨_, hx⟩)
          · exact ⟨w', hw', ((List.dropWhile_suffix _).trans (splitSign_suffix w)).trans hsuf⟩
          · exact h x (.tail _ hx)
      dsimp only
      generalize (if (splitSign w).2.dropWhile Char.isDigit = [] then ws'
        else (splitSign w).2.dropWhile Char.isDigit :: ws') = ws'' at hrest ⊢
      split_ifs <;> exact hrest

def Agrees (s : IStream) (t : WordStream) : Prop :=
  s.fail = t.fail ∧ (t.fail = false → s.Readable ∧ words [] s.rest = t.words)

theorem agrees_ofLine (line : List Char) : Agrees (IStream.ofLine line) ⟨words [] line, false⟩ :=
  ⟨rfl, fun _ => ⟨IStream.readable_ofLine line, rfl⟩⟩

theorem splitSign_append (w t : List Char) (hw : w ≠ []) :
    splitSign (w ++ t) = ((splitSign w).1, (splitSign w).2 ++ t) := by
  obtain ⟨c, w, rfl⟩ := List.exists_cons_of_ne_nil hw
  unfold splitSign
  split <;> simp_all

theorem mem_of_mem_splitSign {c : Char} {w : List Char} (h : c ∈ (splitSign w).2) : c ∈ w := by
  unfold splitSign at h
  split at h <;> simp_all

theorem takeWhile_append_stop (p : Char → Bool) (r t : List Char) (ht : t.takeWhile p = []) :
    (r ++ t).takeWhile p = r.takeWhile p := by
  induction r with
  | nil => simpa using ht
  | cons x r ih => by_cases hx : p x <;> simp [List.takeWhile_cons, hx, ih]

theorem dropWhile_append_stop (p : Char → Bool) (r t : List Char) (ht : t.dropWhile p = t) :
    (r ++ t).dropWhile p = r.dropWhile p ++ t := by
  rw [List.dropWhile_append]
  split
  · next h => rw [List.isEmpty_iff.mp h, ht, List.nil_append]
  · rfl

theorem IStream.extractUnsigned_of_no_words (s : IStream) (n : BitVec k) (hs : s.Readable)
    (h : words [] s.rest = []) :
    (s.extractUnsigned n).2 = n ∧ (s.extractUnsigned n).1.fail = true := by
  rcases s.sentry_of_no_words hs h with hsen | hsen <;> simp [IStream.extractUnsigned, hsen]

theorem IStream.sentry_of_word (s : IStream) (hs : s.Readable) (h : words [] s.rest = w :: ws) :
    ∃ t, s.sentry = (⟨w ++ t, false, false⟩, true) ∧ AtBoundary t ∧ words [] t = ws ∧
      w ≠ [] ∧ ∀ c ∈ w, isSpace c = false := by
  obtain ⟨c, d, hsen, hc, hw⟩ := s.sentry_of_words hs h
  rw [words_of_head c d hc] at hw
  obtain ⟨rfl, rfl⟩ := List.cons.inj hw
  refine ⟨_, by rw [List.takeWhile_append_dropWhile, hsen], atBoundary_dropWhile _, rfl,
    by simp [List.takeWhile_cons, hc], fun x hx => ?_⟩
  simpa using List.mem_takeWhile_imp hx

theorem extractString_agrees {s : IStream} {t : WordStream} (h : Agrees s t) (str : String) :
    (s.extractString str).2 = (t.readString str).2 ∧
      Agrees (s.extractString str).1 (t.readString str).1 := by
  obtain ⟨hf, hw⟩ := h
  cases htf : t.fail with
  | true =>
    rw [htf] at hf
    simp [WordStream.readString, htf, IStream.extractString_of_fail s str hf, Agrees]
  | false =>
    obtain ⟨hs, hws⟩ := hw htf
    rcases ht : t.words with _ | ⟨w, ws⟩
    · obtain ⟨h1, h2⟩ := s.extractString_of_no_words str hs (hws.trans ht)
      simp [WordStream.readString, htf, ht, h1, h2, Agrees]
    · obtain ⟨h1, h2, h3⟩ := s.extractString_of_words str hs (hws.trans ht)
      simp [WordStream.readString, htf, ht, h1, h2.1, Agrees, h2, h3]

theorem extractUnsigned_agrees {s : IStream} {t : WordStream} (h : Agrees s t) (n : BitVec k) :
    (s.extractUnsigned n).2 = (t.readUnsigned n).2 ∧
      Agrees (s.extractUnsigned n).1 (t.readUnsigned n).1 := by
  obtain ⟨hf, hw⟩ := h
  cases htf : t.fail with
  | true =>
    rw [htf] at hf
    simp [WordStream.readUnsigned, htf, IStream.extractUnsigned_of_fail s n hf, Agrees]
  | false =>
    obtain ⟨hs, hws⟩ := hw htf
    rcases ht : t.words with _ | ⟨w, ws⟩
    · obtain ⟨h1, h2⟩ := s.extractUnsigned_of_no_words n hs (hws.trans ht)
      simp [WordStream.readUnsigned, htf, ht, h1, h2, Agrees]
    · obtain ⟨tl, hsen, hb, htl, hne, hsp⟩ := s.sentry_of_word hs (hws.trans ht)
      have hrest (r : List Char) (hr : ∀ c ∈ r, isSpace c = false) :
          words [] (r ++ tl) = if r = [] then ws else r :: ws := by
        split_ifs with h0
        · simpa [h0] using htl
        · rw [words_word r tl h0 hr hb, htl]
      have hr : ∀ c ∈ ((splitSign w).2.dropWhile Char.isDigit), isSpace c = false := fun c hc =>
        hsp c (mem_of_mem_splitSign ((List.dropWhile_suffix _).subset hc))
      simp only [IStream.extractUnsigned, hsen, splitSign_append w tl hne,
        takeWhile_append_stop _ _ _ hb.digits.1, dropWhile_append_stop _ _ _ hb.digits.2,
        WordStream.readUnsigned, leadingDigits, htf, ht, if_false, Bool.false_eq_true]
      by_cases h0 : (splitSign w).2.takeWhile Char.isDigit = []
      · simp [h0, Agrees, IStream.Readable, hrest _ hr]
      · by_cases h1 : 2 ^ k ≤ decimalValue ((splitSign w).2.takeWhile Char.isDigit) <;>
          simp [h0, h1, Agrees, IStream.Readable, hrest _ hr]

end DumbbellTopology.Cxx
