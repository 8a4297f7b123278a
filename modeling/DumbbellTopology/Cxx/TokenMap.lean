import Mathlib.Data.List.Sort
import Mathlib.Data.String.Basic
import Mathlib.Data.List.Dedup

/-! `std::map<std::string, std::vector<uint16_t>>` as `AnalyzePruTokens` fills and walks it.
`std::less<std::string>` compares characters as unsigned values, which on UTF-8 text is the
order of `String` here; iteration is in ascending key order. -/
namespace DumbbellTopology.Cxx

abbrev Entries := List (String × List (BitVec 16))

/-- `operator[]`: the entry for `k`, inserted at its place with an empty vector if absent.
Keys compare as `std::less<std::string>` does, character by character. -/
def subscript (k : String) : Entries → Entries
  | [] => [(k, [])]
  | (k', vs) :: es =>
    if k.data < k'.data then (k, []) :: (k', vs) :: es
    else if k = k' then (k', vs) :: es
    else (k', vs) :: subscript k es

/-- `push_back` on the vector under `k`. -/
def pushBack (k : String) (v : BitVec 16) : Entries → Entries
  | [] => []
  | (k', vs) :: es => if k = k' then (k', vs ++ [v]) :: es else (k', vs) :: pushBack k v es

/-- The map's entries in iteration order; `sorted` also rules out a second entry for a key. -/
structure TokenMap where
  entries : Entries
  sorted : (entries.map Prod.fst).Sorted (· < ·)

def TokenMap.keys (m : TokenMap) : List String := m.entries.map Prod.fst

/-- The vector under `k`, empty when there is no entry. -/
def findIn (k : String) : Entries → List (BitVec 16)
  | [] => []
  | (k', vs) :: es => if k = k' then vs else findIn k es

def TokenMap.find (m : TokenMap) (k : String) : List (BitVec 16) := findIn k m.entries

theorem mem_keys_subscript (k k' : String) (es : Entries) :
    k' ∈ (subscript k es).map Prod.fst ↔ k' = k ∨ k' ∈ es.map Prod.fst := by
  induction es with
  | nil => simp [subscript]
  | cons e es ih =>
    obtain ⟨k'', vs⟩ := e
    simp only [subscript]
    split_ifs with h1 h2
    · simp
    · simp [h2]
    · simp [ih, or_left_comm]

theorem sorted_subscript (k : String) (es : Entries) (h : (es.map Prod.fst).Sorted (· < ·)) :
    ((subscript k es).map Prod.fst).Sorted (· < ·) := by
  induction es with
  | nil => simp [subscript]
  | cons e es ih =>
    obtain ⟨k', vs⟩ := e
    rw [List.map_cons, List.sorted_cons] at h
    simp only [subscript]
    split_ifs with h1 h2
    · exact List.Sorted.cons (String.lt_iff_toList_lt.mpr h1) (List.sorted_cons.mpr h)
    · exact List.sorted_cons.mpr h
    · have hlt : k' < k :=
        lt_of_le_of_ne (not_lt.mp (mt String.lt_iff_toList_lt.mp h1)) (Ne.symm h2)
      refine List.sorted_cons.mpr ⟨fun b hb => ?_, ih h.2⟩
      rcases (mem_keys_subscript k b es).mp hb with rfl | hb
      · exact hlt
      · exact h.1 b hb

theorem map_fst_pushBack (k : String) (v : BitVec 16) (es : Entries) :
    (pushBack k v es).map Prod.fst = es.map Prod.fst := by
  induction es with
  | nil => rfl
  | cons e es ih => by_cases h : k = e.1 <;> simp [pushBack, h, ih]

/-- `m[k].push_back(v)` -/
def TokenMap.push (m : TokenMap) (k : String) (v : BitVec 16) : TokenMap :=
  ⟨pushBack k v (subscript k m.entries), by
    rw [map_fst_pushBack]; exact sorted_subscript k _ m.sorted⟩

def TokenMap.empty : TokenMap := ⟨[], List.sorted_nil⟩

theorem findIn_of_not_mem (k : String) (es : Entries) (h : k ∉ es.map Prod.fst) :
    findIn k es = [] := by
  induction es with
  | nil => rfl
  | cons e es ih =>
    simp only [List.map_cons, List.mem_cons, not_or] at h
    simp [findIn, h.1, ih h.2]

theorem findIn_subscript (k k' : String) (es : Entries) (h : (es.map Prod.fst).Sorted (· < ·)) :
    findIn k' (subscript k es) = findIn k' es := by
  induction es with
  | nil => by_cases hk : k' = k <;> simp [subscript, findIn, hk]
  | cons e es ih =>
    obtain ⟨k'', vs⟩ := e
    rw [List.map_cons, List.sorted_cons] at h
    simp only [subscript]
    split_ifs with h1 h2
    · by_cases hk : k' = k
      · subst hk
        have h1 : k' < k'' := String.lt_iff_toList_lt.mpr h1
        have hnot : k' ∉ es.map Prod.fst := fun hm => lt_asymm h1 (h.1 _ hm)
        simp [findIn, h1.ne, findIn_of_not_mem _ _ hnot]
      · simp [findIn, hk]
    · rfl
    · simp [findIn, ih h.2]

theorem findIn_pushBack (k k' : String) (v : BitVec 16) (es : Entries) (h : k ∈ es.map Prod.fst) :
    findIn k' (pushBack k v es) = if k' = k then findIn k es ++ [v] else findIn k' es := by
  induction es with
  | nil => simp at h
  | cons e es ih =>
    obtain ⟨k'', vs⟩ := e
    by_cases hk : k = k''
    · subst hk; by_cases hk' : k' = k <;> simp [pushBack, findIn, hk']
    · have hm : k ∈ es.map Prod.fst := by simpa [hk] using h
      by_cases hk' : k' = k''
      · subst hk'; simp [pushBack, findIn, hk, Ne.symm hk]
      · simp [pushBack, findIn, hk, hk', ih hm]

theorem TokenMap.find_push (m : TokenMap) (k k' : String) (v : BitVec 16) :
    (m.push k v).find k' = if k' = k then m.find k ++ [v] else m.find k' := by
  have hm : k ∈ (subscript k m.entries).map Prod.fst := (mem_keys_subscript k k _).mpr (.inl rfl)
  simp only [TokenMap.find, TokenMap.push, findIn_pushBack _ _ _ _ hm,
    findIn_subscript _ _ _ m.sorted]

theorem TokenMap.mem_keys_push (m : TokenMap) (k k' : String) (v : BitVec 16) :
    k' ∈ (m.push k v).keys ↔ k' = k ∨ k' ∈ m.keys := by
  simp only [TokenMap.keys, TokenMap.push, map_fst_pushBack, mem_keys_subscript]

theorem entries_eq_map_findIn (es : Entries) (h : (es.map Prod.fst).Nodup) :
    es = (es.map Prod.fst).map fun k => (k, findIn k es) := by
  induction es with
  | nil => rfl
  | cons e es ih =>
    obtain ⟨k, vs⟩ := e
    rw [List.map_cons, List.nodup_cons] at h
    simp only [List.map_cons, findIn, if_pos, List.cons.injEq, true_and]
    refine (ih h.2).trans (List.map_congr_left fun k' hk' => ?_)
    simp [show k' ≠ k from fun he => h.1 (he ▸ hk')]

theorem TokenMap.entries_eq (m : TokenMap) : m.entries = m.keys.map fun k => (k, m.find k) :=
  entries_eq_map_findIn _ m.sorted.nodup

def entriesSize : Entries → Nat
  | [] => 0
  | (_, vs) :: es => vs.length + entriesSize es

def TokenMap.size (m : TokenMap) : Nat := entriesSize m.entries

theorem size_subscript (k : String) (es : Entries) : entriesSize (subscript k es) = entriesSize es := by
  induction es with
  | nil => rfl
  | cons e es ih =>
    simp only [subscript]
    split_ifs <;> simp [entriesSize, ih]

theorem size_pushBack (k : String) (v : BitVec 16) (es : Entries) (h : k ∈ es.map Prod.fst) :
    entriesSize (pushBack k v es) = entriesSize es + 1 := by
  induction es with
  | nil => simp at h
  | cons e es ih =>
    by_cases hk : k = e.1
    · simp [pushBack, entriesSize, hk]
      omega
    · simp only [List.map_cons, List.mem_cons, hk, false_or] at h
      simp [pushBack, entriesSize, hk, ih h]
      omega

theorem TokenMap.size_push (m : TokenMap) (k : String) (v : BitVec 16) :
    (m.push k v).size = m.size + 1 := by
  rw [TokenMap.size, TokenMap.push, size_pushBack _ _ _ ((mem_keys_subscript k k _).mpr (.inl rfl)),
    size_subscript]
  rfl

def TokenMap.pushAll (m : TokenMap) (es : List (String × BitVec 16)) : TokenMap :=
  es.foldl (fun m e => m.push e.1 e.2) m

theorem TokenMap.pushAll_append (m : TokenMap) (es es' : List (String × BitVec 16)) :
    m.pushAll (es ++ es') = (m.pushAll es).pushAll es' := by
  simp [TokenMap.pushAll, List.foldl_append]

def valuesOf (es : List (String × BitVec 16)) (k : String) : List (BitVec 16) :=
  es.filterMap fun e => if e.1 = k then some e.2 else none

theorem TokenMap.find_pushAll (m : TokenMap) (es : List (String × BitVec 16)) (k : String) :
    (m.pushAll es).find k = m.find k ++ valuesOf es k := by
  induction es generalizing m with
  | nil => simp [TokenMap.pushAll, valuesOf]
  | cons e es ih =>
    simp only [TokenMap.pushAll, List.foldl_cons] at ih ⊢
    rw [ih, TokenMap.find_push]
    by_cases h : k = e.1 <;> simp [valuesOf, h, eq_comm]

theorem TokenMap.mem_keys_pushAll (m : TokenMap) (es : List (String × BitVec 16)) (k : String) :
    k ∈ (m.pushAll es).keys ↔ k ∈ m.keys ∨ k ∈ es.map Prod.fst := by
  induction es generalizing m with
  | nil => simp [TokenMap.pushAll]
  | cons e es ih =>
    simp only [TokenMap.pushAll, List.foldl_cons] at ih ⊢
    rw [ih, TokenMap.mem_keys_push]
    simp only [List.map_cons, List.mem_cons]
    tauto

def TokenMap.NoEmpty (m : TokenMap) : Prop := ∀ k ∈ m.keys, m.find k ≠ []

theorem TokenMap.noEmpty_pushAll (m : TokenMap) (es : List (String × BitVec 16))
    (h : m.NoEmpty) : (m.pushAll es).NoEmpty := by
  intro k hk
  rw [TokenMap.find_pushAll]
  rcases (m.mem_keys_pushAll es k).mp hk with hk | hk
  · simp [h k hk]
  · obtain ⟨⟨k', v⟩, he, rfl⟩ := List.mem_map.mp hk
    simpa [valuesOf] using fun _ => ⟨v, he⟩

theorem TokenMap.keys_eq_sort (m : TokenMap) (l : List String) (h : ∀ k, k ∈ m.keys ↔ k ∈ l) :
    m.keys = l.dedup.insertionSort (· ≤ ·) := by
  have hperm : m.keys.Perm (l.dedup.insertionSort (· ≤ ·)) :=
    ((List.perm_ext_iff_of_nodup m.sorted.nodup (List.nodup_dedup l)).mpr
      fun k => (h k).trans List.mem_dedup.symm).trans (List.perm_insertionSort _ _).symm
  exact List.eq_of_perm_of_sorted hperm (m.sorted.imp le_of_lt) (List.sorted_insertionSort _ _)

end DumbbellTopology.Cxx
