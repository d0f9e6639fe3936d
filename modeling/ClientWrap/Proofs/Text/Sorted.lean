import ClientWrap.Text.Ascending
import Mathlib.Data.List.Sort
import Mathlib.Data.String.Basic

/-!
# Lists in ascending order of a key

A list in strictly ascending order of a key has at most one element for each key
(`AscendingBy.eq_of_key`), and it is determined by the elements it has (`AscendingBy.ext`).
`ascending` gives such a list. The order of texts is that of their bytes (`bytes_lt`).
-/

namespace ClientWrap.Text

/-- The keys of the elements strictly ascend. -/
def AscendingBy {α : Type} (key : α → String) (l : List α) : Prop :=
  l.Pairwise fun a b => key a < key b

namespace AscendingBy

variable {α : Type} {key : α → String} {l l' : List α}

/-- The empty list ascends. -/
theorem nil :
  AscendingBy key ([] : List α)
  := List.Pairwise.nil

/-- A list ascends exactly if its first key is below all others and the rest of it ascends. -/
theorem cons_iff {a : α} :
  AscendingBy key (a :: l) ↔ (∀ b ∈ l, key a < key b) ∧ AscendingBy key l
  := List.pairwise_cons

/-- Elements of one key are equal. -/
theorem eq_of_key (h : AscendingBy key l) {a b : α} (ha : a ∈ l) (hb : b ∈ l)
    (hkey : key a = key b) :
  a = b
  := by
  induction l with
  | nil => contradiction
  | cons c l ih =>
      obtain ⟨hc, hl⟩ := cons_iff.mp h
      rcases List.mem_cons.mp ha with rfl | ha' <;> rcases List.mem_cons.mp hb with rfl | hb'
      · rfl
      · apply absurd (hc b hb') (hkey ▸ lt_irrefl _)
      · apply absurd (hc a ha') (hkey ▸ lt_irrefl _)
      · apply ih hl ha' hb'

/-- The keys of an ascending list are pairwise different. -/
theorem nodup_map (h : AscendingBy key l) :
  (l.map key).Nodup
  := by
  rw [List.nodup_iff_pairwise_ne, List.pairwise_map]
  apply List.Pairwise.imp _ h
  intro a b hab
  apply hab.ne

/-- Two lists with the same elements are equal. -/
theorem ext (h : AscendingBy key l) (h' : AscendingBy key l') (hmem : ∀ a, a ∈ l ↔ a ∈ l') :
  l = l'
  := by
  apply List.Perm.eq_of_pairwise _ h h'
  · apply (List.perm_ext_iff_of_nodup h.nodup_map.of_map h'.nodup_map.of_map).mpr hmem
  · intro a b _ _ hab hba
    apply absurd (hab.trans hba) (lt_irrefl _)

/-- An element before the first one of a list may be put in front of it. -/
theorem cons_cons {a b : α} (h : AscendingBy key (b :: l)) (hab : key a < key b) :
  AscendingBy key (a :: b :: l)
  := by
  apply cons_iff.mpr
  constructor
  · intro c hc
    rcases List.mem_cons.mp hc with rfl | hc
    · apply hab
    · apply hab.trans ((cons_iff.mp h).1 c hc)
  · apply h

/-- The rest of a list may be replaced by one that has one more element after the first. -/
theorem cons_of_mem {a b : α} (h : AscendingBy key (b :: l)) (hba : key b < key a)
    (h' : AscendingBy key l') (hmem : ∀ c ∈ l', c = a ∨ c ∈ l) :
  AscendingBy key (b :: l')
  := by
  apply cons_iff.mpr
  constructor
  · intro c hc
    rcases hmem c hc with rfl | hc
    · apply hba
    · apply (cons_iff.mp h).1 c hc
  · apply h'

end AscendingBy

/-- Insertion keeps a list of texts ascending. -/
theorem ascendingBy_insertAscending (s : String) {l : List String} (h : AscendingBy id l) :
  AscendingBy id (insertAscending s l)
  := by
  induction l with
  | nil => apply List.pairwise_singleton _ _
  | cons t l ih =>
      rw [insertAscending]
      split
      · next hst => apply AscendingBy.cons_cons h hst
      · split
        · apply h
        · next hst hne =>
            apply AscendingBy.cons_of_mem h (lt_of_le_of_ne (not_lt.mp hst) (Ne.symm hne))
            · apply ih (AscendingBy.cons_iff.mp h).2
            · intro u hu
              apply mem_insertAscending.mp hu

/-- The set of the elements of a list is in ascending order. -/
theorem ascendingBy_ascending (l : List String) :
  AscendingBy id (ascending l)
  := by
  have key : ∀ (l acc : List String), AscendingBy id acc →
      AscendingBy id (l.foldl (fun acc s => insertAscending s acc) acc) := by
    intro l
    induction l with
    | nil =>
        intro acc h
        apply h
    | cons s l ih =>
        intro acc h
        apply ih
        apply ascendingBy_insertAscending s h
  apply key l [] AscendingBy.nil

/-! ### The order of bytes -/

/-- The bytes of a text. -/
def bytes (s : String) : List UInt8 :=
  s.toUTF8.data.toList

/-- The bytes of a text are those of its characters in turn. -/
theorem bytes_eq_flatMap (s : String) :
  bytes s = s.toList.flatMap String.utf8EncodeChar
  := by
  rw [bytes, String.toUTF8_eq_toByteArray, ← String.utf8Encode_toList, List.utf8Encode]
  simp

/-- A text is determined by its bytes. -/
theorem bytes_inj {s t : String} :
  bytes s = bytes t ↔ s = t
  := by
  rw [bytes, bytes, String.toUTF8_eq_toByteArray, String.toUTF8_eq_toByteArray, Array.toList_inj,
    ← ByteArray.ext_iff, String.toByteArray_inj]

/-- Byte sequences are compared by their first bytes, and by what follows if these are equal. -/
theorem ofNat_cons_lt {i j : ℕ} {l k : List UInt8} (hi : i < 256) (hj : j < 256)
    (h : i < j ∨ i = j ∧ l < k) :
  UInt8.ofNat i :: l < UInt8.ofNat j :: k
  := by
  rw [List.cons_lt_cons_iff, UInt8.lt_iff_toNat_lt, UInt8.toNat_ofNat', UInt8.toNat_ofNat',
    Nat.mod_eq_of_lt hi, Nat.mod_eq_of_lt hj]
  apply h.imp_right
  rintro ⟨rfl, hlk⟩
  exact ⟨rfl, hlk⟩

/-- The bytes of a character are before those of a later one, whatever follows them. Characters with
different numbers of bytes differ in the first byte; otherwise the order is that of the first bytes
that differ, which may be the last one, two or three. -/
theorem utf8EncodeChar_append_lt {a b : Char} (h : a < b) (l k : List UInt8) :
  String.utf8EncodeChar a ++ l < String.utf8EncodeChar b ++ k
  := by
  have hab : a.val.toNat < b.val.toNat := h
  have hb : b.val.toNat < 1114112 := by
    rcases b.valid with hlow | ⟨-, hhigh⟩ <;> omega
  rw [String.utf8EncodeChar, String.utf8EncodeChar]
  generalize a.val.toNat = m at hab
  generalize b.val.toNat = n at hab hb
  have hone : m / 64 = n / 64 →
      UInt8.ofNat (m % 64 + 128) :: l < UInt8.ofNat (n % 64 + 128) :: k := by
    intro heq
    apply ofNat_cons_lt (by omega) (by omega)
    omega
  have htwo : m / 4096 = n / 4096 →
      UInt8.ofNat (m / 64 % 64 + 128) :: UInt8.ofNat (m % 64 + 128) :: l
        < UInt8.ofNat (n / 64 % 64 + 128) :: UInt8.ofNat (n % 64 + 128) :: k := by
    intro heq
    apply ofNat_cons_lt (by omega) (by omega)
    by_cases hlast : m / 64 = n / 64
    · exact Or.inr ⟨by omega, hone hlast⟩
    · omega
  have hthree : m / 262144 = n / 262144 →
      UInt8.ofNat (m / 4096 % 64 + 128) :: UInt8.ofNat (m / 64 % 64 + 128)
          :: UInt8.ofNat (m % 64 + 128) :: l
        < UInt8.ofNat (n / 4096 % 64 + 128) :: UInt8.ofNat (n / 64 % 64 + 128)
          :: UInt8.ofNat (n % 64 + 128) :: k := by
    intro heq
    apply ofNat_cons_lt (by omega) (by omega)
    by_cases hlast : m / 4096 = n / 4096
    · exact Or.inr ⟨by omega, htwo hlast⟩
    · omega
  split_ifs
  all_goals first
    | omega
    | apply ofNat_cons_lt (by omega) (by omega); omega
    | skip
  · apply ofNat_cons_lt (by omega) (by omega)
    by_cases hlast : m / 64 = n / 64
    · exact Or.inr ⟨by omega, hone hlast⟩
    · omega
  · apply ofNat_cons_lt (by omega) (by omega)
    by_cases hlast : m / 4096 = n / 4096
    · exact Or.inr ⟨by omega, htwo hlast⟩
    · omega
  · apply ofNat_cons_lt (by omega) (by omega)
    by_cases hlast : m / 262144 = n / 262144
    · exact Or.inr ⟨by omega, hthree hlast⟩
    · omega

/-- A text is before another one in the order of characters only if it is in the order of bytes. -/
theorem bytes_lt {s t : String} (h : s < t) :
  bytes s < bytes t
  := by
  rw [String.lt_iff_toList_lt] at h
  rw [bytes_eq_flatMap, bytes_eq_flatMap]
  generalize s.toList = l at h
  generalize t.toList = k at h
  induction l generalizing k with
  | nil =>
      cases k with
      | nil => apply absurd h (List.not_lt_nil _)
      | cons b k =>
          rw [List.flatMap_nil, List.flatMap_cons]
          cases hb : String.utf8EncodeChar b with
          | nil => apply absurd hb String.utf8EncodeChar_ne_nil
          | cons c cs => apply List.nil_lt_cons
  | cons a l ih =>
      cases k with
      | nil => apply absurd h (List.not_lt_nil _)
      | cons b k =>
          rw [List.flatMap_cons, List.flatMap_cons]
          rcases List.cons_lt_cons_iff.mp h with hab | ⟨rfl, hlk⟩
          · apply utf8EncodeChar_append_lt hab
          · apply List.append_left_lt (ih k hlk)

/-- An ascending list also ascends in the order of bytes. -/
theorem AscendingBy.pairwise_bytes {α : Type} {key : α → String} {l : List α}
    (h : AscendingBy key l) :
  l.Pairwise fun a b => bytes (key a) < bytes (key b)
  := List.Pairwise.imp bytes_lt h

end ClientWrap.Text
