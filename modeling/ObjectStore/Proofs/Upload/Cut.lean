import ObjectStore.Upload.File
/-!
# The parts of a file

A cut is computed in machine words.  When it has no more parts than an upload can have, **each
word holds the number it stands for** (`FileCut.exact_ofPlan`): no product wraps around, no
offset lies behind the end of the file, and the parts are numbered from one without a gap.

The parts are the slices of the file between the multiples of the part size, so they put
together are the file (`flatMap_slice`).
-/

namespace ObjectStore

/-! ### Slices -/

/-- The bytes from one multiple of the part size to the next, or to the end of the file. -/
def slice (content : Bytes) (partSize index : Nat) : Bytes :=
  content.extract (index * partSize) (min ((index + 1) * partSize) content.length)

theorem slice_eq (content : Bytes) (partSize index : Nat) :
    slice content partSize index = (content.drop (index * partSize)).take partSize := by
  have hsucc : (index + 1) * partSize = index * partSize + partSize := Nat.succ_mul _ _
  rw [slice, List.extract_eq_take_drop, List.take_eq_take_iff, List.length_drop]
  omega

theorem length_slice (content : Bytes) (partSize index : Nat) :
    (slice content partSize index).length =
      min partSize (content.length - index * partSize) := by
  rw [slice_eq, List.length_take, List.length_drop]

theorem flatMap_slice_range (content : Bytes) (partSize n : Nat) :
    (List.range n).flatMap (slice content partSize) = content.take (n * partSize) := by
  induction n with
  | zero => simp
  | succ n ih =>
    have hsucc : (n + 1) * partSize = n * partSize + partSize := Nat.succ_mul _ _
    rw [List.range_succ, List.flatMap_append, ih, hsucc, List.take_add, List.flatMap_singleton,
      slice_eq]

/-- **The slices put together are the file.** -/
theorem flatMap_slice {content : Bytes} {partSize n : Nat} (h : content.length ≤ n * partSize) :
    (List.range n).flatMap (slice content partSize) = content := by
  rw [flatMap_slice_range, List.take_of_length_le h]

namespace FileCut

/-! ### Words -/

theorem toNat_max (a b : UInt64) : (max a b).toNat = max a.toNat b.toNat := by
  rw [show max a b = if a ≤ b then b else a from rfl, Nat.max_def]
  by_cases h : a ≤ b
  · rw [if_pos h, if_pos (UInt64.le_iff_toNat_le.1 h)]
  · rw [if_neg h, if_neg (mt UInt64.le_iff_toNat_le.2 h)]

theorem toNat_min (a b : UInt64) : (min a b).toNat = min a.toNat b.toNat := by
  rw [show min a b = if a ≤ b then a else b from rfl, Nat.min_def]
  by_cases h : a ≤ b
  · rw [if_pos h, if_pos (UInt64.le_iff_toNat_le.1 h)]
  · rw [if_neg h, if_neg (mt UInt64.le_iff_toNat_le.2 h)]

theorem partSize_ofPlan (fileSize : UInt64) (plan : PartPlan) :
    (ofPlan fileSize plan).partSize.toNat = max plan.partSize.toNat 1 :=
  toNat_max _ _

theorem div_ceil_eq {m d : Nat} (hd : 0 < d) :
    (m + d - 1) / d = if m % d = 0 then m / d else m / d + 1 := by
  have hm := Nat.div_add_mod m d
  have hr := Nat.mod_lt m hd
  split
  · refine Nat.div_eq_of_lt_le ?_ ?_
    · rw [Nat.mul_comm]
      omega
    · rw [Nat.succ_mul, Nat.mul_comm]
      omega
  · refine Nat.div_eq_of_lt_le ?_ ?_
    · rw [Nat.succ_mul, Nat.mul_comm]
      omega
    · rw [Nat.succ_mul, Nat.succ_mul, Nat.mul_comm]
      omega

/-- The number of parts is that of numbers without bounds. -/
theorem toNat_count {c : FileCut} (h : 0 < c.partSize.toNat) :
    c.count.toNat = max ((c.fileSize.toNat + c.partSize.toNat - 1) / c.partSize.toNat) 1 := by
  have hfull : (c.fileSize / c.partSize).toNat = c.fileSize.toNat / c.partSize.toNat :=
    UInt64.toNat_div _ _
  have hzero : c.fileSize % c.partSize = 0 ↔ c.fileSize.toNat % c.partSize.toNat = 0 := by
    rw [← UInt64.toNat_inj, UInt64.toNat_mod]
    rfl
  rw [count, toNat_max, div_ceil_eq h]
  by_cases hr : c.fileSize.toNat % c.partSize.toNat = 0
  · rw [if_pos hr, if_pos (hzero.2 hr), hfull]
    rfl
  · -- a remainder needs a part size of two at least, so there is room for one more part
    have hroom : c.fileSize.toNat / c.partSize.toNat + 1 < 2 ^ 64 := by
      have htwo : 2 ≤ c.partSize.toNat := by
        rcases Nat.lt_or_ge c.partSize.toNat 2 with hlt | hge
        · have hone : c.partSize.toNat = 1 := by omega
          rw [hone, Nat.mod_one] at hr
          exact absurd rfl hr
        · exact hge
      have hle := Nat.div_le_div_left htwo (by decide : 0 < 2) (a := c.fileSize.toNat)
      have hsize := c.fileSize.toNat_lt
      omega
    rw [if_neg hr, if_neg (mt hzero.1 hr), UInt64.toNat_add, hfull]
    congr 1
    exact Nat.mod_eq_of_lt hroom

/-- Each word that is computed from the cut of a file holds the number it stands for. -/
structure Exact (c : FileCut) : Prop where
  partSize : 0 < c.partSize.toNat
  count : c.count.toNat = max ((c.fileSize.toNat + c.partSize.toNat - 1) / c.partSize.toNat) 1
  count_le : c.count.toNat ≤ Client.maxPartNumber
  offset : ∀ i, i < c.count → (c.offset i).toNat = i.toNat * c.partSize.toNat
  inside : ∀ i, i < c.count → c.offset i ≤ c.fileSize
  length : ∀ i, i < c.count →
    (c.length i).toNat = min c.partSize.toNat (c.fileSize.toNat - i.toNat * c.partSize.toNat)
  next : ∀ i, i < c.count → (i + 1).toNat = i.toNat + 1
  number : ∀ i, i < c.count → (number i).toNat = i.toNat + 1

/-- An offset is not behind the end of the file. -/
theorem mul_le_fileSize {c : FileCut} (h : 0 < c.partSize.toNat) {i : UInt64}
    (hi : i < c.count) : i.toNat * c.partSize.toNat ≤ c.fileSize.toNat := by
  have hcount : i.toNat < c.count.toNat := UInt64.lt_iff_toNat_lt.1 hi
  rw [toNat_count h] at hcount
  rcases Nat.eq_zero_or_pos i.toNat with hzero | hpos
  · rw [hzero, Nat.zero_mul]
    exact Nat.zero_le _
  · have hlt : i.toNat + 1 ≤ (c.fileSize.toNat + c.partSize.toNat - 1) / c.partSize.toNat := by
      omega
    have hmul := (Nat.le_div_iff_mul_le h).1 hlt
    rw [Nat.succ_mul] at hmul
    omega

theorem exact_of_count_le {c : FileCut} (h : 0 < c.partSize.toNat)
    (hmax : c.count.toNat ≤ Client.maxPartNumber) : c.Exact := by
  have hlt : ∀ i, i < c.count → i.toNat < 10000 := fun i hi =>
    Nat.lt_of_lt_of_le (UInt64.lt_iff_toNat_lt.1 hi) hmax
  have hoffset : ∀ i, i < c.count → (c.offset i).toNat = i.toNat * c.partSize.toNat := by
    intro i hi
    rw [offset, UInt64.toNat_mul]
    exact Nat.mod_eq_of_lt (Nat.lt_of_le_of_lt (mul_le_fileSize h hi) c.fileSize.toNat_lt)
  have hinside : ∀ i, i < c.count → c.offset i ≤ c.fileSize := by
    intro i hi
    rw [UInt64.le_iff_toNat_le, hoffset i hi]
    exact mul_le_fileSize h hi
  have hnext : ∀ i, i < c.count → (i + 1).toNat = i.toNat + 1 := by
    intro i hi
    have := hlt i hi
    rw [UInt64.toNat_add]
    exact Nat.mod_eq_of_lt (by rw [UInt64.toNat_one]; omega)
  refine ⟨h, toNat_count h, hmax, hoffset, hinside, ?_, hnext, ?_⟩
  · intro i hi
    rw [length, toNat_min, UInt64.toNat_sub_of_le _ _ (hinside i hi), hoffset i hi]
  · intro i hi
    have := hlt i hi
    rw [number, UInt64.toNat_toUInt32, hnext i hi]
    exact Nat.mod_eq_of_lt (by omega)

/-- A cut that is not refused has exact words. -/
theorem exact_of_check {fileSize : UInt64} {plan : PartPlan}
    (h : (ofPlan fileSize plan).check = .ok ()) : (ofPlan fileSize plan).Exact := by
  have hpos : 0 < (ofPlan fileSize plan).partSize.toNat := by
    rw [partSize_ofPlan]
    omega
  rw [FileCut.check] at h
  split at h
  · cases h
  · next hcount => exact exact_of_count_le hpos (Nat.le_of_not_lt hcount)

/-- Each part has a number that a part may have. -/
theorem Exact.checkPartNumber {c : FileCut} (h : c.Exact) {i : UInt64} (hi : i < c.count) :
    Client.checkPartNumber (FileCut.number i) = .ok () := by
  have hnumber := h.number i hi
  have hcount := h.count_le
  have hlt := UInt64.lt_iff_toNat_lt.1 hi
  rw [Client.checkPartNumber, if_pos (by omega)]

theorem Exact.count_pos {c : FileCut} (h : c.Exact) : 0 < c.count.toNat := by
  rw [h.count]
  omega

/-- The parts reach the end of the file. -/
theorem Exact.fileSize_le {c : FileCut} (h : c.Exact) :
    c.fileSize.toNat ≤ c.count.toNat * c.partSize.toNat := by
  have hpos := h.partSize
  rw [h.count]
  have hceil : c.fileSize.toNat ≤
      (c.fileSize.toNat + c.partSize.toNat - 1) / c.partSize.toNat * c.partSize.toNat := by
    have hdiv := Nat.div_add_mod (c.fileSize.toNat + c.partSize.toNat - 1) c.partSize.toNat
    have hmod := Nat.mod_lt (c.fileSize.toNat + c.partSize.toNat - 1) hpos
    rw [Nat.mul_comm] at hdiv
    omega
  exact Nat.le_trans hceil (Nat.mul_le_mul_right _ (Nat.le_max_left _ _))

end FileCut

end ObjectStore
