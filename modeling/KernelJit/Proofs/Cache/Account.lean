/-
The account that a cache keeps of its size.

The size of a cache is one counter next to the entries.  `Counted` says that it is the
sum over the entries and that no two entries have the same key; without the second
part an eviction could take out two entries and pay for one.  Under it an eviction and
a replacement pay for what they take out to the byte (`toNat_size_le`), and so does a
storing, as long as the bytes stored afterwards have a 64-bit sum (`Counted.put`).
-/
import KernelJit.Proofs.Cache.Compile
import Mathlib.Algebra.Ring.Nat
import Mathlib.Data.List.Nodup

namespace KernelJit
namespace Cache

/-- The bytes that entries have together. -/
def total (entries : List Entry) : Nat :=
  (entries.map (·.size.toNat)).sum

theorem total_append (a b : List Entry) : total (a ++ b) = total a + total b := by
  rw [total, total, total, List.map_append, List.sum_append_nat]

theorem total_singleton (entry : Entry) : total [entry] = entry.size.toNat := Nat.add_zero _

theorem filter_key_of_absent {entries : List Entry} {key : Fingerprint}
    (h : ∀ entry ∈ entries, entry.key ≠ key) : entries.filter (·.key ≠ key) = entries :=
  List.filter_eq_self.mpr fun entry hmem => decide_eq_true (h entry hmem)

theorem keys_touch (cache : Cache) (key : Fingerprint) :
    (cache.touch key).entries.map (·.key) = cache.entries.map (·.key) := by
  show (cache.entries.map _).map _ = _
  rw [List.map_map]
  refine List.map_congr_left fun entry _ => ?_
  show (if entry.key = key then entry.use else entry).key = entry.key
  rw [apply_ite Entry.key]
  exact ite_self _

/-- No two entries stand under the same key. -/
def Distinct (cache : Cache) : Prop :=
  (cache.entries.map (·.key)).Nodup

theorem distinct_evict {cache : Cache} (h : cache.Distinct) (entry : Entry) :
    (cache.evict entry).Distinct :=
  h.sublist (List.filter_sublist.map _)

theorem distinct_put {cache : Cache} (h : cache.Distinct) (key : Fingerprint)
    (program : Shared Program) (size : Size) : (cache.put key program size).Distinct := by
  show ((cache.entries.filter _ ++ [_]).map _).Nodup
  rw [List.map_append]
  refine List.nodup_append.mpr ⟨h.sublist (List.filter_sublist.map _), ?_, ?_⟩
  · exact List.pairwise_singleton _ _
  · intro a ha b hb hab
    obtain ⟨entry, hentry, rfl⟩ := List.mem_map.mp ha
    have hne : entry.key ≠ key := of_decide_eq_true (List.mem_filter.mp hentry).2
    exact hne (hab.trans (List.mem_singleton.mp hb))

/-- With unique keys, what does not have the key of an entry is all but this entry. -/
theorem perm_filter_key {entries : List Entry} (hkeys : (entries.map (·.key)).Nodup)
    {entry : Entry} (hmem : entry ∈ entries) :
    (entry :: entries.filter (·.key ≠ entry.key)).Perm entries := by
  obtain ⟨before, after, rfl⟩ := List.append_of_mem hmem
  rw [List.map_append, List.map_cons] at hkeys
  have hother := List.nodup_middle.mp hkeys
  rw [List.nodup_cons, ← List.map_append] at hother
  have habsent : ∀ other ∈ before ++ after, other.key ≠ entry.key := by
    intro other hmem hsame
    exact hother.1 (hsame ▸ List.mem_map_of_mem hmem)
  rw [List.filter_append, List.filter_cons_of_neg (by simp), ← List.filter_append,
    filter_key_of_absent habsent]
  exact List.perm_middle.symm

theorem total_filter_key {entries : List Entry} (hkeys : (entries.map (·.key)).Nodup)
    {entry : Entry} (hmem : entry ∈ entries) :
    total (entries.filter (·.key ≠ entry.key)) + entry.size.toNat = total entries := by
  have hsum := ((perm_filter_key hkeys hmem).map (·.size.toNat)).sum_nat
  rw [Nat.add_comm]
  exact hsum

/-- The size is the sum over the entries, which stand under different keys. -/
structure Counted (cache : Cache) : Prop where
  keys : (cache.entries.map (·.key)).Nodup
  size : cache.size.toNat = total cache.entries

/-! ## Putting out -/

namespace Counted

variable {cache : Cache}

theorem toNat_size_le (h : Counted cache) {entry : Entry} (hmem : entry ∈ cache.entries) :
    entry.size.toNat ≤ cache.size.toNat := by
  have hsum := total_filter_key h.keys hmem
  have hsize := h.size
  omega

theorem evict (h : Counted cache) {entry : Entry} (hmem : entry ∈ cache.entries) :
    Counted (cache.evict entry) := by
  constructor
  · exact distinct_evict h.keys entry
  · have hsum := total_filter_key h.keys hmem
    have hsize := h.size
    show (Size.sub cache.size entry.size).toNat = total (cache.entries.filter _)
    rw [Size.toNat_sub]
    omega

theorem evictUpTo (h : Counted cache) (size : Size) (n : Nat) :
    Counted (evictUpTo size n cache).1 :=
  evictUpTo_of_preserved (fun _ _ hvictim hcache => hcache.evict (mem_of_victim? hvictim)) h size n

/-! ## Storing -/

theorem toNat_sizeWithout (h : Counted cache) (key : Fingerprint) :
    (cache.sizeWithout key).toNat = total (cache.entries.filter (·.key ≠ key)) := by
  have hsize := h.size
  cases hfind : cache.find? key with
  | none =>
    rw [sizeWithout, hfind, filter_key_of_absent (find?_eq_none_iff.mp hfind)]
    exact hsize
  | some old =>
    have hsum := total_filter_key h.keys (mem_of_find? hfind)
    rw [key_of_find? hfind] at hsum
    rw [sizeWithout, hfind]
    show (Size.sub cache.size old.size).toNat = _
    rw [Size.toNat_sub]
    omega

theorem total_put (h : Counted cache) (key : Fingerprint) (program : Shared Program)
    (size : Size) :
    total (cache.put key program size).entries = (cache.sizeWithout key).toNat + size.toNat := by
  show total (cache.entries.filter _ ++ [_]) = _
  rw [total_append, total_singleton, h.toNat_sizeWithout key]

theorem put (h : Counted cache) {key : Fingerprint} {program : Shared Program} {size : Size}
    (hsum : (cache.sizeWithout key).toNat + size.toNat < 2 ^ 64) :
    Counted (cache.put key program size) := by
  constructor
  · exact distinct_put h.keys key program size
  · rw [h.total_put key program size]
    show (cache.sizeWithout key + size).toNat = _
    rw [UInt64.toNat_add, Nat.mod_eq_of_lt hsum]

theorem touch (h : Counted cache) (key : Fingerprint) : Counted (cache.touch key) := by
  have htotal : total (cache.touch key).entries = total cache.entries := by
    show ((cache.entries.map _).map _).sum = (cache.entries.map _).sum
    rw [List.map_map]
    refine congrArg List.sum (List.map_congr_left fun entry _ => ?_)
    show (if entry.key = key then entry.use else entry).size.toNat = entry.size.toNat
    rw [apply_ite Entry.size]
    exact congrArg _ (ite_self _)
  exact ⟨keys_touch cache key ▸ h.keys, htotal ▸ h.size⟩

end Counted
end Cache
end KernelJit
