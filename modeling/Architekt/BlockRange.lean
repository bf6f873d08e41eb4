import Mathlib.Tactic.Common
import Mathlib.Tactic.Linarith
import Mathlib.Data.List.Range
import Mathlib.Algebra.Order.Floor.Div

/-!
# Block ranges of `NeedAt` and `DontNeedAt`

The source side of a migration turns the destination's hints into block indices for the
priority orderer.  Both callbacks of `MigrateTo` compute a loop `[startBlock, endBlock)`
from a byte range with Go's fixed-width integers:

```text
endOffset := uint64(offset + int64(length))
if endOffset > uint64(storage.Size()) { endOffset = uint64(storage.Size()) }
startBlock := int(offset / int64(d))
endBlock := int((endOffset-1)/uint64(d)) + 1
for b := startBlock; b < endBlock; b++ { ... }
```

where the divisor `d` is the block size in `HandleNeedAt` and `storage.Size()` in
`HandleDontNeedAt`; `rangeBlocks` is that loop with the divisor as a parameter.  Integers
are `Int` and `Nat` with the wrap-around of each conversion made explicit (`wrapInt64`,
`toUint64`), and Go's truncating division is `Int.tdiv`.  A zero divisor is a run-time
panic in Go and `none` here.

* `mem_needAtBlocks_iff`: when the clamped end `E = min (offset + length) S` is positive,
  `HandleNeedAt` promotes exactly the blocks `b` with `b * B < E` and `offset < (b + 1) * B`,
  and (`needAtBlocks_lt_totalBlocks`) each of them is below `totalBlocks`.
* `needAtBlocks_empty_request`: at `E = 0`, `endOffset - 1` wraps to `2^64 - 1` and the
  loop runs over `2^52` indices of a four-block device.
* `dontNeedAtBlocks_eq`: dividing by the device size, `HandleDontNeedAt` removes block `0`
  and nothing else for every in-range request.
-/

namespace Architekt

/-- `int64(x)`, `int(x)` and the result of `int` arithmetic on a 64-bit platform: the
two's-complement value of `x` modulo `2^64`. -/
def wrapInt64 (x : Int) : Int := (x + 2 ^ 63) % 2 ^ 64 - 2 ^ 63

/-- `uint64(x)`: `x` modulo `2^64`. -/
def toUint64 (x : Int) : Nat := (x % 2 ^ 64).toNat

theorem wrapInt64_of_lt {x : Int} (h₀ : -2 ^ 63 ≤ x) (h₁ : x < 2 ^ 63) : wrapInt64 x = x := by
  unfold wrapInt64
  rw [Int.emod_eq_of_lt (by omega) (by omega)]
  omega

theorem toUint64_of_lt {x : Int} (h₀ : 0 ≤ x) (h₁ : x < 2 ^ 64) : (toUint64 x : Int) = x := by
  unfold toUint64
  rw [Int.emod_eq_of_lt h₀ h₁, Int.toNat_of_nonneg h₀]

/-- `uint64(offset + int64(length))`: the sum wraps in `int64`, and the conversion undoes
the wrap, so the end offset is the exact sum. -/
theorem toUint64_wrapInt64_add {offset length : Int} (h₀ : 0 ≤ offset) (h₁ : offset < 2 ^ 63)
    (h₂ : 0 ≤ length) (h₃ : length < 2 ^ 31) :
    (toUint64 (wrapInt64 (offset + length)) : Int) = offset + length := by
  unfold toUint64 wrapInt64
  have h : (offset + length + 2 ^ 63) % 2 ^ 64 - 2 ^ 63 = offset + length ∨
      (offset + length + 2 ^ 63) % 2 ^ 64 - 2 ^ 63 = offset + length - 2 ^ 64 := by omega
  rcases h with h | h <;> rw [h] <;> omega

/-- The indices `for b := start; b < stop; b++` visits, in order. -/
def forRange (start stop : Int) : List Int :=
  (List.range (stop - start).toNat).map fun k : Nat => start + k

@[simp] theorem mem_forRange {start stop b : Int} :
    b ∈ forRange start stop ↔ start ≤ b ∧ b < stop := by
  simp only [forRange, List.mem_map, List.mem_range]
  constructor
  · rintro ⟨k, hk, rfl⟩
    omega
  · rintro ⟨h₀, h₁⟩
    exact ⟨(b - start).toNat, by omega, by omega⟩

theorem forRange_eq_singleton_iff {start stop c : Int} :
    forRange start stop = [c] ↔ start = c ∧ stop = c + 1 := by
  constructor
  · intro h
    have hlen := congrArg List.length h
    simp only [forRange, List.length_map, List.length_range, List.length_singleton] at hlen
    have hc : c ∈ forRange start stop := h ▸ List.mem_singleton_self c
    have hstart : start ∈ forRange start stop := mem_forRange.2 ⟨le_rfl, by omega⟩
    rw [h, List.mem_singleton] at hstart
    rw [mem_forRange] at hc
    omega
  · rintro ⟨rfl, rfl⟩
    simp [forRange, List.range_succ]

/-- The loop bounds of a hint callback on a device of `size` bytes, for the divisor `d`. -/
def blockBounds (size d : Nat) (offset length : Int) : Option (Int × Int) :=
  if d = 0 then none
  else
    let endOffset := min (toUint64 (wrapInt64 (offset + length))) size
    some (offset.tdiv (wrapInt64 d),
      wrapInt64 (wrapInt64 (((endOffset + (2 ^ 64 - 1)) % 2 ^ 64 / d : Nat)) + 1))

/-- The block indices a hint callback passes to the orderer, in order. -/
def rangeBlocks (size d : Nat) (offset length : Int) : Option (List Int) :=
  (blockBounds size d offset length).map fun bounds => forRange bounds.1 bounds.2

/-- The blocks `HandleNeedAt` passes to `PrioritiseBlock`. -/
def needAtBlocks (size blockSize : Nat) (offset length : Int) : Option (List Int) :=
  rangeBlocks size blockSize offset length

/-- The blocks `HandleDontNeedAt` passes to `orderer.Remove`: the same loop, divided by
`storage.Size()`. -/
def dontNeedAtBlocks (size _blockSize : Nat) (offset length : Int) : Option (List Int) :=
  rangeBlocks size size offset length

/-- `totalBlocks` of `MakeMigratable`: `(int(Size()) + int(blockSize) - 1) / int(blockSize)`. -/
def totalBlocks (size blockSize : Nat) : Int :=
  (wrapInt64 (wrapInt64 (wrapInt64 size + wrapInt64 blockSize) - 1)).tdiv (wrapInt64 blockSize)

/-! ## The loop bounds away from the wrap -/

section Bounds

variable {size d : Nat} {offset length : Int}

/-- With a positive clamped end `E`, the loop runs over `[offset / d, (E - 1) / d + 1)`. -/
theorem blockBounds_eq (hd : 0 < d) (hd' : d < 2 ^ 63) (hsize : size < 2 ^ 63)
    (h₀ : 0 ≤ offset) (h₁ : offset < 2 ^ 63) (h₂ : 0 ≤ length) (h₃ : length < 2 ^ 31)
    (hE : 0 < min (offset + length) size) :
    blockBounds size d offset length =
      some (offset / d, (min (offset + length) size - 1) / d + 1) := by
  have hend := toUint64_wrapInt64_add h₀ h₁ h₂ h₃
  unfold blockBounds
  rw [if_neg (by omega)]
  dsimp only
  generalize he : min (toUint64 (wrapInt64 (offset + length))) size = e
  have heE : (e : Int) = min (offset + length) size := by
    rw [← he, Nat.cast_min, hend]
  have hmod : (e + (2 ^ 64 - 1)) % 2 ^ 64 = e - 1 := by
    rw [Nat.mod_eq_sub_mod (by omega), Nat.mod_eq_of_lt (by omega)]
    omega
  have hq : (e - 1) / d ≤ e - 1 := Nat.div_le_self _ _
  have hesize : e ≤ size := he ▸ min_le_right _ _
  have hcast : (((e - 1) / d : Nat) : Int) = (min (offset + length) size - 1) / d := by
    have hsub : ((e - 1 : Nat) : Int) = (e : Int) - 1 := by omega
    rw [Int.ofNat_ediv, hsub, heE]
  have hnonneg : 0 ≤ (min (offset + length) size - 1) / (d : Int) :=
    Int.ediv_nonneg (by omega) (by omega)
  rw [hmod, wrapInt64_of_lt (x := (d : Int)) (by omega) (by omega),
    Int.tdiv_eq_ediv h₀ (by omega),
    wrapInt64_of_lt (x := (((e - 1) / d : Nat) : Int)) (by omega) (by omega), hcast,
    wrapInt64_of_lt (by omega) (by omega)]

theorem rangeBlocks_eq (hd : 0 < d) (hd' : d < 2 ^ 63) (hsize : size < 2 ^ 63)
    (h₀ : 0 ≤ offset) (h₁ : offset < 2 ^ 63) (h₂ : 0 ≤ length) (h₃ : length < 2 ^ 31)
    (hE : 0 < min (offset + length) size) :
    rangeBlocks size d offset length =
      some (forRange (offset / d) ((min (offset + length) size - 1) / d + 1)) := by
  rw [rangeBlocks, blockBounds_eq hd hd' hsize h₀ h₁ h₂ h₃ hE]
  rfl

/-- `b` lies in `[offset / d, (E - 1) / d + 1)` exactly when block `b` overlaps
`[offset, E)`. -/
theorem mem_forRange_ediv_iff {E b : Int} (hd : 0 < d) :
    b ∈ forRange (offset / d) ((E - 1) / d + 1) ↔ b * d < E ∧ offset < (b + 1) * d := by
  have hstart := Int.ediv_lt_iff_lt_mul (a := offset) (b := b + 1) (Int.ofNat_pos.mpr hd)
  have hend := Int.le_ediv_iff_mul_le (a := b) (b := E - 1) (Int.ofNat_pos.mpr hd)
  rw [mem_forRange]
  omega

end Bounds

/-! ## `HandleNeedAt` -/

section NeedAt

variable {size blockSize : Nat} {offset length : Int}

/-- With a positive clamped end `E = min (offset + length) size`, `HandleNeedAt` promotes
exactly the blocks that overlap `[offset, E)`. -/
theorem mem_needAtBlocks_iff (hB : 0 < blockSize) (hB' : blockSize < 2 ^ 32)
    (hsize : size < 2 ^ 63) (h₀ : 0 ≤ offset) (h₁ : offset < 2 ^ 63) (h₂ : 0 ≤ length)
    (h₃ : length < 2 ^ 31) (hE : 0 < min (offset + length) size) :
    ∃ blocks, needAtBlocks size blockSize offset length = some blocks ∧
      ∀ b, b ∈ blocks ↔
        b * blockSize < min (offset + length) size ∧ offset < (b + 1) * blockSize :=
  ⟨_, rangeBlocks_eq hB (by omega) hsize h₀ h₁ h₂ h₃ hE, fun _ => mem_forRange_ediv_iff hB⟩

/-- A request for the first 4 KiB of a device of four blocks. -/
theorem needAtBlocks_first_block :
    ∃ blocks, needAtBlocks 16384 4096 0 4096 = some blocks ∧
      ∀ b : Int, b ∈ blocks ↔
        b * ((4096 : Nat) : Int) < min (0 + 4096) ((16384 : Nat) : Int) ∧
          0 < (b + 1) * ((4096 : Nat) : Int) :=
  mem_needAtBlocks_iff (by decide) (by decide) (by decide) le_rfl (by decide) (by decide)
    (by decide) (by decide)

theorem totalBlocks_eq (hB : 0 < blockSize) (hB' : blockSize < 2 ^ 32)
    (h : size + blockSize < 2 ^ 63) :
    totalBlocks size blockSize = (size + blockSize - 1) / blockSize := by
  unfold totalBlocks
  rw [wrapInt64_of_lt (x := (size : Int)) (by omega) (by omega),
    wrapInt64_of_lt (x := (blockSize : Int)) (by omega) (by omega),
    wrapInt64_of_lt (x := (size : Int) + blockSize) (by omega) (by omega),
    wrapInt64_of_lt (x := (size : Int) + blockSize - 1) (by omega) (by omega),
    Int.tdiv_eq_ediv (by omega) (by omega)]

/-- Every block `HandleNeedAt` promotes for a request with a positive clamped end is a
block of the device: it lies in `[0, totalBlocks)`. -/
theorem needAtBlocks_lt_totalBlocks (hB : 0 < blockSize) (hB' : blockSize < 2 ^ 32)
    (hsize : size + blockSize < 2 ^ 63) (h₀ : 0 ≤ offset) (h₁ : offset < 2 ^ 63)
    (h₂ : 0 ≤ length) (h₃ : length < 2 ^ 31) (hE : 0 < min (offset + length) size)
    {blocks : List Int} (hblocks : needAtBlocks size blockSize offset length = some blocks)
    {b : Int} (hb : b ∈ blocks) : 0 ≤ b ∧ b < totalBlocks size blockSize := by
  rw [needAtBlocks, rangeBlocks_eq hB (by omega) (by omega) h₀ h₁ h₂ h₃ hE, Option.some.injEq] at hblocks
  obtain ⟨hlow, hhigh⟩ := (mem_forRange_ediv_iff hB).1 (hblocks ▸ hb)
  have hBpos : (0 : Int) < blockSize := Int.ofNat_pos.mpr hB
  have hsize' : min (offset + length) (size : Int) ≤ size := min_le_right _ _
  rw [totalBlocks_eq hB hB' hsize]
  constructor
  · by_contra hneg
    have : (b + 1) * blockSize ≤ 0 := Int.mul_nonpos_of_nonpos_of_nonneg (by omega) (by omega)
    omega
  · rw [Int.lt_iff_add_one_le, Int.le_ediv_iff_mul_le hBpos, Int.add_mul, Int.one_mul]
    omega

/-- A zero-length request at offset `0` on a device of four 4 KiB blocks: `endOffset - 1`
wraps to `2^64 - 1`, and `HandleNeedAt` promotes every index below `2^52`, all those from
`4 = totalBlocks` on outside the device. -/
theorem needAtBlocks_empty_request :
    totalBlocks 16384 4096 = 4 ∧ ∃ blocks, needAtBlocks 16384 4096 0 0 = some blocks ∧
      ∀ b : Int, 0 ≤ b → b < 2 ^ 52 → b ∈ blocks := by
  have hbounds : blockBounds 16384 4096 0 0 = some (0, 2 ^ 52) := by decide
  refine ⟨by decide, _, by rw [needAtBlocks, rangeBlocks, hbounds]; rfl, fun b h₀ h₁ => ?_⟩
  exact mem_forRange.2 ⟨h₀, h₁⟩

end NeedAt

/-! ## `HandleDontNeedAt` -/

section DontNeedAt

variable {size blockSize : Nat} {offset length : Int}

/-- Dividing by the device size, `HandleDontNeedAt` removes block `0` and nothing else for
every request that starts inside the device. -/
theorem dontNeedAtBlocks_eq (hsize : size < 2 ^ 63) (h₀ : 0 ≤ offset) (hoff : offset < size)
    (h₂ : 1 ≤ length) (h₃ : length < 2 ^ 31) :
    dontNeedAtBlocks size blockSize offset length = some [0] := by
  have hE : 0 < min (offset + length) (size : Int) := lt_min (by omega) (by omega)
  have hEle : min (offset + length) (size : Int) ≤ size := min_le_right _ _
  rw [dontNeedAtBlocks, rangeBlocks_eq (by omega) hsize hsize h₀ (by omega) (by omega) h₃ hE,
    Int.ediv_eq_zero_of_lt h₀ hoff, Int.ediv_eq_zero_of_lt (by omega) (by omega)]
  rfl

/-- The two callbacks agree on an in-range request exactly when it ends inside the first
block. -/
theorem dontNeedAtBlocks_eq_needAtBlocks_iff (hB : 0 < blockSize) (hB' : blockSize < 2 ^ 32)
    (hsize : size < 2 ^ 63) (h₀ : 0 ≤ offset) (hoff : offset < size) (h₂ : 1 ≤ length)
    (h₃ : length < 2 ^ 31) :
    dontNeedAtBlocks size blockSize offset length = needAtBlocks size blockSize offset length ↔
      min (offset + length) size ≤ blockSize := by
  have hE : 0 < min (offset + length) (size : Int) := lt_min (by omega) (by omega)
  have hoffE : offset < min (offset + length) (size : Int) := lt_min (by omega) hoff
  have hBpos : (0 : Int) < blockSize := Int.ofNat_pos.mpr hB
  have hstart := Int.ediv_lt_iff_lt_mul (a := offset) (b := 1) hBpos
  have hend := Int.ediv_lt_iff_lt_mul (a := min (offset + length) (size : Int) - 1) (b := 1) hBpos
  have hstart₀ := Int.ediv_nonneg h₀ hBpos.le
  have hend₀ := Int.ediv_nonneg (a := min (offset + length) (size : Int) - 1) (by omega) hBpos.le
  rw [dontNeedAtBlocks_eq hsize h₀ hoff h₂ h₃, needAtBlocks,
    rangeBlocks_eq hB (by omega) hsize h₀ (by omega) (by omega) h₃ hE, Option.some.injEq,
    eq_comm, forRange_eq_singleton_iff]
  omega

/-- A request for the first 4 KiB of a device of two blocks: the callbacks agree. -/
theorem dontNeedAtBlocks_first_block :
    (dontNeedAtBlocks 8192 4096 0 4096 = needAtBlocks 8192 4096 0 4096 ↔
      min (0 + 4096) ((8192 : Nat) : Int) ≤ ((4096 : Nat) : Int)) :=
  dontNeedAtBlocks_eq_needAtBlocks_iff (by decide) (by decide) (by decide) le_rfl (by decide)
    (by decide) (by decide)

/-- On a device of two 4 KiB blocks, a hint for the whole second block: `HandleNeedAt`
promotes block `1`, `HandleDontNeedAt` removes block `0`. -/
theorem dontNeedAtBlocks_second_block :
    needAtBlocks 8192 4096 4096 4096 = some [1] ∧
      dontNeedAtBlocks 8192 4096 4096 4096 = some [0] := by
  decide

end DontNeedAt

end Architekt
