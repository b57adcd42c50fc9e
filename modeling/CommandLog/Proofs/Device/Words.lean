import CommandLog.Device
import Mathlib.Tactic.Common

/-!
# Seeking in machine words

`Cursor.seek` works out the place that is meant over the unbounded integers.  A machine has a position
and a size in words of 64 bits and works in words of 128: `Whence.wordSeek` is the seek that it carries
out, with every sum taken modulo `2 ^ 128` and the result cut down to 64 bits.

The sums need no more than 66 bits, so that nothing wraps around (`Whence.toInt_wideTarget`), and what is
allowed fits into 64 bits, so that nothing is cut off: `Cursor.seek_eq_wordSeek` says that the two seeks
are the same wherever position and size are words.
-/

namespace CommandLog

namespace Whence

/-- A position or a size in 128 bits. -/
def widen (n : UInt64) : BitVec 128 := n.toBitVec.setWidth 128

/-- The place that is meant, worked out in 128 bits. -/
def wideTarget (position size : UInt64) : Whence → BitVec 128
  | .start n => widen n
  | .current delta => widen position + delta.toBitVec.signExtend 128
  | .finish delta => widen size + delta.toBitVec.signExtend 128

/-- The position after a seek in words, where there is one. -/
def wordSeek (position size : UInt64) (whence : Whence) : Option UInt64 :=
  let target := whence.wideTarget position size
  if target.slt 0#128 ∨ (widen size).slt target then none else some ⟨target.setWidth 64⟩

variable {position size : UInt64} {whence : Whence}

lemma toNat_widen (n : UInt64) : (widen n).toNat = n.toNat := by
  have hlt := n.toNat_lt
  rw [widen, BitVec.toNat_setWidth, UInt64.toNat_toBitVec]
  omega

lemma toInt_widen (n : UInt64) : (widen n).toInt = n.toNat := by
  have hlt := n.toNat_lt
  rw [BitVec.toInt_eq_toNat_of_lt, toNat_widen]
  rw [toNat_widen]
  omega

/-- A sum of a word and a delta does not wrap around. -/
lemma toInt_widen_add (n : UInt64) (delta : Int64) :
    (widen n + delta.toBitVec.signExtend 128).toInt = n.toNat + delta.toInt := by
  have hn := n.toNat_lt
  have hlow := delta.le_toInt
  have hhigh := delta.toInt_lt
  rw [BitVec.toInt_add, toInt_widen, BitVec.toInt_signExtend_of_le (by decide),
    Int64.toInt_toBitVec]
  apply Int.bmod_eq_of_le <;> omega

/-- In 128 bits the place is the one that is meant. -/
lemma toInt_wideTarget :
    (whence.wideTarget position size).toInt = whence.target position.toNat size.toNat := by
  cases whence with
  | start n => exact toInt_widen n
  | current delta => exact toInt_widen_add position delta
  | finish delta => exact toInt_widen_add size delta

/-- A place that is allowed is not cut off. -/
lemma toNat_setWidth_of_le {target : BitVec 128} (h0 : 0 ≤ target.toInt)
    (hsize : target.toInt ≤ size.toNat) : (target.setWidth 64).toNat = target.toInt.toNat := by
  have hlt := size.toNat_lt
  have hpos := BitVec.toInt_pos_iff.1 h0
  rw [BitVec.toInt_eq_toNat_of_lt hpos] at hsize ⊢
  rw [BitVec.toNat_setWidth, Int.toNat_natCast]
  omega

/-- In words, a seek goes to the place that is meant, if that is allowed. -/
lemma wordSeek_eq :
    (whence.wordSeek position size).map UInt64.toNat =
      if 0 ≤ whence.target position.toNat size.toNat ∧
          whence.target position.toNat size.toNat ≤ size.toNat then
        some (whence.target position.toNat size.toNat).toNat
      else none := by
  rw [← toInt_wideTarget, wordSeek]
  simp only [BitVec.slt_iff_toInt_lt, BitVec.toInt_zero, toInt_widen]
  by_cases hrange : 0 ≤ (whence.wideTarget position size).toInt ∧
      (whence.wideTarget position size).toInt ≤ size.toNat
  · rw [if_pos hrange, if_neg (by omega), Option.map_some]
    exact congrArg some (toNat_setWidth_of_le hrange.1 hrange.2)
  · rw [if_neg hrange, if_pos (by omega), Option.map_none]

end Whence

/-- Where position and size are words, a seek is the one that is carried out in words. -/
lemma Cursor.seek_eq_wordSeek {device : Device} {cursor : Cursor}
    (hposition : cursor.position < UInt64.size) (hsize : device.size < UInt64.size)
    (whence : Whence) :
    (cursor.seek device whence).toOption.map Cursor.position =
      (whence.wordSeek (.ofNat cursor.position) (.ofNat device.size)).map UInt64.toNat := by
  rw [Whence.wordSeek_eq, UInt64.toNat_ofNat_of_lt' hposition, UInt64.toNat_ofNat_of_lt' hsize, seek]
  split
  · rfl
  · rfl

end CommandLog
