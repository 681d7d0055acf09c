import EdgeTranslators.Ble.RoundTrip

/-!
# What a D-Bus byte array leaves in a buffer

`parse_result_variant` advances the index in the same expression that asks the iterator for the next
byte.

* `StoresReply`                     the buffer has the bytes that arrived, and the size counts them;
* `parseResultVariantFrom_append`   what is behind the size is not looked at;
* `parseResultVariant_stores_iff`   the reply is stored so exactly when it fills the size.
-/

namespace EdgeTranslators.Ble
open Lib Pt

/-- of the reply as much as fits is in the buffer, in order, the rest of the buffer is as it was,
and the size is the number of these bytes -/
structure StoresReply (data : Bytes) (maxsize : Nat) (reply : Bytes) (r : Bytes × Nat) : Prop where
  size : r.2 = min reply.length maxsize
  length : r.1.length = data.length
  stored : r.1.take (min reply.length maxsize) = reply.take (min reply.length maxsize)
  kept : r.1.drop (min reply.length maxsize) = data.drop (min reply.length maxsize)

/-- the induction is on the bytes the iterator has left -/
theorem parseResultVariantFrom_append (h : Host) (front back reply : Bytes) (datasize : Nat) :
    parseResultVariantFrom h front.length (front ++ back) reply datasize =
      ((parseResultVariantFrom h front.length front reply datasize).1 ++ back,
        (parseResultVariantFrom h front.length front reply datasize).2) := by
  induction reply generalizing front datasize with
  | nil =>
    unfold parseResultVariantFrom
    by_cases hlt : datasize < front.length
    · rw [if_pos hlt, if_pos hlt]
      refine Prod.ext ?_ rfl
      show (if h.clearsAtEnd then (front ++ back).set datasize 0 else front ++ back) =
        (if h.clearsAtEnd then front.set datasize 0 else front) ++ back
      split
      · exact List.set_append_left datasize 0 hlt
      · rfl
    · rw [if_neg hlt, if_neg hlt]
  | cons b reply ih =>
    unfold parseResultVariantFrom
    by_cases hlt : datasize < front.length
    · have hlen : (front.set datasize b).length = front.length := List.length_set
      have hset := ih (front.set datasize b) (datasize + 1)
      rw [hlen] at hset
      rw [if_pos hlt, if_pos hlt, List.set_append_left datasize b hlt]
      exact hset
    · rw [if_neg hlt, if_neg hlt]

/-- the buffer and the size after a reply, for a size that may be less than the buffer -/
theorem parseResultVariant_eq_of_le (h : Host) (reply : Bytes) {data : Bytes} {maxsize : Nat}
    (hsize : maxsize ≤ data.length) :
    parseResultVariant h data maxsize reply =
      (reply.take maxsize ++ h.behind ((data.take maxsize).drop reply.length) ++ data.drop maxsize,
        min (reply.length + 1) maxsize) := by
  have hlen : (data.take maxsize).length = maxsize := List.length_take_of_le hsize
  have hfront := parseResultVariant_eq h (data.take maxsize) reply
  have hboth := parseResultVariantFrom_append h (data.take maxsize) (data.drop maxsize) reply 0
  rw [List.take_append_drop, hlen] at hboth
  unfold parseResultVariant at hfront ⊢
  rw [hlen] at hfront
  rw [hboth, hfront]

/-- **A reply is stored as it arrived, with its size, exactly when it has no fewer bytes than fit.**
A shorter one is counted with one byte more. -/
theorem parseResultVariant_stores_iff (h : Host) (reply : Bytes) {data : Bytes} {maxsize : Nat}
    (hsize : maxsize ≤ data.length) :
    StoresReply data maxsize reply (parseResultVariant h data maxsize reply) ↔
      maxsize ≤ reply.length := by
  rw [parseResultVariant_eq_of_le h reply hsize]
  constructor
  · intro hstores
    have hcount : min (reply.length + 1) maxsize = min reply.length maxsize := hstores.size
    omega
  · intro hfills
    have hmin : min reply.length maxsize = maxsize := Nat.min_eq_right hfills
    have hnothing : (data.take maxsize).drop reply.length = [] := by
      apply List.drop_eq_nil_of_le
      rw [List.length_take]
      omega
    have htaken : (reply.take maxsize).length = maxsize := List.length_take_of_le hfills
    rw [hnothing, show h.behind [] = [] from rfl, List.append_nil]
    refine ⟨?_, ?_, ?_, ?_⟩
    · show min (reply.length + 1) maxsize = min reply.length maxsize
      omega
    · rw [List.length_append, htaken, List.length_drop]
      omega
    · rw [hmin]
      exact List.take_left' htaken
    · rw [hmin]
      exact List.drop_left' htaken

theorem parseResultVariant_stores_iff_filled :
    3 ≤ ([7, 7, 7, 7] : Bytes).length ∧ (StoresReply [7, 7, 7, 7] 3 [1, 2, 3, 4, 5]
      (parseResultVariant plainHost [7, 7, 7, 7] 3 [1, 2, 3, 4, 5]) ↔
        3 ≤ ([1, 2, 3, 4, 5] : Bytes).length) :=
  ⟨by decide, parseResultVariant_stores_iff plainHost [1, 2, 3, 4, 5] (by decide)⟩

/-- two bytes are read into four, and three are counted, by an iterator that stores nothing at its
end -/
theorem not_parseResultVariant_stores : ¬∀ h : Host, h.clearsAtEnd = false →
    ∀ data reply : Bytes,
      StoresReply data data.length reply (parseResultVariant h data data.length reply) := by
  intro hstores
  have hcount : (3 : Nat) = 2 :=
    (hstores { plainHost with clearsAtEnd := false } rfl [0, 0, 0, 0] [1, 2]).size
  cases hcount

end EdgeTranslators.Ble
