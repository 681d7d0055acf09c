import Mathlib.Tactic.Ring

/-!
# Byte buffers

Facts about byte strings that the wire formats of the translators rest on, free of any program:

* `leNat`, `leBytes`     the little-endian number of a byte string and the string of `n` bytes of
                         a number; `leBytes_leNat`, `leNat_leBytes`: each undoes the other;
* `ByteOrder`            the byte order of a host, with `loadWord`, `storeWord` (a word in memory)
                         and `netOrder` (`htons`, `htonl`: the number whose memory image is the
                         network image), what `netOrder` does to a stored word and that it is its
                         own inverse;
* `bitField`, `putField` the four 2-bit fields of a byte: reading one, and replacing one.
-/

namespace EdgeTranslators.Lib

abbrev Bytes := List UInt8

/-! ## numbers and their bytes -/

/-- the number with little-endian digits `bs` -/
def leNat : Bytes → Nat
  | [] => 0
  | b :: bs => b.toNat + 256 * leNat bs

/-- the `n` low bytes of `x`, least significant first -/
def leBytes : Nat → Nat → Bytes
  | 0, _ => []
  | n + 1, x => UInt8.ofNat x :: leBytes n (x / 256)

@[simp] theorem length_leBytes (n x : Nat) : (leBytes n x).length = n := by
  induction n generalizing x with
  | zero => rfl
  | succ n ih => simp [leBytes, ih]

theorem leBytes_leNat (bs : Bytes) : leBytes bs.length (leNat bs) = bs := by
  induction bs with
  | nil => rfl
  | cons b bs ih =>
    have hb : b.toNat < 256 := b.toNat_lt
    have hdiv : (b.toNat + 256 * leNat bs) / 256 = leNat bs := by omega
    show UInt8.ofNat (b.toNat + 256 * leNat bs)
      :: leBytes bs.length ((b.toNat + 256 * leNat bs) / 256) = b :: bs
    rw [hdiv, ih]
    congr 1
    apply UInt8.toNat_inj.mp
    rw [UInt8.toNat_ofNat']
    omega

theorem leNat_leBytes (n x : Nat) : leNat (leBytes n x) = x % 256 ^ n := by
  induction n generalizing x with
  | zero => exact (Nat.mod_one x).symm
  | succ n ih =>
    have hb : (UInt8.ofNat x).toNat = x % 256 := UInt8.toNat_ofNat'
    show (UInt8.ofNat x).toNat + 256 * leNat (leBytes n (x / 256)) = x % 256 ^ (n + 1)
    rw [hb, ih, pow_succ', Nat.mod_mul]

theorem leNat_append (a b : Bytes) : leNat (a ++ b) = leNat a + 256 ^ a.length * leNat b := by
  induction a with
  | nil => simp [leNat]
  | cons x a ih =>
    show x.toNat + 256 * leNat (a ++ b) = x.toNat + 256 * leNat a + 256 ^ (a.length + 1) * leNat b
    rw [ih]
    ring

theorem leNat_lt (bs : Bytes) : leNat bs < 256 ^ bs.length := by
  induction bs with
  | nil => exact Nat.one_pos
  | cons b bs ih =>
    have hb : b.toNat < 256 := b.toNat_lt
    show b.toNat + 256 * leNat bs < 256 ^ (bs.length + 1)
    rw [pow_succ]
    omega

theorem leNat_eq_zero {bs : Bytes} : leNat bs = 0 ↔ ∀ b ∈ bs, b = 0 := by
  induction bs with
  | nil => simp [leNat]
  | cons b bs ih =>
    have hb : b.toNat = 0 ↔ b = 0 := by rw [← UInt8.toNat_inj]; rfl
    have hcons : leNat (b :: bs) = 0 ↔ b.toNat = 0 ∧ leNat bs = 0 := by
      show b.toNat + 256 * leNat bs = 0 ↔ _
      omega
    rw [hcons, hb, ih, List.forall_mem_cons]

/-! ## words in the memory of a host -/

inductive ByteOrder where
  | little
  | big
  deriving DecidableEq, Repr

/-- the number in a memory image -/
def ByteOrder.loadWord : ByteOrder → Bytes → Nat
  | .little, bs => leNat bs
  | .big, bs => leNat bs.reverse

/-- the memory image of an `n`-byte word -/
def ByteOrder.storeWord : ByteOrder → Nat → Nat → Bytes
  | .little, n, x => leBytes n x
  | .big, n, x => (leBytes n x).reverse

/-- `htons`, `htonl` and their inverses: the `n`-byte word whose memory image is the big-endian
image of `x` -/
def ByteOrder.netOrder (o : ByteOrder) (n x : Nat) : Nat :=
  o.loadWord (leBytes n x).reverse

theorem ByteOrder.length_storeWord (o : ByteOrder) (n x : Nat) : (o.storeWord n x).length = n := by
  cases o <;> simp [storeWord]

theorem ByteOrder.storeWord_loadWord (o : ByteOrder) (bs : Bytes) :
    o.storeWord bs.length (o.loadWord bs) = bs := by
  cases o with
  | little => exact leBytes_leNat bs
  | big =>
    show (leBytes bs.length (leNat bs.reverse)).reverse = bs
    rw [← List.length_reverse, leBytes_leNat, List.reverse_reverse]

theorem ByteOrder.loadWord_storeWord (o : ByteOrder) (n x : Nat) :
    o.loadWord (o.storeWord n x) = x % 256 ^ n := by
  cases o with
  | little => exact leNat_leBytes n x
  | big =>
    show leNat (leBytes n x).reverse.reverse = x % 256 ^ n
    rw [List.reverse_reverse, leNat_leBytes]

/-- a word stored after `htonl` is its big-endian image, whatever the host -/
theorem ByteOrder.storeWord_netOrder (o : ByteOrder) (n x : Nat) :
    o.storeWord n (o.netOrder n x) = (leBytes n x).reverse := by
  have h := o.storeWord_loadWord (leBytes n x).reverse
  rwa [List.length_reverse, length_leBytes] at h

/-- `ntohl` undoes `htonl`, and both are the same function -/
theorem ByteOrder.netOrder_netOrder (o : ByteOrder) (n x : Nat) :
    o.netOrder n (o.netOrder n x) = x % 256 ^ n := by
  cases o with
  | little =>
    have h := leBytes_leNat (leBytes n x).reverse
    rw [List.length_reverse, length_leBytes] at h
    show leNat (leBytes n (leNat (leBytes n x).reverse)).reverse = x % 256 ^ n
    rw [h, List.reverse_reverse, leNat_leBytes]
  | big =>
    show leNat (leBytes n (leNat (leBytes n x).reverse.reverse)).reverse.reverse = x % 256 ^ n
    rw [List.reverse_reverse, List.reverse_reverse, leNat_leBytes, leNat_leBytes, Nat.mod_mod]

/-- what a load, `htonl` and a store do to the bytes in memory: a little-endian host reverses
them, a big-endian host leaves them alone -/
theorem ByteOrder.storeWord_netOrder_loadWord (o : ByteOrder) (bs : Bytes) :
    o.storeWord bs.length (o.netOrder bs.length (o.loadWord bs))
      = if o = .little then bs.reverse else bs := by
  rw [storeWord_netOrder]
  cases o with
  | little => rw [if_pos rfl]; exact congrArg List.reverse (leBytes_leNat bs)
  | big =>
    rw [if_neg (by decide)]
    show (leBytes bs.length (leNat bs.reverse)).reverse = bs
    rw [← List.length_reverse, leBytes_leNat, List.reverse_reverse]

/-! ## the 2-bit fields of a byte -/

/-- field `k` of a byte, bits `2k` and `2k+1` -/
def bitField (b : UInt8) (k : Nat) : Nat := b.toNat / 4 ^ k % 4

/-- the byte `b` with field `k` cleared, and its low bit set when `on` -/
def putField (b : UInt8) (k : Nat) (on : Bool) : UInt8 :=
  let kept := b &&& ~~~((3 : UInt8) <<< UInt8.ofNat (2 * k))
  if on then kept ||| ((1 : UInt8) <<< UInt8.ofNat (2 * k)) else kept

private theorem bitField_putField_all :
    ∀ b : Fin 256, ∀ k j : Fin 4, ∀ on : Bool,
      bitField (putField (UInt8.ofNat b) k on) j
        = if j = k then (if on then 1 else 0) else bitField (UInt8.ofNat b) j := by
  decide +kernel

theorem bitField_putField (b : UInt8) {k j : Nat} (hk : k < 4) (hj : j < 4) (on : Bool) :
    bitField (putField b k on) j = if j = k then (if on then 1 else 0) else bitField b j := by
  have h := bitField_putField_all ⟨b.toNat, b.toNat_lt⟩ ⟨k, hk⟩ ⟨j, hj⟩ on
  simpa only [UInt8.ofNat_toNat, Fin.mk.injEq] using h

end EdgeTranslators.Lib
