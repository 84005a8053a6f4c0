import YandexPay.Library.GoOutcome

/-!
# Cipher block chaining

Cipher block chaining over any function on blocks of bytes, and the padding that brings a text to a
whole number of blocks and says its own length. Decryption with an inverse of the function undoes
encryption (`cbcDecrypt_cbcEncrypt`), and the padding is recognised whatever the text ends in
(`unpad_append`).
-/

set_option autoImplicit false
set_option relaxedAutoImplicit false

namespace YandexPay.BlockMode

/-! ### Blocks -/

def xorBytes (a b : Bytes) : Bytes := List.zipWith (· ^^^ ·) a b

theorem length_xorBytes {a b : Bytes} (h : a.length = b.length) :
    (xorBytes a b).length = b.length := by
  rw [xorBytes, List.length_zipWith, h, Nat.min_self]

theorem xorBytes_xorBytes {a b : Bytes} (h : a.length = b.length) :
    xorBytes (xorBytes a b) b = a := by
  induction a generalizing b with
  | nil => rfl
  | cons x a ih =>
    cases b with
    | nil => exact absurd h (Nat.succ_ne_zero _)
    | cons y b =>
      have hxy : x ^^^ y ^^^ y = x := by rw [UInt8.xor_assoc, UInt8.xor_self, UInt8.xor_zero]
      exact congrArg₂ List.cons hxy (ih (Nat.succ.inj h))

/-- The first `count` blocks of `size` bytes. -/
def blocks (size : ℕ) : ℕ → Bytes → List Bytes
  | 0, _ => []
  | count + 1, data => data.take size :: blocks size count (data.drop size)

theorem flatten_blocks {size count : ℕ} {data : Bytes} (h : data.length = count * size) :
    (blocks size count data).flatten = data := by
  induction count generalizing data with
  | zero =>
    rw [Nat.zero_mul] at h
    exact (List.eq_nil_of_length_eq_zero h).symm
  | succ count ih =>
    have hdrop : (data.drop size).length = count * size := by
      rw [List.length_drop, h, Nat.succ_mul, Nat.add_sub_cancel]
    rw [blocks, List.flatten_cons, ih hdrop, List.take_append_drop]

theorem blocks_flatten {size : ℕ} {parts : List Bytes} (h : ∀ part ∈ parts, part.length = size) :
    blocks size parts.length parts.flatten = parts := by
  induction parts with
  | nil => rfl
  | cons part parts ih =>
    obtain ⟨hpart, hparts⟩ := List.forall_mem_cons.1 h
    rw [List.length_cons, blocks, List.flatten_cons, ← hpart, List.take_left, List.drop_left,
      hpart, ih hparts]

theorem length_of_mem_blocks {size count : ℕ} {data part : Bytes}
    (h : data.length = count * size) (hpart : part ∈ blocks size count data) :
    part.length = size := by
  induction count generalizing data with
  | zero => exact absurd hpart List.not_mem_nil
  | succ count ih =>
    rw [Nat.succ_mul] at h
    rcases List.mem_cons.1 hpart with rfl | hpart
    · rw [List.length_take]
      omega
    · refine ih ?_ hpart
      rw [List.length_drop]
      omega

theorem length_flatten_of_length {size : ℕ} {parts : List Bytes}
    (h : ∀ part ∈ parts, part.length = size) : parts.flatten.length = parts.length * size := by
  rw [List.length_flatten, List.map_congr_left h, List.map_const', List.sum_replicate_nat]

/-! ### Chaining -/

/-- Each block is encrypted with the block before it added in. -/
def cbcEncrypt (encrypt : Bytes → Bytes) : Bytes → List Bytes → List Bytes
  | _, [] => []
  | iv, block :: rest =>
    encrypt (xorBytes block iv) :: cbcEncrypt encrypt (encrypt (xorBytes block iv)) rest

def cbcDecrypt (decrypt : Bytes → Bytes) : Bytes → List Bytes → List Bytes
  | _, [] => []
  | iv, block :: rest => xorBytes (decrypt block) iv :: cbcDecrypt decrypt block rest

/-- A block cipher and its inverse, on blocks of `size` bytes. -/
structure Inverts (size : ℕ) (encrypt decrypt : Bytes → Bytes) : Prop where
  length_eq : ∀ block, block.length = size → (encrypt block).length = size
  left_inv : ∀ block, block.length = size → decrypt (encrypt block) = block

variable {size : ℕ} {encrypt decrypt : Bytes → Bytes} {iv : Bytes} {parts : List Bytes}

theorem cbcDecrypt_cbcEncrypt (h : Inverts size encrypt decrypt) (hiv : iv.length = size)
    (hparts : ∀ part ∈ parts, part.length = size) :
    cbcDecrypt decrypt iv (cbcEncrypt encrypt iv parts) = parts := by
  induction parts generalizing iv with
  | nil => rfl
  | cons part parts ih =>
    obtain ⟨hpart, hrest⟩ := List.forall_mem_cons.1 hparts
    have heq : part.length = iv.length := hpart.trans hiv.symm
    have hxor : (xorBytes part iv).length = size := (length_xorBytes heq).trans hiv
    rw [cbcEncrypt, cbcDecrypt, h.left_inv _ hxor, xorBytes_xorBytes heq,
      ih (h.length_eq _ hxor) hrest]

theorem length_of_mem_cbcEncrypt (h : Inverts size encrypt decrypt) (hiv : iv.length = size)
    (hparts : ∀ part ∈ parts, part.length = size) {block : Bytes}
    (hblock : block ∈ cbcEncrypt encrypt iv parts) : block.length = size := by
  induction parts generalizing iv with
  | nil => exact absurd hblock List.not_mem_nil
  | cons part parts ih =>
    obtain ⟨hpart, hrest⟩ := List.forall_mem_cons.1 hparts
    have hxor : (xorBytes part iv).length = size :=
      (length_xorBytes (hpart.trans hiv.symm)).trans hiv
    rcases List.mem_cons.1 hblock with rfl | hblock
    · exact h.length_eq _ hxor
    · exact ih (h.length_eq _ hxor) hrest hblock

/-- The chaining of the blocks of a text. -/
def cbcEncryptBytes (size : ℕ) (encrypt : Bytes → Bytes) (iv data : Bytes) : Bytes :=
  (cbcEncrypt encrypt iv (blocks size (data.length / size) data)).flatten

def cbcDecryptBytes (size : ℕ) (decrypt : Bytes → Bytes) (iv data : Bytes) : Bytes :=
  (cbcDecrypt decrypt iv (blocks size (data.length / size) data)).flatten

theorem cbcDecryptBytes_cbcEncryptBytes (h : Inverts size encrypt decrypt) (hsize : 0 < size)
    (hiv : iv.length = size) {data : Bytes} (hdata : data.length % size = 0) :
    cbcDecryptBytes size decrypt iv (cbcEncryptBytes size encrypt iv data) = data := by
  have hlength : data.length = data.length / size * size :=
    (Nat.div_mul_cancel (Nat.dvd_of_mod_eq_zero hdata)).symm
  have hparts : ∀ part ∈ blocks size (data.length / size) data, part.length = size :=
    fun _ hpart ↦ length_of_mem_blocks hlength hpart
  have hblocks : ∀ block ∈ cbcEncrypt encrypt iv (blocks size (data.length / size) data),
      block.length = size := fun _ hblock ↦ length_of_mem_cbcEncrypt h hiv hparts hblock
  rw [cbcDecryptBytes, cbcEncryptBytes, length_flatten_of_length hblocks,
    Nat.mul_div_cancel _ hsize, blocks_flatten hblocks, cbcDecrypt_cbcEncrypt h hiv hparts,
    flatten_blocks hlength]

/-! ### Padding -/

/-- The text before a padding of at most `size` bytes, each of them the number of them. -/
def unpad (size : ℕ) (data : Bytes) : Option Bytes :=
  match data.getLast? with
  | none => none
  | some last =>
    let text := data.take (data.length - last.toNat)
    if 1 ≤ last.toNat ∧ last.toNat ≤ size ∧ data = text ++ List.replicate last.toNat last then
      some text
    else none

theorem unpad_append {count : ℕ} (hpos : 1 ≤ count) (hle : count ≤ size) (hbyte : count < 256)
    (text : Bytes) :
    unpad size (text ++ List.replicate count (UInt8.ofNat count)) = some text := by
  have hcount : (UInt8.ofNat count).toNat = count := by
    rw [UInt8.toNat_ofNat', Nat.mod_eq_of_lt hbyte]
  have hlast : (text ++ List.replicate count (UInt8.ofNat count)).getLast? =
      some (UInt8.ofNat count) := by
    rw [List.getLast?_append, List.getLast?_replicate, if_neg (by omega)]
    rfl
  have htext : (text ++ List.replicate count (UInt8.ofNat count)).take
      ((text ++ List.replicate count (UInt8.ofNat count)).length - count) = text := by
    rw [List.length_append, List.length_replicate, Nat.add_sub_cancel, List.take_left]
  rw [unpad, hlast]
  dsimp only
  rw [hcount, htext, if_pos ⟨hpos, hle, rfl⟩]

end YandexPay.BlockMode
