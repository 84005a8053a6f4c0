import Mathlib.Data.List.Sort
import Mathlib.Data.Nat.Digits.Lemmas
import YandexPay.Library.GoOutcome

/-!
# Distinguished encoding

The distinguished encoding of ASN.1 values as trees. An `Element` is primitive, with its contents,
or constructed of elements, and has a tag below 31. Its encoding is the identifier, the length in
the shortest form and the contents. `parseElement` reads one element and accepts no longer form of a
length, and `parseElement_encode` is the round trip. `encodeInteger` is the two's complement of an
`INTEGER` in the fewest bytes, with its own round trip, and `encodeObjectIdentifier` the base 128 of
an `OBJECT IDENTIFIER`.
-/

set_option autoImplicit false
set_option relaxedAutoImplicit false

namespace YandexPay.Der

/-! ### Numbers in bytes -/

/-- The bytes of a number, most significant first; of zero, none. -/
def bigEndian (n : ℕ) : Bytes := ((Nat.digits 256 n).map UInt8.ofNat).reverse

def ofBigEndian (bytes : Bytes) : ℕ := Nat.ofDigits 256 (bytes.reverse.map UInt8.toNat)

theorem ofBigEndian_bigEndian (n : ℕ) : ofBigEndian (bigEndian n) = n := by
  have hdigits : ((Nat.digits 256 n).map UInt8.ofNat).map UInt8.toNat = Nat.digits 256 n := by
    rw [List.map_map]
    refine List.map_congr_left (fun d hd ↦ ?_) |>.trans (List.map_id _)
    have hlt : d < 256 := Nat.digits_lt_base (by decide) hd
    rw [Function.comp_apply, UInt8.toNat_ofNat', Nat.mod_eq_of_lt hlt, id]
  rw [ofBigEndian, bigEndian, List.reverse_reverse, hdigits, Nat.ofDigits_digits]

theorem length_bigEndian_le {n k : ℕ} (h : n < 256 ^ k) : (bigEndian n).length ≤ k := by
  rw [bigEndian, List.length_reverse, List.length_map]
  exact (Nat.digits_length_le_iff (by decide) n).2 h

@[simp] theorem ofBigEndian_nil : ofBigEndian [] = 0 := rfl

theorem ofBigEndian_cons (b : UInt8) (bytes : Bytes) :
    ofBigEndian (b :: bytes) = b.toNat * 256 ^ bytes.length + ofBigEndian bytes := by
  rw [ofBigEndian, List.reverse_cons, List.map_append, Nat.ofDigits_append, List.length_map,
    List.length_reverse, List.map_singleton, Nat.ofDigits_singleton, Nat.add_comm, Nat.mul_comm]
  rfl

/-! ### Lengths -/

def encodeLength (n : ℕ) : Bytes :=
  if n < 128 then [UInt8.ofNat n]
  else UInt8.ofNat (128 + (bigEndian n).length) :: bigEndian n

/-- A length in its shortest form, and what follows it. -/
def readLength : Bytes → Option (ℕ × Bytes)
  | [] => none
  | b :: bytes =>
    if b.toNat < 128 then some (b.toNat, bytes)
    else
      let octets := bytes.take (b.toNat - 128)
      if encodeLength (ofBigEndian octets) = b :: octets then
        some (ofBigEndian octets, bytes.drop (b.toNat - 128))
      else none

theorem readLength_encodeLength {n : ℕ} (h : n < 256 ^ 126) (rest : Bytes) :
    readLength (encodeLength n ++ rest) = some (n, rest) := by
  by_cases hn : n < 128
  · have hb : (UInt8.ofNat n).toNat = n := by
      rw [UInt8.toNat_ofNat']
      omega
    rw [encodeLength, if_pos hn, List.singleton_append, readLength, hb, if_pos hn]
  · have hlength := length_bigEndian_le h
    have hb : (UInt8.ofNat (128 + (bigEndian n).length)).toNat = 128 + (bigEndian n).length := by
      rw [UInt8.toNat_ofNat']
      omega
    have hoctets : encodeLength n = UInt8.ofNat (128 + (bigEndian n).length) :: bigEndian n :=
      if_neg hn
    rw [hoctets, List.cons_append, readLength, hb, if_neg (by omega), Nat.add_sub_cancel_left,
      List.take_left, List.drop_left]
    dsimp only
    rw [ofBigEndian_bigEndian, if_pos hoctets]

/-! ### Elements -/

/-- A tag whose number fits the identifier octet. -/
structure Tag where
  cls : Fin 4
  number : Fin 31
  deriving DecidableEq

/-- The tag that is all zeros. -/
def Tag.zero : Tag := ⟨0, 0⟩

def Tag.integer : Tag := ⟨0, 2⟩

def Tag.octetString : Tag := ⟨0, 4⟩

def Tag.objectIdentifier : Tag := ⟨0, 6⟩

def Tag.sequence : Tag := ⟨0, 16⟩

def Tag.set : Tag := ⟨0, 17⟩

/-- The context-specific tag `[0]`. -/
def Tag.context : Tag := ⟨2, 0⟩

def Tag.identifier (tag : Tag) (isCompound : Bool) : UInt8 :=
  UInt8.ofNat (64 * tag.cls + (if isCompound then 32 else 0) + tag.number)

def readIdentifier (b : UInt8) : Option (Tag × Bool) :=
  if h : b.toNat % 32 < 31 then
    some (⟨⟨b.toNat / 64, by have := b.toNat_lt; omega⟩, ⟨b.toNat % 32, h⟩⟩,
      b.toNat / 32 % 2 = 1)
  else none

theorem readIdentifier_identifier (tag : Tag) (isCompound : Bool) :
    readIdentifier (tag.identifier isCompound) = some (tag, isCompound) := by
  obtain ⟨⟨cls, hcls⟩, ⟨number, hnumber⟩⟩ := tag
  cases isCompound with
  | false =>
    have hnumber' : (64 * cls + number) % 32 = number := by omega
    simp only [readIdentifier, Tag.identifier, UInt8.toNat_ofNat']
    simp [hnumber', hnumber]
    omega
  | true =>
    have hnumber' : (64 * cls + 32 + number) % 32 = number := by omega
    simp only [readIdentifier, Tag.identifier, UInt8.toNat_ofNat']
    simp [hnumber', hnumber]
    omega

/-- An element with its contents as bytes. -/
def tlv (identifier : UInt8) (contents : Bytes) : Bytes :=
  identifier :: (encodeLength contents.length ++ contents)

theorem length_tlv (identifier : UInt8) (contents : Bytes) :
    contents.length < (tlv identifier contents).length := by
  rw [tlv, List.length_cons, List.length_append]
  omega

inductive Element
  | primitive (tag : Tag) (contents : Bytes)
  | constructed (tag : Tag) (elements : List Element)

mutual

def Element.encode : Element → Bytes
  | .primitive tag contents => tlv (tag.identifier false) contents
  | .constructed tag elements => tlv (tag.identifier true) (encodeAll elements)

def encodeAll : List Element → Bytes
  | [] => []
  | element :: elements => element.encode ++ encodeAll elements

end

theorem encodeAll_eq_flatten (elements : List Element) :
    encodeAll elements = (elements.map Element.encode).flatten := by
  induction elements with
  | nil => rfl
  | cons element elements ih => rw [encodeAll, ih, List.map_cons, List.flatten_cons]

/-- The identifier and the contents of an element, and what follows it. -/
def readTlv : Bytes → Option ((Tag × Bool) × Bytes × Bytes)
  | [] => none
  | b :: bytes => do
    let identifier ← readIdentifier b
    let (length, rest) ← readLength bytes
    if length ≤ rest.length then some (identifier, rest.take length, rest.drop length) else none

theorem readTlv_tlv (tag : Tag) (isCompound : Bool) {contents : Bytes}
    (h : contents.length < 256 ^ 126) (rest : Bytes) :
    readTlv (tlv (tag.identifier isCompound) contents ++ rest) =
      some ((tag, isCompound), contents, rest) := by
  rw [tlv, List.cons_append, List.append_assoc, readTlv, readIdentifier_identifier,
    readLength_encodeLength h]
  simp

/-- The elements that bytes are made of; every element takes fuel. -/
def parse : ℕ → Bytes → Option (List Element)
  | 0, _ => none
  | _ + 1, [] => some []
  | fuel + 1, b :: bytes =>
    (readTlv (b :: bytes)).bind fun ((tag, isCompound), contents, rest) ↦
      (if isCompound then (parse fuel contents).map (.constructed tag)
        else some (.primitive tag contents)).bind fun element ↦
          (parse fuel rest).map (element :: ·)

theorem parse_tlv (fuel : ℕ) (tag : Tag) (isCompound : Bool) {contents : Bytes}
    (h : contents.length < 256 ^ 126) (rest : Bytes) :
    parse (fuel + 1) (tlv (tag.identifier isCompound) contents ++ rest) =
      (if isCompound = true then (parse fuel contents).map (.constructed tag)
        else some (.primitive tag contents)).bind fun element ↦
          (parse fuel rest).map (element :: ·) := by
  have hread := readTlv_tlv tag isCompound h rest
  rw [tlv, List.cons_append] at hread ⊢
  rw [parse, hread, Option.bind_some]

theorem parse_encodeAll (fuel : ℕ) : ∀ elements : List Element,
    (encodeAll elements).length < fuel → (encodeAll elements).length < 256 ^ 126 →
      parse fuel (encodeAll elements) = some elements := by
  induction fuel with
  | zero => exact fun _ h ↦ absurd h (Nat.not_lt_zero _)
  | succ fuel ih =>
    intro elements hfuel hlength
    cases elements with
    | nil => rfl
    | cons element elements =>
      cases element with
      | primitive tag contents =>
        rw [encodeAll, Element.encode] at hfuel hlength ⊢
        have htlv := length_tlv (tag.identifier false) contents
        rw [List.length_append] at hfuel hlength
        rw [parse_tlv fuel tag false (by omega), if_neg Bool.false_ne_true,
          ih elements (by omega) (by omega)]
        rfl
      | constructed tag children =>
        rw [encodeAll, Element.encode] at hfuel hlength ⊢
        have htlv := length_tlv (tag.identifier true) (encodeAll children)
        rw [List.length_append] at hfuel hlength
        rw [parse_tlv fuel tag true (by omega), if_pos rfl, ih children (by omega) (by omega),
          ih elements (by omega) (by omega)]
        rfl

/-- Bytes that are one element. -/
def parseElement (bytes : Bytes) : Option Element :=
  match parse (bytes.length + 1) bytes with
  | some [element] => some element
  | _ => none

theorem parseElement_encode {element : Element} (h : element.encode.length < 256 ^ 126) :
    parseElement element.encode = some element := by
  have hone : encodeAll [element] = element.encode := List.append_nil _
  have hparse := parse_encodeAll (element.encode.length + 1) [element]
  rw [hone] at hparse
  rw [parseElement, hparse (Nat.lt_succ_self _) h]

/-! ### Integers and object identifiers -/

/-- The contents of an `INTEGER`. -/
def encodeInteger : ℤ → Bytes
  | .ofNat n =>
    match bigEndian n with
    | [] => [0]
    | b :: bytes => if 128 ≤ b.toNat then 0 :: b :: bytes else b :: bytes
  | .negSucc n =>
    match (bigEndian n).map (· ^^^ 255) with
    | [] => [255]
    | b :: bytes => if b.toNat < 128 then 255 :: b :: bytes else b :: bytes

/-- The number whose two's complement the contents of an `INTEGER` are. -/
def decodeInteger : Bytes → ℤ
  | [] => 0
  | b :: bytes =>
    if b.toNat < 128 then ofBigEndian (b :: bytes)
    else (ofBigEndian (b :: bytes) : ℤ) - (256 : ℤ) ^ (b :: bytes).length

theorem toNat_complement (b : UInt8) : (b ^^^ 255).toNat + b.toNat = 255 := by
  have h : ∀ n < 256, (n ^^^ 255) + n = 255 := by decide +kernel
  rw [UInt8.toNat_xor]
  exact h b.toNat b.toNat_lt

/-- The complement of a number of `k` bytes is what it lacks to `256 ^ k - 1`. -/
theorem ofBigEndian_complement (bytes : Bytes) :
    ofBigEndian (bytes.map (· ^^^ 255)) + ofBigEndian bytes + 1 = 256 ^ bytes.length := by
  induction bytes with
  | nil => rfl
  | cons b bytes ih =>
    rw [List.map_cons, ofBigEndian_cons, ofBigEndian_cons, List.length_map, List.length_cons,
      pow_succ]
    have hb := Nat.add_mul (b ^^^ 255).toNat b.toNat (256 ^ bytes.length)
    rw [toNat_complement] at hb
    omega

theorem decodeInteger_encodeInteger (n : ℤ) : decodeInteger (encodeInteger n) = n := by
  cases n with
  | ofNat n =>
    have hn := ofBigEndian_bigEndian n
    rw [encodeInteger]
    cases hbytes : bigEndian n with
    | nil =>
      rw [hbytes] at hn
      rw [← hn]
      rfl
    | cons b bytes =>
      rw [hbytes] at hn
      dsimp only
      split_ifs with hb
      · rw [decodeInteger, if_pos (by decide), ofBigEndian_cons, hn]
        simp
      · rw [decodeInteger, if_pos (by omega), hn]
        rfl
  | negSucc n =>
    have hn := ofBigEndian_complement (bigEndian n)
    rw [ofBigEndian_bigEndian, ← List.length_map (· ^^^ 255)] at hn
    rw [encodeInteger, Int.negSucc_eq]
    cases hbytes : (bigEndian n).map (· ^^^ 255) with
    | nil =>
      rw [hbytes] at hn
      have hzero : n = 0 := by simpa using hn
      rw [hzero]
      rfl
    | cons b bytes =>
      rw [hbytes] at hn
      have hcast := congrArg (Nat.cast : ℕ → ℤ) hn
      push_cast at hcast
      dsimp only
      split_ifs with hb
      · have hpow : (256 : ℤ) ^ (255 :: b :: bytes).length = 256 ^ (b :: bytes).length * 256 :=
          pow_succ _ _
        have h255 : (255 : UInt8).toNat = 255 := rfl
        rw [decodeInteger, if_neg (by decide), ofBigEndian_cons, hpow, h255]
        push_cast
        linarith
      · rw [decodeInteger, if_neg hb]
        linarith

/-- The base 128 of a number, with the top bit set in all bytes but the last. -/
def base128 (n : ℕ) : Bytes :=
  match Nat.digits 128 n with
  | [] => [0]
  | d :: digits => ((digits.map fun d ↦ UInt8.ofNat (128 + d)).reverse) ++ [UInt8.ofNat d]

/-- The contents of an `OBJECT IDENTIFIER`; the first two numbers are written as one. -/
def encodeObjectIdentifier : List ℕ → Option Bytes
  | first :: second :: rest =>
    if first > 2 ∨ first < 2 ∧ second ≥ 40 then none
    else some (base128 (first * 40 + second) ++ rest.flatMap base128)
  | _ => none

example :
    encodeObjectIdentifier [1, 2, 840, 113549, 1, 7, 1] =
      some [42, 134, 72, 134, 247, 13, 1, 7, 1] := by
  decide

/-! ### Types -/

namespace Element

def integer (n : ℤ) : Element := .primitive .integer (encodeInteger n)

def octetString (bytes : Bytes) : Element := .primitive .octetString bytes

/-- The numbers that make no object identifier are written as nothing. -/
def objectIdentifier (numbers : List ℕ) : Element :=
  .primitive .objectIdentifier ((encodeObjectIdentifier numbers).getD [])

def sequence (elements : List Element) : Element := .constructed .sequence elements

def set (elements : List Element) : Element := .constructed .set elements

def context (elements : List Element) : Element := .constructed .context elements

def integer? : Element → Option ℤ
  | .primitive tag contents => if tag = .integer then some (decodeInteger contents) else none
  | .constructed _ _ => none

def octetString? : Element → Option Bytes
  | .primitive tag contents => if tag = .octetString then some contents else none
  | .constructed _ _ => none

/-- Whether an element is the object identifier of these numbers. -/
def isObjectIdentifier (numbers : List ℕ) : Element → Bool
  | .primitive tag contents => tag = .objectIdentifier ∧ some contents = encodeObjectIdentifier numbers
  | .constructed _ _ => false

/-- The parts of a constructed element with a given tag. -/
def parts? (expected : Tag) : Element → Option (List Element)
  | .primitive _ _ => none
  | .constructed tag elements => if tag = expected then some elements else none

@[simp] theorem integer?_integer (n : ℤ) : (integer n).integer? = some n := by
  rw [integer, integer?, if_pos rfl, decodeInteger_encodeInteger]

@[simp] theorem octetString?_octetString (bytes : Bytes) :
    (octetString bytes).octetString? = some bytes := by
  rw [octetString, octetString?, if_pos rfl]

@[simp] theorem parts?_sequence (elements : List Element) :
    (sequence elements).parts? .sequence = some elements := by
  rw [sequence, parts?, if_pos rfl]

@[simp] theorem parts?_set (elements : List Element) :
    (set elements).parts? .set = some elements := by
  rw [set, parts?, if_pos rfl]

@[simp] theorem parts?_context (elements : List Element) :
    (context elements).parts? .context = some elements := by
  rw [context, parts?, if_pos rfl]

theorem isObjectIdentifier_objectIdentifier {numbers : List ℕ} {contents : Bytes}
    (h : encodeObjectIdentifier numbers = some contents) :
    (objectIdentifier numbers).isObjectIdentifier numbers = true := by
  rw [objectIdentifier, h, isObjectIdentifier, h]
  exact decide_eq_true ⟨rfl, rfl⟩

theorem encode_ne_nil (element : Element) : element.encode ≠ [] := by
  cases element with
  | primitive tag contents => exact List.cons_ne_nil _ _
  | constructed tag elements => exact List.cons_ne_nil _ _

end Element

/-- The elements of a set in the order of their encodings. -/
def sortSet (encodings : List Bytes) : List Bytes :=
  encodings.insertionSort fun a b ↦ ¬b < a

end YandexPay.Der
