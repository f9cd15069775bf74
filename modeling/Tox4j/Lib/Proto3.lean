import Mathlib

/-!
# `Tox4j.Lib.Proto3`: the proto3 wire format

A message is a record. On the wire it is a sequence of fields, each with its number and a
payload: a varint, or bytes with their length. A scalar field with its default value is left
out. A repeated field of messages has one payload for each element.

A `FieldCodec` writes one field of a message and reads it back. It carries the proof that it
reads what it writes. A list of them describes the message: `serialize` and `parse` work for any
list. `parse_serialize` is the round trip. Its condition `Restores` is about the fields only, and
`rfl` proves it for each field of a record. A `Schema` carries that proof. `length_serialize`
bounds the size from below by two bytes for each payload.

Numbers are unbounded here, so there is no limit on the size of a message.
-/

set_option autoImplicit false

namespace Tox4j.Lib.Proto3

/-- The bytes of a message. -/
abbrev Bytes := List UInt8

/-! ### Varints -/

/-- Seven bits in each byte, the low ones first. All but the last have the high bit set. -/
def varintLoop : Nat → Nat → Bytes
  | 0, _ => []
  | fuel + 1, n =>
    if n < 128 then [UInt8.ofNat n] else UInt8.ofNat (n % 128 + 128) :: varintLoop fuel (n / 128)

/-- The varint of `n`. -/
def varint (n : Nat) : Bytes := varintLoop (n + 1) n

/-- Read a varint from the start of the input. -/
def readVarint : Bytes → Option (Nat × Bytes)
  | [] => none
  | b :: bs =>
    if b.toNat < 128 then some (b.toNat, bs)
    else (readVarint bs).map fun (n, rest) => (b.toNat - 128 + 128 * n, rest)

/-- A varint is read back, with what follows it, by induction on the number. Each byte takes seven
bits of it. -/
theorem readVarint_varintLoop {fuel n : Nat} (h : n < fuel) (rest : Bytes) :
    readVarint (varintLoop fuel n ++ rest) = some (n, rest) := by
  induction fuel generalizing n with
  | zero => exact absurd h (Nat.not_lt_zero n)
  | succ fuel ih =>
      rw [varintLoop]
      split
      · rename_i hsmall
        have hbyte : (UInt8.ofNat n).toNat = n := by
          rw [UInt8.toNat_ofNat']
          omega
        rw [List.singleton_append, readVarint, hbyte, if_pos hsmall]
      · rename_i hlarge
        have hbyte : (UInt8.ofNat (n % 128 + 128)).toNat = n % 128 + 128 := by
          rw [UInt8.toNat_ofNat']
          omega
        have hrest : n / 128 < fuel := by omega
        rw [List.cons_append, readVarint, hbyte, if_neg (by omega), ih hrest]
        simp only [Option.map_some, Option.some.injEq, Prod.mk.injEq, and_true]
        omega

/-- A varint is read back, and the rest of the input is left. -/
theorem readVarint_varint (n : Nat) (rest : Bytes) :
    readVarint (varint n ++ rest) = some (n, rest) :=
  readVarint_varintLoop (Nat.lt_succ_self n) rest

/-- A varint has one byte at least. -/
theorem length_varint_pos (n : Nat) : 1 ≤ (varint n).length := by
  rw [varint, varintLoop]
  split <;> simp

/-- Numbers as varints, one after the other. -/
def writePacked (ns : List Nat) : Bytes := ns.flatMap varint

/-- Read varints up to the end of the input. Each takes a byte at least. -/
def readPackedLoop : Nat → Bytes → Option (List Nat)
  | _, [] => some []
  | 0, _ :: _ => none
  | fuel + 1, b :: bs => do
    let (n, rest) ← readVarint (b :: bs)
    let ns ← readPackedLoop fuel rest
    return n :: ns

/-- All numbers of a packed field. -/
def readPacked (input : Bytes) : Option (List Nat) := readPackedLoop input.length input

/-- Packed numbers are read back, if there is fuel for each of them. -/
theorem readPackedLoop_writePacked {fuel : Nat} {ns : List Nat} (h : ns.length ≤ fuel) :
    readPackedLoop fuel (writePacked ns) = some ns := by
  induction ns generalizing fuel with
  | nil => cases fuel <;> rfl
  | cons n ns ih =>
      cases fuel with
      | zero => exact absurd h (by simp)
      | succ fuel =>
          have hvarint := readVarint_varint n (writePacked ns)
          have hpos := length_varint_pos n
          have hcons : writePacked (n :: ns) = varint n ++ writePacked ns := rfl
          rw [hcons]
          cases hbytes : varint n with
          | nil => simp [hbytes] at hpos
          | cons b bs =>
              rw [hbytes, List.cons_append] at hvarint
              rw [List.cons_append, readPackedLoop, hvarint]
              simp [ih (Nat.le_of_succ_le_succ h)]

/-- Packed numbers are read back. -/
theorem readPacked_writePacked (ns : List Nat) : readPacked (writePacked ns) = some ns := by
  refine readPackedLoop_writePacked ?_
  induction ns with
  | nil => exact Nat.zero_le _
  | cons n ns ih =>
      have hpos := length_varint_pos n
      have hcons : writePacked (n :: ns) = varint n ++ writePacked ns := rfl
      rw [hcons, List.length_append, List.length_cons]
      omega

/-! ### Fields -/

/-- What a field has on the wire. -/
inductive Payload
  | varint (n : UInt64)
  | bytes (bs : Bytes)
  deriving DecidableEq, Repr

/-- A field with its number. -/
structure Field where
  number : Nat
  payload : Payload
  deriving DecidableEq, Repr

/-- The tag, with the wire type in its low three bits, and the payload. -/
def writeField (f : Field) : Bytes :=
  match f.payload with
  | .varint n => varint (8 * f.number) ++ varint n.toNat
  | .bytes bs => varint (8 * f.number + 2) ++ (varint bs.length ++ bs)

/-- Read a field from the start of the input. No field has the number 0. -/
def readField (input : Bytes) : Option (Field × Bytes) := do
  let (tag, input) ← readVarint input
  if tag < 8 then none
  else if tag % 8 = 0 then
    let (n, input) ← readVarint input
    return (⟨tag / 8, .varint (UInt64.ofNat n)⟩, input)
  else if tag % 8 = 2 then
    let (length, input) ← readVarint input
    if length ≤ input.length then
      return (⟨tag / 8, .bytes (input.take length)⟩, input.drop length)
    else none
  else none

/-- A field that was written is read, and the rest of the input is left. -/
theorem readField_writeField {f : Field} (hf : 0 < f.number) (rest : Bytes) :
    readField (writeField f ++ rest) = some (f, rest) := by
  obtain ⟨number, payload⟩ := f
  have hpos : 0 < number := hf
  cases payload with
  | varint n =>
      have hlarge : ¬ 8 * number < 8 := by omega
      have htag : 8 * number % 8 = 0 := by omega
      have hnumber : 8 * number / 8 = number := by omega
      simp [writeField, readField, readVarint_varint, hlarge, htag, hnumber]
  | bytes bs =>
      have hlarge : ¬ 8 * number + 2 < 8 := by omega
      have htag : (8 * number + 2) % 8 = 2 := by omega
      have hnumber : (8 * number + 2) / 8 = number := by omega
      simp [writeField, readField, readVarint_varint, hlarge, htag, hnumber]

/-- A field takes two bytes at least: one for its tag, and one for its value or length. -/
theorem length_writeField (f : Field) : 2 ≤ (writeField f).length := by
  obtain ⟨number, payload⟩ := f
  cases payload with
  | varint n =>
      have h₁ := length_varint_pos (8 * number)
      have h₂ := length_varint_pos n.toNat
      simp only [writeField, List.length_append]
      omega
  | bytes bs =>
      have h₁ := length_varint_pos (8 * number + 2)
      have h₂ := length_varint_pos bs.length
      simp only [writeField, List.length_append]
      omega

/-- The fields have the numbers of fields. -/
def Numbered (fs : List Field) : Prop := ∀ f ∈ fs, 0 < f.number

/-- All fields of a message. -/
def writeFields (fs : List Field) : Bytes := fs.flatMap writeField

/-- Read fields up to the end of the input. Each takes a byte at least. -/
def readFieldsLoop : Nat → Bytes → Option (List Field)
  | _, [] => some []
  | 0, _ :: _ => none
  | fuel + 1, b :: bs => do
    let (f, rest) ← readField (b :: bs)
    let fs ← readFieldsLoop fuel rest
    return f :: fs

/-- All fields of a message. -/
def readFields (input : Bytes) : Option (List Field) := readFieldsLoop input.length input

/-- Fields that were written are read, if there is fuel for each of them. -/
theorem readFieldsLoop_writeFields {fuel : Nat} {fs : List Field} (hfs : Numbered fs)
    (h : fs.length ≤ fuel) : readFieldsLoop fuel (writeFields fs) = some fs := by
  induction fs generalizing fuel with
  | nil => cases fuel <;> rfl
  | cons f fs ih =>
      cases fuel with
      | zero => exact absurd h (by simp)
      | succ fuel =>
          have hfield := readField_writeField (hfs f List.mem_cons_self) (writeFields fs)
          have hrest := ih (fun g hg => hfs g (List.mem_cons_of_mem f hg))
            (Nat.le_of_succ_le_succ h)
          have hne := length_writeField f
          have hcons : writeFields (f :: fs) = writeField f ++ writeFields fs := rfl
          rw [hcons]
          cases hbytes : writeField f with
          | nil => simp [hbytes] at hne
          | cons b bs =>
              rw [hbytes, List.cons_append] at hfield
              rw [List.cons_append, readFieldsLoop, hfield]
              simp [hrest]

/-- A field takes two bytes at least: its tag, and a number or a length. -/
theorem length_writeFields (fs : List Field) : 2 * fs.length ≤ (writeFields fs).length := by
  induction fs with
  | nil => exact Nat.zero_le _
  | cons f fs ih =>
      have hne := length_writeField f
      have hcons : (writeFields (f :: fs)).length = (writeField f).length +
          (writeFields fs).length := by
        simp [writeFields]
      rw [hcons, List.length_cons]
      omega

/-- All fields of a message are read back, in their order. The length of the input is fuel enough,
because no field is empty. -/
theorem readFields_writeFields {fs : List Field} (hfs : Numbered fs) :
    readFields (writeFields fs) = some fs := by
  refine readFieldsLoop_writeFields hfs ?_
  have h := length_writeFields fs
  omega

/-! ### Messages -/

/-- A component of a record. -/
structure Lens (M α : Type) where
  get : M → α
  set : α → M → M
  get_set : ∀ a m, get (set a m) = a := by intros; rfl
  set_set : ∀ a b m, set a (set b m) = set a m := by intros; rfl

/-- One field of the message type `M`. Reading starts with a message that has the default in
the field, and merges one payload after the other. -/
structure FieldCodec (M : Type) where
  number : Nat
  write : M → List Payload
  merge : M → Payload → Option M
  /-- The second message, with the field of the first one. -/
  copy : M → M → M
  isDefault : M → Prop
  merge_write : ∀ m acc, isDefault acc → (write m).foldlM merge acc = some (copy m acc)

variable {M α : Type}

/-- The fields of a message, in the order of the schema. -/
def toFields (schema : List (FieldCodec M)) (m : M) : List Field :=
  schema.flatMap fun c => (c.write m).map (Field.mk c.number)

/-- The fields of a message have the numbers of its schema. -/
theorem numbered_toFields {schema : List (FieldCodec M)}
    (hpos : 0 ∉ schema.map FieldCodec.number) (m : M) : Numbered (toFields schema m) := by
  intro f hf
  obtain ⟨c, hc, hf⟩ := List.mem_flatMap.mp hf
  obtain ⟨payload, -, rfl⟩ := List.mem_map.mp hf
  exact Nat.pos_of_ne_zero fun hzero => hpos (hzero ▸ List.mem_map_of_mem hc)

/-- Merge a field. Unknown fields are skipped. -/
def mergeField (schema : List (FieldCodec M)) (acc : M) (f : Field) : Option M :=
  match schema.find? (·.number = f.number) with
  | some c => c.merge acc f.payload
  | none => some acc

/-- `SerializeToArray`. -/
def serialize (schema : List (FieldCodec M)) (m : M) : Bytes := writeFields (toFields schema m)

/-- `parseFrom`. -/
def parse (schema : List (FieldCodec M)) (empty : M) (input : Bytes) : Option M := do
  (← readFields input).foldlM (mergeField schema) empty

/-- Copying the fields one after the other leads from `acc` to `m`, and each field has its
default before it is copied. -/
def Restores (m : M) : List (FieldCodec M) → M → Prop
  | [], acc => acc = m
  | c :: schema, acc => c.isDefault acc ∧ Restores m schema (c.copy m acc)

/-- Fields with the number of one entry of the schema are merged by this entry. -/
theorem foldlM_mergeField {schema : List (FieldCodec M)} {c : FieldCodec M}
    (hc : schema.find? (·.number = c.number) = some c) (payloads : List Payload) (acc : M) :
    (payloads.map (Field.mk c.number)).foldlM (mergeField schema) acc =
      payloads.foldlM c.merge acc := by
  rw [List.foldlM_map]
  congr 1
  funext acc payload
  rw [mergeField, hc]

/-- The fields that were written restore the message. The induction is on the part of the schema
that was not merged yet. -/
theorem foldlM_toFields {schema : List (FieldCodec M)}
    (hschema : ∀ c ∈ schema, schema.find? (·.number = c.number) = some c) {m : M}
    (part : List (FieldCodec M)) (hpart : ∀ c ∈ part, c ∈ schema) (acc : M)
    (h : Restores m part acc) :
    (toFields part m).foldlM (mergeField schema) acc = some m := by
  induction part generalizing acc with
  | nil =>
      obtain rfl : acc = m := h
      rfl
  | cons c part ih =>
      have hfields : toFields (c :: part) m =
          (c.write m).map (Field.mk c.number) ++ toFields part m := rfl
      have hc := hschema c (hpart c List.mem_cons_self)
      rw [hfields, List.foldlM_append, foldlM_mergeField hc, c.merge_write m acc h.1]
      exact ih (fun c' hc' => hpart c' (List.mem_cons_of_mem c hc')) _ h.2

/-- The entries of a schema are found by their numbers, when these are distinct. -/
theorem find?_of_nodup {schema : List (FieldCodec M)} (h : (schema.map FieldCodec.number).Nodup)
    {c : FieldCodec M} (hc : c ∈ schema) :
    schema.find? (·.number = c.number) = some c := by
  induction schema with
  | nil => exact absurd hc List.not_mem_nil
  | cons d schema ih =>
      rw [List.map_cons, List.nodup_cons] at h
      rcases List.mem_cons.mp hc with rfl | hc
      · exact List.find?_cons_of_pos (by simp)
      · have hne : d.number ≠ c.number := by
          intro heq
          exact h.1 (heq ▸ List.mem_map_of_mem hc)
        rw [List.find?_cons_of_neg (by simpa using hne)]
        exact ih h.2 hc

/-- The round trip. -/
theorem parse_serialize {schema : List (FieldCodec M)} {empty m : M}
    (hpos : 0 ∉ schema.map FieldCodec.number) (hnumbers : (schema.map FieldCodec.number).Nodup)
    (h : Restores m schema empty) : parse schema empty (serialize schema m) = some m := by
  rw [parse, serialize, readFields_writeFields (numbered_toFields hpos m)]
  exact foldlM_toFields (fun c hc => find?_of_nodup hnumbers hc) schema (fun _ hc => hc) empty h

/-- Each payload takes two bytes at least, one for the tag and one for the length or value. -/
theorem length_serialize (schema : List (FieldCodec M)) (m : M) :
    2 * (toFields schema m).length ≤ (serialize schema m).length :=
  length_writeFields _

/-- The fields of a message type, with the message that a parser starts from. -/
structure Schema (M : Type) where
  fields : List (FieldCodec M)
  empty : M
  pos : 0 ∉ fields.map FieldCodec.number
  nodup : (fields.map FieldCodec.number).Nodup
  restores : ∀ m, Restores m fields empty

namespace Schema

variable (schema : Schema M)

/-- The bytes of a message. -/
def serialize (m : M) : Bytes := Proto3.serialize schema.fields m

/-- The message that these bytes are, if they are one. -/
def parse (input : Bytes) : Option M := Proto3.parse schema.fields schema.empty input

/-- A message is parsed back from its bytes. -/
theorem parse_serialize (m : M) : schema.parse (schema.serialize m) = some m :=
  Proto3.parse_serialize schema.pos schema.nodup (schema.restores m)

end Schema

/-! ### Kinds of fields -/

/-- A scalar field: `toWire` is its varint. -/
def scalarField [DecidableEq α] (number : Nat) (lens : Lens M α) (default : α)
    (toWire : α → UInt64) (ofWire : UInt64 → α) (hwire : ∀ a, ofWire (toWire a) = a) :
    FieldCodec M where
  number := number
  write m := if lens.get m = default then [] else [.varint (toWire (lens.get m))]
  merge acc
    | .varint n => some (lens.set (ofWire n) acc)
    | .bytes _ => none
  copy m acc := lens.set (lens.get m) acc
  isDefault acc := lens.set default acc = acc
  merge_write m acc hdefault := by
    split
    · rename_i hget
      rw [hget, hdefault]
      rfl
    · simp [hwire]

/-- A field of type `bytes`. -/
def bytesField (number : Nat) (lens : Lens M Bytes) : FieldCodec M where
  number := number
  write m := if lens.get m = [] then [] else [.bytes (lens.get m)]
  merge acc
    | .varint _ => none
    | .bytes bs => some (lens.set bs acc)
  copy m acc := lens.set (lens.get m) acc
  isDefault acc := lens.set [] acc = acc
  merge_write m acc hdefault := by
    split
    · rename_i hget
      rw [hget, hdefault]
      rfl
    · simp

/-- A repeated field, with one payload for each element. -/
def repeatedField (number : Nat) (lens : Lens M (List α)) (write : α → Bytes)
    (read : Bytes → Option α) (hread : ∀ a, read (write a) = some a) : FieldCodec M where
  number := number
  write m := (lens.get m).map fun a => .bytes (write a)
  merge acc
    | .varint _ => none
    | .bytes bs => (read bs).map fun a => lens.set (lens.get acc ++ [a]) acc
  copy m acc := lens.set (lens.get acc ++ lens.get m) acc
  isDefault acc := lens.set (lens.get acc) acc = acc
  merge_write m acc hdefault := by
    generalize lens.get m = elements
    induction elements generalizing acc with
    | nil => simp [hdefault]
    | cons a elements ih =>
        have hnext := ih (lens.set (lens.get acc ++ [a]) acc)
          (by rw [lens.get_set, lens.set_set])
        simp only [List.map_cons, List.foldlM_cons, hread, Option.map_some]
        rw [lens.get_set, lens.set_set, List.append_assoc] at hnext
        exact hnext

/-- A repeated field of messages. -/
def messageField (number : Nat) (lens : Lens M (List α)) (schema : Schema α) : FieldCodec M :=
  repeatedField number lens schema.serialize schema.parse schema.parse_serialize

/-- A repeated scalar field. All elements are in one payload. A parser accepts one payload for
each element as well. -/
def packedField (number : Nat) (lens : Lens M (List α)) (toWire : α → UInt64)
    (ofWire : UInt64 → α) (hwire : ∀ a, ofWire (toWire a) = a) : FieldCodec M where
  number := number
  write m :=
    if lens.get m = [] then []
    else [.bytes (writePacked ((lens.get m).map fun a => (toWire a).toNat))]
  merge acc
    | .varint n => some (lens.set (lens.get acc ++ [ofWire n]) acc)
    | .bytes bs => (readPacked bs).map fun ns =>
      lens.set (lens.get acc ++ ns.map fun n => ofWire (UInt64.ofNat n)) acc
  copy m acc := lens.set (lens.get acc ++ lens.get m) acc
  isDefault acc := lens.set (lens.get acc) acc = acc
  merge_write m acc hdefault := by
    split
    · rename_i hget
      simp [hget, hdefault]
    · simp [readPacked_writePacked, List.map_map, Function.comp_def, hwire]

/-- A field of type `uint32`. -/
def uint32Field (number : Nat) (lens : Lens M UInt32) : FieldCodec M :=
  scalarField number lens 0 UInt32.toUInt64 UInt64.toUInt32 UInt32.toUInt32_toUInt64

/-- A field of type `uint64`. -/
def uint64Field (number : Nat) (lens : Lens M UInt64) : FieldCodec M :=
  scalarField number lens 0 id id fun _ => rfl

/-- The varint of an `int32`: a negative number is extended to 64 bits. -/
def int32ToWire (n : Int32) : UInt64 := n.toInt64.toUInt64

/-- The `int32` of a varint. -/
def int32OfWire (n : UInt64) : Int32 := n.toInt64.toInt32

/-- An `int32` survives the extension to 64 bits and the cut back to 32. -/
theorem int32OfWire_int32ToWire (n : Int32) : int32OfWire (int32ToWire n) = n := by
  simp [int32OfWire, int32ToWire]

/-- A field of type `int32`, or of an enumeration. -/
def int32Field (number : Nat) (lens : Lens M Int32) : FieldCodec M :=
  scalarField number lens 0 int32ToWire int32OfWire int32OfWire_int32ToWire

/-- A field of type `bool`. -/
def boolField (number : Nat) (lens : Lens M Bool) : FieldCodec M :=
  scalarField number lens false (fun b => if b then 1 else 0) (· ≠ 0) fun b => by cases b <;> rfl

end Tox4j.Lib.Proto3
