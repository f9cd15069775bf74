import Tox4j.Lib.Proto3

/-!
# `Tox4j.Lib.Proto3Message`: proto3 messages inside each other

`Tox4j.Lib.Proto3` describes a message by a list of codecs, and each codec reads what it
writes. That is not enough for a message that has itself for a field: a parser accepts only so
many messages inside each other, and fails on the others.

Here a message is a list of fields, and a parser is a function that merges one field.
`parseFields_writeFields` says that parsing merges the fields that were written.
`foldlM_writeScalar` and `foldlM_writeBytes` merge a field that is left out when it has its
default, `foldlM_messages` a repeated field and `foldlM_message` one that may be absent.

`nested` counts the messages inside each other, and `depthOf` is what a repeated field needs of
them. `within limit depth` is the result of a parser that accepts `limit` of them, for a message
with `depth` of them. The rules of `within` say how the depths of parts add up.
-/

set_option autoImplicit false

namespace Tox4j.Lib.Proto3

variable {M α : Type}

/-! ### Scalars -/

/-- The varint of a `sint64`: the sign is in the lowest bit. -/
def zigzag (v : Int64) : UInt64 :=
  if 0 ≤ v.toInt then UInt64.ofNat (2 * v.toInt.toNat)
  else UInt64.ofNat (2 * (-v.toInt).toNat - 1)

/-- The `sint64` of a varint. -/
def unzigzag (n : UInt64) : Int64 :=
  if n.toNat % 2 = 0 then Int64.ofInt (n.toNat / 2) else Int64.ofInt (-(n.toNat / 2) - 1)

/-- The zigzag encoding of signed numbers is undone. -/
@[simp] theorem unzigzag_zigzag (v : Int64) : unzigzag (zigzag v) = v := by
  have hmin := v.le_toInt
  have hmax := v.toInt_lt
  rw [← Int64.toInt_inj]
  by_cases hsign : 0 ≤ v.toInt
  · have hwire : (zigzag v).toNat = 2 * v.toInt.toNat := by
      rw [zigzag, if_pos hsign, UInt64.toNat_ofNat']
      omega
    rw [unzigzag, hwire, if_pos (by omega), Int64.toInt_ofInt_of_le (by omega) (by omega)]
    omega
  · have hwire : (zigzag v).toNat = 2 * (-v.toInt).toNat - 1 := by
      rw [zigzag, if_neg hsign, UInt64.toNat_ofNat']
      omega
    rw [unzigzag, hwire, if_neg (by omega), Int64.toInt_ofInt_of_le (by omega) (by omega)]
    omega

/-- The payload of a `string`. -/
def utf8 (s : String) : Bytes := s.toByteArray.data.toList

/-- The `string` of a payload. The parser rejects any bytes that are not UTF-8. -/
def ofUtf8 (bs : Bytes) : Option String := String.fromUTF8? ⟨bs.toArray⟩

/-- The bytes of a text are valid, and stand for it. -/
@[simp] theorem ofUtf8_utf8 (s : String) : ofUtf8 (utf8 s) = some s := by
  have hbytes : (⟨(utf8 s).toArray⟩ : ByteArray) = s.toByteArray := by
    rw [utf8, Array.toArray_toList]
  rw [ofUtf8, hbytes, String.fromUTF8?, dif_pos s.isValidUTF8]
  rfl

/-- Only the empty text has no bytes. -/
@[simp] theorem utf8_eq_nil {s : String} : utf8 s = [] ↔ s = "" := by
  constructor
  · intro h
    have hs := ofUtf8_utf8 s
    rw [h, show ([] : Bytes) = utf8 "" from rfl, ofUtf8_utf8] at hs
    exact (Option.some.inj hs).symm
  · intro h
    rw [h]
    rfl

/-! ### Fields -/

/-- Read the fields of a message and merge one after the other. -/
def parseFields (merge : M → Field → Option M) (acc : M) (input : Bytes) : Option M := do
  (← readFields input).foldlM merge acc

/-- Parsing the fields that were written merges these fields. -/
theorem parseFields_writeFields (merge : M → Field → Option M) (acc : M) {fs : List Field}
    (hfs : Numbered fs) : parseFields merge acc (writeFields fs) = fs.foldlM merge acc := by
  rw [parseFields, readFields_writeFields hfs]
  rfl

/-- An input of zeros is not a message, because 0 is not the number of a field. -/
theorem parseFields_zeros (merge : M → Field → Option M) (acc : M) {n : Nat} (h : 0 < n) :
    parseFields merge acc (List.replicate n 0) = none := by
  obtain ⟨n, rfl⟩ : ∃ m, n = m + 1 := ⟨n - 1, by omega⟩
  have hfield : readField (0 :: List.replicate n 0) = none := by simp [readField, readVarint]
  rw [parseFields, readFields, List.length_replicate, List.replicate_succ, readFieldsLoop, hfield]
  rfl

/-- A scalar field, unless it has its default. -/
def writeScalar (number : Nat) (n : UInt64) : List Field :=
  if n = 0 then [] else [⟨number, .varint n⟩]

/-- A field of type `string` or `bytes`, unless it has its default. -/
def writeBytes (number : Nat) (bs : Bytes) : List Field :=
  if bs = [] then [] else [⟨number, .bytes bs⟩]

/-- A number is merged from its field, or it is the default and has no field. -/
theorem foldlM_writeScalar {merge : M → Field → Option M} {acc acc' : M} {number : Nat}
    {n : UInt64} (hmerge : merge acc ⟨number, .varint n⟩ = some acc')
    (hdefault : n = 0 → acc' = acc) :
    (writeScalar number n).foldlM merge acc = some acc' := by
  rw [writeScalar]
  split
  · rename_i hn
    rw [hdefault hn]
    rfl
  · rw [List.foldlM_cons, hmerge]
    rfl

/-- Bytes are merged from their field, or they are the default and have no field. -/
theorem foldlM_writeBytes {merge : M → Field → Option M} {acc acc' : M} {number : Nat}
    {bs : Bytes} (hmerge : merge acc ⟨number, .bytes bs⟩ = some acc')
    (hdefault : bs = [] → acc' = acc) :
    (writeBytes number bs).foldlM merge acc = some acc' := by
  rw [writeBytes]
  split
  · rename_i hbs
    rw [hdefault hbs]
    rfl
  · rw [List.foldlM_cons, hmerge]
    rfl

/-- Fields one after the other. -/
theorem Numbered.append {fs gs : List Field} (hfs : Numbered fs) (hgs : Numbered gs) :
    Numbered (fs ++ gs) := by
  intro f hf
  rcases List.mem_append.mp hf with hf | hf
  · exact hfs f hf
  · exact hgs f hf

/-- A field alone. -/
theorem numbered_singleton {number : Nat} (h : 0 < number) (payload : Payload) :
    Numbered [⟨number, payload⟩] := by
  intro f hf
  rw [List.mem_singleton.mp hf]
  exact h

/-- A scalar field has its number, if it is written at all. -/
theorem numbered_writeScalar {number : Nat} (h : 0 < number) (n : UInt64) :
    Numbered (writeScalar number n) := by
  unfold writeScalar
  split
  · exact fun f hf => absurd hf List.not_mem_nil
  · exact numbered_singleton h _

/-- So has a field of type `string` or `bytes`. -/
theorem numbered_writeBytes {number : Nat} (h : 0 < number) (bs : Bytes) :
    Numbered (writeBytes number bs) := by
  unfold writeBytes
  split
  · exact fun f hf => absurd hf List.not_mem_nil
  · exact numbered_singleton h _

/-! ### Messages inside messages -/

/-- Read a message inside another one, with what is left of the limit. -/
def nested (limit : Nat) (read : Nat → Option α) : Option α :=
  match limit with
  | 0 => none
  | limit + 1 => read limit

/-- A field with a message in it, for each of the list. -/
def writeMessages (number : Nat) (toFields : α → List Field) (l : List α) : List Field :=
  l.map fun a => ⟨number, .bytes (writeFields (toFields a))⟩

/-- Each element of a repeated field has the number of the field. -/
theorem numbered_writeMessages {number : Nat} (h : 0 < number) (toFields : α → List Field)
    (l : List α) : Numbered (writeMessages number toFields l) := by
  intro f hf
  obtain ⟨a, -, rfl⟩ := List.mem_map.mp hf
  exact h

/-- The messages inside each other in a repeated field, when `depth` counts those inside one
element. -/
def depthOf (depth : α → Nat) : List α → Nat
  | [] => 0
  | a :: l => max (depth a + 1) (depthOf depth l)

/-- A repeated field needs the limit of its deepest element. -/
theorem depthOf_le {depth : α → Nat} {l : List α} {limit : Nat} :
    depthOf depth l ≤ limit ↔ ∀ a ∈ l, depth a + 1 ≤ limit := by
  induction l with
  | nil => simp [depthOf]
  | cons a l ih => rw [depthOf, Nat.max_le, ih, List.forall_mem_cons]

variable {β γ : Type}

/-- What a parser gives that accepts `limit` messages inside each other, for a message with `depth`
of them. -/
def within (limit depth : Nat) (read : Option α) : Option α :=
  if depth ≤ limit then read else none

/-- A message without messages in it is always accepted. -/
@[simp] theorem within_zero (limit : Nat) (read : Option α) : within limit 0 read = read :=
  if_pos (Nat.zero_le limit)

/-- What is done with the result does not matter for the limit. -/
theorem within_map (limit depth : Nat) (read : Option α) (f : α → β) :
    (within limit depth read).map f = within limit depth (read.map f) := by
  unfold within
  split <;> rfl

/-- A message inside another one makes this one deeper. -/
theorem nested_within (limit depth : Nat) (read : Option α) :
    (nested limit fun limit => within limit depth read) = within limit (depth + 1) read := by
  cases limit with
  | zero => exact (if_neg (Nat.not_succ_le_zero depth)).symm
  | succ limit => simp only [nested, within, Nat.add_le_add_iff_right]

/-- Two parts of a message, one after the other. -/
theorem within_bind (limit depth depth' : Nat) (read : Option α) (read' : α → Option β) :
    ((within limit depth read).bind fun a => within limit depth' (read' a)) =
      within limit (max depth depth') (read.bind read') := by
  by_cases hfirst : depth ≤ limit
  · by_cases hsecond : depth' ≤ limit
    · simp [within, hfirst, hsecond]
    · simp [within, hsecond]
  · simp [within, hfirst]

/-- The elements of a repeated field, one after the other. -/
theorem mapM_within (limit : Nat) (depth : α → Nat) (read : α → Option β) (l : List α) :
    (l.mapM fun a => within limit (depth a + 1) (read a)) =
      within limit (depthOf depth l) (l.mapM read) := by
  induction l with
  | nil => simp [depthOf]
  | cons a l ih =>
      rw [List.mapM_cons, List.mapM_cons, ih, depthOf]
      by_cases hfirst : depth a + 1 ≤ limit
      · by_cases hrest : depthOf depth l ≤ limit
        · simp [within, hfirst, hrest]
        · simp [within, hrest]
      · simp [within, hfirst]

/-- Merging a repeated field: each element is read and appended. -/
theorem foldlM_messages {merge : M → Field → Option M} {number : Nat}
    {toFields : α → List Field} {read : α → Option β} {append : M → β → M} {l : List α}
    (h : ∀ acc, ∀ a ∈ l,
      merge acc ⟨number, .bytes (writeFields (toFields a))⟩ = (read a).map (append acc)) (acc : M) :
    (writeMessages number toFields l).foldlM merge acc =
      (l.mapM read).map fun bs => bs.foldl append acc := by
  induction l generalizing acc with
  | nil => rfl
  | cons a l ih =>
      have hrest := ih fun acc a' ha' => h acc a' (List.mem_cons_of_mem a ha')
      rw [writeMessages, List.map_cons, List.foldlM_cons, h acc a List.mem_cons_self,
        List.mapM_cons]
      cases read a with
      | none => rfl
      | some b =>
          refine (hrest (append acc b)).trans ?_
          cases l.mapM read <;> rfl

/-- Merging a field that holds a message or nothing. -/
theorem foldlM_message {merge : M → Field → Option M} {number : Nat} {toFields : α → List Field}
    {read : α → Option β} {set : Option β → M} {o : Option α} {acc : M}
    (hsome : ∀ a, o = some a →
      merge acc ⟨number, .bytes (writeFields (toFields a))⟩ = (read a).map fun b => set (some b))
    (hnone : set none = acc) :
    (writeMessages number toFields o.toList).foldlM merge acc = (o.mapM read).map set := by
  cases o with
  | none => exact congrArg some hnone.symm
  | some a =>
      rw [Option.toList_some, writeMessages, List.map_singleton, List.foldlM_cons, hsome a rfl]
      show _ = ((read a).map some).map set
      cases read a <;> rfl

/-- A field that holds a message or nothing is at most as deep as the message. -/
theorem mapM_within_option (limit : Nat) (depth : α → Nat) (read : α → Option β) (o : Option α) :
    (o.mapM fun a => within limit (depth a + 1) (read a)) =
      within limit (depthOf depth o.toList) (o.mapM read) := by
  cases o with
  | none => rfl
  | some a =>
      show (within limit (depth a + 1) (read a)).map some =
        within limit (max (depth a + 1) 0) ((read a).map some)
      rw [within_map, Nat.max_zero]

end Tox4j.Lib.Proto3
