import Tox4j.Lib.Pointwise
import Tox4j.Lib.Proto3Message
import Tox4j.Log.Print

/-!
# `Tox4j.Log.Wire`: the log on its way to Kotlin

`ProtoLog.proto` as the generated code reads and writes it: the fields of each message, and
the parser that merges one field after the other. `JniLog::clear` serialises the log,
`tox4jLastLog` makes a Java array of the bytes, and `fromBytes` of `ToxJniLog.kt` parses them.

A map is a repeated field of entries on the wire. The list of members of an object is the map
in the order in which the serialiser goes through it. The parser keeps that order, and a
name that it has already keeps its place.

C++ writes the bytes of a `string` field as they are. The parser rejects a message with bytes that
are no UTF-8 in such a field, and `fromBytes` returns the empty log for it. `decodeLog` is the log
with its texts as strings. There is none when one of them is not UTF-8.

`limit` is the number of messages inside each other that the parser accepts: the recursion
limit of the protobuf runtime. An object takes three of them, for the `Struct`, the entry of
its map and the member.

`readLog_eq` is the result. What Kotlin gets depends on the size of the bytes, on the depth of the
log and on its texts, and on nothing else.
-/

set_option autoImplicit false

namespace Tox4j.Log

open Tox4j.Lib
open Tox4j.Lib.Proto3
open Tox4j.Native (Fatal toJavaArray toJavaArray_eq_ite serializedBuffer length_serializedBuffer)

/-! ### Serialising -/

/-- The fields of `Timestamp`. -/
def timestampFields (t : Timestamp) : List Field :=
  writeScalar 1 t.seconds.toUInt64 ++ writeScalar 2 (int32ToWire t.nanos)

mutual

/-- The fields of `Value`. -/
def valueFields : Value Bytes → List Field
  | ⟨truncated, v⟩ => writeScalar 1 truncated.toUInt64 ++ kindFields v

/-- The field of the oneof `v`. It is written with its default as well. -/
def kindFields : ValueKind Bytes (List (String × Value Bytes)) → List Field
  | .notSet => []
  | .vSint64 v => [⟨2, .varint (zigzag v)⟩]
  | .vString v => [⟨3, .bytes v⟩]
  | .vBytes v => [⟨4, .bytes v⟩]
  | .vObject members => [⟨5, .bytes (writeFields (structFields members))⟩]

/-- The fields of `Struct`. -/
def structFields : List (String × Value Bytes) → List Field
  | [] => []
  | member :: rest => ⟨1, .bytes (writeFields (memberFields member))⟩ :: structFields rest

/-- The fields of an entry of the map `members`. Both are always written. -/
def memberFields : String × Value Bytes → List Field
  | (name, value) => [⟨1, .bytes (utf8 name)⟩, ⟨2, .bytes (writeFields (valueFields value))⟩]

end

/-- The fields of `JniLogEntry`. -/
def entryFields (entry : JniLogEntry Bytes) : List Field :=
  writeBytes 1 (utf8 entry.name) ++ writeScalar 2 entry.instanceNumber.toUInt64 ++
    writeMessages 3 valueFields entry.arguments ++
    writeMessages 4 valueFields entry.result.toList ++
    writeMessages 5 timestampFields entry.timestamp.toList ++
    writeScalar 6 entry.elapsedNanos.toUInt64

/-- `SerializeToArray`, for `JniLog`. -/
def serializeLog (log : List (JniLogEntry Bytes)) : Bytes :=
  writeFields (writeMessages 1 entryFields log)

/-! ### Parsing -/

/-- Merge a field of `Timestamp`. -/
def mergeTimestamp (t : Timestamp) : Field → Option Timestamp
  | ⟨1, .varint n⟩ => some { t with seconds := n.toInt64 }
  | ⟨2, .varint n⟩ => some { t with nanos := int32OfWire n }
  | _ => some t

/-- `put` of the map. -/
def putMember (members : List (String × Value String)) (member : String × Value String) :
    List (String × Value String) :=
  if member.1 ∈ members.map Prod.fst then
    members.map fun m => if m.1 = member.1 then member else m
  else members ++ [member]

/-- The members of a value that may be an object. -/
def ValueKind.members {Text : Type} :
    ValueKind Text (List (String × Value Text)) → List (String × Value Text)
  | .vObject members => members
  | _ => []

mutual

/-- Merge a field of `Value`. A field of the oneof replaces the one before it, but an object is
merged with an object. -/
def mergeValue : Nat → Value String → Field → Option (Value String)
  | _, ⟨_, v⟩, ⟨1, .varint n⟩ => some ⟨n.toUInt32, v⟩
  | _, ⟨truncated, _⟩, ⟨2, .varint n⟩ => some ⟨truncated, .vSint64 (unzigzag n)⟩
  | _, ⟨truncated, _⟩, ⟨3, .bytes bs⟩ => (ofUtf8 bs).map fun v => ⟨truncated, .vString v⟩
  | _, ⟨truncated, _⟩, ⟨4, .bytes bs⟩ => some ⟨truncated, .vBytes bs⟩
  | 0, _, ⟨5, .bytes _⟩ => none
  | limit + 1, ⟨truncated, v⟩, ⟨5, .bytes bs⟩ =>
    (parseFields (mergeStruct limit) v.members bs).map fun members =>
      ⟨truncated, .vObject members⟩
  | _, value, _ => some value

/-- Merge a field of `Struct`. -/
def mergeStruct :
    Nat → List (String × Value String) → Field → Option (List (String × Value String))
  | 0, _, ⟨1, .bytes _⟩ => none
  | limit + 1, members, ⟨1, .bytes bs⟩ =>
    (parseFields (mergeMember limit) ("", .default) bs).map fun member =>
      putMember members member
  | _, members, _ => some members

/-- Merge a field of an entry of the map `members`. -/
def mergeMember : Nat → String × Value String → Field → Option (String × Value String)
  | _, (_, value), ⟨1, .bytes bs⟩ => (ofUtf8 bs).map fun name => (name, value)
  | 0, _, ⟨2, .bytes _⟩ => none
  | limit + 1, (name, value), ⟨2, .bytes bs⟩ =>
    (parseFields (mergeValue limit) value bs).map fun value => (name, value)
  | _, member, _ => some member

end

/-- Merge a field of `JniLogEntry`. -/
def mergeEntry (limit : Nat) (entry : JniLogEntry String) : Field → Option (JniLogEntry String)
  | ⟨1, .bytes bs⟩ => (ofUtf8 bs).map fun name => { entry with name := name }
  | ⟨2, .varint n⟩ => some { entry with instanceNumber := n.toUInt32 }
  | ⟨3, .bytes bs⟩ => nested limit fun limit =>
    (parseFields (mergeValue limit) .default bs).map fun value =>
      { entry with arguments := entry.arguments ++ [value] }
  | ⟨4, .bytes bs⟩ => nested limit fun limit =>
    (parseFields (mergeValue limit) (entry.result.getD .default) bs).map fun value =>
      { entry with result := some value }
  | ⟨5, .bytes bs⟩ => nested limit fun _ =>
    (parseFields mergeTimestamp (entry.timestamp.getD .default) bs).map fun t =>
      { entry with timestamp := some t }
  | ⟨6, .varint n⟩ => some { entry with elapsedNanos := n.toUInt32 }
  | _ => some entry

/-- Merge a field of `JniLog`. -/
def mergeLog (limit : Nat) (log : List (JniLogEntry String)) :
    Field → Option (List (JniLogEntry String))
  | ⟨1, .bytes bs⟩ => nested limit fun limit =>
    (parseFields (mergeEntry limit) {} bs).map fun entry => log ++ [entry]
  | _ => some log

/-- `JniLog.parseFrom`. -/
def parseLog (limit : Nat) (bytes : Bytes) : Option (List (JniLogEntry String)) :=
  parseFields (mergeLog limit) [] bytes

/-- `fromBytes`. `none` is null. -/
def fromBytes (limit : Nat) (bytes : Option Bytes) : List (JniLogEntry String) :=
  match bytes with
  | none => []
  | some bytes => (parseLog limit bytes).getD []

/-- `tox4jLastLog` and `apply`, for the entries that `clear` serialises. For an empty log
`tox4jLastLog` returns null, which is read like the array without bytes. -/
def readLog (limit : Nat) (log : List (JniLogEntry Bytes)) :
    Except Fatal (List (JniLogEntry String)) := do
  let bytes ← toJavaArray (serializedBuffer (serializeLog log))
  return fromBytes limit (some bytes)

/-! ### Texts as strings -/

mutual

/-- The value with its texts as strings. -/
def Value.decode : Value Bytes → Option (Value String)
  | ⟨truncated, v⟩ => (kindDecode v).map (Value.mk truncated)

/-- The oneof with its texts as strings. -/
def kindDecode :
    ValueKind Bytes (List (String × Value Bytes)) →
      Option (ValueKind String (List (String × Value String)))
  | .notSet => some .notSet
  | .vSint64 v => some (.vSint64 v)
  | .vString v => (ofUtf8 v).map .vString
  | .vBytes v => some (.vBytes v)
  | .vObject members => (membersDecode members).map .vObject

/-- The members of an object with their texts as strings. -/
def membersDecode : List (String × Value Bytes) → Option (List (String × Value String))
  | [] => some []
  | member :: rest => do return (← memberDecode member) :: (← membersDecode rest)

/-- A member with its texts as strings. -/
def memberDecode : String × Value Bytes → Option (String × Value String)
  | (name, value) => value.decode.map fun value => (name, value)

end

/-- The entry with its texts as strings. -/
def JniLogEntry.decode (entry : JniLogEntry Bytes) : Option (JniLogEntry String) := do
  let arguments ← entry.arguments.mapM Value.decode
  let result ← entry.result.mapM Value.decode
  return {
    name := entry.name
    instanceNumber := entry.instanceNumber
    arguments := arguments
    result := result
    timestamp := entry.timestamp
    elapsedNanos := entry.elapsedNanos }

/-- The log with its texts as strings, if all of them are valid UTF-8. -/
def decodeLog (log : List (JniLogEntry Bytes)) : Option (List (JniLogEntry String)) :=
  log.mapM JniLogEntry.decode

/-! ### Depths and names -/

section

variable {Text : Type}

mutual

/-- The messages inside each other in a value. -/
def Value.depth : Value Text → Nat
  | ⟨_, v⟩ => kindDepth v

/-- The messages inside each other in the oneof of a value. -/
def kindDepth : ValueKind Text (List (String × Value Text)) → Nat
  | .vObject members => membersDepth members + 1
  | _ => 0

/-- The messages inside each other in the members of an object. -/
def membersDepth : List (String × Value Text) → Nat
  | [] => 0
  | member :: rest => max (memberDepth member + 1) (membersDepth rest)

/-- The messages inside each other in a member. -/
def memberDepth : String × Value Text → Nat
  | (_, value) => value.depth + 1

end

mutual

/-- No object in a value has two members of one name. -/
def Value.Distinct : Value Text → Prop
  | ⟨_, v⟩ => kindDistinct v

/-- No object in the oneof of a value has two members of one name. -/
def kindDistinct : ValueKind Text (List (String × Value Text)) → Prop
  | .vObject members => (members.map Prod.fst).Nodup ∧ membersDistinct members
  | _ => True

/-- No object in the members has two members of one name. -/
def membersDistinct : List (String × Value Text) → Prop
  | [] => True
  | member :: rest => memberDistinct member ∧ membersDistinct rest

/-- No object in a member has two members of one name. -/
def memberDistinct : String × Value Text → Prop
  | (_, value) => value.Distinct

end

/-- The messages inside each other in an entry. A timestamp has none. -/
def JniLogEntry.depth (entry : JniLogEntry Text) : Nat :=
  max (max (depthOf Value.depth entry.arguments) (depthOf Value.depth entry.result.toList))
    (depthOf (fun _ => 0) entry.timestamp.toList)

/-- The messages inside each other in a log. -/
def logDepth (log : List (JniLogEntry Text)) : Nat := depthOf JniLogEntry.depth log

/-- No object in an entry has two members of one name. -/
def JniLogEntry.Distinct (entry : JniLogEntry Text) : Prop :=
  ∀ value ∈ entry.arguments ++ entry.result.toList, value.Distinct

/-- Induction over a value: the members of an object come before it. -/
theorem Value.members_induction {P : Value Text → Prop}
    (h : ∀ truncated v, (∀ member ∈ v.members, P member.2) → P ⟨truncated, v⟩) (v : Value Text) :
    P v :=
  @Value.rec Text P (fun v => ∀ member ∈ v.members, P member.2)
    (fun members => ∀ member ∈ members, P member.2) (fun member => P member.2)
    (fun truncated v hv => h truncated v hv)
    (fun _ hmem => absurd hmem List.not_mem_nil)
    (fun _ _ hmem => absurd hmem List.not_mem_nil)
    (fun _ _ hmem => absurd hmem List.not_mem_nil)
    (fun _ _ hmem => absurd hmem List.not_mem_nil)
    (fun _ hmembers => hmembers)
    (fun _ hmem => absurd hmem List.not_mem_nil)
    (fun _ _ hmember hrest => List.forall_mem_cons.mpr ⟨hmember, hrest⟩)
    (fun _ _ hvalue => hvalue) v

/-- The members of an object are as deep as a repeated field of them. -/
theorem membersDepth_eq (members : List (String × Value Text)) :
    membersDepth members = depthOf memberDepth members := by
  induction members with
  | nil => simp [membersDepth, depthOf]
  | cons member rest ih => rw [membersDepth, ih, depthOf]

/-- The condition on names, for each member of an object. -/
theorem membersDistinct_iff {members : List (String × Value Text)} :
    membersDistinct members ↔ ∀ member ∈ members, member.2.Distinct := by
  induction members with
  | nil => simp [membersDistinct]
  | cons member rest ih => rw [membersDistinct, ih, List.forall_mem_cons, memberDistinct]

end

/-! ### Values -/

/-- The members of an object are written like a repeated field. -/
theorem structFields_eq (members : List (String × Value Bytes)) :
    structFields members = writeMessages 1 memberFields members := by
  induction members with
  | nil => simp [structFields, writeMessages]
  | cons member rest ih => rw [structFields, ih, writeMessages, writeMessages, List.map_cons]

/-- The members of an object are decoded one after the other. -/
theorem membersDecode_eq (members : List (String × Value Bytes)) :
    membersDecode members = members.mapM memberDecode := by
  induction members with
  | nil => simp [membersDecode]
  | cons member rest ih => rw [membersDecode, ih, List.mapM_cons]

/-- A member keeps its name. -/
theorem fst_of_memberDecode {member : String × Value Bytes} {member' : String × Value String}
    (h : memberDecode member = some member') : member'.1 = member.1 := by
  obtain ⟨name, value⟩ := member
  rw [memberDecode] at h
  obtain ⟨value', -, rfl⟩ := Option.map_eq_some_iff.mp h
  rfl

/-- All members keep their names. -/
theorem names_of_mapM {members : List (String × Value Bytes)}
    {members' : List (String × Value String)} (h : members.mapM memberDecode = some members') :
    members'.map Prod.fst = members.map Prod.fst := by
  have hall := mapM_eq_some_iff.mp h
  clear h
  induction hall with
  | nil => rfl
  | cons hmember _ ih => rw [List.map_cons, List.map_cons, ih, fst_of_memberDecode hmember]

/-- Merging a member that has a new name. -/
theorem putMember_new {members : List (String × Value String)} {member : String × Value String}
    (h : member.1 ∉ members.map Prod.fst) : putMember members member = members ++ [member] :=
  if_neg h

/-- A map whose names are all different is put together again in its order. -/
theorem foldl_putMember {members acc : List (String × Value String)}
    (h : ((acc ++ members).map Prod.fst).Nodup) :
    members.foldl putMember acc = acc ++ members := by
  induction members generalizing acc with
  | nil => simp
  | cons member rest ih =>
      have hnew : member.1 ∉ acc.map Prod.fst := by
        intro hmem
        rw [List.map_append, List.map_cons] at h
        exact (List.nodup_append.mp h).2.2 _ hmem _ List.mem_cons_self rfl
      rw [List.foldl_cons, putMember_new hnew, ih (by simpa using h)]
      simp

/-- A number that is 0 on the wire is 0. -/
theorem eq_zero_of_toUInt64 {n : UInt32} (h : n.toUInt64 = 0) : n = 0 := by
  rw [← UInt32.toUInt32_toUInt64 n, h]
  rfl

/-- A member is a message inside a `Struct`. -/
theorem mergeStruct_member (limit : Nat) (members : List (String × Value String)) (bs : Bytes) :
    mergeStruct limit members ⟨1, .bytes bs⟩ =
      nested limit fun limit =>
        (parseFields (mergeMember limit) ("", .default) bs).map (putMember members) := by
  cases limit with
  | zero => rw [mergeStruct, nested]
  | succ limit => rw [mergeStruct, nested]

/-- The value of a member is a message inside it. -/
theorem mergeMember_value (limit : Nat) (name : String) (value : Value String) (bs : Bytes) :
    mergeMember limit (name, value) ⟨2, .bytes bs⟩ =
      nested limit fun limit =>
        (parseFields (mergeValue limit) value bs).map fun value => (name, value) := by
  cases limit with
  | zero => rw [mergeMember, nested]
  | succ limit => rw [mergeMember, nested]

/-- An object is a message inside a value. -/
theorem mergeValue_object (limit : Nat) (truncated : UInt32)
    (v : ValueKind String (List (String × Value String))) (bs : Bytes) :
    mergeValue limit ⟨truncated, v⟩ ⟨5, .bytes bs⟩ =
      nested limit fun limit =>
        (parseFields (mergeStruct limit) v.members bs).map fun members =>
          ⟨truncated, .vObject members⟩ := by
  cases limit with
  | zero => rw [mergeValue, nested]
  | succ limit => rw [mergeValue, nested]

/-- The fields of a value have numbers. -/
theorem numbered_valueFields (value : Value Bytes) : Numbered (valueFields value) := by
  obtain ⟨truncated, v⟩ := value
  rw [valueFields]
  refine (numbered_writeScalar (by decide) _).append ?_
  cases v with
  | notSet =>
      rw [kindFields]
      exact fun f hf => absurd hf List.not_mem_nil
  | _ =>
      rw [kindFields]
      exact numbered_singleton (by decide) _

/-- So have the fields of a member. -/
theorem numbered_memberFields (member : String × Value Bytes) : Numbered (memberFields member) := by
  obtain ⟨name, value⟩ := member
  rw [memberFields]
  exact (numbered_singleton (by decide) _).append (numbered_singleton (by decide) _)

section

variable {limit : Nat}

/-- What is read from a member, when this is known of its value. -/
theorem mergeMember_memberFields {member : String × Value Bytes}
    (hvalue : ∀ limit, (valueFields member.2).foldlM (mergeValue limit) .default =
      within limit member.2.depth member.2.decode) :
    (memberFields member).foldlM (mergeMember limit) ("", .default) =
      within limit (memberDepth member) (memberDecode member) := by
  obtain ⟨name, value⟩ := member
  have hvalue' (limit : Nat) : parseFields (mergeValue limit) .default
      (writeFields (valueFields value)) = within limit value.depth value.decode := by
    rw [parseFields_writeFields _ _ (numbered_valueFields value)]
    exact hvalue limit
  have hname : mergeMember limit ("", .default) ⟨1, .bytes (utf8 name)⟩ =
      some (name, .default) := by
    simp [mergeMember]
  rw [memberFields, List.foldlM_cons, hname]
  show ((mergeMember limit (name, .default) _).bind some) = _
  simp only [mergeMember_value, hvalue', within_map]
  rw [nested_within, memberDepth, memberDecode]
  exact Option.bind_fun_some _

/-- What is read from the members of an object, when this is known of their values. -/
theorem mergeStruct_structFields (limit : Nat) {members : List (String × Value Bytes)}
    (hnodup : (members.map Prod.fst).Nodup)
    (hvalue : ∀ member ∈ members, ∀ limit,
      (valueFields member.2).foldlM (mergeValue limit) .default =
        within limit member.2.depth member.2.decode) :
    (structFields members).foldlM (mergeStruct limit) [] =
      within limit (membersDepth members) (membersDecode members) := by
  have hmerge : ∀ acc, ∀ member ∈ members,
      mergeStruct limit acc ⟨1, .bytes (writeFields (memberFields member))⟩ =
        (within limit (memberDepth member + 1) (memberDecode member)).map (putMember acc) := by
    intro acc member hmem
    simp only [mergeStruct_member, parseFields_writeFields _ _ (numbered_memberFields member),
      mergeMember_memberFields (hvalue member hmem), within_map]
    rw [nested_within]
  rw [structFields_eq, foldlM_messages hmerge, mapM_within, membersDepth_eq, membersDecode_eq,
    within_map]
  congr 1
  -- The names are different, so no member takes the place of another one.
  cases hdecoded : members.mapM memberDecode with
  | none => rfl
  | some members' =>
      have hnames : ((([] : List (String × Value String)) ++ members').map Prod.fst).Nodup := by
        rw [List.nil_append, names_of_mapM hdecoded]
        exact hnodup
      rw [Option.map_some, foldl_putMember hnames, List.nil_append]

/-- What is read from a value that was written: the same value with its texts as strings, if these
are UTF-8 and the messages inside each other are not too many. -/
theorem mergeValue_valueFields (value : Value Bytes) (hdistinct : value.Distinct) (limit : Nat) :
    (valueFields value).foldlM (mergeValue limit) .default =
      within limit value.depth value.decode := by
  induction value using Value.members_induction generalizing limit with
  | h truncated v ih =>
      have htruncated : (writeScalar 1 truncated.toUInt64).foldlM (mergeValue limit) .default =
          some ⟨truncated, .notSet⟩ := by
        refine foldlM_writeScalar (by simp [mergeValue, Value.default]) ?_
        intro hzero
        rw [eq_zero_of_toUInt64 hzero]
        rfl
      rw [valueFields, List.foldlM_append, htruncated, Value.depth, Value.decode]
      show (kindFields v).foldlM (mergeValue limit) ⟨truncated, .notSet⟩ = _
      cases v with
      | notSet => simp [kindFields, kindDepth, kindDecode]
      | vSint64 v => simp [kindFields, mergeValue, kindDepth, kindDecode]
      | vString v => simp [kindFields, mergeValue, kindDepth, kindDecode, Function.comp_def]
      | vBytes v => simp [kindFields, mergeValue, kindDepth, kindDecode]
      | vObject members =>
          rw [Value.Distinct, kindDistinct, membersDistinct_iff] at hdistinct
          have hstruct (limit : Nat) := mergeStruct_structFields limit hdistinct.1
            fun member hmem limit => ih member hmem (hdistinct.2 member hmem) limit
          have hfields : Numbered (structFields members) := by
            rw [structFields_eq]
            exact numbered_writeMessages (by decide) _ _
          rw [kindFields, List.foldlM_cons, mergeValue_object, kindDepth, kindDecode,
            Option.map_map]
          simp only [ValueKind.members, parseFields_writeFields _ _ hfields, hstruct, within_map]
          rw [nested_within]
          exact Option.bind_fun_some _

/-- A value inside another message. -/
theorem nested_value {value : Value Bytes} (hdistinct : value.Distinct) {M : Type}
    (f : Value String → M) :
    (nested limit fun limit =>
      (parseFields (mergeValue limit) .default (writeFields (valueFields value))).map f) =
      (within limit (value.depth + 1) value.decode).map f := by
  simp only [parseFields_writeFields _ _ (numbered_valueFields value),
    mergeValue_valueFields value hdistinct, within_map]
  rw [nested_within]

/-! ### Entries -/

/-- A timestamp is read back. -/
theorem mergeTimestamp_timestampFields (t : Timestamp) :
    (timestampFields t).foldlM mergeTimestamp .default = some t := by
  have hseconds : (writeScalar 1 t.seconds.toUInt64).foldlM mergeTimestamp .default =
      some ⟨t.seconds, 0⟩ := by
    refine foldlM_writeScalar (by simp [mergeTimestamp, Timestamp.default]) ?_
    intro hzero
    have hseconds : t.seconds = 0 := by
      rw [← Int64.toInt64_toUInt64 t.seconds, hzero]
      rfl
    rw [hseconds]
    rfl
  have hnanos : (writeScalar 2 (int32ToWire t.nanos)).foldlM mergeTimestamp ⟨t.seconds, 0⟩ =
      some t := by
    refine foldlM_writeScalar (by simp [mergeTimestamp, int32OfWire_int32ToWire]) ?_
    intro hzero
    have hnanos : t.nanos = 0 := by
      rw [← int32OfWire_int32ToWire t.nanos, hzero]
      rfl
    rw [← hnanos]
  rw [timestampFields, List.foldlM_append, hseconds]
  exact hnanos

/-- The fields of a timestamp have numbers. -/
theorem numbered_timestampFields (t : Timestamp) : Numbered (timestampFields t) :=
  (numbered_writeScalar (by decide) _).append (numbered_writeScalar (by decide) _)

/-- The fields of an entry have numbers. -/
theorem numbered_entryFields (entry : JniLogEntry Bytes) : Numbered (entryFields entry) :=
  (((((numbered_writeBytes (by decide) _).append (numbered_writeScalar (by decide) _)).append
    (numbered_writeMessages (by decide) _ _)).append
    (numbered_writeMessages (by decide) _ _)).append
    (numbered_writeMessages (by decide) _ _)).append (numbered_writeScalar (by decide) _)

/-- Merging the arguments of an entry. -/
theorem mergeEntry_arguments (limit : Nat) {arguments : List (Value Bytes)}
    (hdistinct : ∀ value ∈ arguments, value.Distinct) (entry : JniLogEntry String) :
    (writeMessages 3 valueFields arguments).foldlM (mergeEntry limit) entry =
      (within limit (depthOf Value.depth arguments) (arguments.mapM Value.decode)).map fun values =>
        { entry with arguments := entry.arguments ++ values } := by
  have hmerge : ∀ acc : JniLogEntry String, ∀ value ∈ arguments,
      mergeEntry limit acc ⟨3, .bytes (writeFields (valueFields value))⟩ =
        (within limit (value.depth + 1) value.decode).map fun value =>
          { acc with arguments := acc.arguments ++ [value] } := by
    intro acc value hmem
    exact nested_value (hdistinct value hmem) _
  rw [foldlM_messages hmerge entry, mapM_within]
  congr 1
  funext values
  induction values generalizing entry with
  | nil => simp
  | cons value values ih =>
      rw [List.foldl_cons, ih]
      simp

/-- Merging the result of an entry. -/
theorem mergeEntry_result {result : Option (Value Bytes)}
    (hdistinct : ∀ value, result = some value → value.Distinct) {entry : JniLogEntry String}
    (hentry : entry.result = none) :
    (writeMessages 4 valueFields result.toList).foldlM (mergeEntry limit) entry =
      (within limit (depthOf Value.depth result.toList) (result.mapM Value.decode)).map fun value =>
        { entry with result := value } := by
  rw [← mapM_within_option]
  refine foldlM_message ?_ ?_
  · intro value hvalue
    rw [mergeEntry, hentry]
    exact nested_value (hdistinct value hvalue) _
  · rw [← hentry]

/-- Merging the timestamp of an entry. -/
theorem mergeEntry_timestamp (timestamp : Option Timestamp) {entry : JniLogEntry String}
    (hentry : entry.timestamp = none) :
    (writeMessages 5 timestampFields timestamp.toList).foldlM (mergeEntry limit) entry =
      (within limit (depthOf (fun _ => 0) timestamp.toList) (some timestamp)).map fun t =>
        { entry with timestamp := t } := by
  have hsome : timestamp.mapM (fun t => some t) = some timestamp := by cases timestamp <;> rfl
  rw [← hsome, ← mapM_within_option]
  refine foldlM_message ?_ ?_
  · intro t _
    simp only [mergeEntry, hentry, Option.getD_none,
      parseFields_writeFields _ _ (numbered_timestampFields t), mergeTimestamp_timestampFields]
    rw [within_map]
    exact nested_within limit 0 _
  · rw [← hentry]

/-- What is read from an entry that was written. -/
theorem mergeEntry_entryFields {entry : JniLogEntry Bytes} (hdistinct : entry.Distinct) :
    (entryFields entry).foldlM (mergeEntry limit) {} = within limit entry.depth entry.decode := by
  obtain ⟨name, number, arguments, result, timestamp, elapsed⟩ := entry
  simp only [JniLogEntry.Distinct, List.mem_append] at hdistinct
  have hname : (writeBytes 1 (utf8 name)).foldlM (mergeEntry limit) {} =
      some { name := name } := by
    refine foldlM_writeBytes (by simp [mergeEntry]) ?_
    intro hnil
    rw [utf8_eq_nil.mp hnil]
  have hnumber : (writeScalar 2 number.toUInt64).foldlM (mergeEntry limit) { name := name } =
      some { name := name, instanceNumber := number } := by
    refine foldlM_writeScalar (by simp [mergeEntry]) ?_
    intro hzero
    rw [eq_zero_of_toUInt64 hzero]
  have helapsed (acc : JniLogEntry String) (hacc : acc.elapsedNanos = 0) :
      (writeScalar 6 elapsed.toUInt64).foldlM (mergeEntry limit) acc =
        some { acc with elapsedNanos := elapsed } := by
    refine foldlM_writeScalar (by simp [mergeEntry]) ?_
    intro hzero
    rw [eq_zero_of_toUInt64 hzero, ← hacc]
  -- The fields after the arguments, for any arguments that were read.
  have hrest (values : List (Value String)) :
      ((writeMessages 4 valueFields result.toList).foldlM (mergeEntry limit)
          { name := name, instanceNumber := number, arguments := values }).bind (fun acc =>
        ((writeMessages 5 timestampFields timestamp.toList).foldlM (mergeEntry limit) acc).bind
          fun acc => (writeScalar 6 elapsed.toUInt64).foldlM (mergeEntry limit) acc) =
      within limit (max (depthOf Value.depth result.toList)
          (depthOf (fun _ => 0) timestamp.toList))
        ((result.mapM Value.decode).map fun value =>
          ⟨name, number, values, value, timestamp, elapsed⟩) := by
    have hdone (value : Option (Value String)) :
        ((writeMessages 5 timestampFields timestamp.toList).foldlM (mergeEntry limit)
          { name := name, instanceNumber := number, arguments := values, result := value }).bind
            (fun acc => (writeScalar 6 elapsed.toUInt64).foldlM (mergeEntry limit) acc) =
          within limit (depthOf (fun _ => 0) timestamp.toList)
            (some ⟨name, number, values, value, timestamp, elapsed⟩) := by
      rw [mergeEntry_timestamp timestamp rfl, Option.bind_map]
      refine (congrArg (Option.bind _) (funext fun t => helapsed _ rfl)).trans ?_
      unfold within
      split <;> rfl
    rw [mergeEntry_result (fun value hvalue => hdistinct value (.inr (by simp [hvalue]))) rfl,
      Option.bind_map]
    refine (congrArg (Option.bind _) (funext hdone)).trans ?_
    rw [within_bind]
    exact congrArg _ (Option.map_eq_bind ..).symm
  have harguments := mergeEntry_arguments limit
    (fun value hmem => hdistinct value (.inl hmem)) { name := name, instanceNumber := number }
  simp only [List.nil_append] at harguments
  have hall :
      (entryFields ⟨name, number, arguments, result, timestamp, elapsed⟩).foldlM
        (mergeEntry limit) {} =
      ((writeMessages 3 valueFields arguments).foldlM (mergeEntry limit)
        { name := name, instanceNumber := number }).bind fun acc =>
      ((writeMessages 4 valueFields result.toList).foldlM (mergeEntry limit) acc).bind fun acc =>
      ((writeMessages 5 timestampFields timestamp.toList).foldlM (mergeEntry limit) acc).bind
        fun acc => (writeScalar 6 elapsed.toUInt64).foldlM (mergeEntry limit) acc := by
    simp only [entryFields, List.foldlM_append, hname, hnumber, Option.bind_eq_bind,
      Option.bind_some, Option.bind_assoc]
  rw [hall, harguments, Option.bind_map]
  refine (congrArg (Option.bind _) (funext hrest)).trans ?_
  rw [within_bind, JniLogEntry.depth, Nat.max_assoc]
  congr 1
  exact congrArg (Option.bind _) (funext fun values => Option.map_eq_bind ..)

/-! ### The log -/

/-- What the parser reads from a log that was serialised. -/
theorem parseLog_serializeLog (limit : Nat) {log : List (JniLogEntry Bytes)}
    (hdistinct : ∀ entry ∈ log, entry.Distinct) :
    parseLog limit (serializeLog log) = within limit (logDepth log) (decodeLog log) := by
  have hmerge : ∀ acc, ∀ entry ∈ log,
      mergeLog limit acc ⟨1, .bytes (writeFields (entryFields entry))⟩ =
        (within limit (entry.depth + 1) entry.decode).map fun entry => acc ++ [entry] := by
    intro acc entry hmem
    simp only [mergeLog, parseFields_writeFields _ _ (numbered_entryFields entry),
      mergeEntry_entryFields (hdistinct entry hmem), within_map]
    rw [nested_within]
  rw [parseLog, serializeLog, parseFields_writeFields _ _ (numbered_writeMessages (by decide) _ _),
    foldlM_messages hmerge, mapM_within, logDepth, decodeLog]
  have happend : (fun entries : List (JniLogEntry String) =>
      entries.foldl (fun acc entry => acc ++ [entry]) []) = id := by
    funext entries
    rw [List.foldl_append_eq_append, List.nil_append, ← List.flatMap_def]
    exact List.flatMap_singleton' entries
  rw [happend, Option.map_id, id]

/-- What Kotlin reads from an array of zeros: it is no log, so it is read as the empty one. -/
theorem fromBytes_zeros (limit n : Nat) : fromBytes limit (some (List.replicate n 0)) = [] := by
  cases n with
  | zero => rfl
  | succ n => rw [fromBytes, parseLog, parseFields_zeros _ _ (Nat.succ_pos n)]; rfl

/-- What Kotlin gets of a log. When its size modulo `2 ^ 32` is no size of a Java array, the process
ends. When its size is above that of an array, the array has only zeros, and the log is lost. Else
it is read with its texts as strings, unless one of them is not UTF-8 or the messages inside each
other are too many: then it is lost as well. -/
theorem readLog_eq (limit : Nat) {log : List (JniLogEntry Bytes)}
    (hdistinct : ∀ entry ∈ log, entry.Distinct) :
    readLog limit log =
      if 2 ^ 31 ≤ (serializeLog log).length % 2 ^ 32 then .error .nullArray
      else if (serializeLog log).length < 2 ^ 31 ∧ logDepth log ≤ limit then
        .ok ((decodeLog log).getD [])
      else .ok [] := by
  rw [readLog, toJavaArray_eq_ite, length_serializedBuffer]
  split
  · rfl
  · rename_i hsmall
    rw [serializedBuffer]
    split
    · -- The bytes are those of the log.
      rename_i hfits
      rw [Nat.mod_eq_of_lt (by omega), List.take_length]
      show Except.ok ((parseLog limit (serializeLog log)).getD []) = _
      rw [parseLog_serializeLog limit hdistinct, within]
      by_cases hdepth : logDepth log ≤ limit
      · rw [if_pos hdepth, if_pos ⟨hfits, hdepth⟩]
      · rw [if_neg hdepth, if_neg fun h => hdepth h.2]
        rfl
    · -- The bytes are zeros.
      rename_i hlarge
      rw [List.take_replicate, if_neg fun h => hlarge h.1]
      exact congrArg Except.ok (fromBytes_zeros limit _)

end

/-! ### A log with an object -/

section Example

/-- A log with one entry, whose argument is an object with a text in it. -/
def objectLog (text : Bytes) : List (JniLogEntry Bytes) :=
  [{ name := "f",
     arguments := [⟨0, .vObject [("x", ⟨0, .vSint64 (-1)⟩), ("y", ⟨0, .vString text⟩)]⟩] }]

/-- No object of the example has two members of one name. -/
theorem distinct_objectLog (text : Bytes) : ∀ entry ∈ objectLog text, entry.Distinct := by
  simp [objectLog, JniLogEntry.Distinct, Value.Distinct, kindDistinct, membersDistinct,
    memberDistinct]

/-- An entry with an object takes five messages inside each other. With a limit of five it is read,
and with a limit of four it is lost. A text that has U+0000 in modified UTF-8 loses it as well. -/
theorem readLog_object :
    readLog 5 (objectLog [97]) = .ok [{ name := "f", arguments := [⟨0, .vObject
      [("x", ⟨0, .vSint64 (-1)⟩), ("y", ⟨0, .vString "a"⟩)]⟩] }] ∧
    readLog 4 (objectLog [97]) = .ok [] ∧ readLog 5 (objectLog [0xC0, 0x80]) = .ok [] := by
  refine ⟨?_, ?_, ?_⟩
  · rw [readLog_eq 5 (distinct_objectLog [97]), if_neg (by decide), if_pos (by decide)]
    rfl
  · rw [readLog_eq 4 (distinct_objectLog [97]), if_neg (by decide), if_neg (by decide)]
  · rw [readLog_eq 5 (distinct_objectLog [0xC0, 0x80]), if_neg (by decide), if_pos (by decide)]
    rfl

end Example

end Tox4j.Log
