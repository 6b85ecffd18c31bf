import DeviceBus.Message
import DeviceBus.Proofs.Bytes

/-!
# The bodies of messages

A body is read by cutting it at its first zero byte, and a topic becomes bytes by its characters.  The two
fit together because a zero byte stands for the zero character and for no other one.

* `zero_mem_bytesOf_text_iff`: a text has a zero byte exactly if it has the zero character.
* `Message.decode_eq_ok_iff`: a body is read as a message exactly if it is the body of that message and
  the topic of the message is free of the zero character.
* `Message.bytes_prefix_encode_iff`, `Message.prefix_encode_iff`: what is free of it begins such a body exactly if
  it begins the topic.
-/

namespace DeviceBus

/-! ## Zero bytes in a text -/

/-- The bytes of a text are those of its characters, one after the other. -/
theorem bytesOf_text (text : String) :
    bytesOf text.toByteArray = text.toList.flatMap String.utf8EncodeChar := by
  rw [← String.utf8Encode_toList]
  simp [bytesOf, List.utf8Encode]

/-- The zero byte belongs to the zero character alone: the bytes of every longer character carry a mark
in their highest bits. -/
theorem zero_mem_utf8EncodeChar_iff (c : Char) :
    (0 : UInt8) ∈ String.utf8EncodeChar c ↔ c = '\x00' := by
  constructor
  · intro hzero
    rcases c.utf8Size_eq with hsize | hsize | hsize | hsize
    · rw [String.utf8EncodeChar_eq_singleton hsize, List.mem_singleton] at hzero
      have hsmall : c.val.toNat ≤ 127 := UInt32.le_iff_toNat_le.1 (Char.utf8Size_eq_one_iff.1 hsize)
      have hbyte : 0 = c.val.toNat % 256 := congrArg UInt8.toNat hzero
      have hval : c.val.toNat = 0 := by omega
      exact Char.ext (UInt32.toNat_inj.1 hval)
    · rw [String.utf8EncodeChar_eq_cons_cons hsize] at hzero
      simp [@eq_comm UInt8 0] at hzero
    · rw [String.utf8EncodeChar_eq_cons_cons_cons hsize] at hzero
      simp [@eq_comm UInt8 0] at hzero
    · rw [String.utf8EncodeChar_eq_cons_cons_cons_cons hsize] at hzero
      simp [@eq_comm UInt8 0] at hzero
  · rintro rfl
    decide

/-- A text has a zero byte exactly if it has the zero character. -/
theorem zero_mem_bytesOf_text_iff (text : String) :
    (0 : UInt8) ∈ bytesOf text.toByteArray ↔ '\x00' ∈ text.toList := by
  rw [bytesOf_text, List.mem_flatMap]
  simp [zero_mem_utf8EncodeChar_iff]

/-- One text begins another byte by byte exactly if it does so character by character. -/
theorem bytesOf_text_prefix_iff (first second : String) :
    bytesOf first.toByteArray <+: bytesOf second.toByteArray ↔ first.toList <+: second.toList := by
  constructor
  · rintro ⟨rest, hrest⟩
    apply List.isPrefix_of_utf8Encode_append_eq_utf8Encode rest.toByteArray
    rw [String.utf8Encode_toList, String.utf8Encode_toList]
    apply bytesOf_injective
    rw [bytesOf_append, ← hrest]
    simp [bytesOf]
  · rintro ⟨rest, hrest⟩
    rw [bytesOf_text, bytesOf_text, ← hrest, List.flatMap_append]
    exact List.prefix_append _ _

namespace Message

/-- A topic that ends where the terminator says: it is free of the zero character. -/
def Sendable (message : Message) : Prop := '\x00' ∉ message.topic.toList

theorem bytesOf_encode (message : Message) :
    bytesOf message.encode = bytesOf message.topic.toByteArray ++ 0 :: bytesOf message.payload := by
  simp [encode, terminator]

/-- The terminator is looked for in the list of the bytes. -/
theorem terminatorIndex?_eq (body : ByteArray) :
    terminatorIndex? body = (bytesOf body).findIdx? (· == terminator) := by
  suffices h : ∀ index, ByteArray.findIdx?.loop body (· == terminator) index =
      (((bytesOf body).drop index).findIdx? (· == terminator)).map (index + ·) by
    have hstart := h 0
    simpa [terminatorIndex?, ByteArray.findIdx?] using hstart
  intro index
  induction hleft : body.size - index generalizing index with
  | zero =>
      have hend : body.size ≤ index := by omega
      rw [ByteArray.findIdx?.loop, dif_neg (by omega)]
      simp [List.drop_eq_nil_iff.2, hend]
  | succ left ih =>
      have hinside : index < body.size := by omega
      rw [ByteArray.findIdx?.loop, dif_pos hinside, drop_bytesOf body hinside,
        List.findIdx?_cons, ih (index + 1) (by omega)]
      split
      · rfl
      · simp [Option.map_map, Function.comp_def, Nat.add_comm, Nat.add_left_comm]

/-- The terminator stands behind the longest part without a zero byte. -/
theorem terminatorIndex?_eq_some_iff (body : ByteArray) (index : Nat) :
    terminatorIndex? body = some index ↔
      ∃ before after, bytesOf body = before ++ 0 :: after ∧ (0 : UInt8) ∉ before ∧
        before.length = index := by
  rw [terminatorIndex?_eq]
  constructor
  · intro hfound
    obtain ⟨hinside, hzero, hbefore⟩ := List.findIdx?_eq_some_iff_getElem.1 hfound
    rw [length_bytesOf] at hinside
    have hbyte : body[index] = 0 := by
      rw [getElem_bytesOf body hinside] at hzero
      simpa [terminator] using hzero
    refine ⟨(bytesOf body).take index, (bytesOf body).drop (index + 1), ?_, ?_, ?_⟩
    · rw [← hbyte, ← drop_bytesOf body hinside, List.take_append_drop]
    · intro hmem
      obtain ⟨position, hposition, hat⟩ := List.mem_iff_getElem.1 hmem
      rw [List.getElem_take] at hat
      rw [List.length_take] at hposition
      exact hbefore position (by omega) (by simp [hat, terminator])
    · rw [List.length_take, length_bytesOf]
      omega
  · rintro ⟨before, after, hsplit, hfree, rfl⟩
    -- the search passes all of the part without a zero byte
    have hnone : before.findIdx? (· == terminator) = none := by
      rw [List.findIdx?_eq_none_iff]
      intro byte hmem
      rw [beq_eq_false_iff_ne]
      rintro rfl
      exact hfree hmem
    rw [hsplit, List.findIdx?_append, hnone]
    simp [List.findIdx?_cons, terminator]

/-- **Reading a body.**  A body is read as a message exactly if it is the body of that message and its topic
is free of the zero character. -/
theorem decode_eq_ok_iff (body : ByteArray) (message : Message) :
    decode body = .ok message ↔ message.Sendable ∧ body = message.encode := by
  constructor
  · intro hdecode
    unfold decode at hdecode
    split at hdecode
    · cases hdecode
    · rename_i index hindex
      obtain ⟨before, after, hsplit, hfree, rfl⟩ := (terminatorIndex?_eq_some_iff body index).1 hindex
      split at hdecode
      · cases hdecode
      · rename_i topic htopic
        injection hdecode with hmessage
        subst hmessage
        have hbytes : bytesOf topic.toByteArray = before := by
          rw [← (Text.decode_eq_ok_iff _ _).1 htopic, bytesOf_extract_zero, hsplit]
          simp
        refine ⟨?_, bytesOf_injective ?_⟩
        · rw [Sendable, ← zero_mem_bytesOf_text_iff, hbytes]
          exact hfree
        · rw [bytesOf_encode, hbytes, bytesOf_extract_size, hsplit]
          simp
  · rintro ⟨hsendable, rfl⟩
    have hindex : terminatorIndex? message.encode = some message.topic.toByteArray.size := by
      rw [terminatorIndex?_eq_some_iff]
      refine ⟨_, _, bytesOf_encode message, ?_, length_bytesOf _⟩
      rw [zero_mem_bytesOf_text_iff]
      exact hsendable
    have htopic : message.encode.extract 0 message.topic.toByteArray.size =
        message.topic.toByteArray := by
      apply bytesOf_injective
      rw [bytesOf_extract_zero, bytesOf_encode, ← length_bytesOf, List.take_left]
    have hpayload : message.encode.extract (message.topic.toByteArray.size + 1) message.encode.size =
        message.payload := by
      apply bytesOf_injective
      rw [bytesOf_extract_size, bytesOf_encode, ← length_bytesOf, List.drop_append]
      simp
    rw [decode, hindex]
    dsimp only
    rw [htopic, (Text.decode_eq_ok_iff _ message.topic).2 rfl]
    dsimp only
    rw [hpayload]

/-- A message that may be sent is read back from its body. -/
theorem decode_encode {message : Message} (h : message.Sendable) :
    decode message.encode = .ok message :=
  (decode_eq_ok_iff _ _).2 ⟨h, rfl⟩

/-- Bytes without a zero begin a body exactly if they begin the topic: they cannot reach past the
terminator. -/
theorem bytes_prefix_encode_iff {part : List UInt8} (h : (0 : UInt8) ∉ part) (message : Message) :
    part <+: bytesOf message.encode ↔ part <+: bytesOf message.topic.toByteArray := by
  rw [bytesOf_encode]
  constructor
  · intro hbegins
    rcases List.prefix_or_prefix_of_prefix hbegins (List.prefix_append _ _) with hshort | ⟨rest, hlong⟩
    · exact hshort
    · rw [← hlong, List.prefix_append_right_inj] at hbegins
      cases rest with
      | nil =>
          rw [List.append_nil] at hlong
          exact hlong ▸ List.prefix_refl _
      | cons byte rest =>
          obtain ⟨rfl, -⟩ := List.cons_prefix_cons.1 hbegins
          exact absurd (hlong ▸ List.mem_append_right _ List.mem_cons_self) h
  · exact fun hbegins => hbegins.trans (List.prefix_append _ _)

/-- A text free of the zero character begins a body exactly if it begins the topic. -/
theorem prefix_encode_iff {message : Message} {text : String} (h : '\x00' ∉ text.toList) :
    bytesOf text.toByteArray <+: bytesOf message.encode ↔ text.toList <+: message.topic.toList := by
  rw [bytes_prefix_encode_iff ((zero_mem_bytesOf_text_iff text).not.2 h), bytesOf_text_prefix_iff]

end Message

end DeviceBus
