import DeviceBus.Proofs.Message
import Mathlib.Data.Set.Function

/-!
# Messages and bodies are the same

`Message.encode` and `Message.decode` are inverse to each other between the messages whose topics are free of
the zero character and the bodies that can be read.  Which bodies can be read is said without reference to
messages: there is a zero byte, and a text before the first one.  A message whose topic is not free of the
zero character has a body as well, and it is read as another message.

* `Readable`, `exists_decode_iff`: the bodies that can be read.
* `bijOn_encode`: every one of them is the body of exactly one message that may be sent.
* `decode_encode_of_not_sendable`: what is read from the body of any other message.
* `body_codec`: all of it together.
-/

namespace DeviceBus

namespace Message

/-- A body that can be read: it has a zero byte, and the bytes before the first one are those of a text. -/
def Readable (body : ByteArray) : Prop :=
  (0 : UInt8) ∈ bytesOf body ∧ ((bytesOf body).takeWhile (· != 0)).toByteArray.IsValidUTF8

/-- A part free of zero bytes, up to a zero byte, is all that stands before the first one. -/
theorem takeWhile_ne_zero {before : List UInt8} (h : (0 : UInt8) ∉ before) (after : List UInt8) :
    (before ++ 0 :: after).takeWhile (· != 0) = before := by
  rw [List.takeWhile_append_of_pos, List.takeWhile_cons_of_neg (by simp), List.append_nil]
  intro byte hmem
  rw [bne_iff_ne]
  rintro rfl
  exact h hmem

/-- The bytes of a readable body: those of a text free of the zero character, a zero byte, and any others. -/
theorem readable_iff (body : ByteArray) :
    Readable body ↔ ∃ message : Message, message.Sendable ∧ body = message.encode := by
  constructor
  · rintro ⟨hzero, hvalid⟩
    obtain ⟨before, after, hsplit, hfree⟩ := List.eq_append_cons_of_mem hzero
    rw [hsplit, takeWhile_ne_zero hfree] at hvalid
    have htopic : bytesOf (String.fromUTF8 before.toByteArray hvalid).toByteArray = before := by
      simp [bytesOf, String.fromUTF8]
    refine ⟨⟨String.fromUTF8 before.toByteArray hvalid, after.toByteArray⟩, ?_, bytesOf_injective ?_⟩
    · rw [Sendable, ← zero_mem_bytesOf_text_iff, htopic]
      exact hfree
    · rw [bytesOf_encode, htopic, hsplit]
      simp [bytesOf]
  · rintro ⟨message, hsendable, rfl⟩
    have hfree := (zero_mem_bytesOf_text_iff message.topic).not.2 hsendable
    rw [Readable, bytesOf_encode, takeWhile_ne_zero hfree]
    refine ⟨by simp, ?_⟩
    have htopic : (bytesOf message.topic.toByteArray).toByteArray = message.topic.toByteArray :=
      bytesOf_injective (by simp [bytesOf])
    rw [htopic]
    exact message.topic.isValidUTF8

/-- Reading succeeds exactly on the readable bodies. -/
theorem exists_decode_iff (body : ByteArray) :
    (∃ message, decode body = .ok message) ↔ Readable body := by
  rw [readable_iff]
  exact exists_congr (decode_eq_ok_iff body)

/-- Messages that may be sent and readable bodies correspond to each other. -/
theorem bijOn_encode : Set.BijOn encode {message | message.Sendable} {body | Readable body} := by
  refine ⟨?_, ?_, ?_⟩
  · intro message hsendable
    exact (readable_iff _).2 ⟨message, hsendable, rfl⟩
  · intro first hfirst second hsecond heq
    have hread := decode_encode hfirst
    rw [heq, decode_encode hsecond] at hread
    exact (Except.ok.inj hread).symm
  · intro body hreadable
    obtain ⟨message, hsendable, rfl⟩ := (readable_iff body).1 hreadable
    exact ⟨message, hsendable, rfl⟩

/-- A topic that is not free of the zero character is cut at the first one, and what comes after it goes to
the payload. -/
theorem decode_encode_of_not_sendable {message : Message} (h : ¬message.Sendable) :
    ∃ first rest : String, '\x00' ∉ first.toList ∧ message.topic = first ++ "\x00" ++ rest ∧
      decode message.encode = .ok ⟨first, rest.toByteArray.push 0 ++ message.payload⟩ := by
  obtain ⟨first, rest, hsplit, hfree⟩ := List.eq_append_cons_of_mem (not_not.1 h)
  have htopic : message.topic = String.ofList first ++ "\x00" ++ String.ofList rest := by
    apply String.toList_inj.1
    simp [hsplit]
  refine ⟨String.ofList first, String.ofList rest, by rwa [String.toList_ofList], htopic, ?_⟩
  rw [decode_eq_ok_iff]
  refine ⟨by rwa [Sendable, String.toList_ofList], bytesOf_injective ?_⟩
  have hbyte : String.utf8EncodeChar '\x00' = [0] := rfl
  rw [bytesOf_encode, bytesOf_encode, htopic]
  simp [bytesOf_text, hbyte]

example : decode (encode ⟨"kvs\x00set", ⟨#[7]⟩⟩) = .ok ⟨"kvs", ⟨#[115, 101, 116, 0, 7]⟩⟩ := by
  rw [decode_eq_ok_iff]
  exact ⟨by simp [Sendable], rfl⟩

/-- **Bodies and messages.**  Every message that may be sent is read back from its body, whatever its payload.
A body is read exactly if it is readable, and then it is the body of the message that is read, which may be
sent; so the two correspond to each other.  From the body of any other message its topic is read up to the
first zero character, with the rest of the topic, a zero byte and the payload as the payload. -/
theorem body_codec :
    (∀ message : Message, message.Sendable → decode message.encode = .ok message) ∧
    (∀ body, (∃ message, decode body = .ok message) ↔ Readable body) ∧
    (∀ body message, decode body = .ok message → message.Sendable ∧ message.encode = body) ∧
    Set.BijOn encode {message | message.Sendable} {body | Readable body} ∧
    (∀ message : Message, ¬message.Sendable →
      ∃ first rest : String, '\x00' ∉ first.toList ∧ message.topic = first ++ "\x00" ++ rest ∧
        decode message.encode = .ok ⟨first, rest.toByteArray.push 0 ++ message.payload⟩) := by
  refine ⟨fun _ => decode_encode, exists_decode_iff, fun body message hread => ?_, bijOn_encode,
    fun _ => decode_encode_of_not_sendable⟩
  obtain ⟨hsendable, hbody⟩ := (decode_eq_ok_iff body message).1 hread
  exact ⟨hsendable, hbody.symm⟩

end Message

end DeviceBus
