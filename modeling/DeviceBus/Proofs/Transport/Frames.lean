import DeviceBus.Proofs.Bytes
import DeviceBus.Transport.Frame

/-!
# The frames in a stream of bytes

A stream of bytes determines its frames, however it arrives: `Frame.complete` is the list of the bodies
whose frames are there as a whole, up to the first place where none is.  A decoder works on the bytes that
it has not cut into frames; `Decoder.pending` gives back to them the length that it may have taken off.

* `complete_append_frame`: a frame in front is the first one, and the others are those of the rest.
* `complete_begins`: more bytes bring more frames and change none of the old ones.
* `rest`, `verdict`, `due`: what is left behind the frames, and what is to be read from all of it.
* `Decoder.Answers`, `Decoder.answers_next`: what a decoder answers, and which bytes are pending then.
-/

namespace DeviceBus

namespace Frame

/-! ## Lengths in four bytes -/

/-- The length that the first four bytes of a list give. -/
def headerOf (bytes : List UInt8) : Nat :=
  let byte := fun index => ((bytes[index]?).getD 0).toNat
  ((byte 0 * 256 + byte 1) * 256 + byte 2) * 256 + byte 3

theorem lengthOf_eq (buffer : ByteArray) : lengthOf buffer = headerOf (bytesOf buffer) := by
  simp only [lengthOf, headerOf, getElem?_bytesOf]

theorem bytesOf_lengthBytes (length : Nat) :
    bytesOf (lengthBytes length) =
      [(length / 0x1000000).toUInt8, (length / 0x10000).toUInt8, (length / 0x100).toUInt8,
        length.toUInt8] := rfl

@[simp] theorem length_lengthBytes (length : Nat) :
    (bytesOf (lengthBytes length)).length = headerLength := rfl

/-- Four bytes give back the length that was put into them. -/
theorem headerOf_lengthBytes {length : Nat} (h : length < 0x100000000) (rest : List UInt8) :
    headerOf (bytesOf (lengthBytes length) ++ rest) = length := by
  simp only [headerOf, bytesOf_lengthBytes, List.cons_append, List.getElem?_cons_zero,
    List.getElem?_cons_succ, Option.getD_some]
  simp only [Nat.toUInt8, UInt8.toNat_ofNat']
  omega

/-- The first four bytes are those of the length that they give. -/
theorem lengthBytes_headerOf {bytes : List UInt8} (h : headerLength ≤ bytes.length) :
    bytesOf (lengthBytes (headerOf bytes)) = bytes.take headerLength := by
  obtain ⟨b₀, b₁, b₂, b₃, rest, rfl⟩ : ∃ b₀ b₁ b₂ b₃ rest, bytes = b₀ :: b₁ :: b₂ :: b₃ :: rest := by
    match bytes, h with
    | b₀ :: b₁ :: b₂ :: b₃ :: rest, _ => exact ⟨b₀, b₁, b₂, b₃, rest, rfl⟩
  have h₀ := b₀.toNat_lt
  have h₁ := b₁.toNat_lt
  have h₂ := b₂.toNat_lt
  have h₃ := b₃.toNat_lt
  simp only [headerOf, bytesOf_lengthBytes, headerLength, List.take_succ_cons, List.take_zero,
    List.getElem?_cons_zero, List.getElem?_cons_succ, Option.getD_some, List.cons.injEq, and_true,
    ← UInt8.toNat_inj, Nat.toUInt8, UInt8.toNat_ofNat']
  omega

/-! ## Frames of a list -/

/-- The bytes of the frame of a body. -/
def bytes (body : ByteArray) : List UInt8 := bytesOf (lengthBytes body.size) ++ bytesOf body

theorem bytes_ne_nil (body : ByteArray) : bytes body ≠ [] := by
  rw [← List.length_pos_iff, bytes, List.length_append, length_lengthBytes]
  exact Nat.lt_add_right _ (by decide)

theorem encode_eq_ok_iff (body frame : ByteArray) :
    encode body = .ok frame ↔ body.size ≤ maxLength ∧ bytesOf frame = bytes body := by
  unfold encode
  split
  · refine iff_of_false nofun ?_
    rintro ⟨hle, -⟩
    omega
  · rename_i hle
    rw [Except.ok.injEq, ← bytesOf_inj, bytesOf_append]
    exact ⟨fun heq => ⟨by omega, heq.symm⟩, fun heq => heq.2.symm⟩

/-- A body that is not too long has a frame. -/
theorem exists_encode {body : ByteArray} (h : body.size ≤ maxLength) :
    ∃ frame, encode body = .ok frame ∧ bytesOf frame = bytes body := by
  have hframe : encode body = .ok (lengthBytes body.size ++ body) := if_neg (Nat.not_lt_of_le h)
  exact ⟨_, hframe, ((encode_eq_ok_iff body _).1 hframe).2⟩

/-- A frame is never empty. -/
theorem size_pos_of_encode {body frame : ByteArray} (h : encode body = .ok frame) : 0 < frame.size := by
  rw [← length_bytesOf, ((encode_eq_ok_iff body frame).1 h).2, List.length_pos_iff]
  exact bytes_ne_nil body

/-- The bodies whose frames a list of bytes begins with, one after the other, up to the first place where
the bytes are too few for a frame or give too large a length. -/
def complete (bytes : List UInt8) : List ByteArray :=
  if bytes.length < headerLength ∨ maxLength < headerOf bytes ∨
      bytes.length < headerLength + headerOf bytes then []
  else
    ⟨((bytes.drop headerLength).take (headerOf bytes)).toArray⟩ ::
      complete (bytes.drop (headerLength + headerOf bytes))
  termination_by bytes.length
  decreasing_by
    simp only [headerLength, List.length_drop] at *
    omega

/-- Too few bytes for a length hold no frame. -/
theorem complete_of_short {list : List UInt8} (h : list.length < headerLength) : complete list = [] := by
  rw [complete, if_pos (.inl h)]

@[simp] theorem complete_nil : complete [] = [] := complete_of_short (by decide)

/-- A length that is too large ends the frames. -/
theorem complete_of_large {list : List UInt8} (h : maxLength < headerOf list) : complete list = [] := by
  rw [complete, if_pos (.inr (.inl h))]

/-- The bytes begin with a length that is too large. -/
def Malformed (list : List UInt8) : Prop := headerLength ≤ list.length ∧ maxLength < headerOf list

theorem Malformed.complete_eq_nil {list : List UInt8} (h : Malformed list) : complete list = [] :=
  complete_of_large h.2

/-- Only the first four bytes decide. -/
theorem headerOf_append {list : List UInt8} (h : headerLength ≤ list.length) (more : List UInt8) :
    headerOf (list ++ more) = headerOf list := by
  have hlong : 4 ≤ list.length := h
  simp only [headerOf]
  rw [List.getElem?_append_left (by omega), List.getElem?_append_left (by omega),
    List.getElem?_append_left (by omega), List.getElem?_append_left (by omega)]

theorem Malformed.append {list : List UInt8} (h : Malformed list) (more : List UInt8) :
    Malformed (list ++ more) := by
  refine ⟨?_, by rw [headerOf_append h.1]; exact h.2⟩
  rw [List.length_append]
  exact Nat.le_trans h.1 (Nat.le_add_right _ _)

theorem lt_of_le_maxLength {length : Nat} (h : length ≤ maxLength) : length < 0x100000000 := by
  have hmax : maxLength < 0x100000000 := by decide
  omega

/-- A length with too few bytes behind it is no frame. -/
theorem complete_of_partial {length : Nat} {rest : List UInt8} (hlength : length ≤ maxLength)
    (hrest : rest.length < length) : complete (bytesOf (lengthBytes length) ++ rest) = [] := by
  have hheader := headerOf_lengthBytes (lt_of_le_maxLength hlength) rest
  rw [complete, if_pos]
  rw [hheader, List.length_append, length_lengthBytes]
  omega

/-- A frame in front is the first one, and the others are those of the rest. -/
theorem complete_append_frame {body : ByteArray} (h : body.size ≤ maxLength) (rest : List UInt8) :
    complete (bytes body ++ rest) = body :: complete rest := by
  have hheader : headerOf (bytes body ++ rest) = body.size := by
    rw [bytes, List.append_assoc]
    exact headerOf_lengthBytes (lt_of_le_maxLength h) _
  have hlength : (bytes body ++ rest).length = headerLength + body.size + rest.length := by
    rw [List.length_append, bytes, List.length_append, length_lengthBytes, length_bytesOf]
  have hbytes : (bytes body).length = headerLength + body.size := by
    rw [bytes, List.length_append, length_lengthBytes, length_bytesOf]
  rw [complete, if_neg (by rw [hheader, hlength]; omega), hheader]
  congr 1
  · apply bytesOf_injective
    rw [bytesOf_mk, List.toList_toArray, bytes, List.append_assoc, ← length_lengthBytes body.size,
      List.drop_left, ← length_bytesOf, List.take_left]
  · rw [← hbytes, List.drop_left]

/-- The frames of bodies in front are the first ones. -/
theorem complete_append_frames {bodies : List ByteArray} (h : ∀ body ∈ bodies, body.size ≤ maxLength)
    (rest : List UInt8) : complete (bodies.flatMap bytes ++ rest) = bodies ++ complete rest := by
  induction bodies with
  | nil => rfl
  | cons body bodies ih =>
      rw [List.flatMap_cons, List.append_assoc, complete_append_frame (h body List.mem_cons_self),
        ih fun other hmem => h other (List.mem_cons_of_mem _ hmem), List.cons_append]

/-- A list is the frames of its bodies and a rest that holds none. -/
theorem exists_rest (list : List UInt8) :
    ∃ rest, list = (complete list).flatMap bytes ++ rest ∧ complete rest = [] ∧
      ∀ body ∈ complete list, body.size ≤ maxLength := by
  -- induction on the length, for the frame in front is cut off
  induction hlength : list.length using Nat.strongRecOn generalizing list with
  | _ length ih =>
      by_cases hstop : list.length < headerLength ∨ maxLength < headerOf list ∨
          list.length < headerLength + headerOf list
      · have hnil : complete list = [] := by rw [complete, if_pos hstop]
        exact ⟨list, by simp [hnil], hnil, by simp [hnil]⟩
      · simp only [not_or, Nat.not_lt] at hstop
        obtain ⟨hheader, hlarge, hbody⟩ := hstop
        have hsize : (ByteArray.mk ((list.drop headerLength).take (headerOf list)).toArray).size =
            headerOf list := by
          rw [← length_bytesOf, bytesOf_mk, List.toList_toArray, List.length_take, List.length_drop]
          omega
        have hsplit : list = bytes ⟨((list.drop headerLength).take (headerOf list)).toArray⟩ ++
            list.drop (headerLength + headerOf list) := by
          rw [bytes, hsize, lengthBytes_headerOf hheader, bytesOf_mk, List.toList_toArray,
            ← List.drop_drop, List.append_assoc, List.take_append_drop, List.take_append_drop]
        obtain ⟨rest, hrest, hnone, hbodies⟩ := ih _ (by
          rw [← hlength, List.length_drop]
          have hpos : 0 < headerLength := by decide
          omega) (list.drop (headerLength + headerOf list)) rfl
        have hcomplete : complete list =
            ⟨((list.drop headerLength).take (headerOf list)).toArray⟩ ::
              complete (list.drop (headerLength + headerOf list)) := by
          conv => lhs; rw [hsplit]
          exact complete_append_frame (by omega) _
        refine ⟨rest, ?_, hnone, ?_⟩
        · rw [hcomplete, List.flatMap_cons, List.append_assoc, ← hrest]
          exact hsplit
        · intro body hmem
          rw [hcomplete] at hmem
          rcases List.mem_cons.1 hmem with rfl | hmem
          · omega
          · exact hbodies body hmem

/-- More bytes bring more frames and change none of the old ones. -/
theorem complete_begins (list more : List UInt8) : complete list <+: complete (list ++ more) := by
  obtain ⟨rest, hlist, -, hbodies⟩ := exists_rest list
  have hmore : complete (list ++ more) = complete list ++ complete (rest ++ more) := by
    conv => lhs; rw [hlist, List.append_assoc]
    exact complete_append_frames hbodies _
  rw [hmore]
  exact List.prefix_append _ _

/-- A part of a frame holds no frame. -/
theorem complete_take_bytes {body : ByteArray} {count : Nat} (h : body.size ≤ maxLength)
    (hcount : count < (bytes body).length) : complete ((bytes body).take count) = [] := by
  rw [bytes, List.length_append, length_lengthBytes, length_bytesOf] at hcount
  rw [bytes, List.take_append, length_lengthBytes]
  by_cases hheader : count < headerLength
  · apply complete_of_short
    simp only [List.length_append, List.length_take, length_lengthBytes]
    omega
  · rw [List.take_of_length_le (by rw [length_lengthBytes]; omega)]
    apply complete_of_partial h
    rw [List.length_take]
    omega

/-! ## What bytes have to tell -/

/-- What is left of a list behind its frames. -/
def rest (list : List UInt8) : List UInt8 := list.drop ((complete list).flatMap bytes).length

/-- Bytes that hold no frame are what is left behind the frames in front of them. -/
theorem rest_append_frames {bodies : List ByteArray} (h : ∀ body ∈ bodies, body.size ≤ maxLength)
    {left : List UInt8} (hleft : complete left = []) : rest (bodies.flatMap bytes ++ left) = left := by
  rw [rest, complete_append_frames h, hleft, List.append_nil, List.drop_left]

instance (list : List UInt8) : Decidable (Malformed list) :=
  inferInstanceAs (Decidable (_ ∧ _))

/-- How a stream is over that leaves some bytes which hold no frame.  A length that is too large is a fault,
and so is a part of a frame, except that a length without a body behind it goes unnoticed. -/
def verdict (left : List UInt8) : Yield :=
  if Malformed left then .failed .frameTooBig
  else if left.length = 0 ∨ left.length = headerLength then .finished
  else .failed .bytesRemaining

theorem verdict_of_malformed {left : List UInt8} (h : Malformed left) :
    verdict left = .failed .frameTooBig := if_pos h

/-- What is to be read from bytes: the body of each frame, and then how the stream is over, if that is
known. -/
def due (ended : Bool) (list : List UInt8) : List Yield :=
  (complete list).map .frame ++
    if ended ∨ Malformed (rest list) then [verdict (rest list)] else []

theorem due_append_frames {bodies : List ByteArray} (h : ∀ body ∈ bodies, body.size ≤ maxLength)
    {left : List UInt8} (hleft : complete left = []) (ended : Bool) :
    due ended (bodies.flatMap bytes ++ left) =
      bodies.map .frame ++ if ended ∨ Malformed left then [verdict left] else [] := by
  rw [due, rest_append_frames h hleft, complete_append_frames h, hleft, List.append_nil]

/-- Before the end only a length that is too large is a fault. -/
theorem malformed_of_failed {fault : SystemFault} {list : List UInt8} (h : .failed fault ∈ due false list) :
    Malformed (rest list) := by
  by_contra hfine
  rw [due, if_neg (not_or.2 ⟨Bool.false_ne_true, hfine⟩), List.append_nil] at h
  obtain ⟨body, -, hbody⟩ := List.mem_map.1 h
  cases hbody

/-- Only a stream that has ended is over without a fault. -/
theorem ended_of_finished {ended : Bool} {list : List UInt8} (h : .finished ∈ due ended list) :
    ended = true := by
  by_contra hopen
  rcases List.mem_append.1 h with hframe | hlast
  · obtain ⟨body, -, hbody⟩ := List.mem_map.1 hframe
    cases hbody
  · split at hlast
    · rename_i hknown
      rw [verdict_of_malformed (hknown.resolve_left hopen), List.mem_singleton] at hlast
      cases hlast
    · cases hlast

/-- A length that is too large settles what is due, whatever comes behind it. -/
theorem due_append_of_malformed {list : List UInt8} (h : Malformed (rest list)) (more : List UInt8)
    (ended ended' : Bool) : due ended (list ++ more) = due ended' list := by
  obtain ⟨left, hlist, hnone, hfits⟩ := exists_rest list
  have hrest := rest_append_frames hfits hnone
  rw [← hlist] at hrest
  rw [hrest] at h
  have hmore := h.append more
  have hbefore := due_append_frames hfits hnone ended'
  have hafter := due_append_frames hfits hmore.complete_eq_nil ended
  rw [← hlist, if_pos (.inr h), verdict_of_malformed h] at hbefore
  rw [← List.append_assoc, ← hlist, if_pos (.inr hmore), verdict_of_malformed hmore] at hafter
  rw [hbefore, hafter]

theorem not_malformed_of_part {body : ByteArray} (h : body.size ≤ maxLength) (count : Nat) :
    ¬ Malformed ((bytes body).take count) := by
  rintro ⟨hlong, hlarge⟩
  -- four bytes of the frame are its length
  obtain ⟨more, hmore⟩ : ∃ more, (bytes body).take count = bytesOf (lengthBytes body.size) ++ more := by
    rw [List.length_take] at hlong
    refine ⟨(bytesOf body).take (count - headerLength), ?_⟩
    rw [bytes, List.take_append, length_lengthBytes, List.take_of_length_le]
    rw [length_lengthBytes]
    omega
  rw [hmore, headerOf_lengthBytes (lt_of_le_maxLength h)] at hlarge
  omega

/-! ## Decoders -/

namespace Decoder

/-- The bytes that a decoder was given and has not cut into frames, the length in front included that it
may have taken off already. -/
def pending (decoder : Decoder) : List UInt8 :=
  match decoder.awaited with
  | none => bytesOf decoder.buffer
  | some length => bytesOf (lengthBytes length) ++ bytesOf decoder.buffer

/-- A decoder waits for no body that is too long. -/
def Sound (decoder : Decoder) : Prop := ∀ length, decoder.awaited = some length → length ≤ maxLength

theorem sound_start : Sound start := nofun

theorem pending_append (decoder : Decoder) (piece : ByteArray) :
    (decoder.append piece).pending = decoder.pending ++ bytesOf piece := by
  obtain ⟨buffer, awaited⟩ := decoder
  cases awaited with
  | none => exact bytesOf_append buffer piece
  | some length =>
      show bytesOf (lengthBytes length) ++ bytesOf (buffer ++ piece) = _
      rw [bytesOf_append, ← List.append_assoc]
      rfl

/-- What a decoder answers, in terms of the bytes that are pending: a body is the first frame of them, and
without a body there is no frame in them.  A decoder that asks for more asks again. -/
inductive Answers (decoder : Decoder) : Except SystemFault (Option ByteArray × Decoder) → Prop where
  | frame {body : ByteArray} {after : Decoder} (sound : after.Sound) (fits : body.size ≤ maxLength)
      (split : decoder.pending = bytes body ++ after.pending) : Answers decoder (.ok (some body, after))
  | none {after : Decoder} (sound : after.Sound) (same : after.pending = decoder.pending)
      (noFrame : complete decoder.pending = []) (again : after.next = .ok (none, after)) :
      Answers decoder (.ok (none, after))
  | error {fault : SystemFault} (malformed : Malformed decoder.pending) :
      Answers decoder (.error fault)

theorem answers_takeBody {decoder : Decoder} {length : Nat} (hlength : length ≤ maxLength)
    (buffer : ByteArray)
    (hpending : decoder.pending = bytesOf (lengthBytes length) ++ bytesOf buffer) (awaited : Option Nat) :
    Answers decoder (.ok (takeBody ⟨buffer, awaited⟩ length)) := by
  unfold takeBody
  split
  · rename_i hshort
    have hshort : buffer.size < length := hshort
    refine .none ?_ hpending.symm ?_ ?_
    · rintro _ ⟨rfl⟩
      exact hlength
    · rw [hpending]
      exact complete_of_partial hlength (by rw [length_bytesOf]; exact hshort)
    -- the length is off the buffer, and the decoder remembers it
    · show Except.ok (takeBody ⟨buffer, some length⟩ length) = _
      rw [takeBody, if_pos hshort]
  · rename_i hlong
    have hlong : length ≤ buffer.size := Nat.le_of_not_lt hlong
    have hsize : (buffer.extract 0 length).size = length := by
      rw [← length_bytesOf, bytesOf_extract_zero, List.length_take, length_bytesOf]
      omega
    refine .frame nofun (by rw [hsize]; exact hlength) ?_
    show decoder.pending = _ ++ bytesOf (buffer.extract length buffer.size)
    rw [hpending, bytes, hsize, bytesOf_extract_zero, bytesOf_extract_size, List.append_assoc,
      List.take_append_drop]

/-- Every answer of a sound decoder is about its pending bytes. -/
theorem answers_next {decoder : Decoder} (h : decoder.Sound) : Answers decoder decoder.next := by
  obtain ⟨buffer, awaited⟩ := decoder
  unfold next
  cases awaited with
  | some length => exact answers_takeBody (h length rfl) buffer rfl _
  | none =>
      dsimp only
      have hbytes : (bytesOf buffer).length = buffer.size := length_bytesOf buffer
      split
      · rename_i hshort
        refine .none h rfl (complete_of_short (by rw [← hbytes] at hshort; exact hshort)) ?_
        rw [next, if_pos hshort]
      · rename_i hlong
        rw [lengthOf_eq]
        split
        · rename_i hlarge
          exact .error ⟨by rw [← hbytes] at hlong; exact Nat.le_of_not_lt hlong, hlarge⟩
        · rename_i hfits
          refine answers_takeBody (Nat.le_of_not_lt hfits) _ ?_ _
          rw [bytesOf_extract_size, lengthBytes_headerOf (by rw [hbytes]; omega),
            List.take_append_drop]
          rfl

/-- A length that is too large is the only thing that a decoder finds fault with. -/
theorem next_of_malformed {decoder : Decoder} (h : decoder.Sound) (hmalformed : Malformed decoder.pending) :
    decoder.next = .error .frameTooBig := by
  obtain ⟨buffer, awaited⟩ := decoder
  obtain ⟨hlong, hlarge⟩ := hmalformed
  cases awaited with
  | some length =>
      -- a length that was taken off is not too large
      have hlength := h length rfl
      rw [pending, headerOf_lengthBytes (lt_of_le_maxLength hlength)] at hlarge
      omega
  | none =>
      rw [pending] at hlong hlarge
      rw [length_bytesOf] at hlong
      rw [next]
      dsimp only
      rw [if_neg (Nat.not_lt.2 hlong), lengthOf_eq, if_pos hlarge]

theorem fault_of_next {decoder : Decoder} {fault : SystemFault} (h : decoder.Sound)
    (hnext : decoder.next = .error fault) : fault = .frameTooBig := by
  have hanswers := answers_next h
  rw [hnext] at hanswers
  cases hanswers with
  | error malformed =>
      rw [next_of_malformed h malformed] at hnext
      exact (Except.error.inj hnext).symm

/-- A decoder that asks for more has an empty buffer exactly if nothing or no more than a length is
pending. -/
theorem size_buffer_eq_zero_iff {decoder : Decoder} (hagain : decoder.next = .ok (none, decoder)) :
    decoder.buffer.size = 0 ↔
      decoder.pending.length = 0 ∨ decoder.pending.length = headerLength := by
  obtain ⟨buffer, awaited⟩ := decoder
  have hfour : headerLength = 4 := rfl
  cases awaited with
  | some length =>
      rw [pending, List.length_append, length_lengthBytes, length_bytesOf]
      dsimp only
      omega
  | none =>
      -- with a whole length in its buffer it would have taken that off
      have hshort : buffer.size < headerLength := by
        by_contra hlong
        rw [next] at hagain
        dsimp only at hagain
        rw [if_neg hlong] at hagain
        split at hagain
        · cases hagain
        · rw [Except.ok.injEq] at hagain
          unfold takeBody at hagain
          split at hagain
          · exact absurd (Decoder.mk.inj (Prod.mk.inj hagain).2).2 (Option.some_ne_none _)
          · exact absurd (Prod.mk.inj hagain).1 (Option.some_ne_none _)
      rw [pending, length_bytesOf]
      dsimp only
      omega

/-- The verdict on what is left with a decoder that asks for more. -/
theorem verdict_of_next {decoder after : Decoder} (h : decoder.Sound)
    (hnext : decoder.next = .ok (none, after)) :
    verdict decoder.pending = if after.buffer.size = 0 then .finished else .failed .bytesRemaining := by
  have hfine : ¬ Malformed decoder.pending := by
    intro hmalformed
    rw [next_of_malformed h hmalformed] at hnext
    cases hnext
  have hanswers := answers_next h
  rw [hnext] at hanswers
  cases hanswers with
  | none sound same noFrame again =>
      rw [verdict, if_neg hfine, ← same]
      exact if_congr (size_buffer_eq_zero_iff again).symm rfl rfl

end Decoder

end Frame

end DeviceBus
