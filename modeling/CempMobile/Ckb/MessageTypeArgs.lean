import CempMobile.Core.Codec
import CempMobile.Lib.Results

open cemp.core

namespace cemp.ckb

/-! The args of the type script of a message cell: 81 bytes, a version, the recipient's route tag,
    the conversation tag, the nonce of the message, and a reserved suffix of zeros. -/

namespace MESSAGE_TYPE_ARGS

def version : UInt8 := 0x01
def routeTagBytes : Nat := 32
def conversationTagBytes : Nat := 16
def messageNonceBytes : Nat := 16
def totalBytes : Nat := 81

end MESSAGE_TYPE_ARGS

/-- `out.set(source, offset)`. -/
def setBytes (out source : Bytes) (offset : Nat) : Except Error Bytes :=
  if out.length < offset + source.length then .error (.other "offset is out of bounds")
  else .ok (out.take offset ++ source ++ out.drop (offset + source.length))

/-- The check of the builder on the length of one of its parts. -/
def checkPart (name : String) (part : Bytes) (expected : Nat) : Except Error Unit :=
  if part.length ≠ expected then
    .error (.ckb "buildMessageTypeArgs" (name ++ " is " ++ toString part.length ++
      " bytes, expected " ++ toString expected))
  else .ok ()

def buildMessageTypeArgs (routeTag conversationTag messageNonce : Bytes) : Except Error Bytes := do
  checkPart "route_tag" routeTag MESSAGE_TYPE_ARGS.routeTagBytes
  checkPart "conversation_tag" conversationTag MESSAGE_TYPE_ARGS.conversationTagBytes
  checkPart "message_nonce" messageNonce MESSAGE_TYPE_ARGS.messageNonceBytes
  -- A new array is zeroed, which covers the reserved bytes.
  let out := (List.replicate MESSAGE_TYPE_ARGS.totalBytes 0).set 0 MESSAGE_TYPE_ARGS.version
  let out ← setBytes out routeTag 1
  let out ← setBytes out conversationTag (1 + MESSAGE_TYPE_ARGS.routeTagBytes)
  setBytes out messageNonce
    (1 + MESSAGE_TYPE_ARGS.routeTagBytes + MESSAGE_TYPE_ARGS.conversationTagBytes)

/-- The parts of the type args of a message cell. -/
structure MessageTypeArgs where
  routeTag : Bytes
  conversationTag : Bytes
  messageNonce : Bytes
  deriving DecidableEq, Repr

def TYPE_ARGS_BYTES : Nat := 81

/-- `args.slice(start, stop)`, also for `subarray`. -/
def subarray (args : Bytes) (start stop : Nat) : Bytes := (args.take stop).drop start

def parseMessageTypeArgs (args : Bytes) : Except Error MessageTypeArgs :=
  if args.length ≠ TYPE_ARGS_BYTES then
    .error (.ckb "parseMessageTypeArgs"
      ("type args are " ++ toString args.length ++ " bytes, expected 81"))
  else if args[0]? ≠ some 1 then
    .error (.ckb "parseMessageTypeArgs"
      ("unsupported version byte " ++ toString ((args[0]?).getD 0)))
  else if (subarray args 65 81).any (· ≠ 0) then
    .error (.ckb "parseMessageTypeArgs" "reserved bytes are nonzero (not a v1 message cell)")
  else .ok ⟨subarray args 1 33, subarray args 33 49, subarray args 49 65⟩

/-- Parts of the lengths the layout gives them. -/
structure MessageTypeArgs.Sized (parts : MessageTypeArgs) : Prop where
  routeTag : parts.routeTag.length = MESSAGE_TYPE_ARGS.routeTagBytes
  conversationTag : parts.conversationTag.length = MESSAGE_TYPE_ARGS.conversationTagBytes
  messageNonce : parts.messageNonce.length = MESSAGE_TYPE_ARGS.messageNonceBytes

/-- The layout: the parts behind the version, and the reserved zeros. -/
def MessageTypeArgs.layout (parts : MessageTypeArgs) : Bytes :=
  MESSAGE_TYPE_ARGS.version ::
    (parts.routeTag ++ parts.conversationTag ++ parts.messageNonce ++ List.replicate 16 0)

variable {parts : MessageTypeArgs} {args : Bytes}

theorem MessageTypeArgs.Sized.length_layout (h : parts.Sized) :
    parts.layout.length = MESSAGE_TYPE_ARGS.totalBytes := by
  obtain ⟨hroute, hconversation, hnonce⟩ := h
  simp only [MessageTypeArgs.layout, List.length_cons, List.length_append, List.length_replicate,
    hroute, hconversation, hnonce]
  rfl

theorem checkPart_eq_ok_iff {name : String} {part : Bytes} {expected : Nat} {done : Unit} :
    checkPart name part expected = .ok done ↔ part.length = expected := by
  unfold checkPart
  rw [Except.guard_eq_ok_iff]
  simp

/-- Bytes set at the first of the zeros behind others. -/
theorem setBytes_zeros {source : Bytes} {count offset : Nat} (front : Bytes)
    (hoffset : front.length = offset) (hroom : source.length ≤ count) :
    setBytes (front ++ List.replicate count 0) source offset =
      .ok (front ++ source ++ List.replicate (count - source.length) 0) := by
  subst hoffset
  unfold setBytes
  rw [if_neg (by rw [List.length_append, List.length_replicate]; omega), List.take_left,
    List.drop_append, List.drop_of_length_le (by omega), List.drop_replicate, List.nil_append]
  congr 4
  omega

/-- The builder writes the layout of parts that have their lengths, and refuses others. -/
theorem buildMessageTypeArgs_eq_ok_iff :
    buildMessageTypeArgs parts.routeTag parts.conversationTag parts.messageNonce = .ok args ↔
      parts.Sized ∧ args = parts.layout := by
  obtain ⟨routeTag, conversationTag, messageNonce⟩ := parts
  have built (hroute : routeTag.length = 32) (hconversation : conversationTag.length = 16)
      (hnonce : messageNonce.length = 16) :
      (do
        let out ← setBytes ([MESSAGE_TYPE_ARGS.version] ++ List.replicate 80 0) routeTag 1
        let out ← setBytes out conversationTag 33
        setBytes out messageNonce 49) =
      .ok (MessageTypeArgs.layout ⟨routeTag, conversationTag, messageNonce⟩) := by
    have hset : setBytes ([MESSAGE_TYPE_ARGS.version] ++ List.replicate 80 0) routeTag 1 = _ :=
      setBytes_zeros _ rfl (by omega)
    have hset' : setBytes ([MESSAGE_TYPE_ARGS.version] ++ routeTag ++
        List.replicate (80 - routeTag.length) 0) conversationTag 33 = _ :=
      setBytes_zeros _ (by simp [hroute]) (by omega)
    refine Except.bind_eq_ok_iff.2 ⟨_, hset, Except.bind_eq_ok_iff.2 ⟨_, hset', ?_⟩⟩
    rw [setBytes_zeros _ (by simp [hroute, hconversation]) (by omega), hroute, hconversation, hnonce]
    simp [MessageTypeArgs.layout]
  constructor
  · intro h
    obtain ⟨_, hroute, h⟩ := Except.bind_eq_ok_iff.1 h
    obtain ⟨_, hconversation, h⟩ := Except.bind_eq_ok_iff.1 h
    obtain ⟨_, hnonce, h⟩ := Except.bind_eq_ok_iff.1 h
    have hroute := checkPart_eq_ok_iff.1 hroute
    have hconversation := checkPart_eq_ok_iff.1 hconversation
    have hnonce := checkPart_eq_ok_iff.1 hnonce
    exact ⟨⟨hroute, hconversation, hnonce⟩,
      Except.ok.inj (h.symm.trans (built hroute hconversation hnonce))⟩
  · rintro ⟨⟨hroute, hconversation, hnonce⟩, rfl⟩
    refine Except.bind_eq_ok_iff.2 ⟨(), checkPart_eq_ok_iff.2 hroute, ?_⟩
    refine Except.bind_eq_ok_iff.2 ⟨(), checkPart_eq_ok_iff.2 hconversation, ?_⟩
    refine Except.bind_eq_ok_iff.2 ⟨(), checkPart_eq_ok_iff.2 hnonce, ?_⟩
    exact built hroute hconversation hnonce

/-- Bytes of the version and the length of the layout, cut into its parts. -/
theorem parts_of_length (hlength : args.length = TYPE_ARGS_BYTES)
    (hversion : args[0]? = some MESSAGE_TYPE_ARGS.version) :
    args = MESSAGE_TYPE_ARGS.version :: (subarray args 1 33 ++ subarray args 33 49 ++
      subarray args 49 65 ++ subarray args 65 81) := by
  have cut (start stop : Nat) (hle : start ≤ stop) :
      args.drop start = subarray args start stop ++ args.drop stop := by
    have hsplit := List.take_append_drop (stop - start) (args.drop start)
    rw [List.drop_drop, Nat.add_sub_cancel' hle] at hsplit
    rw [subarray, List.drop_take, hsplit]
  have hnil : args.drop 81 = [] := List.drop_of_length_le (by rw [hlength]; decide)
  have hfirst : args = MESSAGE_TYPE_ARGS.version :: args.drop 1 := by
    cases args with
    | nil => cases hversion
    | cons first rest =>
      rw [List.getElem?_cons_zero, Option.some.injEq] at hversion
      rw [hversion]
      rfl
  rw [cut 1 33 (by omega), cut 33 49 (by omega), cut 49 65 (by omega), cut 65 81 (by omega),
    hnil] at hfirst
  simpa using hfirst

theorem length_subarray {start stop : Nat} (h : stop ≤ args.length) :
    (subarray args start stop).length = stop - start := by
  rw [subarray, List.length_drop, List.length_take, Nat.min_eq_left h]

theorem subarray_append {piece : Bytes} {start stop : Nat} (front back : Bytes)
    (hstart : front.length = start) (hstop : start + piece.length = stop) :
    subarray (front ++ piece ++ back) start stop = piece := by
  subst hstart hstop
  rw [subarray, ← List.length_append, List.take_left, List.drop_left]

/-- The pieces of a layout are its parts and the reserved zeros. -/
theorem MessageTypeArgs.Sized.pieces (h : parts.Sized) :
    subarray parts.layout 1 33 = parts.routeTag ∧
      subarray parts.layout 33 49 = parts.conversationTag ∧
      subarray parts.layout 49 65 = parts.messageNonce ∧
      subarray parts.layout 65 81 = List.replicate 16 0 := by
  obtain ⟨routeTag, conversationTag, messageNonce⟩ := parts
  obtain ⟨hroute, hconversation, hnonce⟩ := h
  change routeTag.length = 32 at hroute
  change conversationTag.length = 16 at hconversation
  change messageNonce.length = 16 at hnonce
  have hroute' := @subarray_append routeTag 1 33 [MESSAGE_TYPE_ARGS.version]
    (conversationTag ++ messageNonce ++ List.replicate 16 0) rfl (by omega)
  have hconversation' := @subarray_append conversationTag 33 49
    (MESSAGE_TYPE_ARGS.version :: routeTag) (messageNonce ++ List.replicate 16 0)
    (by simp [hroute]) (by omega)
  have hnonce' := @subarray_append messageNonce 49 65
    (MESSAGE_TYPE_ARGS.version :: (routeTag ++ conversationTag)) (List.replicate 16 0)
    (by simp [hroute, hconversation]) (by omega)
  have hreserved' := @subarray_append (List.replicate 16 0) 65 81
    (MESSAGE_TYPE_ARGS.version :: (routeTag ++ conversationTag ++ messageNonce)) []
    (by simp [hroute, hconversation, hnonce]) rfl
  simp only [List.cons_append, List.nil_append, List.append_nil, List.append_assoc] at *
  simp only [MessageTypeArgs.layout, List.append_assoc]
  exact ⟨hroute', hconversation', hnonce', hreserved'⟩

/-- What the parser checks, and what it returns. -/
theorem parseMessageTypeArgs_checks :
    parseMessageTypeArgs args = .ok parts ↔
      args.length = TYPE_ARGS_BYTES ∧ args[0]? = some 1 ∧
        (∀ byte ∈ subarray args 65 81, byte = 0) ∧
        parts = ⟨subarray args 1 33, subarray args 33 49, subarray args 49 65⟩ := by
  rw [parseMessageTypeArgs, Except.guard_eq_ok_iff, Except.guard_eq_ok_iff,
    Except.guard_eq_ok_iff, not_not, not_not, Except.ok.injEq, List.any_eq_true]
  simp only [decide_eq_true_eq, not_exists, not_and, not_not, @eq_comm _ _ parts]

/-- The parser accepts the layouts of parts of their lengths, and gives the parts back. -/
theorem parseMessageTypeArgs_eq_ok_iff :
    parseMessageTypeArgs args = .ok parts ↔ parts.Sized ∧ args = parts.layout := by
  rw [parseMessageTypeArgs_checks]
  constructor
  · rintro ⟨hlength, hversion, hreserved, rfl⟩
    have hle (stop : Nat) (h : stop ≤ 81) : stop ≤ args.length := hlength ▸ h
    have hzeros : subarray args 65 81 = List.replicate 16 0 :=
      List.eq_replicate_iff.2 ⟨length_subarray (hle 81 (by omega)), hreserved⟩
    refine ⟨⟨length_subarray (hle 33 (by omega)), length_subarray (hle 49 (by omega)),
      length_subarray (hle 65 (by omega))⟩, ?_⟩
    rw [MessageTypeArgs.layout, ← hzeros]
    exact parts_of_length hlength hversion
  · rintro ⟨hsized, rfl⟩
    obtain ⟨hroute, hconversation, hnonce, hreserved⟩ := hsized.pieces
    refine ⟨hsized.length_layout, rfl, fun byte hmem => ?_, ?_⟩
    · rw [hreserved] at hmem
      exact List.eq_of_mem_replicate hmem
    · rw [hroute, hconversation, hnonce]

/-- The parser accepts what the builder writes, and nothing else. -/
theorem parseMessageTypeArgs_eq_ok_iff_build :
    parseMessageTypeArgs args = .ok parts ↔
      buildMessageTypeArgs parts.routeTag parts.conversationTag parts.messageNonce = .ok args := by
  rw [parseMessageTypeArgs_eq_ok_iff, buildMessageTypeArgs_eq_ok_iff]

end cemp.ckb
