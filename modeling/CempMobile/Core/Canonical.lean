import CempMobile.Core.Codecs

open Molecule mol

namespace cemp.core.codec

variable {reader : Reader} {α : Type}

/-! ### The helpers of the schema are lawful -/

theorem fixedBytes_lawful (byteLength : Nat) : (fixedBytes byteLength).Lawful where
  encodes := by
    intro v hv
    exact ⟨v, if_pos hv⟩
  inRange := by
    intro v bytes h
    simp only [fixedBytes] at h ⊢
    split at h
    · assumption
    · cases h
  decodes := by
    intro v bytes h
    simp only [fixedBytes] at h ⊢
    split at h
    · next hlength =>
      obtain rfl := Except.ok.inj h
      exact if_pos hlength
    · cases h
  length := by
    intro v bytes n h hlength
    obtain rfl := Option.some.inj hlength
    simp only [fixedBytes] at h
    split at h
    · next hv =>
      obtain rfl := Except.ok.inj h
      exact hv
    · cases h
  ordered _ := trivial

theorem guardedUint_lawful (hreads : reader.Reads) (label : String) {width : Nat} {max : Int}
    (hmax : max + 1 = 256 ^ width) :
    ((uint reader width).mapIn (guardUintRange label max)).Lawful := by
  refine uint_mapIn_lawful hreads ?_ ?_
  · intro v hnonneg hlt
    rw [← hmax] at hlt
    exact if_neg (by omega)
  · intro v w h
    rw [← hmax]
    unfold guardUintRange at h
    split at h
    · cases h
    · next hrange =>
      have hvalue := Except.ok.inj h
      omega

theorem Uint32Mol_lawful (hreads : reader.Reads) : (Uint32Mol reader).Lawful :=
  guardedUint_lawful hreads _ (by norm_num)

theorem Uint64Mol_lawful (hreads : reader.Reads) : (Uint64Mol reader).Lawful :=
  guardedUint_lawful hreads _ (by norm_num)

theorem byteMol_lawful (hreads : reader.Reads) : (byteMol reader).Lawful :=
  guardedUint_lawful hreads _ (by norm_num)

/-! ### The header guard -/

theorem uint_reads (hreads : reader.Reads) {buffer : Buffer} {width : Nat}
    (hlength : buffer.length = width) : reader.uint width buffer = .ok (unpackUint buffer) := by
  have hread := hreads.uint (unpackUint_lt buffer)
  rwa [packUint_unpackUint, hlength] at hread

/-- What a header says that passes: the total is the length of the buffer, and the first offset
    leaves room for a whole number of offsets and no more than fit the buffer. -/
structure HeaderFits (value : Buffer) : Prop where
  total : word value 0 = value.length
  offsets : 4 < value.length →
    ∃ count, 0 < count ∧ word value 1 = headerSize count ∧ headerSize count ≤ value.length

theorem guardHeader_eq_ok_iff (hreads : reader.Reads) {structureName : String} {value : Buffer} :
    guardHeader reader structureName value = .ok () ↔ 4 ≤ value.length ∧ HeaderFits value := by
  have htotal : 4 ≤ value.length → reader.uint 4 (value.take 4) = .ok (word value 0) := by
    intro hlength
    have hread := uint_reads hreads (List.length_take_of_le hlength)
    simpa [word] using hread
  have hfirst : 8 ≤ value.length →
      reader.uint 4 ((value.drop 4).take 4) = .ok (word value 1) := by
    intro hlength
    have hwidth : ((value.drop 4).take 4).length = 4 := by
      rw [List.length_take, List.length_drop]
      omega
    exact uint_reads hreads hwidth
  constructor
  · intro hguard
    unfold guardHeader at hguard
    split at hguard
    · cases hguard
    next hshort =>
    have hlength : 4 ≤ value.length := by omega
    rw [htotal hlength] at hguard
    simp only [bind, Except.bind] at hguard
    split at hguard
    · cases hguard
    next hsame =>
    have hdeclared : word value 0 = value.length := not_not.mp hsame
    refine ⟨hlength, hdeclared, fun hlong => ?_⟩
    rw [if_pos (by omega)] at hguard
    obtain ⟨firstOffset, hoffset, hguard⟩ := bind_eq_ok hguard
    have hwidth := hreads.uint_length hoffset
    rw [List.length_take, List.length_drop] at hwidth
    obtain rfl := Except.ok.inj ((hfirst (by omega)).symm.trans hoffset)
    split at hguard
    · cases hguard
    next hrange =>
    exact ⟨(word value 1 - 4) / 4, by omega, by simp only [headerSize]; omega,
      by simp only [headerSize]; omega⟩
  · rintro ⟨hlength, hdeclared, hoffsets⟩
    unfold guardHeader
    rw [if_neg (by omega), htotal hlength]
    simp only [bind, Except.bind]
    rw [if_neg (by omega)]
    by_cases hlong : 4 < value.length
    · obtain ⟨count, hcount, hword, hfits⟩ := hoffsets hlong
      simp only [headerSize] at hword hfits
      rw [if_pos (by omega), hfirst (by omega)]
      dsimp only
      rw [if_neg (by omega), if_neg (by omega)]
      rfl
    · rw [if_neg (by omega)]
      rfl

theorem layout_headerFits {parts : List Buffer} (htotal : totalSize parts < 2 ^ 32) :
    4 ≤ (layout parts).length ∧ HeaderFits (layout parts) := by
  have hlength := length_layout parts
  simp only [totalSize, headerSize] at hlength
  refine ⟨by omega, by rw [word_layout htotal, length_layout], fun hlong => ?_⟩
  cases parts with
  | nil => simp at hlength; omega
  | cons part parts =>
    refine ⟨(part :: parts).length, by simp, word_layout_first htotal, ?_⟩
    simp only [headerSize]
    omega

theorem guardedDynItemVec_lawful (hreads : reader.Reads) (structureName : String)
    {itemCodec : Codec α} (h : itemCodec.Lawful) :
    (guardedDynItemVec reader structureName itemCodec).Lawful := by
  have hinner := Codec.Lawful.dynItemVec hreads h
  refine ⟨hinner.encodes, hinner.inRange, ?_, hinner.length, hinner.ordered⟩
  intro v bytes hencode
  obtain ⟨parts, hparts, hlayout⟩ := bind_eq_ok hencode
  obtain ⟨htotal, rfl⟩ := encodeLayout_eq_ok.mp hlayout
  have hguard : guardHeader reader structureName (layout parts) = .ok () :=
    (guardHeader_eq_ok_iff hreads).mpr (layout_headerFits htotal)
  simp only [guardedDynItemVec, hguard, bind, Except.bind]
  exact hinner.decodes hencode

/-! ### The structures of the schema are lawful -/

section Structures

variable (hreads : reader.Reads)

include hreads

theorem BytesOptMol_lawful : (BytesOptMol reader).Lawful :=
  Codec.Lawful.option hreads (byteVec_lawful hreads) byteVec_nonEmpty

theorem fixedBytes_option_lawful {byteLength : Nat} (hpos : 0 < byteLength) :
    (option reader (fixedBytes byteLength)).Lawful :=
  Codec.Lawful.option hreads (fixedBytes_lawful byteLength)
    ((fixedBytes_lawful byteLength).nonEmpty rfl hpos)

theorem Byte16OptMol_lawful : (Byte16OptMol reader).Lawful :=
  fixedBytes_option_lawful hreads (by omega)

theorem Byte32OptMol_lawful : (Byte32OptMol reader).Lawful :=
  fixedBytes_option_lawful hreads (by omega)

theorem AlgorithmIdV1Codec_lawful : (AlgorithmIdV1Codec reader).Lawful := by
  refine (Fields.Lawful.struct hreads ?_ ?_).as fun _ => rfl
  · exact .cons (byteMol_lawful hreads) <| .cons (byteMol_lawful hreads) Fields.nil_lawful
  · simp [Fields.cons, Fields.nil, byteMol, Codec.mapIn, uint]

theorem ProtocolVersionsMol_lawful : (ProtocolVersionsMol reader).Lawful :=
  Codec.Lawful.fixedItemVec hreads (byteMol_lawful hreads) rfl

theorem CempProfileV1Codec_lawful : (CempProfileV1Codec reader).Lawful := by
  refine (Fields.Lawful.table hreads ?_).as fun _ => rfl
  exact .cons (byteMol_lawful hreads) <|
    .cons (AlgorithmIdV1Codec_lawful hreads) <|
    .cons (AlgorithmIdV1Codec_lawful hreads) <|
    .cons (fixedBytes_lawful 1952) <|
    .cons (fixedBytes_lawful 1184) <|
    .cons (fixedBytes_lawful 32) <|
    .cons (ProtocolVersionsMol_lawful hreads) <|
    .cons (byteMol_lawful hreads) <|
    .cons (BytesOptMol_lawful hreads) <|
    .cons (Byte32OptMol_lawful hreads) <|
    .cons (Uint64Mol_lawful hreads) <|
    .cons (Uint32Mol_lawful hreads) <|
    .cons (Byte32OptMol_lawful hreads) <|
    .cons (byteMol_lawful hreads) Fields.nil_lawful

theorem CempEnvelopeHeaderV1Codec_lawful : (CempEnvelopeHeaderV1Codec reader).Lawful := by
  refine (Fields.Lawful.table hreads ?_).as fun _ => rfl
  exact .cons (byteMol_lawful hreads) <|
    .cons (byteMol_lawful hreads) <|
    .cons (byteMol_lawful hreads) <|
    .cons (fixedBytes_lawful 16) <|
    .cons (fixedBytes_lawful 32) <|
    .cons (fixedBytes_lawful 32) <|
    .cons (Uint64Mol_lawful hreads) <|
    .cons (Byte16OptMol_lawful hreads) <|
    .cons (Uint64Mol_lawful hreads) Fields.nil_lawful

theorem CempEnvelopeV1Codec_lawful : (CempEnvelopeV1Codec reader).Lawful := by
  refine (Fields.Lawful.table hreads ?_).as fun _ => rfl
  exact .cons (CempEnvelopeHeaderV1Codec_lawful hreads) <|
    .cons (fixedBytes_lawful 1088) <|
    .cons (fixedBytes_lawful 12) <|
    .cons (byteVec_lawful hreads) Fields.nil_lawful

theorem OutPointV1Codec_lawful : (OutPointV1Codec reader).Lawful := by
  refine (Fields.Lawful.table hreads ?_).as fun _ => rfl
  exact .cons (fixedBytes_lawful 32) <| .cons (Uint32Mol_lawful hreads) Fields.nil_lawful

theorem OutPointOptMol_lawful : (OutPointOptMol reader).Lawful :=
  Codec.Lawful.option hreads (OutPointV1Codec_lawful hreads) fun h =>
    (table_nonEmpty : (table reader _).NonEmpty) h

theorem OutPointVecMol_lawful : (OutPointVecMol reader).Lawful :=
  guardedDynItemVec_lawful hreads _ (OutPointV1Codec_lawful hreads)

theorem ReceiptEntryV1Codec_lawful : (ReceiptEntryV1Codec reader).Lawful := by
  refine (Fields.Lawful.table hreads ?_).as fun _ => rfl
  exact .cons (fixedBytes_lawful 16) <| .cons (byteMol_lawful hreads) Fields.nil_lawful

theorem ReceiptVecMol_lawful : (ReceiptVecMol reader).Lawful :=
  guardedDynItemVec_lawful hreads _ (ReceiptEntryV1Codec_lawful hreads)

theorem AttachmentManifestV1Codec_lawful : (AttachmentManifestV1Codec reader).Lawful := by
  refine (Fields.Lawful.table hreads ?_).as fun _ => rfl
  exact .cons (fixedBytes_lawful 16) <|
    .cons (OutPointV1Codec_lawful hreads) <|
    .cons (OutPointVecMol_lawful hreads) <|
    .cons (Uint64Mol_lawful hreads) <|
    .cons (Uint64Mol_lawful hreads) <|
    .cons (byteVec_lawful hreads) <|
    .cons (Uint32Mol_lawful hreads) <|
    .cons (Uint32Mol_lawful hreads) <|
    .cons (BytesOptMol_lawful hreads) <|
    .cons (fixedBytes_lawful 32) <|
    .cons (fixedBytes_lawful 32) <|
    .cons (fixedBytes_lawful 12) <|
    .cons (AlgorithmIdV1Codec_lawful hreads) <|
    .cons (fixedBytes_lawful 16) Fields.nil_lawful

theorem AttachmentManifestVecMol_lawful : (AttachmentManifestVecMol reader).Lawful :=
  guardedDynItemVec_lawful hreads _ (AttachmentManifestV1Codec_lawful hreads)

theorem CempPayloadV1Codec_lawful : (CempPayloadV1Codec reader).Lawful := by
  refine (Fields.Lawful.table hreads ?_).as fun _ => rfl
  exact .cons (fixedBytes_lawful 16) <|
    .cons (byteMol_lawful hreads) <|
    .cons (fixedBytes_lawful 32) <|
    .cons (BytesOptMol_lawful hreads) <|
    .cons (AttachmentManifestVecMol_lawful hreads) <|
    .cons (Byte16OptMol_lawful hreads) <|
    .cons (OutPointOptMol_lawful hreads) <|
    .cons (ReceiptVecMol_lawful hreads) <|
    .cons (byteMol_lawful hreads) <|
    .cons (Uint64Mol_lawful hreads) <|
    .cons (fixedBytes_lawful 16) <|
    .cons (byteVec_lawful hreads) Fields.nil_lawful

theorem ReclaimGroupV1Codec_lawful : (ReclaimGroupV1Codec reader).Lawful := by
  refine (Fields.Lawful.table hreads ?_).as fun _ => rfl
  exact .cons (fixedBytes_lawful 16) <|
    .cons (byteMol_lawful hreads) <|
    .cons (Uint64Mol_lawful hreads) <|
    .cons (OutPointVecMol_lawful hreads) Fields.nil_lawful

theorem wire_lawful (s : Schema) : (s.wire reader).Lawful := by
  cases s with
  | Uint32 => exact Uint32Mol_lawful hreads
  | Uint64 => exact Uint64Mol_lawful hreads
  | Bytes => exact byteVec_lawful hreads
  | BytesOpt => exact BytesOptMol_lawful hreads
  | Byte12 => exact fixedBytes_lawful 12
  | Byte16 => exact fixedBytes_lawful 16
  | Byte32 => exact fixedBytes_lawful 32
  | Byte16Opt => exact Byte16OptMol_lawful hreads
  | Byte32Opt => exact Byte32OptMol_lawful hreads
  | AlgorithmIdV1 => exact AlgorithmIdV1Codec_lawful hreads
  | MlDsa65PublicKey => exact fixedBytes_lawful 1952
  | MlKem768PublicKey => exact fixedBytes_lawful 1184
  | ProtocolVersions => exact ProtocolVersionsMol_lawful hreads
  | MlKem768Ciphertext => exact fixedBytes_lawful 1088
  | AesGcmNonce => exact fixedBytes_lawful 12
  | CempProfileV1 => exact CempProfileV1Codec_lawful hreads
  | CempEnvelopeHeaderV1 => exact CempEnvelopeHeaderV1Codec_lawful hreads
  | CempEnvelopeV1 => exact CempEnvelopeV1Codec_lawful hreads
  | OutPointV1 => exact OutPointV1Codec_lawful hreads
  | OutPointOpt => exact OutPointOptMol_lawful hreads
  | OutPointVec => exact OutPointVecMol_lawful hreads
  | ReceiptEntryV1 => exact ReceiptEntryV1Codec_lawful hreads
  | ReceiptVec => exact ReceiptVecMol_lawful hreads
  | AttachmentManifestV1 => exact AttachmentManifestV1Codec_lawful hreads
  | AttachmentManifestVec => exact AttachmentManifestVecMol_lawful hreads
  | CempPayloadV1 => exact CempPayloadV1Codec_lawful hreads
  | ReclaimGroupV1 => exact ReclaimGroupV1Codec_lawful hreads

end Structures

/-! ### Strict encode and decode -/

theorem strictEncode_eq_ok_iff {structureName : String} {codec : Codec α} {value : α}
    {bytes : Buffer} :
    strictEncode structureName codec value = .ok bytes ↔ codec.encode value = .ok bytes := by
  unfold strictEncode
  cases codec.encode value <;> simp

/-- A strict decode accepts what the decoder accepts and the encoder gives back. -/
theorem strictDecode_eq_ok_iff {structureName : String} {codec : Codec α} {value : α}
    {bytes : Buffer} :
    strictDecode structureName codec bytes = .ok value ↔
      codec.decode bytes = .ok value ∧ codec.encode value = .ok bytes := by
  unfold strictDecode
  cases hdecode : codec.decode bytes with
  | error fault => simp
  | ok decoded =>
    cases hencode : codec.encode decoded with
    | error fault =>
      simp only [hencode]
      constructor
      · intro h
        cases h
      · rintro ⟨hvalue, hbytes⟩
        obtain rfl := Except.ok.inj hvalue
        cases hencode.symm.trans hbytes
    | ok canonical =>
      simp only [hencode]
      constructor
      · intro h
        split at h
        · cases h
        · next hsame =>
          obtain rfl := Except.ok.inj h
          exact ⟨rfl, by rw [hencode, not_not.mp hsame]⟩
      · rintro ⟨hvalue, hbytes⟩
        obtain rfl := Except.ok.inj hvalue
        rw [if_neg (not_not.mpr (Except.ok.inj (hencode.symm.trans hbytes)))]

/-- The schema is canonical: values in range survive the wire, no two share an encoding, and what
    a decode accepts is the encoding of what it returns, with the offsets in order at every depth.
    The header guard lets no buffer through that declares more items than it has room for. -/
theorem schema_canonical (hreads : reader.Reads) (s : Schema) :
    (∀ v, (s.wire reader).inRange v →
      ∃ bytes, s.encode reader v = .ok bytes ∧ s.decode reader bytes = .ok v) ∧
    (∀ v w bytes, s.encode reader v = .ok bytes → s.encode reader w = .ok bytes → v = w) ∧
    (∀ bytes v, s.decode reader bytes = .ok v →
      s.encode reader v = .ok bytes ∧ (s.wire reader).inRange v ∧
        (s.wire reader).ordered bytes) ∧
    ∀ structureName bytes items, itemBuffers reader structureName bytes = .ok items →
      HeaderFits bytes := by
  have hlawful := wire_lawful hreads s
  refine ⟨?_, ?_, ?_, ?_⟩
  · intro v hv
    obtain ⟨bytes, hencode⟩ := hlawful.encodes hv
    exact ⟨bytes, strictEncode_eq_ok_iff.mpr hencode,
      strictDecode_eq_ok_iff.mpr ⟨hlawful.decodes hencode, hencode⟩⟩
  · intro v w bytes hv hw
    have hdecodeV := hlawful.decodes (strictEncode_eq_ok_iff.mp hv)
    have hdecodeW := hlawful.decodes (strictEncode_eq_ok_iff.mp hw)
    exact Except.ok.inj (hdecodeV.symm.trans hdecodeW)
  · intro bytes v hdecode
    obtain ⟨-, hencode⟩ := strictDecode_eq_ok_iff.mp hdecode
    exact ⟨strictEncode_eq_ok_iff.mpr hencode, hlawful.inRange hencode, hlawful.ordered hencode⟩
  · intro structureName bytes items hitems
    obtain ⟨⟨⟩, hguard, -⟩ := bind_eq_ok hitems
    exact ((guardHeader_eq_ok_iff hreads).mp hguard).2

/-! ### Sample buffers -/

def sampleOutPoints : List OutPointV1 :=
  [⟨List.replicate 32 1, 1⟩, ⟨List.replicate 32 2, 0xffffffff⟩]

theorem sampleOutPoints_inRange : (OutPointVecMol offsetReader).inRange sampleOutPoints := by
  have hencodes : ((OutPointVecMol offsetReader).encode sampleOutPoints).toBool = true := by
    decide +kernel
  cases hencode : (OutPointVecMol offsetReader).encode sampleOutPoints with
  | error fault => simp [hencode, Except.toBool] at hencodes
  | ok bytes => exact (OutPointVecMol_lawful offsetReader_reads).inRange hencode

theorem sampleOutPoints_roundTrip :
    ∃ bytes, Schema.OutPointVec.encode offsetReader sampleOutPoints = .ok bytes ∧
      Schema.OutPointVec.decode offsetReader bytes = .ok sampleOutPoints :=
  (schema_canonical offsetReader_reads .OutPointVec).1 sampleOutPoints sampleOutPoints_inRange

/-- A vector of two items, the second of which starts before the first. -/
def hostileVector : Buffer := [12, 0, 0, 0, 12, 0, 0, 0, 0, 0, 0, 0]

theorem hostileVector_not_ordered (count : Nat) : ¬Ordered hostileVector count := by
  intro hordered
  have hheader := hordered.header
  have hascending := hordered.ascending
  have hcount : count = 2 := by
    cases count with
    | zero => cases hheader 12 rfl
    | succ count =>
      have hfirst : 12 = headerSize (count + 1) := by
        refine hheader 12 ?_
        simp only [bounds, List.range_succ_eq_map, List.map_cons, List.cons_append, List.head?_cons]
        rfl
      simp only [headerSize] at hfirst
      omega
  subst hcount
  revert hascending
  decide

/-- The guard passes the vector on, and a reader that takes its offsets as they are gives the item
    decoders an empty buffer and one that overlaps the header. -/
theorem hostileVector_reaches_items :
    offsetReader.Reads ∧
      itemBuffers offsetReader "OutPointVec" hostileVector = .ok [[], hostileVector] ∧
      ∀ count, ¬Ordered hostileVector count :=
  ⟨offsetReader_reads, rfl, hostileVector_not_ordered⟩

end cemp.core.codec
