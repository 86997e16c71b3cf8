import CempMobile.Ckb.Cighash
import CempMobile.Lib.Results

open Molecule mol

namespace cemp.ckb.cighash

open core.codec

variable {reader : Reader}

/-! ### The codecs -/

theorem HashTypeCodec_lawful : HashTypeCodec.Lawful where
  encodes {v} _ := ⟨[v.byte], rfl⟩
  inRange _ := trivial
  decodes := by
    intro v bytes h
    obtain rfl := Except.ok.inj h
    cases v <;> rfl
  length := by
    intro v bytes n h hlength
    obtain rfl := Except.ok.inj h
    exact Option.some.inj hlength
  ordered _ := trivial

theorem Uint64Codec_lawful (hreads : reader.Reads) : (Uint64Codec reader).Lawful where
  encodes {v} hv := ⟨packUint 8 v, if_neg (Nat.not_le.2 hv)⟩
  inRange := by
    intro v bytes h
    simp only [Uint64Codec] at h ⊢
    split at h
    · cases h
    · omega
  decodes := by
    intro v bytes h
    simp only [Uint64Codec] at h ⊢
    split at h
    · cases h
    · obtain rfl := Except.ok.inj h
      exact hreads.uint (by omega)
  length := by
    intro v bytes n h hlength
    obtain rfl := Option.some.inj hlength
    simp only [Uint64Codec] at h
    split at h
    · cases h
    · obtain rfl := Except.ok.inj h
      exact length_packUint ..
  ordered _ := trivial

theorem ScriptCodec_lawful (hreads : reader.Reads) : (ScriptCodec reader).Lawful :=
  (Fields.Lawful.table hreads <|
    .cons (fixedBytes_lawful 32) <|
    .cons HashTypeCodec_lawful <|
    .cons (byteVec_lawful hreads) Fields.nil_lawful).as fun _ => rfl

theorem ScriptCodec_nonEmpty : (ScriptCodec reader).NonEmpty := by
  intro v bytes h
  exact @table_nonEmpty _ reader _ _ _ h

/-- The fields of an output, as its table holds them. -/
theorem CellOutputCodec_delimits (hreads : reader.Reads) :
    Delimits fun v b => (CellOutputCodec reader).encode v = .ok b := by
  have hfields := table_delimits <| Fields.Lawful.table hreads <|
    .cons (Uint64Codec_lawful hreads) <|
    .cons (ScriptCodec_lawful hreads) <|
    .cons ((ScriptCodec_lawful hreads).option hreads ScriptCodec_nonEmpty) Fields.nil_lawful
  refine hfields.comap ?_
  rintro ⟨capacity, lock, type⟩ ⟨capacity', lock', type'⟩ heq
  cases heq
  rfl

theorem WitnessArgsCodec_lawful (hreads : reader.Reads) : (WitnessArgsCodec reader).Lawful :=
  (Fields.Lawful.table hreads <|
    .cons (BytesOptMol_lawful hreads) <|
    .cons (BytesOptMol_lawful hreads) <|
    .cons (BytesOptMol_lawful hreads) Fields.nil_lawful).as fun _ => rfl

/-! ### What the segments are -/

theorem segment_eq_ok {bytes b : Buffer} : segment bytes = .ok b ↔ Prefixed bytes b := by
  unfold segment u32le
  split
  · next hlarge =>
    constructor
    · intro h
      cases h
    · rintro ⟨hsmall, -⟩
      omega
  · next hsmall =>
    constructor
    · intro h
      exact ⟨by omega, (Except.ok.inj h).symm⟩
    · rintro ⟨-, rfl⟩
      rfl

theorem write_segment_eq_ok {bytes b : Buffer} :
    write_segment bytes = .ok b ↔ Prefixed bytes b := by
  unfold write_segment write_length
  split
  · next hsmall =>
    constructor
    · intro h
      exact ⟨hsmall, (Except.ok.inj h).symm⟩
    · rintro ⟨-, rfl⟩
      rfl
  · next hlarge =>
    constructor
    · intro h
      cases h
    · rintro ⟨hsmall, -⟩
      omega

/-- What is streamed of a resolved input. -/
def WritesInput (reader : Reader) (resolved : ResolvedInput) (b : Buffer) : Prop :=
  WritesPair (fun v b => (CellOutputCodec reader).encode v = .ok b) Prefixed
    (resolved.cellOutput, resolved.data) b

theorem WritesInput_delimits (hreads : reader.Reads) : Delimits (WritesInput reader) := by
  refine ((CellOutputCodec_delimits hreads).pair prefixed_delimits).comap ?_
  rintro ⟨cellOutput, data⟩ ⟨cellOutput', data'⟩ heq
  cases heq
  rfl

theorem WritesInput.functional {resolved : ResolvedInput} {b c : Buffer}
    (hb : WritesInput reader resolved b) (hc : WritesInput reader resolved c) : b = c := by
  obtain ⟨b₁, b₂, hb₁, hb₂, rfl⟩ := hb
  obtain ⟨c₁, c₂, hc₁, hc₂, rfl⟩ := hc
  rw [Except.ok.inj (hb₁.symm.trans hc₁), hb₂.functional hc₂]

theorem inputSegments_writes {resolved : List ResolvedInput} {b : Buffer}
    (h : inputSegments reader resolved = .ok b) : WritesAll (WritesInput reader) resolved b := by
  induction resolved generalizing b with
  | nil =>
    obtain rfl := Except.ok.inj h
    exact .nil
  | cons first rest ih =>
    obtain ⟨cellOutput, hcell, h⟩ := bind_eq_ok h
    obtain ⟨data, hdata, h⟩ := bind_eq_ok h
    obtain ⟨others, hothers, h⟩ := bind_eq_ok h
    obtain rfl := Except.ok.inj h
    exact .cons ⟨cellOutput, data, hcell, segment_eq_ok.1 hdata, rfl⟩ (ih hothers)

theorem witnessSegments_writes {witnesses : List Buffer} {b : Buffer}
    (h : witnessSegments witnesses = .ok b) : WritesAll Prefixed witnesses b := by
  induction witnesses generalizing b with
  | nil =>
    obtain rfl := Except.ok.inj h
    exact .nil
  | cons first rest ih =>
    obtain ⟨segment, hsegment, h⟩ := bind_eq_ok h
    obtain ⟨others, hothers, h⟩ := bind_eq_ok h
    obtain rfl := Except.ok.inj h
    exact .cons (segment_eq_ok.1 hsegment) (ih hothers)

/-- The host is given the same cell, packed. -/
structure Packs (reader : Reader) (resolved : ResolvedInput) (input : PackedInput) : Prop where
  cellOutput : (CellOutputCodec reader).encode resolved.cellOutput = .ok input.cell_output
  data : input.cell_data = resolved.data

theorem write_inputs_writes {resolved : List ResolvedInput} {packed : List PackedInput}
    (hpacked : List.Forall₂ (Packs reader) resolved packed) {b : Buffer}
    (h : write_inputs packed = .ok b) : WritesAll (WritesInput reader) resolved b := by
  induction hpacked generalizing b with
  | nil =>
    obtain rfl := Except.ok.inj h
    exact .nil
  | cons hfirst hrest ih =>
    obtain ⟨data, hdata, h⟩ := Except.bind_eq_ok_iff.1 h
    obtain ⟨others, hothers, h⟩ := Except.bind_eq_ok_iff.1 h
    obtain rfl := Except.ok.inj h
    rw [hfirst.data] at hdata
    exact .cons ⟨_, data, hfirst.cellOutput, write_segment_eq_ok.1 hdata, rfl⟩ (ih hothers)

theorem write_witnesses_writes {witnesses : List Buffer} {b : Buffer}
    (h : write_witnesses witnesses = .ok b) : WritesAll Prefixed witnesses b := by
  induction witnesses generalizing b with
  | nil =>
    obtain rfl := Except.ok.inj h
    exact .nil
  | cons first rest ih =>
    obtain ⟨segment, hsegment, h⟩ := Except.bind_eq_ok_iff.1 h
    obtain ⟨others, hothers, h⟩ := Except.bind_eq_ok_iff.1 h
    obtain rfl := Except.ok.inj h
    exact .cons (write_segment_eq_ok.1 hsegment) (ih hothers)

/-! ### The slices of the first witness -/

/-- A field of a witness and its slice. -/
def Slice (field : Option Buffer) (slice : Buffer) : Prop := bytesOptSlice field = .ok slice

/-- An absent field has the empty slice, and an empty field does not. -/
theorem Slice.injective {field field' : Option Buffer} {slice : Buffer} (h : Slice field slice)
    (h' : Slice field' slice) : field = field' := by
  unfold Slice at h h'
  cases field with
  | none =>
    obtain rfl := Except.ok.inj h
    cases field' with
    | none => rfl
    | some content => exact absurd rfl (segment_eq_ok.1 h').ne_nil
  | some content =>
    have hprefixed := segment_eq_ok.1 h
    cases field' with
    | none =>
      obtain rfl := Except.ok.inj h'
      exact absurd rfl hprefixed.ne_nil
    | some content' =>
      rw [prefixed_delimits.injective hprefixed (segment_eq_ok.1 h')]

/-- The slice is what the table of the witness holds. -/
theorem slice_of_encode {field : Option Buffer} {part slice : Buffer}
    (hpart : (BytesOptMol reader).encode field = .ok part) (hslice : Slice field slice) :
    part = slice := by
  unfold Slice at hslice
  cases field with
  | none => exact Except.ok.inj (hpart.symm.trans hslice)
  | some content =>
    obtain ⟨-, rfl⟩ := segment_eq_ok.1 hslice
    simp only [BytesOptMol, mol.option, BytesMol, byteVec] at hpart
    split at hpart
    · cases hpart
    · exact (Except.ok.inj hpart).symm

theorem field_slices {witness : Buffer} {args : WitnessArgs}
    (h : (WitnessArgsCodec reader).encode args = .ok witness) {inputType outputType : Buffer}
    (hinput : Slice args.inputType inputType) (houtput : Slice args.outputType outputType) :
    field_slice witness 1 = inputType ∧ field_slice witness 2 = outputType := by
  obtain ⟨fields, hfields, hlayout⟩ := bind_eq_ok h
  obtain ⟨htotal, rfl⟩ := encodeLayout_eq_ok.1 hlayout
  obtain ⟨first, tail, hfirst, htail, rfl⟩ := Fields.cons_encode hfields
  obtain ⟨second, tail, hsecond, hlast, rfl⟩ := Fields.cons_encode htail
  obtain ⟨third, tail, hthird, hnil, rfl⟩ := Fields.cons_encode hlast
  obtain rfl := Except.ok.inj hnil
  have hparts : parts (layout [first, second, third]) 3 = [first, second, third] :=
    parts_layout htotal
  unfold field_slice
  rw [hparts]
  exact ⟨slice_of_encode hsecond hinput, slice_of_encode hthird houtput⟩

/-! ### Both streams -/

/-- What a stream is made of: the hash, the cells, the two slices, and the other witnesses. -/
structure Pieces where
  hash : Buffer
  cells : List ResolvedInput
  inputType : Option Buffer
  outputType : Option Buffer
  group : List Buffer
  extra : List Buffer

structure Pieces.Streams (reader : Reader) (pieces : Pieces) (stream : Buffer) : Prop where
  intro ::
  written : ∃ inputs slices split group extra,
    WritesAll (WritesInput reader) pieces.cells inputs ∧
    Slice pieces.inputType slices.1 ∧ Slice pieces.outputType slices.2 ∧
    WritesPair Prefixed Prefixed slices split ∧
    WritesAll Prefixed pieces.group group ∧
    WritesAll Prefixed pieces.extra extra ∧
    stream = pieces.hash ++ (inputs ++ (split ++ (group ++ extra)))

/-- Every length is bound: with the counts fixed, a stream has one decomposition. -/
theorem Pieces.Streams.injective (hreads : reader.Reads) {p q : Pieces} {stream : Buffer}
    (hp : p.Streams reader stream) (hq : q.Streams reader stream) (hhash : p.hash = q.hash)
    (hcells : p.cells.length = q.cells.length) (hgroup : p.group.length = q.group.length) :
    p = q := by
  obtain ⟨inputs, slices, split, group, extra, hinputs, hin, hout, hsplit, hrest, hextra, hp⟩ := hp
  obtain ⟨inputs', slices', split', group', extra', hinputs', hin', hout', hsplit', hrest',
    hextra', hq⟩ := hq
  rw [hp, hhash] at hq
  have hstream := List.append_cancel_left hq
  obtain ⟨hsameCells, hstream⟩ :=
    (WritesInput_delimits hreads).all hinputs hinputs' hcells hstream
  obtain ⟨rfl, hstream⟩ := (prefixed_delimits.pair prefixed_delimits) hsplit hsplit' hstream
  obtain ⟨hsameGroup, rfl⟩ := prefixed_delimits.all hrest hrest' hgroup hstream
  have hsameExtra := prefixed_delimits.all_injective Prefixed.ne_nil hextra hextra'
  have hsameInput := hin.injective hin'
  have hsameOutput := hout.injective hout'
  cases p
  cases q
  simp only at hhash hsameCells hsameInput hsameOutput hsameGroup hsameExtra
  subst hhash hsameCells hsameInput hsameOutput hsameGroup hsameExtra
  rfl

theorem Pieces.Streams.functional {p : Pieces} {b c : Buffer} (hb : p.Streams reader b)
    (hc : p.Streams reader c) : b = c := by
  obtain ⟨inputs, slices, split, group, extra, hinputs, hin, hout, hsplit, hrest, hextra, hb⟩ := hb
  obtain ⟨inputs', slices', split', group', extra', hinputs', hin', hout', hsplit', hrest',
    hextra', hc⟩ := hc
  have hslices : slices = slices' :=
    Prod.ext (Except.ok.inj (hin.symm.trans hin')) (Except.ok.inj (hout.symm.trans hout'))
  subst hslices
  obtain ⟨b₁, b₂, hb₁, hb₂, rfl⟩ := hsplit
  obtain ⟨c₁, c₂, hc₁, hc₂, rfl⟩ := hsplit'
  have hcells := hinputs.functional WritesInput.functional hinputs'
  have hgroup := hrest.functional Prefixed.functional hrest'
  have hothers := hextra.functional Prefixed.functional hextra'
  rw [hb, hc, hcells, hb₁.functional hc₁, hb₂.functional hc₂, hgroup, hothers]

/-- The indices of a script group: distinct inputs of the transaction. -/
structure Transaction.IsGroup (tx : Transaction) (groupInputIndices : List Int) : Prop where
  distinct : groupInputIndices.Nodup
  nonneg : ∀ idx ∈ groupInputIndices, 0 ≤ idx
  inputs : ∀ idx ∈ groupInputIndices, idx < tx.inputs.length

/-- The pieces of the stream of a group whose first witness is parsed. -/
def Transaction.pieces (tx : Transaction) (resolvedInputs : List ResolvedInput) (rest : List Int)
    (firstWitness : WitnessArgs) : Pieces where
  hash := tx.hash
  cells := resolvedInputs
  inputType := firstWitness.inputType
  outputType := firstWitness.outputType
  group := rest.map tx.witnessAt
  extra := tx.extraWitnesses

theorem parseWitness_eq_ok {firstIdx : Int} {witness : Buffer} {args : WitnessArgs} :
    parseWitness reader firstIdx witness = .ok args ↔
      (WitnessArgsCodec reader).decode witness = .ok args := by
  unfold parseWitness
  split
  · next first hdecode => rw [hdecode]
  · next fault hdecode =>
    rw [hdecode]
    constructor
    · intro h
      cases h
    · intro h
      cases h

/-- An accepted call streams its pieces. -/
theorem buildCighashAllStream_streams {tx : Transaction} {resolvedInputs : List ResolvedInput}
    {groupInputIndices : List Int} {stream : Buffer}
    (h : buildCighashAllStream reader tx resolvedInputs groupInputIndices = .ok stream) :
    ∃ firstIdx rest firstWitness, groupInputIndices = firstIdx :: rest ∧
      resolvedInputs.length = tx.inputs.length ∧
      (WitnessArgsCodec reader).decode (tx.witnessAt firstIdx) = .ok firstWitness ∧
      (tx.pieces resolvedInputs rest firstWitness).Streams reader stream := by
  unfold buildCighashAllStream at h
  split at h
  · cases h
  · next hlength =>
    cases groupInputIndices with
    | nil => cases h
    | cons firstIdx rest =>
      obtain ⟨-, -, h⟩ := bind_eq_ok h
      obtain ⟨inputs, hinputs, h⟩ := bind_eq_ok h
      obtain ⟨firstWitness, hfirst, h⟩ := bind_eq_ok h
      obtain ⟨split, hsplit, h⟩ := bind_eq_ok h
      obtain ⟨group, hgroup, h⟩ := bind_eq_ok h
      obtain ⟨extra, hextra, h⟩ := bind_eq_ok h
      obtain ⟨inputType, hin, hsplit⟩ := bind_eq_ok hsplit
      obtain ⟨b₁, hb₁, hsplit⟩ := bind_eq_ok hsplit
      obtain ⟨outputType, hout, hsplit⟩ := bind_eq_ok hsplit
      obtain ⟨b₂, hb₂, hsplit⟩ := bind_eq_ok hsplit
      obtain rfl := Except.ok.inj hsplit
      refine ⟨firstIdx, rest, firstWitness, rfl, by omega, parseWitness_eq_ok.1 hfirst, ⟨?_⟩⟩
      exact ⟨inputs, (inputType, outputType), b₁ ++ b₂, group, extra,
        inputSegments_writes hinputs, hin, hout,
        ⟨b₁, b₂, segment_eq_ok.1 hb₁, segment_eq_ok.1 hb₂, rfl⟩,
        witnessSegments_writes hgroup, witnessSegments_writes hextra, (Except.ok.inj h).symm⟩

/-- The host's call with the same group and the same cells streams the same pieces. -/
theorem generate_ckb_tx_message_all_host_streams (hreads : reader.Reads)
    {from_slice : Buffer → Bool}
    (hfrom_slice : ∀ b, from_slice b = true → ∃ args, (WitnessArgsCodec reader).encode args = .ok b)
    {tx : Transaction} {resolvedInputs : List ResolvedInput} {packed : List PackedInput}
    (hpacked : List.Forall₂ (Packs reader) resolvedInputs packed) {firstIdx : Nat}
    {rest : List Nat} {firstWitness : WitnessArgs}
    (hfirst : (WitnessArgsCodec reader).decode (tx.witnessAt firstIdx) = .ok firstWitness)
    {inputType outputType : Buffer} (hin : Slice firstWitness.inputType inputType)
    (hout : Slice firstWitness.outputType outputType) {stream : Buffer}
    (h : generate_ckb_tx_message_all_host from_slice tx packed (firstIdx :: rest) = .ok stream) :
    (tx.pieces resolvedInputs (rest.map Int.ofNat) firstWitness).Streams reader stream := by
  unfold generate_ckb_tx_message_all_host at h
  split at h
  · cases h
  · obtain ⟨-, -, h⟩ := Except.bind_eq_ok_iff.1 h
    obtain ⟨inputs, hinputs, h⟩ := Except.bind_eq_ok_iff.1 h
    simp only at h
    split at h
    · next hverified =>
      obtain ⟨b₁, hb₁, h⟩ := Except.bind_eq_ok_iff.1 h
      obtain ⟨b₂, hb₂, h⟩ := Except.bind_eq_ok_iff.1 h
      obtain ⟨group, hgroup, h⟩ := Except.bind_eq_ok_iff.1 h
      obtain ⟨extra, hextra, h⟩ := Except.bind_eq_ok_iff.1 h
      obtain ⟨args, hargs⟩ := hfrom_slice _ hverified
      -- What the host verified is what the codec read.
      have hsame : args = firstWitness :=
        Except.ok.inj (((WitnessArgsCodec_lawful hreads).decodes hargs).symm.trans hfirst)
      subst hsame
      obtain ⟨hinput, houtput⟩ := field_slices hargs hin hout
      rw [hinput] at hb₁
      rw [houtput] at hb₂
      have hmap : (rest.map Int.ofNat).map tx.witnessAt =
          rest.map fun idx => tx.witnesses.getD idx [] := by
        rw [List.map_map]
        rfl
      refine ⟨inputs, (inputType, outputType), b₁ ++ b₂, group, extra,
        write_inputs_writes hpacked hinputs, hin, hout,
        ⟨b₁, b₂, write_segment_eq_ok.1 hb₁, write_segment_eq_ok.1 hb₂, rfl⟩, ?_,
        write_witnesses_writes hextra, (Except.ok.inj h).symm⟩
      have hwrites := write_witnesses_writes hgroup
      rwa [← hmap] at hwrites
    · cases h

/-! ### The lock of the first witness -/

def Transaction.setWitness (tx : Transaction) (idx : Int) (witness : Buffer) : Transaction :=
  { tx with witnesses := tx.witnesses.set idx.toNat witness }

section SetWitness

variable {tx : Transaction} {idx : Int} {witness : Buffer}

theorem Transaction.setWitness_of_le (h : (tx.witnesses.length : Int) ≤ idx) :
    tx.setWitness idx witness = tx := by
  unfold setWitness
  rw [List.set_eq_of_length_le (by omega)]

theorem Transaction.setWitness_witnessAt (hnonneg : 0 ≤ idx) (h : idx < tx.witnesses.length) :
    (tx.setWitness idx witness).witnessAt idx = witness := by
  have hlt : idx.toNat < tx.witnesses.length := by omega
  simp [setWitness, witnessAt, hlt]

theorem Transaction.setWitness_witnessAt_of_ne {other : Int} (hnonneg : 0 ≤ idx)
    (hother : 0 ≤ other) (hne : other ≠ idx) :
    (tx.setWitness idx witness).witnessAt other = tx.witnessAt other := by
  have hindex : idx.toNat ≠ other.toNat := by omega
  simp [setWitness, witnessAt, List.getElem?_set_ne hindex]

theorem Transaction.setWitness_extraWitnesses (hnonneg : 0 ≤ idx) (h : idx < tx.inputs.length) :
    (tx.setWitness idx witness).extraWitnesses = tx.extraWitnesses := by
  have hlt : idx.toNat < tx.inputs.length := by omega
  simp [setWitness, extraWitnesses, List.drop_set_of_lt hlt]

end SetWitness

/-- Only the types of the first witness are streamed. -/
theorem splitWitness_congr {args args' : WitnessArgs} (hinput : args.inputType = args'.inputType)
    (houtput : args.outputType = args'.outputType) : splitWitness args = splitWitness args' := by
  unfold splitWitness
  rw [hinput, houtput]

/-- The stream of a group does not depend on the lock of its first witness. -/
theorem buildCighashAllStream_setWitness {tx : Transaction} (resolvedInputs : List ResolvedInput)
    {firstIdx : Int} {rest : List Int} (hgroup : tx.IsGroup (firstIdx :: rest))
    {witness : Buffer} {args args' : WitnessArgs}
    (hargs : (WitnessArgsCodec reader).decode (tx.witnessAt firstIdx) = .ok args)
    (hargs' : (WitnessArgsCodec reader).decode witness = .ok args')
    (hinput : args'.inputType = args.inputType) (houtput : args'.outputType = args.outputType) :
    buildCighashAllStream reader (tx.setWitness firstIdx witness) resolvedInputs
        (firstIdx :: rest) =
      buildCighashAllStream reader tx resolvedInputs (firstIdx :: rest) := by
  have hnonneg : 0 ≤ firstIdx := hgroup.nonneg firstIdx (by simp)
  by_cases hcount : (tx.witnesses.length : Int) ≤ firstIdx
  · rw [Transaction.setWitness_of_le hcount]
  · have hrest : rest.map (tx.setWitness firstIdx witness).witnessAt = rest.map tx.witnessAt := by
      refine List.map_congr_left fun other hmem => ?_
      refine Transaction.setWitness_witnessAt_of_ne hnonneg ?_ ?_
      · exact hgroup.nonneg other (List.mem_cons_of_mem _ hmem)
      · intro heq
        exact (List.nodup_cons.1 hgroup.distinct).1 (heq ▸ hmem)
    have hextra : (tx.setWitness firstIdx witness).extraWitnesses = tx.extraWitnesses :=
      Transaction.setWitness_extraWitnesses hnonneg (hgroup.inputs firstIdx (by simp))
    have hfirst : (tx.setWitness firstIdx witness).witnessAt firstIdx = witness :=
      Transaction.setWitness_witnessAt hnonneg (by omega)
    have hlength : (tx.setWitness firstIdx witness).witnesses.length = tx.witnesses.length := by
      simp [Transaction.setWitness]
    have hparse : parseWitness reader firstIdx _ = .ok args := parseWitness_eq_ok.2 hargs
    have hparse' : parseWitness reader firstIdx _ = .ok args' := parseWitness_eq_ok.2 hargs'
    unfold buildCighashAllStream
    simp only [hrest, hextra, hfirst, hlength, hparse, hparse', splitWitness_congr hinput houtput,
      bind, Except.bind]
    rfl

/-- A verifier of witnesses: what is read is written back the same. -/
def verifies (witness : Buffer) : Bool :=
  match (WitnessArgsCodec offsetReader).decode witness with
  | .ok args => (WitnessArgsCodec offsetReader).encode args = .ok witness
  | .error _ => false

theorem verifies_encode {witness : Buffer} (h : verifies witness = true) :
    ∃ args, (WitnessArgsCodec offsetReader).encode args = .ok witness := by
  unfold verifies at h
  split at h
  · next args _ => exact ⟨args, of_decide_eq_true h⟩
  · cases h

/-- A witness with a placeholder of two bytes, and with a lock of three bytes in its place. -/
def placeholderArgs : WitnessArgs := ⟨some [0, 0], none, some [7]⟩

def placeholderWitness : Buffer :=
  [27, 0, 0, 0, 16, 0, 0, 0, 22, 0, 0, 0, 22, 0, 0, 0, 2, 0, 0, 0, 0, 0, 1, 0, 0, 0, 7]

def signedWitness : Buffer :=
  [28, 0, 0, 0, 16, 0, 0, 0, 23, 0, 0, 0, 23, 0, 0, 0, 3, 0, 0, 0, 123, 1, 2, 1, 0, 0, 0, 7]

def unsignedTransaction : Transaction where
  hash := List.replicate 32 5
  inputs := [⟨List.replicate 32 1, 0, 0⟩]
  witnesses := [placeholderWitness, [9]]

end cemp.ckb.cighash
