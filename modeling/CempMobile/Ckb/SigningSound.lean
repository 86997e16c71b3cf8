import CempMobile.Ckb.Signing
import Mathlib.Data.List.Nodup

open Molecule mol

namespace cemp.ckb.signing

open cighash

/-- What is documented of the libraries, for a signer's keys: digests are of 32 bytes, signatures
    of the length of their scheme, and a signature verifies under the key it was made for. -/
structure Primitives.Lawful (lib : Primitives) (signer : MlDsaV2TxSigner) : Prop where
  hash_length : ∀ raw, (lib.hash raw).length = 32
  blake2b_length : ∀ bytes, (lib.blake2b bytes).length = 32
  sign_length : ∀ message random,
    (lib.sign message signer.secretKey DOMAIN_BYTES random).length = MLDSA_V2_SIZES.sig
  verifies : ∀ message random, lib.verify (lib.sign message signer.secretKey DOMAIN_BYTES random)
    message signer.publicKey DOMAIN_BYTES = true

/-- What a signed transaction promises: the stream that was signed is the one that is rebuilt from
    it, and its signature verifies. -/
structure SignsOwnStream (lib : Primitives) (reader : Reader) (signer : MlDsaV2TxSigner)
    (prepared signed : Transaction) (resolvedInputs : List ResolvedInput) (random : Buffer) : Prop where
  stream : ∃ stream args, signerStream lib reader prepared resolvedInputs = .ok stream ∧
    signerStream lib reader signed resolvedInputs = .ok stream ∧
    getWitnessArgsAt reader signed 0 = .ok (some args) ∧
    args.lock = some (0x7b :: (signer.publicKey ++
      lib.sign (cighashV2Digest lib stream) signer.secretKey DOMAIN_BYTES random))
  verifies : verifyOwnSignature lib reader signer signed resolvedInputs = .ok true

section Signing

variable {lib : Primitives} {reader : Reader} {signer : MlDsaV2TxSigner}
  {tx tx' prepared signed : Transaction} {resolve : OutPoint → Option ResolvedInput}
  {resolvedInputs resolvedInputs' : List ResolvedInput} {random stream witness : Buffer}

theorem group_eq_cons (h : tx.raw.inputs ≠ []) :
    tx.group = 0 :: ((List.range (tx.raw.inputs.length - 1)).map fun i => Int.ofNat (i + 1)) := by
  obtain ⟨n, hn⟩ := Nat.exists_eq_succ_of_ne_zero (mt List.length_eq_zero_iff.1 h)
  rw [Transaction.group, hn, List.range_succ_eq_map]
  simp [Function.comp_def]

theorem isGroup_group (lib : Primitives) (tx : Transaction) :
    (tx.hashed lib).IsGroup tx.group where
  distinct := List.Nodup.map (fun _ _ h => Int.ofNat.inj h) List.nodup_range
  nonneg idx h := by
    obtain ⟨i, -, rfl⟩ := List.mem_map.1 h
    exact Int.natCast_nonneg i
  inputs idx h := by
    obtain ⟨i, hi, rfl⟩ := List.mem_map.1 h
    exact Int.ofNat_lt.2 (List.mem_range.1 hi)

theorem getWitnessArgsAt_eq_some {args : WitnessArgs} {i : Nat} :
    getWitnessArgsAt reader tx i = .ok (some args) ↔
      tx.witnesses.getD i [] ≠ [] ∧ (WitnessArgsCodec reader).decode (tx.witnesses.getD i []) = .ok args := by
  unfold getWitnessArgsAt
  split
  · next hempty =>
    constructor
    · rintro h
      cases h
    · rintro ⟨hne, -⟩
      exact absurd hempty hne
  · next hne =>
    rw [Except.bind_eq_ok_iff]
    constructor
    · rintro ⟨read, hread, hsome⟩
      obtain rfl := Option.some.inj (Except.ok.inj hsome)
      exact ⟨hne, hread⟩
    · rintro ⟨-, hread⟩
      exact ⟨args, hread, rfl⟩

/-- Writing a first witness with the same type fields does not change the stream. -/
theorem signerStream_setWitnessAt (hreads : reader.Reads) (hinputs : tx.raw.inputs ≠ [])
    {args args' : WitnessArgs} (hargs : (WitnessArgsCodec reader).decode (tx.witnesses.getD 0 []) = .ok args)
    (hwitness : (WitnessArgsCodec reader).encode args' = .ok witness)
    (hinput : args'.inputType = args.inputType) (houtput : args'.outputType = args.outputType)
    (resolvedInputs : List ResolvedInput) :
    signerStream lib reader (tx.setWitnessAt 0 witness) resolvedInputs =
      signerStream lib reader tx resolvedInputs := by
  have hgroup := isGroup_group lib tx
  rw [group_eq_cons hinputs] at hgroup
  have hdecode := (WitnessArgsCodec_lawful hreads).decodes hwitness
  have hstream := buildCighashAllStream_setWitness resolvedInputs hgroup hargs hdecode hinput houtput
  have hsame : (tx.setWitnessAt 0 witness).group = tx.group := rfl
  rw [signerStream, signerStream, hsame, group_eq_cons hinputs]
  exact hstream

theorem mldsaV2Sign_eq_ok {digest signature : Buffer} (h : mldsaV2Sign lib signer.secretKey digest random = .ok signature) :
    signature = lib.sign digest signer.secretKey DOMAIN_BYTES random := by
  rw [mldsaV2Sign, Except.guard_eq_ok_iff, Except.guard_eq_ok_iff] at h
  exact (Except.ok.inj h.2.2).symm

theorem mldsaV2WitnessLock_eq_ok {publicKey signature lock : Buffer}
    (h : mldsaV2WitnessLock publicKey signature = .ok lock) : lock = 0x7b :: (publicKey ++ signature) := by
  rw [mldsaV2WitnessLock, Except.guard_eq_ok_iff, Except.guard_eq_ok_iff] at h
  exact (Except.ok.inj h.2.2).symm

/-- The signature of a stream verifies where the stream is rebuilt. -/
theorem verifyOwnSignature_signed (hlib : lib.Lawful signer) (hinputs : signed.raw.inputs ≠ [])
    {args : WitnessArgs} (hargs : getWitnessArgsAt reader signed 0 = .ok (some args))
    (hlock : args.lock = some (0x7b :: (signer.publicKey ++
      lib.sign (cighashV2Digest lib stream) signer.secretKey DOMAIN_BYTES random)))
    (hstream : signerStream lib reader signed resolvedInputs = .ok stream) :
    verifyOwnSignature lib reader signer signed resolvedInputs = .ok true := by
  have hwitnesses : signed.witnesses ≠ [] := by
    rintro hnil
    have hne := (getWitnessArgsAt_eq_some.1 hargs).1
    simp [hnil] at hne
  have hpk := signer.publicKey_length
  have hsig := hlib.sign_length (cighashV2Digest lib stream) random
  have hlength : (0x7b :: (signer.publicKey ++ lib.sign (cighashV2Digest lib stream) signer.secretKey
      DOMAIN_BYTES random)).length = MLDSA_V2_SIZES.witnessLock := by
    simp [hpk, hsig, MLDSA_V2_SIZES.pk, MLDSA_V2_SIZES.sig, MLDSA_V2_SIZES.witnessLock]
  have hkey (signature : Buffer) :
      ((0x7b :: (signer.publicKey ++ signature)).drop 1).take MLDSA_V2_SIZES.pk = signer.publicKey := by
    rw [List.drop_succ_cons, List.drop_zero, ← hpk, List.take_left]
  have hsignature (signature : Buffer) :
      (0x7b :: (signer.publicKey ++ signature)).drop (1 + MLDSA_V2_SIZES.pk) = signature := by
    rw [Nat.add_comm, List.drop_succ_cons, ← hpk, List.drop_left]
  have hdigest : (cighashV2Digest lib stream).length = 32 := hlib.blake2b_length stream
  have hverify : mldsaV2Verify lib signer.publicKey (cighashV2Digest lib stream)
      (lib.sign (cighashV2Digest lib stream) signer.secretKey DOMAIN_BYTES random) = .ok true := by
    rw [mldsaV2Verify, if_neg (not_not.2 hpk), if_neg (not_not.2 hdigest), if_neg (not_not.2 hsig),
      hlib.verifies]
  unfold verifyOwnSignature
  rw [if_neg (not_or.2 ⟨hinputs, hwitnesses⟩), hargs]
  simp only [hlock]
  rw [if_neg (by simp [hlength]), hkey, hsignature, if_neg (not_not.2 rfl), hstream]
  exact hverify

/-- Signing changes a witness and nothing else. -/
theorem signPreparedTransaction_raw
    (h : signPreparedTransaction lib reader signer prepared resolve random = .ok signed) :
    signed.raw = prepared.raw := by
  rw [signPreparedTransaction, Except.guard_eq_ok_iff] at h
  obtain ⟨resolvedInputs, -, h⟩ := Except.bind_eq_ok_iff.1 h.2
  obtain ⟨-, -, h⟩ := Except.bind_eq_ok_iff.1 h
  obtain ⟨stream, -, h⟩ := Except.bind_eq_ok_iff.1 h
  obtain ⟨signature, -, h⟩ := Except.bind_eq_ok_iff.1 h
  obtain ⟨witnessLock, -, h⟩ := Except.bind_eq_ok_iff.1 h
  obtain ⟨first, -, h⟩ := Except.bind_eq_ok_iff.1 h
  cases first with
  | none => cases h
  | some args =>
    obtain ⟨witness, -, h⟩ := Except.bind_eq_ok_iff.1 h
    obtain rfl := Except.ok.inj h
    rfl

/-- Signing a prepared transaction whose inputs resolve to the signer's cells. -/
theorem signPreparedTransaction_signs (hreads : reader.Reads) (hlib : lib.Lawful signer)
    (h : signPreparedTransaction lib reader signer prepared resolve random = .ok signed) :
    ∃ resolvedInputs, resolveInputs resolve 0 prepared.raw.inputs = .ok resolvedInputs ∧
      SignsOwnStream lib reader signer prepared signed resolvedInputs random := by
  rw [signPreparedTransaction, Except.guard_eq_ok_iff] at h
  obtain ⟨hinputs, h⟩ := h
  obtain ⟨resolvedInputs, hresolved, h⟩ := Except.bind_eq_ok_iff.1 h
  obtain ⟨-, -, h⟩ := Except.bind_eq_ok_iff.1 h
  obtain ⟨stream, hstream, h⟩ := Except.bind_eq_ok_iff.1 h
  obtain ⟨signature, hsignature, h⟩ := Except.bind_eq_ok_iff.1 h
  obtain ⟨witnessLock, hwitnessLock, h⟩ := Except.bind_eq_ok_iff.1 h
  obtain ⟨first, hfirst, h⟩ := Except.bind_eq_ok_iff.1 h
  cases first with
  | none => cases h
  | some args =>
    obtain ⟨witness, hwitness, h⟩ := Except.bind_eq_ok_iff.1 h
    obtain rfl := Except.ok.inj h
    have hwitness := lift_eq_ok.1 hwitness
    obtain ⟨hne, hargs⟩ := getWitnessArgsAt_eq_some.1 (lift_eq_ok.1 hfirst)
    obtain rfl := mldsaV2Sign_eq_ok (lift_eq_ok.1 hsignature)
    obtain rfl := mldsaV2WitnessLock_eq_ok (lift_eq_ok.1 hwitnessLock)
    have hrebuilt : signerStream lib reader (prepared.setWitnessAt 0 witness) resolvedInputs = .ok stream :=
      (signerStream_setWitnessAt hreads hinputs hargs hwitness rfl rfl resolvedInputs).trans
        (lift_eq_ok.1 hstream)
    have hset : (prepared.setWitnessAt 0 witness).witnesses.getD 0 [] = witness := by
      have hpos : prepared.witnesses ≠ [] := by
        rintro hnil
        simp [hnil] at hne
      obtain ⟨head, tail, hcons⟩ := List.exists_cons_of_ne_nil hpos
      simp [Transaction.setWitnessAt, hcons]
    have hread : getWitnessArgsAt reader (prepared.setWitnessAt 0 witness) 0 =
        .ok (some (withSignatureLock args _)) :=
      getWitnessArgsAt_eq_some.2 ⟨by rw [hset]; exact WitnessArgsCodec_ne_nil hwitness,
        by rw [hset]; exact (WitnessArgsCodec_lawful hreads).decodes hwitness⟩
    refine ⟨resolvedInputs, hresolved, ⟨stream, _, lift_eq_ok.1 hstream, hrebuilt, hread, rfl⟩, ?_⟩
    exact verifyOwnSignature_signed hlib hinputs hread rfl hrebuilt

theorem checkGroup_eq_ok {witnessCount : Nat} {group : List Int}
    (h : checkGroup witnessCount group = .ok ()) : ∀ idx ∈ group, idx < witnessCount := by
  induction group with
  | nil =>
    intro idx hidx
    cases hidx
  | cons first rest ih =>
    rw [checkGroup, Except.guard_eq_ok_iff] at h
    intro idx hidx
    obtain rfl | hidx := List.mem_cons.1 hidx
    · omega
    · exact ih h.2 idx hidx

/-- A transaction whose stream is built has an input, and a witness for each. -/
theorem witnesses_of_signerStream (h : signerStream lib reader tx resolvedInputs = .ok stream) :
    tx.raw.inputs ≠ [] ∧ tx.raw.inputs.length ≤ tx.witnesses.length := by
  unfold signerStream buildCighashAllStream at h
  split at h
  · cases h
  · cases hgroup : tx.group with
    | nil =>
      rw [hgroup] at h
      cases h
    | cons first rest =>
      rw [hgroup] at h
      obtain ⟨_, hcheck, -⟩ := Except.bind_eq_ok_iff.1 h
      have hne : tx.raw.inputs ≠ [] := by
        rintro hnil
        simp [Transaction.group, hnil] at hgroup
      have hpos := List.length_pos_of_ne_nil hne
      have hlast : Int.ofNat (tx.raw.inputs.length - 1) ∈ first :: rest := by
        rw [← hgroup]
        exact List.mem_map_of_mem (List.mem_range.2 (by omega))
      have hlt : Int.ofNat (tx.raw.inputs.length - 1) < tx.witnesses.length :=
        checkGroup_eq_ok hcheck _ hlast
      have hlt := Int.ofNat_lt.1 hlt
      exact ⟨hne, by omega⟩

/-- What a transaction's stream covers: its inputs and outputs with everything else that is hashed,
    the cells of the inputs, the type fields of the first witness, and the other witnesses. -/
structure SameCovered (reader : Reader) (tx tx' : Transaction)
    (resolvedInputs resolvedInputs' : List ResolvedInput) : Prop where
  raw : tx.raw = tx'.raw
  cells : resolvedInputs = resolvedInputs'
  types : ∀ args args', (WitnessArgsCodec reader).decode (tx.witnesses.getD 0 []) = .ok args →
    (WitnessArgsCodec reader).decode (tx'.witnesses.getD 0 []) = .ok args' →
      args.inputType = args'.inputType ∧ args.outputType = args'.outputType
  witnesses : ∀ i, 1 ≤ i → tx.witnesses[i]? = tx'.witnesses[i]?

/-- Transactions with one stream are the same in all that it covers. -/
theorem signerStream_covers (hreads : reader.Reads) (hhash : ∀ raw, (lib.hash raw).length = 32)
    (hcollision : lib.hash tx.raw = lib.hash tx'.raw → tx.raw = tx'.raw)
    (h : signerStream lib reader tx resolvedInputs = .ok stream)
    (h' : signerStream lib reader tx' resolvedInputs' = .ok stream) :
    SameCovered reader tx tx' resolvedInputs resolvedInputs' := by
  obtain ⟨hinputs, hcount⟩ := witnesses_of_signerStream h
  obtain ⟨hinputs', hcount'⟩ := witnesses_of_signerStream h'
  obtain ⟨first, rest, args, hgroup, hlength, hargs, hstreams⟩ := buildCighashAllStream_streams h
  obtain ⟨first', rest', args', hgroup', hlength', hargs', hstreams'⟩ :=
    buildCighashAllStream_streams h'
  rw [group_eq_cons hinputs] at hgroup
  rw [group_eq_cons hinputs'] at hgroup'
  obtain ⟨rfl, rfl⟩ := List.cons.inj hgroup
  obtain ⟨rfl, rfl⟩ := List.cons.inj hgroup'
  -- The stream starts with the hash, whose length is fixed.
  obtain ⟨_, _, _, _, _, -, -, -, -, -, -, hwritten⟩ := hstreams.written
  obtain ⟨_, _, _, _, _, -, -, -, -, -, -, hwritten'⟩ := hstreams'.written
  have hsame : lib.hash tx.raw = lib.hash tx'.raw :=
    (List.append_inj (hwritten.symm.trans hwritten') ((hhash _).trans (hhash _).symm)).1
  obtain ⟨raw, witnesses⟩ := tx
  obtain ⟨raw', witnesses'⟩ := tx'
  obtain rfl : raw = raw' := hcollision hsame
  have hpieces := hstreams.injective hreads hstreams' rfl (hlength.trans hlength'.symm)
    (by simp [cighash.Transaction.pieces])
  refine ⟨rfl, congrArg Pieces.cells hpieces, ?_, fun i hi => ?_⟩
  · intro read read' hread hread'
    obtain rfl := Except.ok.inj (hargs.symm.trans hread)
    obtain rfl := Except.ok.inj (hargs'.symm.trans hread')
    exact ⟨congrArg Pieces.inputType hpieces, congrArg Pieces.outputType hpieces⟩
  · by_cases hinput : i < raw.inputs.length
    · have hgroup : ((List.range (raw.inputs.length - 1)).map fun i => witnesses.getD (i + 1) []) =
          (List.range (raw.inputs.length - 1)).map fun i => witnesses'.getD (i + 1) [] := by
        have hgroup := congrArg Pieces.group hpieces
        simp only [cighash.Transaction.pieces, List.map_map] at hgroup
        exact hgroup
      have hat := List.map_inj_left.1 hgroup (i - 1) (List.mem_range.2 (by omega))
      rw [Nat.sub_add_cancel hi] at hat
      have hlt : i < witnesses.length := hinput.trans_le hcount
      have hlt' : i < witnesses'.length := hinput.trans_le hcount'
      rw [List.getElem?_eq_getElem hlt, List.getElem?_eq_getElem hlt']
      simpa [hlt, hlt'] using hat
    · have hextra : witnesses.drop raw.inputs.length = witnesses'.drop raw.inputs.length :=
        congrArg Pieces.extra hpieces
      have hat := congrArg (fun ws : List Buffer => ws[i - raw.inputs.length]?) hextra
      simpa [List.getElem?_drop, Nat.add_sub_cancel' (not_lt.1 hinput)] using hat

/-- Signing prepares the transaction with the signer's cell dependency first. -/
theorem signTransaction_signs (hreads : reader.Reads) (hlib : lib.Lawful signer)
    (h : signTransaction lib reader signer tx resolve random = .ok signed) :
    ∃ resolvedInputs, resolveInputs resolve 0 signed.raw.inputs = .ok resolvedInputs ∧
      SignsOwnStream lib reader signer
        (ensurePlaceholderWitnesses reader (tx.addCellDeps signer.lockCellDep)).2 signed
        resolvedInputs random := by
  unfold signTransaction at h
  split at h
  · cases h
  · next prepared hprepared =>
    obtain ⟨resolvedInputs, hresolved, hsigns⟩ := signPreparedTransaction_signs hreads hlib h
    have hraw : signed.raw = prepared.raw := signPreparedTransaction_raw h
    rw [hprepared]
    exact ⟨resolvedInputs, hraw ▸ hresolved, hsigns⟩

theorem assertAllInputsLockedBy_eq_ok {lock : cighash.Script} {i : Nat} :
    assertAllInputsLockedBy lock i resolvedInputs = .ok () ↔
      ∀ resolved ∈ resolvedInputs, resolved.cellOutput.lock = lock := by
  induction resolvedInputs generalizing i with
  | nil => simp [assertAllInputsLockedBy]
  | cons first rest ih =>
    rw [assertAllInputsLockedBy, Except.guard_eq_ok_iff, not_not, ih, List.forall_mem_cons]

theorem ensureWitness_ne_nil {i : Nat} {raw : Buffer} (h : ensureWitness reader i raw = .ok witness) :
    witness ≠ [] := by
  obtain ⟨existing, hexisting, hcase⟩ := ensureWitness_eq_ok.1 h
  split at hcase
  · next hreal =>
    rintro rfl
    rw [hcase, existingArgs, if_pos rfl] at hexisting
    obtain rfl := Except.ok.inj hexisting
    cases hreal
  · exact WitnessArgsCodec_ne_nil hcase

/-- The first witness of a prepared transaction is not empty. -/
theorem first_witness_ne_nil (hinputs : tx.raw.inputs ≠ [])
    (h : ensurePlaceholderWitnesses reader tx = (none, prepared)) : prepared.witnesses.getD 0 [] ≠ [] := by
  have hlength := length_padWitnesses tx.raw.inputs.length tx.witnesses
  obtain ⟨count, hcount⟩ := Nat.exists_eq_succ_of_ne_zero (mt List.length_eq_zero_iff.1 hinputs)
  unfold ensurePlaceholderWitnesses at h
  rw [hcount] at h hlength
  cases hpadded : padWitnesses count.succ tx.witnesses with
  | nil =>
    rw [hpadded, List.length_nil] at hlength
    omega
  | cons raw rest =>
    rw [hpadded] at h
    cases hensure : ensureWitness reader 0 raw with
    | error e =>
      simp only [ensureWitnesses, hensure] at h
      cases h
    | ok witness =>
      simp only [ensureWitnesses, hensure, Prod.mk.injEq] at h
      rw [← h.2]
      exact ensureWitness_ne_nil hensure

/-- Signing succeeds once the witnesses are prepared, the inputs resolve to cells of the signer's
    lock, the stream can be built and the first witness has room for the signature. -/
theorem signTransaction_returns (hlib : lib.Lawful signer) (hinputs : prepared.raw.inputs ≠ [])
    (hprepared : ensurePlaceholderWitnesses reader (tx.addCellDeps signer.lockCellDep) = (none, prepared))
    (hresolved : resolveInputs resolve 0 prepared.raw.inputs = .ok resolvedInputs)
    (hlocked : ∀ resolved ∈ resolvedInputs, resolved.cellOutput.lock = signer.lock)
    (hstream : signerStream lib reader prepared resolvedInputs = .ok stream)
    (hroom : ∀ args lock, getWitnessArgsAt reader prepared 0 = .ok (some args) →
      lock.length = MLDSA_V2_SIZES.witnessLock →
        ∃ witness, (WitnessArgsCodec reader).encode (withSignatureLock args lock) = .ok witness) :
    ∃ signed, signTransaction lib reader signer tx resolve random = .ok signed := by
  obtain ⟨first, rest, args, hgroup, -, hargs, -⟩ := buildCighashAllStream_streams hstream
  rw [group_eq_cons hinputs] at hgroup
  obtain ⟨rfl, -⟩ := List.cons.inj hgroup
  have hraw : prepared.raw = (tx.addCellDeps signer.lockCellDep).raw := by
    have hsame := congrArg (·.2.raw) hprepared
    exact hsame.symm
  have hread : getWitnessArgsAt reader prepared 0 = .ok (some args) :=
    getWitnessArgsAt_eq_some.2 ⟨first_witness_ne_nil (hraw ▸ hinputs) hprepared, hargs⟩
  have hsig := hlib.sign_length (cighashV2Digest lib stream) random
  have hdigest : (cighashV2Digest lib stream).length = 32 := hlib.blake2b_length stream
  have hsign : mldsaV2Sign lib signer.secretKey (cighashV2Digest lib stream) random =
      .ok (lib.sign (cighashV2Digest lib stream) signer.secretKey DOMAIN_BYTES random) := by
    rw [mldsaV2Sign, if_neg (not_not.2 signer.secretKey_length), if_neg (not_not.2 hdigest)]
  have hlock : mldsaV2WitnessLock signer.publicKey (lib.sign (cighashV2Digest lib stream)
      signer.secretKey DOMAIN_BYTES random) = .ok (0x7b :: (signer.publicKey ++
        lib.sign (cighashV2Digest lib stream) signer.secretKey DOMAIN_BYTES random)) := by
    rw [mldsaV2WitnessLock, if_neg (not_not.2 signer.publicKey_length), if_neg (not_not.2 hsig)]
  obtain ⟨witness, hwitness⟩ := hroom args _ hread (show (0x7b :: (signer.publicKey ++ lib.sign
    (cighashV2Digest lib stream) signer.secretKey DOMAIN_BYTES random)).length = _ by
      simp [signer.publicKey_length, hsig, MLDSA_V2_SIZES.pk, MLDSA_V2_SIZES.sig,
        MLDSA_V2_SIZES.witnessLock])
  refine ⟨prepared.setWitnessAt 0 witness, ?_⟩
  unfold signTransaction
  simp only [hprepared]
  rw [signPreparedTransaction, if_neg hinputs, hresolved]
  simp only [bind, Except.bind, assertAllInputsLockedBy_eq_ok.2 hlocked, hstream, lift, hsign, hlock,
    hread, hwitness]
  rfl

end Signing

def sampleLock : cighash.Script := ⟨List.replicate 32 0xd7, .type, List.replicate 37 1⟩

def sampleSigner : MlDsaV2TxSigner where
  publicKey := List.replicate 1952 2
  secretKey := List.replicate 4032 3
  lock := sampleLock
  lockCellDep := ⟨⟨List.replicate 32 4, 0⟩, .code⟩
  publicKey_length := List.length_replicate
  secretKey_length := List.length_replicate

/-- Digests of one value, and one signature that alone verifies. -/
def sampleLib : Primitives where
  hash _ := List.replicate 32 5
  blake2b _ := List.replicate 32 6
  sign _ _ _ _ := List.replicate 3309 7
  verify signature _ _ _ := signature == List.replicate 3309 7

theorem sampleLib_lawful : sampleLib.Lawful sampleSigner where
  hash_length _ := List.length_replicate
  blake2b_length _ := List.length_replicate
  sign_length _ _ := List.length_replicate
  verifies _ _ := beq_self_eq_true _

def sampleTransaction : Transaction where
  raw := ⟨0, [], [], [⟨List.replicate 32 8, 0, 0⟩], [⟨6100000000, sampleLock, none⟩], [[]]⟩
  witnesses := []

def sampleCell : ResolvedInput := ⟨⟨6200000000, sampleLock, none⟩, []⟩

def sampleSigned : Transaction :=
  match signTransaction sampleLib offsetReader sampleSigner sampleTransaction (fun _ => some sampleCell) [] with
  | .ok signed => signed
  | .error _ => sampleTransaction

end cemp.ckb.signing
