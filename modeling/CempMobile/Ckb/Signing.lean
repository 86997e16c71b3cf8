import CempMobile.Ckb.CighashStream
import CempMobile.Core.Codec

open Molecule mol

namespace cemp.ckb.signing

open cighash

/-! The transaction signer for ML-DSA-65 locks. Bytes are lists here, and the witness that is
    written `0x` is the empty one. -/

inductive SignError where
  /-- `CempCkbError`. -/
  | cempCkb (context detail : String)
  | fault (fault : Fault)
  deriving DecidableEq, Repr

def lift {α : Type} : Except Fault α → Except SignError α
  | .ok a => .ok a
  | .error fault => .error (.fault fault)

structure OutPoint where
  txHash : Buffer
  index : Nat
  deriving DecidableEq, Repr

inductive DepType where
  | depGroup | code
  deriving DecidableEq, Repr

structure CellDep where
  outPoint : OutPoint
  depType : DepType
  deriving DecidableEq, Repr

/-- What the hash of a transaction covers. -/
structure RawTransaction where
  version : Nat
  cellDeps : List CellDep
  headerDeps : List Buffer
  inputs : List CellInput
  outputs : List cighash.CellOutput
  outputsData : List Buffer
  deriving DecidableEq, Repr

structure Transaction where
  raw : RawTransaction
  witnesses : List Buffer
  deriving DecidableEq, Repr

/-- The libraries the signer calls: the hash of a transaction, the digest of a stream, and ML-DSA-65
    with a context and its own randomness. -/
structure Primitives where
  hash : RawTransaction → Buffer
  blake2b : Buffer → Buffer
  sign : (message secretKey context random : Buffer) → Buffer
  verify : (signature message publicKey context : Buffer) → Bool

/-! ### ML-DSA-65 -/

namespace MLDSA_V2_SIZES

def pk : Nat := 1952
def sig : Nat := 3309
def sk : Nat := 4032
def witnessLock : Nat := 5262

end MLDSA_V2_SIZES

/-- `CKB-MLDSA-LOCK`. -/
def DOMAIN_BYTES : Buffer := [67, 75, 66, 45, 77, 76, 68, 83, 65, 45, 76, 79, 67, 75]

def cighashV2Digest (lib : Primitives) (stream : Buffer) : Buffer := lib.blake2b stream

def mldsaV2Sign (lib : Primitives) (secretKey digest random : Buffer) : Except Fault Buffer :=
  if secretKey.length ≠ MLDSA_V2_SIZES.sk then
    .error (.message ("mldsaV2Sign: secretKey length " ++ toString secretKey.length ++ " != " ++
      toString MLDSA_V2_SIZES.sk))
  else if digest.length ≠ 32 then
    .error (.message ("mldsaV2Sign: digest length " ++ toString digest.length ++ " != 32"))
  else .ok (lib.sign digest secretKey DOMAIN_BYTES random)

def mldsaV2Verify (lib : Primitives) (publicKey digest signature : Buffer) : Except Fault Bool :=
  if publicKey.length ≠ MLDSA_V2_SIZES.pk then
    .error (.message ("mldsaV2Verify: publicKey length " ++ toString publicKey.length ++ " != " ++
      toString MLDSA_V2_SIZES.pk))
  else if digest.length ≠ 32 then
    .error (.message ("mldsaV2Verify: digest length " ++ toString digest.length ++ " != 32"))
  else if signature.length ≠ MLDSA_V2_SIZES.sig then
    .error (.message ("mldsaV2Verify: signature length " ++ toString signature.length ++ " != " ++
      toString MLDSA_V2_SIZES.sig))
  else .ok (lib.verify signature digest publicKey DOMAIN_BYTES)

/-- The flag of a lock with a signature, the key, and the signature. -/
def mldsaV2WitnessLock (publicKey signature : Buffer) : Except Fault Buffer :=
  if publicKey.length ≠ MLDSA_V2_SIZES.pk then
    .error (.message ("mldsaV2WitnessLock: publicKey length " ++ toString publicKey.length ++
      " != " ++ toString MLDSA_V2_SIZES.pk))
  else if signature.length ≠ MLDSA_V2_SIZES.sig then
    .error (.message ("mldsaV2WitnessLock: signature length " ++ toString signature.length ++
      " != " ++ toString MLDSA_V2_SIZES.sig))
  else .ok (0x7b :: (publicKey ++ signature))

/-! ### The placeholder witnesses -/

def MLDSA_V2_WITNESS_LOCK_PLACEHOLDER_LEN : Nat := 5262

def isZeroPlaceholderLock (lock : Buffer) : Bool :=
  lock.length == MLDSA_V2_WITNESS_LOCK_PLACEHOLDER_LEN && lock.all (· == 0)

/-- The lock of `buildPlaceholderWitness`. -/
def placeholderLock : Buffer := List.replicate MLDSA_V2_WITNESS_LOCK_PLACEHOLDER_LEN 0

section Witnesses

variable (reader : Reader)

/-- What is in a witness already. -/
def existingArgs (i : Nat) (raw : Buffer) : Except SignError (Option WitnessArgs) :=
  if raw = [] then .ok none
  else match (WitnessArgsCodec reader).decode raw with
    | .ok args => .ok (some args)
    | .error _ => .error (.cempCkb "ensurePlaceholderWitnesses"
        ("witness " ++ toString i ++ " is not a WitnessArgs molecule"))

/-- A real lock, such as a signature, is left alone. -/
def hasRealLock (existing : Option WitnessArgs) : Bool :=
  match existing.bind (·.lock) with
  | some lock => !isZeroPlaceholderLock lock
  | none => false

def withPlaceholder (existing : Option WitnessArgs) : WitnessArgs where
  lock := some placeholderLock
  inputType := existing.bind (·.inputType)
  outputType := existing.bind (·.outputType)

/-- The witness of one input. -/
def ensureWitness (i : Nat) (raw : Buffer) : Except SignError Buffer := do
  let existing ← existingArgs reader i raw
  if hasRealLock existing then .ok raw
  else lift ((WitnessArgsCodec reader).encode (withPlaceholder existing))

/-- The loop over the inputs from the `i`-th on, `count` of which are left. It stops at the first
    error, and what it has written by then stays written. -/
def ensureWitnesses : (i count : Nat) → List Buffer → Option SignError × List Buffer
  | _, 0, witnesses => (none, witnesses)
  | _, _ + 1, [] => (none, [])
  | i, count + 1, raw :: rest =>
    match ensureWitness reader i raw with
    | .error e => (some e, raw :: rest)
    | .ok witness =>
      let (e, rest) := ensureWitnesses (i + 1) count rest
      (e, witness :: rest)

/-- As many empty witnesses as are missing. -/
def padWitnesses (inputs : Nat) (witnesses : List Buffer) : List Buffer :=
  witnesses ++ List.replicate (inputs - witnesses.length) []

/-- What is thrown, if anything, and the transaction as it is left. -/
def ensurePlaceholderWitnesses (tx : Transaction) : Option SignError × Transaction :=
  let (e, witnesses) := ensureWitnesses reader 0 tx.raw.inputs.length
    (padWitnesses tx.raw.inputs.length tx.witnesses)
  (e, { tx with witnesses := witnesses })

/-- `getWitnessArgsAt`: an empty witness and a missing one have no arguments. -/
def getWitnessArgsAt (tx : Transaction) (i : Nat) : Except Fault (Option WitnessArgs) :=
  if tx.witnesses.getD i [] = [] then .ok none
  else do
    let args ← (WitnessArgsCodec reader).decode (tx.witnesses.getD i [])
    return some args

end Witnesses

/-! ### Signing -/

/-- A signer, its keys of the lengths that its constructor checks. -/
structure MlDsaV2TxSigner where
  publicKey : Buffer
  secretKey : Buffer
  lock : cighash.Script
  lockCellDep : CellDep
  publicKey_length : publicKey.length = MLDSA_V2_SIZES.pk
  secretKey_length : secretKey.length = MLDSA_V2_SIZES.sk

/-- A dependency that is there is not added again. -/
def Transaction.addCellDeps (tx : Transaction) (cellDep : CellDep) : Transaction :=
  if cellDep ∈ tx.raw.cellDeps then tx
  else { tx with raw := { tx.raw with cellDeps := tx.raw.cellDeps ++ [cellDep] } }

/-- The transaction as the stream is built from it. -/
def Transaction.hashed (lib : Primitives) (tx : Transaction) : cighash.Transaction :=
  ⟨lib.hash tx.raw, tx.raw.inputs, tx.witnesses⟩

/-- All inputs are one script group. -/
def Transaction.group (tx : Transaction) : List Int :=
  (List.range tx.raw.inputs.length).map Int.ofNat

def signerStream (lib : Primitives) (reader : Reader) (tx : Transaction)
    (resolvedInputs : List ResolvedInput) : Except Fault Buffer :=
  buildCighashAllStream reader (tx.hashed lib) resolvedInputs tx.group

/-- Every input's cell, in order. -/
def resolveInputs (resolve : OutPoint → Option ResolvedInput) :
    Nat → List CellInput → Except SignError (List ResolvedInput)
  | _, [] => .ok []
  | i, input :: rest =>
    match resolve ⟨input.txHash, input.index⟩ with
    | none => .error (.cempCkb "signTransaction" ("input " ++ toString i ++ " (0x" ++
      core.bytesToHex input.txHash ++ ":" ++ toString input.index ++ ") is not a live cell"))
    | some resolved => do
      let others ← resolveInputs resolve (i + 1) rest
      return resolved :: others

def assertAllInputsLockedBy (lock : cighash.Script) : Nat → List ResolvedInput → Except SignError Unit
  | _, [] => .ok ()
  | i, input :: rest =>
    if input.cellOutput.lock ≠ lock then
      .error (.cempCkb "signTransaction" ("input " ++ toString i ++
        " is not locked by the signer's lock — this signer supports single-script-group " ++
        "transactions only"))
    else assertAllInputsLockedBy lock (i + 1) rest

def Transaction.setWitnessAt (tx : Transaction) (i : Nat) (witness : Buffer) : Transaction :=
  { tx with witnesses := tx.witnesses.set i witness }

section Signer

variable (lib : Primitives) (reader : Reader) (signer : MlDsaV2TxSigner)

/-- The signature goes into the first witness, in the place of its lock. -/
def signPreparedTransaction (tx : Transaction) (resolve : OutPoint → Option ResolvedInput)
    (random : Buffer) : Except SignError Transaction :=
  if tx.raw.inputs = [] then .error (.cempCkb "signTransaction" "transaction has no inputs")
  else do
    let resolvedInputs ← resolveInputs resolve 0 tx.raw.inputs
    assertAllInputsLockedBy signer.lock 0 resolvedInputs
    let stream ← lift (signerStream lib reader tx resolvedInputs)
    let digest := cighashV2Digest lib stream
    let signature ← lift (mldsaV2Sign lib signer.secretKey digest random)
    let witnessLock ← lift (mldsaV2WitnessLock signer.publicKey signature)
    let first ← lift (getWitnessArgsAt reader tx 0)
    match first with
    | none => .error (.cempCkb "signTransaction" "witness 0 missing after placeholder assertion")
    | some firstWitness => do
      let witness ← lift ((WitnessArgsCodec reader).encode (withSignatureLock firstWitness witnessLock))
      return tx.setWitnessAt 0 witness

def signTransaction (tx : Transaction) (resolve : OutPoint → Option ResolvedInput)
    (random : Buffer) : Except SignError Transaction :=
  match ensurePlaceholderWitnesses reader (tx.addCellDeps signer.lockCellDep) with
  | (some e, _) => .error e
  | (none, prepared) => signPreparedTransaction lib reader signer prepared resolve random

/-- Rebuilds the stream from the witnesses as they are now. -/
def verifyOwnSignature (tx : Transaction) (resolvedInputs : List ResolvedInput) :
    Except Fault Bool :=
  if tx.raw.inputs = [] ∨ tx.witnesses = [] then .ok false
  else
    match getWitnessArgsAt reader tx 0 with
    | .error _ => .ok false
    | .ok none => .ok false
    | .ok (some witness) =>
      match witness.lock with
      | none => .ok false
      | some lock =>
        if lock.length ≠ MLDSA_V2_SIZES.witnessLock ∨ lock.head? ≠ some 0x7b then .ok false
        else
          let publicKey := (lock.drop 1).take MLDSA_V2_SIZES.pk
          let signature := lock.drop (1 + MLDSA_V2_SIZES.pk)
          if publicKey ≠ signer.publicKey then .ok false
          else do
            let stream ← signerStream lib reader tx resolvedInputs
            mldsaV2Verify lib publicKey (cighashV2Digest lib stream) signature

end Signer

section Preparation

variable {reader : Reader} {i j count : Nat} {raw witness : Buffer} {witnesses : List Buffer}
  {existing : Option WitnessArgs} {tx : Transaction}

theorem isZeroPlaceholderLock_placeholderLock : isZeroPlaceholderLock placeholderLock = true := by
  simp [isZeroPlaceholderLock, placeholderLock]

theorem hasRealLock_withPlaceholder : hasRealLock (some (withPlaceholder existing)) = false := by
  simp [hasRealLock, withPlaceholder, isZeroPlaceholderLock_placeholderLock]

theorem WitnessArgsCodec_ne_nil {args : WitnessArgs}
    (h : (WitnessArgsCodec reader).encode args = .ok witness) : witness ≠ [] :=
  @table_nonEmpty _ reader _ _ _ h

/-- What is in a witness that was written is what was written. -/
theorem existingArgs_of_encode (hreads : reader.Reads) {args : WitnessArgs}
    (h : (WitnessArgsCodec reader).encode args = .ok witness) (i : Nat) :
    existingArgs reader i witness = .ok (some args) := by
  rw [existingArgs, if_neg (WitnessArgsCodec_ne_nil h), (WitnessArgsCodec_lawful hreads).decodes h]

theorem lift_eq_ok {α : Type} {x : Except Fault α} {a : α} : lift x = .ok a ↔ x = .ok a := by
  cases x <;> simp [lift]

theorem ensureWitness_eq_ok :
    ensureWitness reader i raw = .ok witness ↔ ∃ existing, existingArgs reader i raw = .ok existing ∧
      if hasRealLock existing = true then raw = witness
      else (WitnessArgsCodec reader).encode (withPlaceholder existing) = .ok witness := by
  rw [ensureWitness, Except.bind_eq_ok_iff]
  refine exists_congr fun existing => and_congr_right fun _ => ?_
  split
  · exact ⟨Except.ok.inj, congrArg _⟩
  · exact lift_eq_ok

/-- A witness that was prepared stays as it is. -/
theorem ensureWitness_ensured (hreads : reader.Reads) (h : ensureWitness reader i raw = .ok witness) :
    ensureWitness reader i witness = .ok witness := by
  obtain ⟨existing, hexisting, hcase⟩ := ensureWitness_eq_ok.1 h
  refine ensureWitness_eq_ok.2 ?_
  split at hcase
  · next hreal =>
    subst hcase
    exact ⟨existing, hexisting, by rw [if_pos hreal]⟩
  · exact ⟨_, existingArgs_of_encode hreads hcase i, by rwa [hasRealLock_withPlaceholder]⟩

theorem ensureWitnesses_ensured (hreads : reader.Reads) (i count : Nat) (witnesses : List Buffer) :
    ensureWitnesses reader i count (ensureWitnesses reader i count witnesses).2 =
      ensureWitnesses reader i count witnesses := by
  induction count generalizing i witnesses with
  | zero => rfl
  | succ count ih =>
    cases witnesses with
    | nil => rfl
    | cons raw rest =>
      cases hensure : ensureWitness reader i raw with
      | error e => simp only [ensureWitnesses, hensure]
      | ok witness =>
        have hagain := ensureWitness_ensured hreads hensure
        simp only [ensureWitnesses, hensure, hagain, ih (i + 1) rest]

theorem length_ensureWitnesses (i count : Nat) (witnesses : List Buffer) :
    (ensureWitnesses reader i count witnesses).2.length = witnesses.length := by
  induction count generalizing i witnesses with
  | zero => rfl
  | succ count ih =>
    cases witnesses with
    | nil => rfl
    | cons raw rest =>
      cases hensure : ensureWitness reader i raw with
      | error e => simp only [ensureWitnesses, hensure]
      | ok witness => simp only [ensureWitnesses, hensure, List.length_cons, ih (i + 1) rest]

/-- The witnesses after those of the inputs are left alone. -/
theorem drop_ensureWitnesses (i count : Nat) (witnesses : List Buffer) :
    (ensureWitnesses reader i count witnesses).2.drop count = witnesses.drop count := by
  induction count generalizing i witnesses with
  | zero => rfl
  | succ count ih =>
    cases witnesses with
    | nil => rfl
    | cons raw rest =>
      cases hensure : ensureWitness reader i raw with
      | error e => simp only [ensureWitnesses, hensure]
      | ok witness => simpa only [ensureWitnesses, hensure, List.drop_succ_cons] using ih (i + 1) rest

theorem length_padWitnesses (count : Nat) (witnesses : List Buffer) :
    count ≤ (padWitnesses count witnesses).length := by
  simp only [padWitnesses, List.length_append, List.length_replicate]
  omega

theorem padWitnesses_of_le (h : count ≤ witnesses.length) : padWitnesses count witnesses = witnesses := by
  simp [padWitnesses, Nat.sub_eq_zero_of_le h]

theorem drop_padWitnesses (count : Nat) (witnesses : List Buffer) :
    (padWitnesses count witnesses).drop count = witnesses.drop count := by
  obtain h | h := le_total count witnesses.length
  · rw [padWitnesses_of_le h]
  · rw [@List.drop_eq_nil_of_le _ witnesses _ h, padWitnesses, List.drop_eq_nil_of_le]
    simp only [List.length_append, List.length_replicate]
    omega

theorem ensurePlaceholderWitnesses_ensured (hreads : reader.Reads) (tx : Transaction) :
    ensurePlaceholderWitnesses reader (ensurePlaceholderWitnesses reader tx).2 =
      ensurePlaceholderWitnesses reader tx := by
  have hlength := @length_ensureWitnesses reader 0 tx.raw.inputs.length
    (padWitnesses tx.raw.inputs.length tx.witnesses)
  have hpadded := length_padWitnesses tx.raw.inputs.length tx.witnesses
  simp only [ensurePlaceholderWitnesses]
  rw [padWitnesses_of_le (by omega), ensureWitnesses_ensured hreads]

/-- The type fields of a witness. An empty one has neither. -/
def witnessTypes (reader : Reader) (raw : Buffer) : Except Fault (Option Buffer × Option Buffer) :=
  if raw = [] then .ok (none, none)
  else do
    let args ← (WitnessArgsCodec reader).decode raw
    return (args.inputType, args.outputType)

/-- What preparing a witness keeps of it: its type fields, and all of it where it has a lock other
    than the placeholder. -/
structure Keeps (reader : Reader) (raw witness : Buffer) : Prop where
  types : witnessTypes reader witness = witnessTypes reader raw
  lock : ∀ args lock, raw ≠ [] → (WitnessArgsCodec reader).decode raw = .ok args → args.lock = some lock →
    isZeroPlaceholderLock lock = false → witness = raw

theorem Keeps.refl (reader : Reader) (raw : Buffer) : Keeps reader raw raw :=
  ⟨rfl, fun _ _ _ _ _ _ => rfl⟩

theorem witnessTypes_of_encode (hreads : reader.Reads) {args : WitnessArgs}
    (h : (WitnessArgsCodec reader).encode args = .ok witness) :
    witnessTypes reader witness = .ok (args.inputType, args.outputType) := by
  rw [witnessTypes, if_neg (WitnessArgsCodec_ne_nil h), (WitnessArgsCodec_lawful hreads).decodes h]
  rfl

theorem ensureWitness_keeps (hreads : reader.Reads) (h : ensureWitness reader i raw = .ok witness) :
    Keeps reader raw witness := by
  obtain ⟨existing, hexisting, hcase⟩ := ensureWitness_eq_ok.1 h
  split at hcase
  · exact hcase ▸ .refl reader raw
  · next hreal =>
    constructor
    · rw [witnessTypes_of_encode hreads hcase]
      unfold existingArgs at hexisting
      split at hexisting
      · next hempty =>
        obtain rfl := Except.ok.inj hexisting
        rw [hempty]
        rfl
      · next hne =>
        split at hexisting
        · next args hdecode =>
          obtain rfl := Except.ok.inj hexisting
          rw [witnessTypes, if_neg hne, hdecode]
          rfl
        · cases hexisting
    · intro args lock hne hdecode hlock hzero
      rw [existingArgs, if_neg hne, hdecode] at hexisting
      obtain rfl := Except.ok.inj hexisting
      exact absurd (by simp [hasRealLock, hlock, hzero]) hreal

theorem ensureWitnesses_keeps (hreads : reader.Reads) (i count : Nat) (witnesses : List Buffer) :
    List.Forall₂ (Keeps reader) witnesses (ensureWitnesses reader i count witnesses).2 := by
  have hrefl (witnesses : List Buffer) : List.Forall₂ (Keeps reader) witnesses witnesses :=
    List.forall₂_same.2 fun raw _ => .refl reader raw
  induction count generalizing i witnesses with
  | zero => exact hrefl witnesses
  | succ count ih =>
    cases witnesses with
    | nil => exact .nil
    | cons raw rest =>
      cases hensure : ensureWitness reader i raw with
      | error e => simpa only [ensureWitnesses, hensure] using hrefl (raw :: rest)
      | ok witness =>
        simp only [ensureWitnesses, hensure]
        exact .cons (ensureWitness_keeps hreads hensure) (ih (i + 1) rest)

end Preparation

end cemp.ckb.signing
