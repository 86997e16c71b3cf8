import CempMobile.Ckb.CighashStream
import CempMobile.Ckb.MessageTypeArgs
import CempMobile.Lib.Machine

open Molecule mol Rust

namespace cemp_message_type

/-! The type script of message cells, as it runs on chain: it loads itself, finds its args in the
    molecule table by hand, and checks their length and version. -/

def TYPE_ARGS_LEN : Nat := 81
def TYPE_ARGS_VERSION_V1 : UInt8 := 1
def ERROR_TYPE_ARGS_LEN : Int := 1
def ERROR_PROTOCOL_VERSION : Int := 2
def ERROR_LOAD_SCRIPT : Int := 3
def ERROR_MALFORMED_SCRIPT : Int := 4
def SCRIPT_BUF_LEN : Nat := 512

def validate_type_args (args : Buffer) : Except Panic (Except Int Unit) :=
  if args.length ≠ TYPE_ARGS_LEN then .ok (.error ERROR_TYPE_ARGS_LEN)
  else do
    let version ← index args 0
    return if version ≠ TYPE_ARGS_VERSION_V1 then .error ERROR_PROTOCOL_VERSION else .ok ()

def read_u32_le (buf : Buffer) (start : Nat) : Run Nat := do
  let stop ← add start 4
  let bytes ← ofOption (get buf start stop)
  let b0 ← index bytes 0
  let b1 ← index bytes 1
  let b2 ← index bytes 2
  let b3 ← index bytes 3
  return unpackUint [b0, b1, b2, b3]

/-- Extracts the `args` payload from a raw molecule `Script` table. `reported_len` is what the
    syscall returned. -/
def parse_script_args (buf : Buffer) (reported_len : Nat) : Run Buffer :=
  if buf.length < reported_len ∨ reported_len < 4 + 3 * 4 then failure
  else do
    let total_size ← read_u32_le buf 0
    if total_size ≠ reported_len then failure
    else
      let off0 ← read_u32_le buf 4
      let off1 ← read_u32_le buf 8
      let off2 ← read_u32_le buf 12
      if off0 < 4 + 3 * 4 ∨ off1 < off0 ∨ off2 < off1 ∨ reported_len < off2 then failure
      else
        let args_len ← read_u32_le buf off2
        let start ← ofOption (checked_add off2 4)
        let args_end ← ofOption (checked_add start args_len)
        if reported_len < args_end then failure
        else
          let start ← add off2 4
          ofOption (get buf start args_end)

/-- The syscall: from a buffer and an offset, its result and the buffer it wrote. -/
abbrev LoadScript (ε : Type) : Type := Buffer → Nat → Except ε Nat × Buffer

def program_entry {ε : Type} (load_script : LoadScript ε) : Except Panic Int := do
  let (result, buf) := load_script (List.replicate SCRIPT_BUF_LEN 0) 0
  match result with
  | .error _ => return ERROR_LOAD_SCRIPT
  | .ok len =>
    let window ← sliceTo buf (min len SCRIPT_BUF_LEN)
    match ← (parse_script_args window len).run with
    | none => return ERROR_MALFORMED_SCRIPT
    | some script =>
      match ← validate_type_args script with
      | .ok () => return 0
      | .error code => return code

/-- What the syscall does for a script of these bytes: it writes what fits into the buffer, and
    its length is that of the script; where that does not fit, it may fail instead. -/
structure Loads {ε : Type} (load_script : LoadScript ε) (script : Buffer) : Prop where
  fits : ∀ buf, script.length ≤ buf.length →
    load_script buf 0 = (.ok script.length, script ++ buf.drop script.length)
  long : ∀ buf len, buf.length < script.length → (load_script buf 0).1 = .ok len → len = script.length
  keeps : ∀ buf, (load_script buf 0).2.length = buf.length

/-! ### No panic -/

variable {buf : Buffer} {start : Nat}

theorem exists_four {bytes : Buffer} (h : bytes.length = 4) :
    ∃ b0 b1 b2 b3, bytes = [b0, b1, b2, b3] := by
  match bytes, h with
  | [b0, b1, b2, b3], _ => exact ⟨b0, b1, b2, b3, rfl⟩

/-- A word within a slice is read; one that reaches past it is `None`. -/
theorem read_u32_le_run (hstart : start + 4 < usizeLimit) :
    (read_u32_le buf start).run = .ok
      (if start + 4 ≤ buf.length then some (unpackUint (slice buf start (start + 4))) else none) := by
  unfold read_u32_le
  rw [add_of_lt hstart]
  split
  · next hstop =>
    obtain ⟨b0, b1, b2, b3, hbytes⟩ :=
      exists_four ((length_slice hstop).trans (Nat.add_sub_cancel_left start 4))
    have hget := get_of_le (Nat.le_add_right start 4) hstop
    rw [hbytes] at hget ⊢
    change (ofOption (get buf start (start + 4)) >>= _).run = _
    rw [hget]
    rfl
  · next hpast =>
    have hget : get buf start (start + 4) = none := if_neg fun h => hpast h.2
    change (ofOption (get buf start (start + 4)) >>= _).run = _
    rw [hget]
    rfl

theorem read_u32_le_safe (hstart : start + 4 < usizeLimit) :
    (read_u32_le buf start).Safe (· < 2 ^ 32) := by
  refine ⟨_, read_u32_le_run hstart, fun word hword => ?_⟩
  split at hword
  · next hstop =>
    obtain rfl := Option.some.inj hword
    have hword := unpackUint_lt (slice buf start (start + 4))
    rwa [length_slice hstop, Nat.add_sub_cancel_left] at hword
  · cases hword

/-- No buffer and no reported length make the parser panic. -/
theorem parse_script_args_safe (buf : Buffer) (reported_len : Nat) :
    (parse_script_args buf reported_len).Safe fun _ => True := by
  unfold parse_script_args
  split
  · exact safe_failure
  refine (read_u32_le_safe (by decide)).bind fun total_size _ => ?_
  split
  · exact safe_failure
  refine (read_u32_le_safe (by decide)).bind fun off0 _ => ?_
  refine (read_u32_le_safe (by decide)).bind fun off1 _ => ?_
  refine (read_u32_le_safe (by decide)).bind fun off2 hoff2 => ?_
  split
  · exact safe_failure
  -- An offset and a length of four bytes each stay far below the word.
  have hadd : off2 + 4 < usizeLimit := by
    unfold usizeLimit
    omega
  refine (read_u32_le_safe hadd).bind fun args_len _ => ?_
  refine (safe_ofOption (p := fun _ => True) fun _ _ => trivial).bind fun first _ => ?_
  refine (safe_ofOption (p := fun _ => True) fun _ _ => trivial).bind fun args_end _ => ?_
  split
  · exact safe_failure
  refine (safe_lift (p := fun _ => True) (add_of_lt hadd) trivial).bind fun first _ => ?_
  exact safe_ofOption fun _ _ => trivial

/-! ### Canonical scripts -/

/-- The words at the start of a table are its total and its offsets. -/
theorem word_of_layout {parts : List Buffer} {i : Nat} (htotal : totalSize parts < 2 ^ 32)
    (hi : i < (totalSize parts :: offsets (headerSize parts.length) parts).length) :
    (read_u32_le (layout parts) (4 * i)).run =
      .ok (some (totalSize parts :: offsets (headerSize parts.length) parts)[i]) := by
  have hlength := length_layout parts
  have hheader : headerSize parts.length ≤ totalSize parts := Nat.le_add_right ..
  rw [List.length_cons, length_offsets] at hi
  rw [headerSize] at hheader
  have hstop : 4 * i + 4 ≤ (layout parts).length := by omega
  have hword := word_packWords parts.flatten (words_lt htotal)
    (by rw [List.length_cons, length_offsets]; exact hi)
  rw [read_u32_le_run (by unfold usizeLimit; omega), if_pos hstop, slice, List.drop_take,
    Nat.add_sub_cancel_left, ← hword]
  rfl

variable {codeHash hashType args : Buffer}

/-- The fields of a `Script`, as its table holds them. -/
def fields (codeHash hashType args : Buffer) : List Buffer :=
  [codeHash, hashType, packUint 4 args.length ++ args]

theorem totalSize_fields :
    totalSize (fields codeHash hashType args) =
      16 + codeHash.length + hashType.length + 4 + args.length := by
  simp only [totalSize, fields, headerSize, List.length_cons, List.length_nil, List.flatten_cons,
    List.flatten_nil, List.length_append, length_packUint, List.append_nil]
  omega

/-- In a table of these fields the parser finds the content of the third one. -/
theorem parse_script_args_layout
    (htotal : totalSize (fields codeHash hashType args) < 2 ^ 32) :
    (parse_script_args (layout (fields codeHash hashType args))
      (layout (fields codeHash hashType args)).length).run = .ok (some args) := by
  have hsize := @totalSize_fields codeHash hashType args
  have hlength := length_layout (fields codeHash hashType args)
  obtain ⟨front, hfront, hlayout⟩ : ∃ front : Buffer,
      front.length = 16 + codeHash.length + hashType.length ∧
      layout (fields codeHash hashType args) = front ++ packUint 4 args.length ++ args := by
    refine ⟨packWords (totalSize (fields codeHash hashType args) ::
      offsets (headerSize 3) (fields codeHash hashType args)) ++ codeHash ++ hashType, ?_, ?_⟩
    · simp only [List.length_append, length_packWords, List.length_cons, length_offsets, fields,
        List.length_nil]
    · simp [layout, fields, List.append_assoc]
  have hword (i : Nat) (hi : i < 4) := @word_of_layout (fields codeHash hashType args) i htotal hi
  have hword0 : (read_u32_le (layout (fields codeHash hashType args)) 0).run =
      .ok (some (totalSize (fields codeHash hashType args))) := hword 0 (by decide)
  have hword1 : (read_u32_le (layout (fields codeHash hashType args)) 4).run = .ok (some 16) :=
    hword 1 (by decide)
  have hword2 : (read_u32_le (layout (fields codeHash hashType args)) 8).run =
      .ok (some (16 + codeHash.length)) := hword 2 (by decide)
  have hword3 : (read_u32_le (layout (fields codeHash hashType args)) 12).run =
      .ok (some (16 + codeHash.length + hashType.length)) := hword 3 (by decide)
  have hcount : (read_u32_le (layout (fields codeHash hashType args))
      (16 + codeHash.length + hashType.length)).run = .ok (some args.length) := by
    have hslice := slice_append front (packUint 4 args.length) args
    rw [hfront, length_packUint] at hslice
    rw [read_u32_le_run (by unfold usizeLimit; omega), if_pos (by omega), hlayout, hslice,
      unpackUint_packUint (by omega)]
  have hget : get (layout (fields codeHash hashType args))
      (16 + codeHash.length + hashType.length + 4)
      (16 + codeHash.length + hashType.length + 4 + args.length) = some args := by
    have hslice := slice_append (front ++ packUint 4 args.length) args []
    rw [List.append_nil, List.length_append, length_packUint, hfront] at hslice
    rw [get_of_le (by omega) (by omega), hlayout, hslice]
  unfold parse_script_args
  rw [if_neg (by omega)]
  refine (run_bind_some hword0).trans ?_
  rw [if_neg (by omega)]
  refine (run_bind_some hword1).trans ((run_bind_some hword2).trans ((run_bind_some hword3).trans ?_))
  rw [if_neg (by omega)]
  refine (run_bind_some hcount).trans ?_
  rw [checked_add_of_lt (by unfold usizeLimit; omega)]
  refine (run_bind_some rfl).trans ?_
  rw [checked_add_of_lt (by unfold usizeLimit; omega)]
  refine (run_bind_some rfl).trans ?_
  rw [if_neg (by omega), add_of_lt (by unfold usizeLimit; omega)]
  refine (run_bind_some rfl).trans ?_
  rw [hget]
  rfl

/-! ### The entry point -/

/-- The exit code that args lead to. -/
def exitCode (args : Buffer) : Int :=
  if args.length ≠ TYPE_ARGS_LEN then ERROR_TYPE_ARGS_LEN
  else if args[0]? ≠ some TYPE_ARGS_VERSION_V1 then ERROR_PROTOCOL_VERSION
  else 0

theorem validate_type_args_eq (args : Buffer) :
    validate_type_args args =
      .ok (if exitCode args = 0 then .ok () else .error (exitCode args)) := by
  unfold validate_type_args exitCode
  split
  · rfl
  · next hlength =>
    have hfirst : 0 < args.length := by
      rw [not_not.1 hlength]
      decide
    rw [index_of_lt hfirst, List.getElem?_eq_getElem hfirst]
    by_cases hversion : args[0] = TYPE_ARGS_VERSION_V1
    · simp [hversion, bind, Except.bind, pure, Except.pure]
    · simp [hversion, bind, Except.bind, pure, Except.pure, ERROR_PROTOCOL_VERSION]

theorem exitCode_eq_zero_iff :
    exitCode args = 0 ↔ args.length = TYPE_ARGS_LEN ∧ args[0]? = some TYPE_ARGS_VERSION_V1 := by
  unfold exitCode
  split_ifs with hlength hversion
  · simp [hlength, ERROR_TYPE_ARGS_LEN]
  · simp [hversion, ERROR_PROTOCOL_VERSION]
  · exact ⟨fun _ => ⟨not_not.1 hlength, not_not.1 hversion⟩, fun _ => rfl⟩

variable {ε : Type} {load_script : LoadScript ε} {script : Buffer}

/-- A script that fits the buffer ends with the exit code of its args. -/
theorem program_entry_fits (hloads : Loads load_script script)
    (hfits : script.length ≤ SCRIPT_BUF_LEN)
    (hparse : (parse_script_args script script.length).run = .ok (some args)) :
    program_entry load_script = .ok (exitCode args) := by
  have hload := hloads.fits (List.replicate SCRIPT_BUF_LEN 0) (by rwa [List.length_replicate])
  have hwindow : sliceTo (script ++ (List.replicate SCRIPT_BUF_LEN 0).drop script.length)
      (min script.length SCRIPT_BUF_LEN) = .ok script := by
    rw [Nat.min_eq_left hfits, sliceTo_of_le (by rw [List.length_append]; omega), List.take_left]
  unfold program_entry
  rw [hload]
  change (sliceTo _ _ >>= _) = _
  rw [hwindow]
  change ((parse_script_args script script.length).run >>= _) = _
  rw [hparse]
  change (validate_type_args args >>= _) = _
  rw [validate_type_args_eq]
  split
  · next hzero =>
    rw [hzero]
    rfl
  · rfl

/-- A script that does not fit ends with a failed load or as a malformed one. -/
theorem program_entry_long (hloads : Loads load_script script)
    (hlong : SCRIPT_BUF_LEN < script.length) :
    program_entry load_script = .ok ERROR_LOAD_SCRIPT ∨
      program_entry load_script = .ok ERROR_MALFORMED_SCRIPT := by
  have hkeeps := hloads.keeps (List.replicate SCRIPT_BUF_LEN 0)
  have hlen := hloads.long (List.replicate SCRIPT_BUF_LEN 0)
  unfold program_entry
  rw [List.length_replicate] at hkeeps hlen
  generalize load_script (List.replicate SCRIPT_BUF_LEN 0) 0 = loaded at hkeeps hlen
  obtain ⟨result, buf⟩ := loaded
  cases result with
  | error e => exact .inl rfl
  | ok len =>
    right
    obtain rfl := hlen len hlong rfl
    change (sliceTo _ _ >>= _) = _
    rw [Nat.min_eq_right hlong.le, sliceTo_of_le hkeeps.ge]
    change ((parse_script_args _ _).run >>= _) = _
    unfold parse_script_args
    rw [if_pos (.inl (by rw [List.length_take]; omega))]
    rfl

open cemp.ckb cemp.ckb.cighash

/-- The encoding of a script is the table of its fields. -/
theorem layout_of_encode {reader : Reader} {script : cighash.Script} {bytes : Buffer}
    (h : (ScriptCodec reader).encode script = .ok bytes) :
    totalSize (fields script.codeHash [script.hashType.byte] script.args) < 2 ^ 32 ∧
      bytes = layout (fields script.codeHash [script.hashType.byte] script.args) := by
  obtain ⟨parts, hparts, hlayout⟩ := bind_eq_ok h
  obtain ⟨first, rest, hcodeHash, hrest, rfl⟩ := Fields.cons_encode hparts
  obtain ⟨second, rest', hhashType, hrest', rfl⟩ := Fields.cons_encode hrest
  obtain ⟨third, rest'', hargs, hrest'', rfl⟩ := Fields.cons_encode hrest'
  obtain rfl := Except.ok.inj hrest''
  obtain rfl := Except.ok.inj hhashType
  obtain rfl := Except.ok.inj (Except.require_eq_ok_iff.1 hcodeHash).2
  obtain rfl := Except.ok.inj (Except.guard_eq_ok_iff.1 hargs).2
  exact encodeLayout_eq_ok.1 hlayout

/-- The exit code of a canonically encoded script is zero for 81 bytes of args that start with the
    version, and for no others. -/
theorem program_entry_eq_zero_iff {reader : Reader} {script : cighash.Script} {bytes : Buffer}
    (hencode : (ScriptCodec reader).encode script = .ok bytes) (hloads : Loads load_script bytes) :
    program_entry load_script = .ok 0 ↔
      script.args.length = TYPE_ARGS_LEN ∧ script.args[0]? = some TYPE_ARGS_VERSION_V1 := by
  obtain ⟨htotal, rfl⟩ := layout_of_encode hencode
  rw [← exitCode_eq_zero_iff]
  by_cases hfits : (layout (fields script.codeHash [script.hashType.byte] script.args)).length ≤
      SCRIPT_BUF_LEN
  · rw [program_entry_fits hloads hfits (parse_script_args_layout htotal), Except.ok.injEq]
  · have hcodeHash : script.codeHash.length = 32 := by
      obtain ⟨parts, hparts, -⟩ := bind_eq_ok hencode
      obtain ⟨first, rest, hcodeHash, -, -⟩ := Fields.cons_encode hparts
      exact (Except.require_eq_ok_iff.1 hcodeHash).1
    have hlong : script.args.length ≠ TYPE_ARGS_LEN := by
      rw [length_layout, totalSize_fields, hcodeHash, List.length_singleton, SCRIPT_BUF_LEN] at hfits
      rw [TYPE_ARGS_LEN]
      omega
    rw [exitCode_eq_zero_iff]
    refine ⟨fun hzero => ?_, fun hargs => absurd hargs.1 hlong⟩
    obtain hload | hmalformed := program_entry_long hloads (not_le.1 hfits)
    · rw [hload] at hzero
      cases hzero
    · rw [hmalformed] at hzero
      cases hzero

/-- The contract and the client agree: the parser never panics, a canonically encoded script is
    accepted for args of 81 bytes and version 1 only, and the args the client builds are such. -/
theorem type_script_agrees {ε : Type} :
    (∀ buf reported_len, ∃ result, (parse_script_args buf reported_len).run = .ok result) ∧
    (∀ (reader : Reader) (script : cighash.Script) (bytes : Buffer) (load_script : LoadScript ε),
      (ScriptCodec reader).encode script = .ok bytes → Loads load_script bytes →
      (program_entry load_script = .ok 0 ↔
        script.args.length = 81 ∧ script.args[0]? = some 1)) ∧
    ∀ routeTag conversationTag messageNonce : Buffer, routeTag.length = 32 →
      conversationTag.length = 16 → messageNonce.length = 16 →
      ∃ args, buildMessageTypeArgs routeTag conversationTag messageNonce = .ok args ∧
        ∀ (reader : Reader) (script : cighash.Script) (bytes : Buffer) (load_script : LoadScript ε),
          script.args = args → (ScriptCodec reader).encode script = .ok bytes →
          Loads load_script bytes → program_entry load_script = .ok 0 := by
  refine ⟨fun buf reported_len => ?_, fun reader script bytes load_script => program_entry_eq_zero_iff,
    fun routeTag conversationTag messageNonce hroute hconversation hnonce => ?_⟩
  · obtain ⟨result, hrun, -⟩ := parse_script_args_safe buf reported_len
    exact ⟨result, hrun⟩
  · have hsized : MessageTypeArgs.Sized ⟨routeTag, conversationTag, messageNonce⟩ :=
      ⟨hroute, hconversation, hnonce⟩
    refine ⟨_, buildMessageTypeArgs_eq_ok_iff.2 ⟨hsized, rfl⟩,
      fun reader script bytes load_script hargs hencode hloads => ?_⟩
    rw [program_entry_eq_zero_iff hencode hloads, hargs]
    exact ⟨hsized.length_layout, rfl⟩

/-- The syscall of a script: it writes as much of it as fits, and fails where that is not all. -/
def loadFrom (script : Buffer) : LoadScript Nat := fun buf _ =>
  if script.length ≤ buf.length then (.ok script.length, script ++ buf.drop script.length)
  else (.error script.length, script.take buf.length)

theorem loadFrom_loads (script : Buffer) : Loads (loadFrom script) script where
  fits _ h := if_pos h
  long buf len h hload := by
    rw [loadFrom, if_neg (by omega)] at hload
    cases hload
  keeps buf := by
    unfold loadFrom
    split
    · rw [List.length_append, List.length_drop]
      omega
    · rw [List.length_take]
      omega

def sampleScript : cighash.Script :=
  ⟨List.replicate 32 7, .data1, MessageTypeArgs.layout
    ⟨List.replicate 32 1, List.replicate 16 2, List.replicate 16 3⟩⟩

def sampleScriptBytes : Buffer :=
  layout (fields sampleScript.codeHash [sampleScript.hashType.byte] sampleScript.args)

theorem type_script_agrees_sample : program_entry (loadFrom sampleScriptBytes) = .ok 0 :=
  ((@type_script_agrees Nat).2.1 offsetReader sampleScript sampleScriptBytes
    (loadFrom sampleScriptBytes) rfl (loadFrom_loads _)).2 ⟨rfl, rfl⟩

end cemp_message_type
