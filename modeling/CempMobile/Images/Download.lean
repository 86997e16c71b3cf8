import CempMobile.Images.Receive
import CempMobile.Lib.Results
import CempMobile.Lib.Runs

open cemp.core cemp.ckb

namespace cemp.images

/-! A download against a node that may answer anything: what it returns is checked, and which
    answers lead to the permanent verdict. -/

abbrev Answer : Type := Except Error LiveCellStatus

/-- A node that answers every question about a cell as it likes, and what it answered. The verdict
    on an attachment is no error of its own. -/
def nodeEffect : Program.Effect Op Error (List Answer) := fun _ op answers answer answers' =>
  match op with
  | .getLiveCell _ =>
    (∀ message, answer ≠ .error (.attachmentUnavailable message)) ∧ answers' = answers ++ [answer]
  | _ => answers' = answers

/-- The cipher has no verdict on an attachment either. -/
def AttachmentCipher.NoVerdict (crypto : AttachmentCipher) : Prop :=
  ∀ key nonce ciphertext aad message,
    crypto.aes256GcmDecrypt key nonce ciphertext aad ≠ .error (.attachmentUnavailable message)

/-- The answers to the cells of a chunk list up to the one that ends the download, and what the
    download of the chunks comes to. -/
inductive Fetched (deps : ReceiveDeps) :
    List OutPoint → List Answer → Except Error (List Bytes) → Prop where
  | nil : Fetched deps [] [] (.ok [])
  | live {outpoint outpoints cell answers chunks} :
    (deps.cellData cell.output.data).length ≤ ATTACHMENT_CHUNK_BYTES →
    Fetched deps outpoints answers (.ok chunks) →
    Fetched deps (outpoint :: outpoints) (.ok (.live cell) :: answers)
      (.ok (deps.cellData cell.output.data :: chunks))
  | later {outpoint outpoints cell answers e} :
    Fetched deps outpoints answers (.error e) →
    Fetched deps (outpoint :: outpoints) (.ok (.live cell) :: answers) (.error e)
  | large {outpoint outpoints cell message} :
    Fetched deps (outpoint :: outpoints) [.ok (.live cell)] (.error (.other message))
  | dead {outpoint outpoints message} :
    Fetched deps (outpoint :: outpoints) [.ok .dead] (.error (.attachmentUnavailable message))
  | unknown {outpoint outpoints message} :
    Fetched deps (outpoint :: outpoints) [.ok .unknown] (.error (.attachmentUnavailable message))
  | failed {outpoint outpoints e} : (∀ message, e ≠ .attachmentUnavailable message) →
    Fetched deps (outpoint :: outpoints) [.error e] (.error e)

variable {deps : ReceiveDeps} {outpoints : List OutPoint} {answers answers' : List Answer}
  {out : Except Error (List Bytes)}

theorem downloadChunks_runs {i : Nat}
    (hrun : Program.Runs nodeEffect (downloadChunks deps i outpoints) answers out answers') :
    ∃ asked, answers' = answers ++ asked ∧ Fetched deps outpoints asked out := by
  induction outpoints generalizing i answers out with
  | nil =>
    obtain ⟨rfl, rfl⟩ := hrun
    exact ⟨[], (List.append_nil _).symm, .nil⟩
  | cons outpoint outpoints ih =>
    unfold downloadChunks at hrun
    obtain ⟨status, mid, hasked, hrun⟩ | ⟨e, hasked, rfl⟩ := Program.runs_bind.1 hrun
    · obtain ⟨-, rfl⟩ := Program.runs_perform.1 hasked
      cases status with
      | live cell =>
        simp only at hrun
        split at hrun
        · obtain ⟨rfl, rfl⟩ := hrun
          exact ⟨_, rfl, .large⟩
        · next hsize =>
          obtain ⟨chunks, mid, hrest, rfl, rfl⟩ | ⟨e, hrest, rfl⟩ := Program.runs_bind.1 hrun
          · obtain ⟨asked, rfl, hfetched⟩ := ih hrest
            exact ⟨_, by rw [List.append_assoc]; rfl, .live (not_lt.1 hsize) hfetched⟩
          · obtain ⟨asked, rfl, hfetched⟩ := ih hrest
            exact ⟨_, by rw [List.append_assoc]; rfl, .later hfetched⟩
      | dead =>
        obtain ⟨rfl, rfl⟩ := hrun
        exact ⟨_, rfl, .dead⟩
      | unknown =>
        obtain ⟨rfl, rfl⟩ := hrun
        exact ⟨_, rfl, .unknown⟩
    · obtain ⟨hverdict, rfl⟩ := Program.runs_perform.1 hasked
      exact ⟨_, rfl, .failed fun message h => hverdict message (h ▸ rfl)⟩

/-- Chunks that were fetched come from live cells, one for each outpoint, and none is too large. -/
theorem Fetched.live_of_ok {chunks : List Bytes} (h : Fetched deps outpoints answers (.ok chunks)) :
    ∃ cells : List Cell, answers = cells.map (fun cell => .ok (.live cell)) ∧ cells.length = outpoints.length ∧
      chunks = cells.map (fun cell => deps.cellData cell.output.data) ∧
      ∀ chunk ∈ chunks, chunk.length ≤ ATTACHMENT_CHUNK_BYTES := by
  generalize hout : (.ok chunks : Except Error (List Bytes)) = out at h
  induction h generalizing chunks with
  | nil =>
    obtain rfl := Except.ok.inj hout
    exact ⟨[], rfl, rfl, rfl, nofun⟩
  | @live outpoint outpoints cell answers rest hsize _ ih =>
    obtain rfl := Except.ok.inj hout
    obtain ⟨cells, rfl, hlength, rfl, hsizes⟩ := ih rfl
    refine ⟨cell :: cells, rfl, congrArg (· + 1) hlength, rfl, ?_⟩
    exact List.forall_mem_cons.2 ⟨hsize, hsizes⟩
  | later => cases hout
  | large => cases hout
  | dead => cases hout
  | unknown => cases hout
  | failed => cases hout

/-- The permanent verdict follows a cell that is dead or unknown. -/
theorem Fetched.gone {message : String}
    (h : Fetched deps outpoints answers (.error (.attachmentUnavailable message))) :
    .ok .dead ∈ answers ∨ .ok .unknown ∈ answers := by
  generalize hout : (.error (.attachmentUnavailable message) : Except Error (List Bytes)) = out at h
  induction h with
  | nil => cases hout
  | live => cases hout
  | later _ ih => exact (ih hout).imp (List.mem_cons_of_mem _) (List.mem_cons_of_mem _)
  | large => cases hout
  | dead => exact .inl (List.mem_singleton.2 rfl)
  | unknown => exact .inr (List.mem_singleton.2 rfl)
  | failed hverdict => exact absurd (Except.error.inj hout).symm (hverdict message)

/-- A cell that is unknown leads to the verdict, although no cell was dead. -/
theorem Fetched.verdict_of_unknown (h : Fetched deps outpoints answers out)
    (hunknown : .ok .unknown ∈ answers) :
    (∃ message, out = .error (.attachmentUnavailable message)) ∧ .ok .dead ∉ answers := by
  induction h with
  | nil => cases hunknown
  | live _ _ ih =>
    obtain ⟨⟨message, hout⟩, -⟩ := ih (by simpa using hunknown)
    cases hout
  | later _ ih =>
    obtain ⟨hmessage, hdead⟩ := ih (by simpa using hunknown)
    exact ⟨hmessage, by simpa using hdead⟩
  | large => simp at hunknown
  | dead => simp at hunknown
  | unknown => exact ⟨⟨_, rfl⟩, by simp⟩
  | failed => simp at hunknown

/-- What was returned of a joined ciphertext fits all that the manifest declares. -/
structure Opened (crypto : AttachmentCipher) (manifest : AttachmentManifestV1)
    (attachmentKey ciphertext : Bytes) (downloaded : DownloadedAttachment) : Prop where
  encryptedSize : ciphertext.length = manifest.encrypted_size
  cipherHash : crypto.ckbHash ciphertext = manifest.cipher_hash
  decrypts : decryptAttachment crypto ciphertext manifest.encryption_nonce attachmentKey
    manifest.attachment_id = .ok downloaded.bytes
  plaintextSize : downloaded.bytes.length = manifest.plaintext_size
  contentHash : crypto.ckbHash downloaded.bytes = manifest.content_hash
  sniffed : sniffImageFormat downloaded.bytes ≠ .unknown ∧
    "image/" ++ (sniffImageFormat downloaded.bytes).text = manifest.mime_type
  mimeType : downloaded.mimeType = manifest.mime_type

variable {crypto : AttachmentCipher} {manifest : AttachmentManifestV1}
  {attachmentKey ciphertext : Bytes} {downloaded : DownloadedAttachment}

theorem checkManifest_mime {limits : ImageLimits} (h : checkManifest manifest limits = .ok) :
    manifest.mime_type ∈ ["image/webp", "image/jpeg", "image/png"] := by
  by_contra hmime
  unfold checkManifest at h
  split_ifs at h

theorem openAttachment_ok (hcheck : checkManifest manifest DEFAULT_IMAGE_LIMITS = .ok)
    (h : openAttachment crypto manifest attachmentKey ciphertext = .ok downloaded) :
    Opened crypto manifest attachmentKey ciphertext downloaded := by
  unfold openAttachment at h
  obtain ⟨hencrypted, h⟩ := Except.guard_eq_ok_iff.1 h
  obtain ⟨hcipher, h⟩ := Except.guard_eq_ok_iff.1 h
  obtain ⟨plaintext, hdecrypts, h⟩ := Except.bind_eq_ok_iff.1 h
  obtain ⟨hplaintext, h⟩ := Except.guard_eq_ok_iff.1 h
  obtain ⟨hcontent, h⟩ := Except.guard_eq_ok_iff.1 h
  obtain ⟨hmime, h⟩ := Except.guard_eq_ok_iff.1 h
  obtain rfl := Except.ok.inj h
  -- The manifest names one of three formats, so the sniffed one is known.
  have hknown : sniffImageFormat plaintext ≠ .unknown := fun hunknown => by
    rw [if_pos hunknown, not_not] at hmime
    have hdeclared := checkManifest_mime hcheck
    rw [← hmime] at hdeclared
    exact absurd hdeclared (by decide)
  rw [if_neg hknown] at hmime
  exact ⟨not_not.1 hencrypted, not_not.1 hcipher, hdecrypts, not_not.1 hplaintext,
    not_not.1 hcontent, ⟨hknown, not_not.1 hmime⟩, rfl⟩

theorem openAttachment_noVerdict (hcrypto : crypto.NoVerdict) (message : String) :
    openAttachment crypto manifest attachmentKey ciphertext ≠
      .error (.attachmentUnavailable message) := by
  intro h
  unfold openAttachment at h
  split at h
  · cases h
  split at h
  · cases h
  cases hdecrypts : decryptAttachment crypto ciphertext manifest.encryption_nonce attachmentKey
      manifest.attachment_id with
  | error e =>
    rw [hdecrypts] at h
    obtain rfl := Except.error.inj h
    unfold decryptAttachment at hdecrypts
    split at hdecrypts
    · cases hdecrypts
    · exact hcrypto _ _ _ _ _ hdecrypts
  | ok plaintext =>
    rw [hdecrypts] at h
    change (if _ then _ else _) = _ at h
    split at h
    · cases h
    split at h
    · cases h
    dsimp only at h
    generalize (if sniffImageFormat plaintext = .unknown then "unknown"
      else "image/" ++ (sniffImageFormat plaintext).text) = sniffedMime at h
    split at h
    · cases h
    · cases h

/-- What a download is to come to, after these answers of the node. -/
structure DownloadSound (deps : ReceiveDeps) (manifest : AttachmentManifestV1)
    (attachmentKey : Bytes) (answers : List Answer) (out : Except Error DownloadedAttachment) :
    Prop where
  /-- Bytes are returned of live cells within the chunk size, and fit the accepted manifest. -/
  returned : ∀ downloaded, out = .ok downloaded →
    checkManifest manifest DEFAULT_IMAGE_LIMITS = .ok ∧
      ∃ cells : List Cell, answers = cells.map (fun cell => .ok (.live cell)) ∧
        cells.length = manifest.chunk_outpoints.length ∧
        (∀ cell ∈ cells, (deps.cellData cell.output.data).length ≤ ATTACHMENT_CHUNK_BYTES) ∧
        Opened deps.crypto manifest attachmentKey
          (joinChunks (cells.map fun cell => deps.cellData cell.output.data)) downloaded
  /-- The permanent verdict is about a dead cell. -/
  verdict : ∀ message, out = .error (.attachmentUnavailable message) → .ok .dead ∈ answers

/-- A download is as it is to be unless the node answers that it does not know a chunk cell. -/
theorem download_sound_iff {answers : List Answer} {out : Except Error DownloadedAttachment}
    (hcrypto : deps.crypto.NoVerdict)
    (hrun : Program.Runs nodeEffect (downloadAttachment deps manifest attachmentKey) [] out answers) :
    DownloadSound deps manifest attachmentKey answers out ↔ .ok .unknown ∉ answers := by
  unfold downloadAttachment at hrun
  cases hcheck : checkManifest manifest DEFAULT_IMAGE_LIMITS with
  | fail reason =>
    rw [hcheck] at hrun
    obtain ⟨rfl, rfl⟩ := hrun
    exact ⟨fun _ => nofun, fun _ => ⟨nofun, nofun⟩⟩
  | ok =>
    rw [hcheck] at hrun
    obtain ⟨chunks, mid, hchunks, hopen⟩ | ⟨e, hchunks, rfl⟩ := Program.runs_bind.1 hrun
    · obtain ⟨asked, rfl, hfetched⟩ := downloadChunks_runs hchunks
      obtain ⟨hout, rfl⟩ := Program.runs_ofExcept.1 hopen
      obtain ⟨cells, hcells, hlength, rfl, hsizes⟩ := hfetched.live_of_ok
      rw [hcells]
      refine ⟨fun _ => by simp, fun _ => ⟨fun downloaded hdownloaded => ?_, fun message hmessage => ?_⟩⟩
      · refine ⟨hcheck, cells, rfl, hlength, fun cell hmem => ?_, ?_⟩
        · exact hsizes _ (List.mem_map_of_mem hmem)
        · exact openAttachment_ok hcheck (hout.symm.trans hdownloaded)
      · exact absurd (hout.symm.trans hmessage) (openAttachment_noVerdict hcrypto message)
    · obtain ⟨asked, rfl, hfetched⟩ := downloadChunks_runs hchunks
      constructor
      · intro h hunknown
        obtain ⟨⟨message, hmessage⟩, hdead⟩ := hfetched.verdict_of_unknown hunknown
        obtain rfl := Except.error.inj hmessage
        exact hdead (h.verdict message rfl)
      · intro hunknown
        refine ⟨nofun, fun message hmessage => ?_⟩
        obtain rfl := Except.error.inj hmessage
        exact hfetched.gone.resolve_right hunknown

/-- A node with one answer to every question. -/
def sameAnswer (status : LiveCellStatus) : Program.Handler Op Error (List Answer) :=
  fun _ op answers =>
    match op with
    | .getLiveCell _ => (.ok status, answers ++ [.ok status])
    | _ => (.error (.other "not reachable"), answers)

theorem runs_sameAnswer {α : Type} (status : LiveCellStatus) (p : Prog α) (answers : List Answer) :
    Program.Runs nodeEffect p answers (Program.run (sameAnswer status) p answers).1
      (Program.run (sameAnswer status) p answers).2 := by
  refine Program.runs_of_run (sameAnswer status) id ?_ p answers
  intro β op answers
  cases op <;> first | rfl | exact ⟨nofun, rfl⟩

theorem sampleCipher_noVerdict : sampleCipher.NoVerdict := by
  intro _ _ _ _ _ h
  cases h

/-- The cell of the sample image's only chunk. -/
def sampleChunk : LiveCellStatus :=
  .live ⟨⟨7, 0⟩, 0, ⟨0, .data, []⟩, none, .bytes (sampleBytes ++ List.replicate 16 0)⟩

theorem download_sound_sample :
    DownloadSound sampleReceiver (sealedManifest 8) sampleKey [.ok sampleChunk]
      (.ok (sealedImage 8).downloaded) := by
  have hrun : Program.Runs nodeEffect
      (downloadAttachment sampleReceiver (sealedManifest 8) sampleKey) []
      (.ok (sealedImage 8).downloaded) [.ok sampleChunk] :=
    runs_sameAnswer sampleChunk _ _
  exact (download_sound_iff sampleCipher_noVerdict hrun).2 (by simp [sampleChunk])

/-- A node that does not know the cell: the verdict is permanent, and no cell was dead. -/
theorem unknown_cell_permanent : ∃ message,
    Program.Runs nodeEffect (downloadAttachment sampleReceiver (sealedManifest 8) sampleKey) []
        (.error (.attachmentUnavailable message)) [.ok .unknown] ∧
      ¬DownloadSound sampleReceiver (sealedManifest 8) sampleKey [.ok .unknown]
        (.error (.attachmentUnavailable message)) := by
  refine ⟨"attachment chunk 0 is not live (reclaimed or pruned)",
    runs_sameAnswer .unknown _ _, fun h => ?_⟩
  have hdead := h.verdict _ rfl
  simp at hdead

end cemp.images
