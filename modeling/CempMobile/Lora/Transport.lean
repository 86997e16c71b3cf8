import CempMobile.Ckb.Op

open cemp.core cemp.ckb

namespace cemp.lora

/-- One entry of the CRC-32 table: eight steps of the polynomial `0xEDB88320`. -/
def crc32Entry (n : UInt32) : UInt32 :=
  (List.range 8).foldl (fun c _ => if c &&& 1 = 1 then (0xedb88320 : UInt32) ^^^ (c >>> 1) else c >>> 1) n

/-- Standard zlib CRC-32. -/
def crc32 (bytes : Bytes) : Nat :=
  let crc := bytes.foldl
    (fun crc b => crc32Entry ((crc ^^^ b.toUInt32) &&& 0xff) ^^^ (crc >>> 8)) (0xffffffff : UInt32)
  (crc ^^^ 0xffffffff).toNat

example : crc32 [0x31, 0x32, 0x33, 0x34, 0x35, 0x36, 0x37, 0x38, 0x39] = 0xcbf43926 := by
  decide +kernel

def hexDigit? (c : Char) : Option Nat :=
  if '0' ≤ c ∧ c ≤ '9' then some (c.toNat - '0'.toNat)
  else if 'a' ≤ c ∧ c ≤ 'f' then some (c.toNat - 'a'.toNat + 10)
  else if 'A' ≤ c ∧ c ≤ 'F' then some (c.toNat - 'A'.toNat + 10)
  else none

/-- Decodes pairs of digits. -/
def hexPairs : List Char → Option Bytes
  | [] => some []
  | [_] => none
  | high :: low :: rest => do
    let high ← hexDigit? high
    let low ← hexDigit? low
    let bytes ← hexPairs rest
    return UInt8.ofNat (16 * high + low) :: bytes

/-- Strict hex decoding: an empty text is refused too. -/
def hexToBytes (hex : String) : Option Bytes :=
  if hex.toList = [] then none else hexPairs hex.toList

/-- An object of the gateway that passed its checks. -/
structure LoraObject where
  id : String
  cellData : Bytes
  crc32 : Nat
  receivedAt : ℚ
  deriving DecidableEq

/-- Objects of a poll in the order they were listed, and the merged cursor. -/
structure LoraPollResult where
  objects : List LoraObject
  cursor : Option String

/-- The parsed body of one query. -/
structure LoraPage where
  objects : List Json
  cursor : String

def DEFAULT_MAX_OBJECTS_PER_POLL : Nat := 64

/-- A configured transport. `validateEnvelope` is the codec's check of an envelope without keys. -/
structure LoraTransport where
  baseUrl : String
  routeTags : List Bytes
  validateEnvelope : Bytes → Bool
  maxObjectsPerPoll : Nat

/-- `baseUrl.replace(/\/+$/, "")`. -/
def stripTrailingSlashes (baseUrl : String) : String :=
  String.ofList (baseUrl.toList.reverse.dropWhile (· == '/')).reverse

def LoraTransport.create (baseUrl : String) (routeTags : List Bytes)
    (validateEnvelope : Bytes → Bool) : Except Error LoraTransport :=
  let baseUrl := stripTrailingSlashes baseUrl
  if baseUrl = "" then .error (.lora "lora: baseUrl must not be empty" none)
  else match routeTags.find? fun tag => tag.length ≠ 32 with
  | some tag =>
    .error (.lora ("lora: route tags must be 32 bytes, got " ++ toString tag.length) none)
  | none => .ok ⟨baseUrl, routeTags, validateEnvelope, DEFAULT_MAX_OBJECTS_PER_POLL⟩

/-- `encodeURIComponent`. -/
def encodeURIComponent (text : String) : String :=
  String.ofList (text.toList.flatMap fun c =>
    if c.isAlphanum || c ∈ ['-', '_', '.', '!', '~', '*', '\'', '(', ')'] then [c]
    else c.toString.toUTF8.data.toList.flatMap fun b =>
      ['%', (Nat.digitChar (b.toNat / 16)).toUpper, (Nat.digitChar (b.toNat % 16)).toUpper])

def objectsPath (routeTag : Bytes) (since : Option String) : String :=
  "/cemp/objects?route=" ++ bytesToHex routeTag ++
    match since with
    | none => ""
    | some cursor => "&since=" ++ encodeURIComponent cursor

/-- One query. Whatever fails is a transport error. -/
def fetchJson (transport : LoraTransport) (routeTag : Bytes) (since : Option String) : Prog Json := do
  let path := objectsPath routeTag since
  let response ← Program.attempt (call (.fetchObjects transport.baseUrl routeTag since))
  match response with
  | .error e => throw (.lora ("lora: request to " ++ path ++ " failed: " ++ e.message) none)
  | .ok response =>
    if ¬response.ok then
      throw (.lora ("lora: gateway returned HTTP " ++ toString response.status ++ " for " ++ path)
        (some response.status))
    else match response.body with
    | none => throw (.lora "lora: gateway returned a non-JSON body" (some response.status))
    | some body => return body

/-- The shape of the body. Its entries are not looked at. -/
def parseObjectsResponse (body : Json) : Except Error LoraPage :=
  match body with
  | .object _ | .array _ =>
    match body.property "objects" with
    | some (.array objects) =>
      match body.property "cursor" with
      | some (.string cursor) => .ok ⟨objects, cursor⟩
      | _ => .error (.lora "lora: /cemp/objects response has no string cursor" none)
    | _ => .error (.lora "lora: /cemp/objects response has no objects array" none)
  | _ => .error (.lora "lora: /cemp/objects returned a non-object body" none)

/-- `/^[0-9a-fA-F]\x7b32\x7d$/`. -/
def isObjectId (id : String) : Bool :=
  id.toList.length == 32 && id.toList.all fun c => (hexDigit? c).isSome

/-- Validates one entry; a malformed one is dropped. -/
def sanitizeObject (validateEnvelope : Bytes → Bool) (entry : Json) : Option LoraObject :=
  match entry.property "id", entry.property "bytes_hex", entry.property "crc32",
    entry.property "received_at" with
  | some (.string id), some (.string bytesHex), some (.number crc), some (.number receivedAt) =>
    if ¬isObjectId id then none
    else match hexToBytes bytesHex with
    | none => none
    | some cellData =>
      if V1_LIMITS.maxEnvelopeBytes < cellData.length then none
      else if crc.den ≠ 1 ∨ crc < 0 ∨ 0xffffffff < crc then none
      else if (cemp.lora.crc32 cellData : ℚ) ≠ crc then none
      else if ¬validateEnvelope cellData then none
      else some ⟨String.ofList (id.toList.map Char.toLower), cellData, crc.num.toNat, receivedAt⟩
  | _, _, _, _ => none

/-- Takes up an entry that is valid, unless its id was listed before or the cap is reached. -/
def takeEntry (validateEnvelope : Bytes → Bool) (maxObjectsPerPoll : Nat)
    (objects : List LoraObject) (entry : Json) : List LoraObject :=
  match sanitizeObject validateEnvelope entry with
  | none => objects
  | some object =>
    if objects.any (·.id == object.id) then objects
    else if maxObjectsPerPoll ≤ objects.length then objects
    else objects ++ [object]

/-- The UTF-16 code units of a text, by which it is compared. -/
def codeUnits (text : String) : List Nat :=
  text.toList.flatMap fun c =>
    if c.toNat < 0x10000 then [c.toNat]
    else [0xd800 + (c.toNat - 0x10000) / 0x400, 0xdc00 + (c.toNat - 0x10000) % 0x400]

/-- The larger of the merged cursor and that of a page. An empty one does not count. -/
def mergeCursor (cursor : Option String) (pageCursor : String) : Option String :=
  if pageCursor = "" then cursor
  else match cursor with
  | none => some pageCursor
  | some merged => if codeUnits merged < codeUnits pageCursor then some pageCursor else cursor

/-- Merges one page into the result of a poll. -/
def mergePage (validateEnvelope : Bytes → Bool) (maxObjectsPerPoll : Nat) (result : LoraPollResult)
    (page : LoraPage) : LoraPollResult :=
  ⟨page.objects.foldl (takeEntry validateEnvelope maxObjectsPerPoll) result.objects,
    mergeCursor result.cursor page.cursor⟩

/-- The queries of a poll, one route tag after the other, all past the same cursor. -/
def pollRoutes (transport : LoraTransport) (since : Option String) :
    List Bytes → LoraPollResult → Prog LoraPollResult
  | [], result => return result
  | tag :: tags, result => do
    let body ← fetchJson transport tag since
    let page ← Program.ofExcept (parseObjectsResponse body)
    pollRoutes transport since tags
      (mergePage transport.validateEnvelope transport.maxObjectsPerPoll result page)

def LoraTransport.poll (transport : LoraTransport) (since : Option String) : Prog LoraPollResult :=
  pollRoutes transport since transport.routeTags ⟨[], none⟩

/-- The result of merging some pages. -/
def mergePages (validateEnvelope : Bytes → Bool) (maxObjectsPerPoll : Nat) (pages : List LoraPage) :
    LoraPollResult :=
  pages.foldl (mergePage validateEnvelope maxObjectsPerPoll) ⟨[], none⟩

section Merge

variable {validateEnvelope : Bytes → Bool} {maxObjectsPerPoll : Nat} {objects : List LoraObject}
  {entry : Json} {object : LoraObject}

/-- What is taken up stays, in order. -/
theorem takeEntry_grows (objects : List LoraObject) (entry : Json) :
    objects <+: takeEntry validateEnvelope maxObjectsPerPoll objects entry := by
  unfold takeEntry
  split
  · exact List.prefix_rfl
  · split_ifs
    · exact List.prefix_rfl
    · exact List.prefix_rfl
    · exact List.prefix_append ..

theorem takeEntries_grow (entries : List Json) (objects : List LoraObject) :
    objects <+: entries.foldl (takeEntry validateEnvelope maxObjectsPerPoll) objects := by
  induction entries generalizing objects with
  | nil => exact List.prefix_rfl
  | cons entry entries ih => exact (takeEntry_grows objects entry).trans (ih _)

theorem mergePages_grow (pages : List LoraPage) (result : LoraPollResult) :
    result.objects <+:
      (pages.foldl (mergePage validateEnvelope maxObjectsPerPoll) result).objects := by
  induction pages generalizing result with
  | nil => exact List.prefix_rfl
  | cons page pages ih =>
    exact (takeEntries_grow page.objects result.objects).trans
      (ih (mergePage validateEnvelope maxObjectsPerPoll result page))

/-- An id is taken up, or the poll has as many objects as it may have. -/
def TakenUp (maxObjectsPerPoll : Nat) (objects : List LoraObject) (id : String) : Prop :=
  (∃ taken ∈ objects, taken.id = id) ∨ maxObjectsPerPoll ≤ objects.length

theorem TakenUp.mono {objects' : List LoraObject} {id : String}
    (h : TakenUp maxObjectsPerPoll objects id) (hgrows : objects <+: objects') :
    TakenUp maxObjectsPerPoll objects' id := by
  obtain ⟨taken, hmem, hid⟩ | hfull := h
  · exact .inl ⟨taken, hgrows.subset hmem, hid⟩
  · exact .inr (hfull.trans hgrows.length_le)

theorem takeEntry_takenUp (hvalid : sanitizeObject validateEnvelope entry = some object) :
    TakenUp maxObjectsPerPoll (takeEntry validateEnvelope maxObjectsPerPoll objects entry)
      object.id := by
  unfold takeEntry
  rw [hvalid]
  simp only
  split
  next hlisted =>
    obtain ⟨taken, hmem, hid⟩ := List.any_eq_true.1 hlisted
    exact .inl ⟨taken, hmem, by simpa using hid⟩
  · split
    next hfull => exact .inr hfull
    · exact .inl ⟨object, List.mem_append_right _ (List.mem_singleton.2 rfl), rfl⟩

theorem takeEntries_takenUp {entries : List Json} (hmem : entry ∈ entries)
    (hvalid : sanitizeObject validateEnvelope entry = some object) (objects : List LoraObject) :
    TakenUp maxObjectsPerPoll
      (entries.foldl (takeEntry validateEnvelope maxObjectsPerPoll) objects) object.id := by
  induction entries generalizing objects with
  | nil => cases hmem
  | cons first entries ih =>
    rw [List.foldl_cons]
    obtain rfl | hrest := List.mem_cons.1 hmem
    · exact (takeEntry_takenUp hvalid).mono (takeEntries_grow entries _)
    · exact ih hrest _

/-- Every valid entry of the pages has its id taken up, unless the cap was reached. -/
theorem mergePages_takenUp {pages : List LoraPage} {page : LoraPage} (hpage : page ∈ pages)
    (hmem : entry ∈ page.objects) (hvalid : sanitizeObject validateEnvelope entry = some object) :
    TakenUp maxObjectsPerPoll (mergePages validateEnvelope maxObjectsPerPoll pages).objects
      object.id := by
  unfold mergePages
  generalize (⟨[], none⟩ : LoraPollResult) = result
  induction pages generalizing result with
  | nil => cases hpage
  | cons first pages ih =>
    rw [List.foldl_cons]
    obtain rfl | hrest := List.mem_cons.1 hpage
    · have htaken : TakenUp maxObjectsPerPoll
          (mergePage validateEnvelope maxObjectsPerPoll result page).objects object.id :=
        takeEntries_takenUp hmem hvalid result.objects
      exact htaken.mono (mergePages_grow pages _)
    · exact ih hrest _

end Merge

end cemp.lora
