import CempMobile.Ckb.MessageWire
import CempMobile.Lib.Utf8
import CempMobile.Vault.FormatText

/-! The cache of route tags that a locked probe reads. -/

open cemp.core

namespace cemp.app

/-- The hex route tags, and the outpoints (`txHash:index`) already notified about. -/
structure TagCache where
  tags : List String
  lastSeen : List String
  deriving DecidableEq, Repr

/-! ### The codec -/

def TagCache.toJson (cache : TagCache) : Json :=
  .object [("tags", .array (cache.tags.map .string)), ("lastSeen", .array (cache.lastSeen.map .string))]

/-- The document has no number, so that it does not matter how the runtime writes one. -/
def encodeTagCache (cache : TagCache) : Bytes :=
  Utf8.encode (secureVault.stringify (fun _ => []) cache.toJson)

def stringArray : Json → Option (List String)
  | .array items => items.mapM fun
    | .string value => some value
    | _ => none
  | _ => none

/-- There is no cache where the source throws. -/
def decodeTagCache (bytes : Bytes) : Option TagCache := do
  let parsed ← JSON.parse (Utf8.decode bytes)
  let tags ← parsed.property "tags" >>= stringArray
  let lastSeen ← parsed.property "lastSeen" >>= stringArray
  return ⟨tags, lastSeen⟩

/-- Outpoints in `current` that `lastSeen` does not already contain. -/
def newOutpoints (lastSeen current : List String) : List String :=
  current.filter fun outpoint => outpoint ∉ lastSeen

/-! ### Hex -/

/-- `Number.parseInt` of two characters, as a byte: what is no number is zero. -/
def parseByte (a b : Char) : UInt8 :=
  match JSON.hexDigit? a, JSON.hexDigit? b with
  | some high, some low => .ofNat (16 * high + low)
  | some digit, none => .ofNat digit
  | none, some digit =>
    if ckb.wire.isSpace a ∨ a = '+' then .ofNat digit else if a = '-' then .ofNat (256 - digit) else 0
  | none, none => 0

def bytePairs : List Char → Bytes
  | a :: b :: rest => parseByte a b :: bytePairs rest
  | _ => []

def hexToBytes (hex : String) : Bytes := bytePairs (ckb.wire.strip0x hex)

/-! ### The storage -/

/-- The keychain seam. What it has kept is `κ`. -/
structure RouteTagKeyStore (κ : Type) where
  wrap : Bytes → κ → Bytes × κ
  unwrap : Bytes → κ → Option Bytes

/-- What was wrapped last is unwrapped. -/
def RouteTagKeyStore.Unwraps {κ : Type} (keystore : RouteTagKeyStore κ) : Prop :=
  ∀ value kept, keystore.unwrap (keystore.wrap value kept).1 (keystore.wrap value kept).2 = some value

/-- The item under `ROUTE_TAG_BLOB_KEY`, and what the keychain keeps. -/
structure RouteTagStorage (κ : Type) where
  item : Option String
  kept : κ

namespace RouteTagCacheCore

variable {κ : Type} (keystore : RouteTagKeyStore κ)

/-- A blob that is not the cache's reads as one that was never cached. -/
def read (storage : RouteTagStorage κ) : Option TagCache := do
  let stored ← storage.item
  let bytes ← keystore.unwrap (hexToBytes stored) storage.kept
  decodeTagCache bytes

def write (storage : RouteTagStorage κ) (cache : TagCache) : RouteTagStorage κ :=
  let (blob, kept) := keystore.wrap (encodeTagCache cache) storage.kept
  ⟨some (bytesToHex blob), kept⟩

/-- The cache with other tags. -/
def withTags (cache : Option TagCache) (tags : List String) : TagCache :=
  ⟨tags, (cache.map (·.lastSeen)).getD []⟩

def writeTags (storage : RouteTagStorage κ) (tags : List String) : RouteTagStorage κ :=
  write keystore storage (withTags (read keystore storage) tags)

end RouteTagCacheCore

/-! ### What is written is read -/

theorem readable_strings (texts : List String) :
    secureVault.ReadableItems (texts.map Json.string) := by
  induction texts with
  | nil => trivial
  | cons text texts ih => exact ⟨trivial, ih⟩

theorem readable_toJson (cache : TagCache) : secureVault.Readable cache.toJson := by
  refine ⟨by simp, readable_strings _, readable_strings _, trivial⟩

theorem stringArray_map (texts : List String) :
    stringArray (.array (texts.map .string)) = some texts := by
  induction texts with
  | nil => rfl
  | cons text texts ih =>
    simp only [stringArray, List.map_cons, List.mapM_cons] at ih ⊢
    rw [ih]
    rfl

theorem decodeTagCache_encodeTagCache (cache : TagCache) :
    decodeTagCache (encodeTagCache cache) = some cache := by
  have htext : Utf8.decode (encodeTagCache cache) =
      secureVault.stringify (fun _ => []) cache.toJson := by
    refine Utf8.decode_encode_eq_iff.2 ?_
    simp only [TagCache.toJson, secureVault.stringify, List.head?_cons]
    decide
  unfold decodeTagCache
  rw [htext, secureVault.parse_stringify (readable_toJson cache)]
  have htags : cache.toJson.property "tags" = some (.array (cache.tags.map .string)) := rfl
  have hseen : cache.toJson.property "lastSeen" = some (.array (cache.lastSeen.map .string)) := rfl
  simp only [Option.bind_eq_bind, Option.bind_some, htags, hseen, stringArray_map]
  rfl

theorem parseByte_digitChar (b : UInt8) :
    parseByte (Nat.digitChar (b.toNat / 16)) (Nat.digitChar (b.toNat % 16)) = b := by
  have hb := b.toNat_lt
  have hbyte : 16 * (b.toNat / 16) + b.toNat % 16 = b.toNat := by omega
  unfold parseByte
  rw [JSON.hexDigit_digitChar (by omega), JSON.hexDigit_digitChar (by omega)]
  simp only [hbyte, UInt8.ofNat_toNat]

/-- No hex text of bytes has a prefix that would be stripped. -/
theorem strip0x_bytesToHex (bytes : Bytes) :
    ckb.wire.strip0x (bytesToHex bytes) = (bytesToHex bytes).toList := by
  unfold ckb.wire.strip0x bytesToHex
  rw [String.toList_ofList]
  split
  · next rest heq =>
    cases bytes with
    | nil => cases heq
    | cons b bytes =>
      have hne {n : Nat} (hn : n < 16) : Nat.digitChar n ≠ 'x' := by interval_cases n <;> decide
      have hsecond := (List.cons.inj (List.cons.inj heq).2).1
      exact absurd hsecond (hne (Nat.mod_lt _ (by decide)))
  · rfl

theorem hexToBytes_bytesToHex (bytes : Bytes) : hexToBytes (bytesToHex bytes) = bytes := by
  rw [hexToBytes, strip0x_bytesToHex, bytesToHex, String.toList_ofList]
  induction bytes with
  | nil => rfl
  | cons b bytes ih =>
    rw [List.flatMap_cons, List.cons_append, List.cons_append, List.nil_append, bytePairs, ih,
      parseByte_digitChar]

theorem RouteTagCacheCore.read_write {κ : Type} {keystore : RouteTagKeyStore κ}
    (hkeystore : keystore.Unwraps) (storage : RouteTagStorage κ) (cache : TagCache) :
    read keystore (write keystore storage cache) = some cache := by
  simp only [read, write, Option.bind_eq_bind, Option.bind_some, hexToBytes_bytesToHex, hkeystore _ _,
    decodeTagCache_encodeTagCache]

end cemp.app
