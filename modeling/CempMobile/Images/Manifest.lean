import CempMobile.Core.Codec

open cemp.core

namespace cemp.images

inductive SniffedFormat where
  | jpeg | png | webp | unknown
  deriving DecidableEq, Repr

def SniffedFormat.text : SniffedFormat → String
  | jpeg => "jpeg"
  | png => "png"
  | webp => "webp"
  | unknown => "unknown"

/-- The image format by its magic bytes. -/
def sniffImageFormat (bytes : Bytes) : SniffedFormat :=
  if [0xff, 0xd8, 0xff].isPrefixOf bytes then .jpeg
  else if [0x89, 0x50, 0x4e, 0x47, 0x0d, 0x0a, 0x1a, 0x0a].isPrefixOf bytes then .png
  else if [0x52, 0x49, 0x46, 0x46].isPrefixOf bytes &&
      [0x57, 0x45, 0x42, 0x50].isPrefixOf (bytes.drop 8) then .webp
  else .unknown

inductive ImageEncodeFormat where
  | webp | jpeg
  deriving DecidableEq, Repr

/-- What image preparation hands on: the compressed bytes, their content hash, and a thumbnail. -/
structure PreparedImage where
  bytes : Bytes
  mimeType : String
  width : Nat
  height : Nat
  thumbnail : Bytes
  contentHash : Bytes
  deriving DecidableEq, Repr

structure ImageLimits where
  maxLongestEdgePx : Nat
  preferredLongestEdgePx : Nat
  thumbnailLongestEdgePx : Nat
  maxAttachmentBytes : Nat
  preferredAttachmentBytes : Nat
  deriving DecidableEq, Repr

def DEFAULT_IMAGE_LIMITS : ImageLimits where
  maxLongestEdgePx := 1280
  preferredLongestEdgePx := 960
  thumbnailLongestEdgePx := 320
  maxAttachmentBytes := 1048576
  preferredAttachmentBytes := 512000

def ATTACHMENT_CHUNK_BYTES : Nat := 32768

/-- The checks a received manifest passes before it is stored or anything is fetched. -/
def checkManifest (manifest : AttachmentManifestV1) (limits : ImageLimits) : ValidationResult :=
  if manifest.chunk_outpoints.length = 0 then .fail "no chunk outpoints"
  else if manifest.plaintext_size = 0 ∨ limits.maxAttachmentBytes < manifest.plaintext_size then
    .fail ("declared plaintext size " ++ toString manifest.plaintext_size ++
      " outside the protocol limit")
  else if manifest.encrypted_size = 0 then .fail "declared encrypted size is not positive"
  else if manifest.encrypted_size ≠ manifest.plaintext_size + 16 then
    .fail "encrypted size does not equal plaintext size + GCM tag"
  else if manifest.chunk_outpoints.length ≠
      (manifest.encrypted_size + (ATTACHMENT_CHUNK_BYTES - 1)) / ATTACHMENT_CHUNK_BYTES then
    .fail ("chunk count " ++ toString manifest.chunk_outpoints.length ++
      " does not match the declared encrypted size")
  else if manifest.width = 0 ∨ manifest.height = 0 then .fail "declared dimensions are zero"
  else if limits.maxLongestEdgePx < max manifest.width manifest.height then
    .fail "declared dimensions exceed the longest-edge limit"
  else if 32768 < (manifest.thumbnail.map List.length).getD 0 then
    .fail "thumbnail exceeds 32 KiB"
  else if manifest.mime_type.utf8ByteSize = 0 ∨ 64 < manifest.mime_type.utf8ByteSize then
    .fail "mime type missing or oversized"
  else if manifest.mime_type ∉ ["image/webp", "image/jpeg", "image/png"] then
    .fail ("unsupported mime type " ++ manifest.mime_type)
  else if manifest.encryption_algorithm ≠ ⟨0x03, 1⟩ then
    .fail "unsupported attachment encryption algorithm"
  else match manifest.thumbnail with
  | none => .ok
  | some thumbnail =>
    if sniffImageFormat thumbnail = .unknown ∨
        "image/" ++ (sniffImageFormat thumbnail).text ≠ manifest.mime_type then
      .fail "thumbnail content does not match the declared mime type"
    else .ok

end cemp.images
