import CempMobile.Images.Manifest
import CempMobile.Lib.Binary64
import CempMobile.Lib.Runs

open cemp.core

namespace cemp.images

structure Dimensions where
  width : Nat
  height : Nat
  deriving DecidableEq, Repr

/-- A decoded image. `Pixels` is the codec's own pixel container. -/
structure DecodedImage (Pixels : Type) where
  width : Nat
  height : Nat
  pixels : Pixels
  deriving DecidableEq, Repr

def DecodedImage.dimensions {Pixels : Type} (image : DecodedImage Pixels) : Dimensions :=
  ⟨image.width, image.height⟩

/-- The calls of `ImageCodec`, which every platform brings its own of. -/
inductive CodecOp (Pixels : Type) : Type → Type where
  | decode (bytes : Bytes) : CodecOp Pixels (DecodedImage Pixels)
  | resize (image : DecodedImage Pixels) (width height : Nat) :
      CodecOp Pixels (DecodedImage Pixels)
  | encode (image : DecodedImage Pixels) (format : ImageEncodeFormat) (quality : Nat) :
      CodecOp Pixels Bytes

abbrev ImageProg (Pixels α : Type) : Type 1 := Program (CodecOp Pixels) Error α

/-- An image codec: how it answers, from an internal state of its own. -/
abbrev ImageCodec (Pixels σ : Type) : Type 1 := Program.Handler (CodecOp Pixels) Error σ

variable {Pixels σ : Type}

/-- `Math.round(value * factor)`, and one at least. -/
def scaled (value : Nat) (factor : ℚ) : Nat :=
  max 1 (round (Binary64.fl (value * factor))).toNat

/-- Fits an image inside a longest edge and keeps its aspect ratio. It never enlarges. -/
def planImageFit (source : Dimensions) (maxLongestEdgePx : Nat) : Except Error Dimensions :=
  if maxLongestEdgePx = 0 then
    .error (.other ("planImageFit: invalid max edge " ++ toString maxLongestEdgePx))
  else if source.width = 0 ∨ source.height = 0 then
    .error (.other ("planImageFit: invalid source dimensions " ++ toString source.width ++ "x" ++
      toString source.height))
  else
    let longest := max source.width source.height
    if longest ≤ maxLongestEdgePx then .ok source
    else
      let scale := Binary64.fl ((maxLongestEdgePx : ℚ) / longest)
      .ok ⟨scaled source.width scale, scaled source.height scale⟩

def planThumbnailFit (source : Dimensions) (limits : ImageLimits) : Except Error Dimensions :=
  planImageFit source limits.thumbnailLongestEdgePx

/-- The factors of the longest edge, in the order they are tried. -/
def EDGE_STEPS : List ℚ := [1, 4 / 5, 16 / 25, 1 / 2, 9 / 25]

/-- The qualities that are tried at each edge. -/
def QUALITY_STEPS : List Nat := [82, 68, 55, 42]

structure CompressResult where
  bytes : Bytes
  format : ImageEncodeFormat
  quality : Nat
  dimensions : Dimensions
  metPreferredTarget : Bool
  deriving DecidableEq, Repr

/-- An encoding that was tried. -/
structure Attempt where
  bytes : Bytes
  quality : Nat
  dimensions : Dimensions
  deriving DecidableEq, Repr

/-- The smaller of the smallest encoding so far and a new one; the older one of equals. -/
def Attempt.smaller (smallest : Option Attempt) (attempt : Attempt) : Attempt :=
  match smallest with
  | none => attempt
  | some best => if attempt.bytes.length < best.bytes.length then attempt else best

/-- Tries the qualities on a resized image. It stops at the first encoding that meets the
    preferred size, and else hands on the smallest one so far. -/
def tryQualities (resized : DecodedImage Pixels) (dimensions : Dimensions)
    (format : ImageEncodeFormat) (limits : ImageLimits) :
    List Nat → Option Attempt → ImageProg Pixels (CompressResult ⊕ Option Attempt)
  | [], smallest => return .inr smallest
  | quality :: qualities, smallest => do
    let bytes ← Program.perform (.encode resized format quality)
    let smallest := Attempt.smaller smallest ⟨bytes, quality, dimensions⟩
    if bytes.length ≤ limits.preferredAttachmentBytes then
      return .inl ⟨bytes, format, quality, dimensions, true⟩
    else tryQualities resized dimensions format limits qualities (some smallest)

/-- Resizes an image, unless it has the dimensions already. -/
def resizeTo (image : DecodedImage Pixels) (dimensions : Dimensions) :
    ImageProg Pixels (DecodedImage Pixels) :=
  if dimensions = image.dimensions then pure image
  else Program.perform (.resize image dimensions.width dimensions.height)

/-- Tries the edges in order, with every quality at each. -/
def tryEdges (image : DecodedImage Pixels) (base : Dimensions) (format : ImageEncodeFormat)
    (limits : ImageLimits) :
    List ℚ → Option Attempt → ImageProg Pixels (CompressResult ⊕ Option Attempt)
  | [], smallest => return .inr smallest
  | edgeScale :: edges, smallest => do
    let dimensions : Dimensions :=
      ⟨scaled base.width (Binary64.fl edgeScale), scaled base.height (Binary64.fl edgeScale)⟩
    let resized ← resizeTo image dimensions
    match ← tryQualities resized dimensions format limits QUALITY_STEPS smallest with
    | .inl result => return .inl result
    | .inr smallest => tryEdges image base format limits edges smallest

/-- Compresses an image until it meets the preferred size. Else the smallest encoding is taken,
    when the hard limit allows it. -/
def compressToLimits (image : DecodedImage Pixels) (format : ImageEncodeFormat)
    (limits : ImageLimits) : ImageProg Pixels CompressResult := do
  let base ← Program.ofExcept (planImageFit image.dimensions limits.preferredLongestEdgePx)
  match ← tryEdges image base format limits EDGE_STEPS none with
  | .inl result => return result
  | .inr (some smallest) =>
    if smallest.bytes.length ≤ limits.maxAttachmentBytes then
      return ⟨smallest.bytes, format, smallest.quality, smallest.dimensions, false⟩
    else throw (.imageTooLarge smallest.bytes.length limits.maxAttachmentBytes)
  -- An encoding was tried: there are edges and qualities to try.
  | .inr none => throw (.imageTooLarge 0 limits.maxAttachmentBytes)

def FORMAT_TO_MIME : ImageEncodeFormat → String
  | .webp => "image/webp"
  | .jpeg => "image/jpeg"

/-- The quality of a thumbnail. -/
def THUMBNAIL_QUALITY : Nat := 60

/-- Decodes an image, compresses it, and encodes a thumbnail of it. -/
def prepareImage (ckbHash : Bytes → Bytes) (sourceBytes : Bytes)
    (format : Option ImageEncodeFormat) (limits : ImageLimits) :
    ImageProg Pixels PreparedImage := do
  if sniffImageFormat sourceBytes = .unknown then
    throw (.other "prepareImage: unsupported or corrupt image data")
  else
    let format := format.getD .webp
    let decoded ← Program.perform (.decode sourceBytes)
    let compressed ← compressToLimits decoded format limits
    let thumbFit ← Program.ofExcept (planThumbnailFit decoded.dimensions limits)
    let thumbImage ← Program.perform (.resize decoded thumbFit.width thumbFit.height)
    let thumbnail ← Program.perform (.encode thumbImage format THUMBNAIL_QUALITY)
    return {
      bytes := compressed.bytes
      mimeType := FORMAT_TO_MIME format
      width := compressed.dimensions.width
      height := compressed.dimensions.height
      thumbnail
      contentHash := ckbHash compressed.bytes }

/-! ### What a prepared image satisfies -/

/-- The magic bytes of a format. -/
def ImageEncodeFormat.sniffed : ImageEncodeFormat → SniffedFormat
  | .webp => .webp
  | .jpeg => .jpeg

/-- What it encodes starts with the magic bytes of the format that was asked for. -/
def ImageCodec.Honest (codec : ImageCodec Pixels σ) : Prop :=
  ∀ image format quality s bytes s', codec _ (.encode image format quality) s = (.ok bytes, s') →
    sniffImageFormat bytes = ImageEncodeFormat.sniffed format

/-- Limits that are nowhere laxer than the ones a receiver checks with. -/
structure ImageLimits.Within (limits receiver : ImageLimits) : Prop where
  edge : limits.preferredLongestEdgePx ≤ receiver.maxLongestEdgePx
  preferred : limits.preferredAttachmentBytes ≤ receiver.maxAttachmentBytes
  max : limits.maxAttachmentBytes ≤ receiver.maxAttachmentBytes

theorem DEFAULT_IMAGE_LIMITS_within : DEFAULT_IMAGE_LIMITS.Within DEFAULT_IMAGE_LIMITS :=
  ⟨by decide, by decide, by decide⟩

/-- Neither side is zero, and none exceeds the longest edge. -/
structure Dimensions.Fit (dimensions : Dimensions) (longestEdge : Nat) : Prop where
  width_pos : 0 < dimensions.width
  height_pos : 0 < dimensions.height
  width_le : dimensions.width ≤ longestEdge
  height_le : dimensions.height ≤ longestEdge

theorem scaled_pos (value : Nat) (factor : ℚ) : 0 < scaled value factor := by
  unfold scaled
  omega

theorem scaled_le {value n : Nat} {factor : ℚ} (hfactor : 0 ≤ factor) (hle : value * factor ≤ n)
    (hpos : 0 < n) (hn : n ≤ 2 ^ 50) : scaled value (Binary64.fl factor) ≤ n := by
  have hround := Binary64.round_fl_mul_fl_le hfactor hle hn
  unfold scaled
  omega

theorem planImageFit_fit {source fit : Dimensions} {edge : Nat} (hedge : edge ≤ 2 ^ 50)
    (h : planImageFit source edge = .ok fit) : fit.Fit edge := by
  unfold planImageFit at h
  split at h
  · cases h
  next hpos =>
  split at h
  · cases h
  next hsource =>
  obtain ⟨hwidth, hheight⟩ := not_or.mp hsource
  simp only at h
  split at h
  · next hfits =>
    obtain rfl := Except.ok.inj h
    exact ⟨by omega, by omega, by omega, by omega⟩
  · next hlong =>
    have hside : ∀ side : Nat, side ≤ max source.width source.height →
        (side : ℚ) * ((edge : ℚ) / (max source.width source.height : Nat)) ≤ edge := by
      intro side hside
      have hlongest : (0 : ℚ) < (max source.width source.height : Nat) := by
        exact_mod_cast (by omega : 0 < max source.width source.height)
      rw [mul_div_assoc', div_le_iff₀ hlongest, mul_comm]
      exact mul_le_mul_of_nonneg_left (by exact_mod_cast hside) (by positivity)
    obtain rfl := Except.ok.inj h
    refine ⟨scaled_pos _ _, scaled_pos _ _, ?_, ?_⟩
    · exact scaled_le (by positivity) (hside _ (by omega)) (by omega) hedge
    · exact scaled_le (by positivity) (hside _ (by omega)) (by omega) hedge

theorem EDGE_STEPS_bounds {edgeScale : ℚ} (h : edgeScale ∈ EDGE_STEPS) :
    0 ≤ edgeScale ∧ edgeScale ≤ 1 := by
  simp only [EDGE_STEPS, List.mem_cons, List.not_mem_nil, or_false] at h
  rcases h with rfl | rfl | rfl | rfl | rfl <;> norm_num

theorem Dimensions.Fit.scaled {base : Dimensions} {edge : Nat} (hbase : base.Fit edge)
    (hedge : edge ≤ 2 ^ 50) {edgeScale : ℚ} (hscale : edgeScale ∈ EDGE_STEPS) :
    Dimensions.Fit ⟨images.scaled base.width (Binary64.fl edgeScale),
      images.scaled base.height (Binary64.fl edgeScale)⟩ edge := by
  obtain ⟨hnonneg, hone⟩ := EDGE_STEPS_bounds hscale
  have hpos : 0 < edge := lt_of_lt_of_le hbase.width_pos hbase.width_le
  have hside : ∀ side : Nat, side ≤ edge → (side : ℚ) * edgeScale ≤ edge := by
    intro side hside
    calc (side : ℚ) * edgeScale ≤ side * 1 :=
          mul_le_mul_of_nonneg_left hone (Nat.cast_nonneg side)
      _ = side := mul_one _
      _ ≤ edge := by exact_mod_cast hside
  exact ⟨scaled_pos _ _, scaled_pos _ _, scaled_le hnonneg (hside _ hbase.width_le) hpos hedge,
    scaled_le hnonneg (hside _ hbase.height_le) hpos hedge⟩

/-- The transitions of a codec. -/
def ImageCodec.effect (codec : ImageCodec Pixels σ) : Program.Effect (CodecOp Pixels) Error σ :=
  fun β op s answer s' => codec β op s = (answer, s')

/-- What holds of every encoding that is tried: its format and its dimensions. -/
structure Encoded (format : ImageEncodeFormat) (longestEdge : Nat) (bytes : Bytes)
    (dimensions : Dimensions) : Prop where
  sniffed : sniffImageFormat bytes = ImageEncodeFormat.sniffed format
  fit : dimensions.Fit longestEdge

/-- What the attempts hand on: a result that meets the preferred size, or the smallest one. -/
def Tried (format : ImageEncodeFormat) (limits : ImageLimits) :
    CompressResult ⊕ Option Attempt → Prop
  | .inl result =>
    Encoded format limits.preferredLongestEdgePx result.bytes result.dimensions ∧
      result.bytes.length ≤ limits.preferredAttachmentBytes
  | .inr smallest =>
    ∀ best ∈ smallest, Encoded format limits.preferredLongestEdgePx best.bytes best.dimensions

variable {codec : ImageCodec Pixels σ} {format : ImageEncodeFormat} {limits : ImageLimits}

theorem Tried.smaller {smallest : Option Attempt} {attempt : Attempt}
    (hsmallest : Tried format limits (.inr smallest))
    (hattempt : Encoded format limits.preferredLongestEdgePx attempt.bytes attempt.dimensions) :
    Tried format limits (.inr (some (Attempt.smaller smallest attempt))) := by
  intro best hbest
  obtain rfl := Option.mem_some_iff.mp hbest
  cases smallest with
  | none => exact hattempt
  | some old =>
    simp only [Attempt.smaller]
    split
    · exact hattempt
    · exact hsmallest old rfl

theorem tryQualities_tried (honest : codec.Honest) {resized : DecodedImage Pixels}
    {dimensions : Dimensions} (hfit : dimensions.Fit limits.preferredLongestEdgePx)
    {qualities : List Nat} {smallest : Option Attempt} {s s' : σ}
    {out : CompressResult ⊕ Option Attempt} (hsmallest : Tried format limits (.inr smallest))
    (hrun : Program.Runs codec.effect (tryQualities resized dimensions format limits qualities
      smallest) s (.ok out) s') :
    Tried format limits out := by
  induction qualities generalizing smallest s with
  | nil =>
    obtain ⟨hout, -⟩ := hrun
    obtain rfl := Except.ok.inj hout
    exact hsmallest
  | cons quality qualities ih =>
    obtain ⟨bytes, mid, hencode, hrest⟩ := Program.runs_bind_ok.mp hrun
    have hsniffed := honest _ _ _ _ _ _ (Program.runs_perform.mp hencode)
    split at hrest
    · next hpreferred =>
      obtain ⟨hout, -⟩ := hrest
      obtain rfl := Except.ok.inj hout
      exact ⟨⟨hsniffed, hfit⟩, hpreferred⟩
    · exact ih (hsmallest.smaller ⟨hsniffed, hfit⟩) hrest

theorem tryEdges_tried (honest : codec.Honest) {image : DecodedImage Pixels} {base : Dimensions}
    (hbase : base.Fit limits.preferredLongestEdgePx)
    (hedge : limits.preferredLongestEdgePx ≤ 2 ^ 50) {edges : List ℚ}
    (hedges : ∀ edgeScale ∈ edges, edgeScale ∈ EDGE_STEPS) {smallest : Option Attempt} {s s' : σ}
    {out : CompressResult ⊕ Option Attempt} (hsmallest : Tried format limits (.inr smallest))
    (hrun : Program.Runs codec.effect (tryEdges image base format limits edges smallest) s
      (.ok out) s') :
    Tried format limits out := by
  induction edges generalizing smallest s with
  | nil =>
    obtain ⟨hout, -⟩ := hrun
    obtain rfl := Except.ok.inj hout
    exact hsmallest
  | cons edgeScale edges ih =>
    have hfit := hbase.scaled hedge (hedges edgeScale (by simp))
    obtain ⟨resized, s₁, -, hrest⟩ := Program.runs_bind_ok.mp hrun
    obtain ⟨tried, s₂, hqualities, hnext⟩ := Program.runs_bind_ok.mp hrest
    have htried := tryQualities_tried honest hfit hsmallest hqualities
    cases tried with
    | inl result =>
      obtain ⟨hout, -⟩ := hnext
      obtain rfl := Except.ok.inj hout
      exact htried
    | inr smallest =>
      exact ih (fun other hother => hedges other (List.mem_cons_of_mem _ hother)) htried hnext

/-- A compressed image has the format that was asked for, fits the preferred edge and is within
    the hard limit or the preferred one. -/
theorem compressToLimits_encoded (honest : codec.Honest)
    (hedge : limits.preferredLongestEdgePx ≤ 2 ^ 50) {image : DecodedImage Pixels} {s s' : σ}
    {result : CompressResult}
    (hrun : Program.Runs codec.effect (compressToLimits image format limits) s (.ok result) s') :
    Encoded format limits.preferredLongestEdgePx result.bytes result.dimensions ∧
      (result.bytes.length ≤ limits.preferredAttachmentBytes ∨
        result.bytes.length ≤ limits.maxAttachmentBytes) := by
  obtain ⟨base, s₁, hplan, hrest⟩ := Program.runs_bind_ok.mp hrun
  obtain ⟨hbase, -⟩ := Program.runs_ofExcept.mp hplan
  have hfit := planImageFit_fit hedge hbase.symm
  obtain ⟨tried, s₂, hedges, hnext⟩ := Program.runs_bind_ok.mp hrest
  have htried := tryEdges_tried honest hfit hedge (fun _ h => h) (by simp [Tried]) hedges
  cases tried with
  | inl preferred =>
    obtain ⟨hout, -⟩ := hnext
    obtain rfl := Except.ok.inj hout
    exact ⟨htried.1, .inl htried.2⟩
  | inr smallest =>
    cases smallest with
    | none =>
      obtain ⟨hout, -⟩ := hnext
      cases hout
    | some best =>
      simp only at hnext
      split at hnext
      · next hmax =>
        obtain ⟨hout, -⟩ := hnext
        obtain rfl := Except.ok.inj hout
        exact ⟨htried best rfl, .inr hmax⟩
      · obtain ⟨hout, -⟩ := hnext
        cases hout

/-- The thumbnail that the codec encodes for an image, when it is asked in state `s`, is small
    enough for a manifest. -/
def ThumbnailFits (codec : ImageCodec Pixels σ) (limits : ImageLimits) (sourceBytes : Bytes)
    (format : Option ImageEncodeFormat) (s : σ) : Prop :=
  ∀ decoded s₁ compressed s₂ fit image s₃ thumbnail s₄,
    codec _ (.decode sourceBytes) s = (.ok decoded, s₁) →
    Program.run codec (compressToLimits decoded (format.getD .webp) limits) s₁ =
      (.ok compressed, s₂) →
    planThumbnailFit decoded.dimensions limits = .ok fit →
    codec _ (.resize decoded fit.width fit.height) s₂ = (.ok image, s₃) →
    codec _ (.encode image (format.getD .webp) THUMBNAIL_QUALITY) s₃ = (.ok thumbnail, s₄) →
    thumbnail.length ≤ 32768

/-- What holds of every prepared image. -/
structure PreparedImage.Sound (prepared : PreparedImage) (format : ImageEncodeFormat)
    (limits : ImageLimits) (ckbHash : Bytes → Bytes) : Prop where
  encoded : Encoded format limits.preferredLongestEdgePx prepared.bytes
    ⟨prepared.width, prepared.height⟩
  size : prepared.bytes.length ≤ limits.preferredAttachmentBytes ∨
    prepared.bytes.length ≤ limits.maxAttachmentBytes
  mimeType : prepared.mimeType = FORMAT_TO_MIME format
  contentHash : prepared.contentHash = ckbHash prepared.bytes
  thumbnail : sniffImageFormat prepared.thumbnail = ImageEncodeFormat.sniffed format

variable {ckbHash : Bytes → Bytes} {sourceBytes : Bytes} {requested : Option ImageEncodeFormat}
  {s s' : σ} {prepared : PreparedImage}

/-- The calls a preparation makes of the codec, and what it makes of their answers. -/
theorem prepareImage_calls
    (hrun : Program.run codec (prepareImage ckbHash sourceBytes requested limits) s =
      (.ok prepared, s')) :
    ∃ decoded s₁ compressed s₂ fit image s₃,
      codec _ (.decode sourceBytes) s = (.ok decoded, s₁) ∧
      Program.run codec (compressToLimits decoded (requested.getD .webp) limits) s₁ =
        (.ok compressed, s₂) ∧
      planThumbnailFit decoded.dimensions limits = .ok fit ∧
      codec _ (.resize decoded fit.width fit.height) s₂ = (.ok image, s₃) ∧
      codec _ (.encode image (requested.getD .webp) THUMBNAIL_QUALITY) s₃ =
        (.ok prepared.thumbnail, s') ∧
      prepared = ⟨compressed.bytes, FORMAT_TO_MIME (requested.getD .webp),
        compressed.dimensions.width, compressed.dimensions.height, prepared.thumbnail,
        ckbHash compressed.bytes⟩ := by
  rw [← Program.runs_handler] at hrun
  unfold prepareImage at hrun
  split at hrun
  · obtain ⟨hout, -⟩ := hrun
    cases hout
  · obtain ⟨decoded, s₁, hdecode, hrun⟩ := Program.runs_bind_ok.mp hrun
    obtain ⟨compressed, s₂, hcompress, hrun⟩ := Program.runs_bind_ok.mp hrun
    obtain ⟨fit, s₃, hplan, hrun⟩ := Program.runs_bind_ok.mp hrun
    obtain ⟨image, s₄, hresize, hrun⟩ := Program.runs_bind_ok.mp hrun
    obtain ⟨thumbnail, s₅, hencode, hout, rfl⟩ := Program.runs_bind_ok.mp hrun
    obtain ⟨hfit, rfl⟩ := Program.runs_ofExcept.mp hplan
    obtain rfl := Except.ok.inj hout
    exact ⟨decoded, s₁, compressed, s₃, fit, image, s₄, Program.runs_perform.mp hdecode,
      (Program.runs_handler codec _).mp hcompress, hfit.symm, Program.runs_perform.mp hresize,
      Program.runs_perform.mp hencode, rfl⟩

theorem prepareImage_sound (honest : codec.Honest)
    (hedge : limits.preferredLongestEdgePx ≤ 2 ^ 50)
    (hrun : Program.run codec (prepareImage ckbHash sourceBytes requested limits) s =
      (.ok prepared, s')) :
    prepared.Sound (requested.getD .webp) limits ckbHash := by
  obtain ⟨decoded, s₁, compressed, s₂, fit, image, s₃, -, hcompress, -, -, hencode, hprepared⟩ :=
    prepareImage_calls hrun
  obtain ⟨hencoded, hsize⟩ :=
    compressToLimits_encoded honest hedge ((Program.runs_handler codec _).mpr hcompress)
  rw [hprepared]
  exact ⟨hencoded, hsize, rfl, rfl, honest _ _ _ _ _ _ hencode⟩

/-- The thumbnail of a prepared image is the codec's answer, so it is small enough exactly when
    the codec makes it so. -/
theorem prepareImage_thumbnail_le_iff
    (hrun : Program.run codec (prepareImage ckbHash sourceBytes requested limits) s =
      (.ok prepared, s')) :
    prepared.thumbnail.length ≤ 32768 ↔ ThumbnailFits codec limits sourceBytes requested s := by
  obtain ⟨decoded, s₁, compressed, s₂, fit, image, s₃, hdecode, hcompress, hplan, hresize,
    hencode, -⟩ := prepareImage_calls hrun
  constructor
  · intro hle decoded' s₁' compressed' s₂' fit' image' s₃' thumbnail s₄ hdecode' hcompress' hplan'
      hresize' hencode'
    obtain ⟨hdecoded, rfl⟩ := Prod.mk.inj (hdecode.symm.trans hdecode')
    obtain rfl := Except.ok.inj hdecoded
    obtain ⟨hcompressed, rfl⟩ := Prod.mk.inj (hcompress.symm.trans hcompress')
    obtain rfl := Except.ok.inj (hplan.symm.trans hplan')
    obtain ⟨himage, rfl⟩ := Prod.mk.inj (hresize.symm.trans hresize')
    obtain rfl := Except.ok.inj himage
    obtain ⟨hthumbnail, -⟩ := Prod.mk.inj (hencode.symm.trans hencode')
    obtain rfl := Except.ok.inj hthumbnail
    exact hle
  · intro hfits
    exact hfits _ _ _ _ _ _ _ _ _ hdecode hcompress hplan hresize hencode

end cemp.images
