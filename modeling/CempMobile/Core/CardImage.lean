import CempMobile.Core.ContactBundle
import CempMobile.Core.PngRoundTrip

/-! The picture of a contact card: a QR code, and white around it. -/

open cemp.core.contactBundle cemp.core.png

namespace cemp.core

/-- `matrix.dark[row * matrix.size + col]` is the module at a place. -/
structure QrMatrix where
  size : Nat
  dark : List Bool
  deriving DecidableEq, Repr

structure ContactCardPngOptions where
  modulePixels : Option ℚ
  quietModules : Option ℚ

namespace cardImage

/-- The generator of QR codes: the modules of a side and whether one is dark, or the text that it
throws. -/
abbrev Qrcode : Type := List Char → Except String (Nat × (Nat → Nat → Bool))

def isPrintable (c : Char) : Bool := 0x20 ≤ c.toNat && c.toNat ≤ 0x7e

def qrMatrix (qrcode : Qrcode) (text : List Char) : Except Error QrMatrix :=
  if text = [] then .error (.other "qrMatrix: refusing to encode an empty payload")
  else if ¬ text.all isPrintable then
    .error (.other ("qrMatrix: payload must be printable ASCII — qrcode-generator's byte " ++
      "encoder is Latin-1 (charCodeAt & 0xff), not UTF-8, so non-ASCII " ++
      "input would silently encode to a scannable but corrupted matrix"))
  else
    match qrcode text with
    | .error message => .error (.other ("qrMatrix: qrcode-generator failed: " ++ message))
    | .ok (size, isDark) =>
      .ok ⟨size, (List.range size).foldl (fun dark row =>
        (List.range size).foldl (fun dark col => dark.set (row * size + col) (isDark row col)) dark)
        (List.replicate (size * size) false)⟩

def DEFAULT_MODULE_PIXELS : ℚ := 8

def DEFAULT_QUIET_MODULES : ℚ := 4

def WHITE : UInt8 := 255

def BLACK : UInt8 := 0

/-- `pixels.fill(value, start, stop)`. -/
def fill (value : UInt8) (start stop : Nat) (pixels : Bytes) : Bytes :=
  pixels.mapIdx fun i pixel => if start ≤ i ∧ i < stop then value else pixel

/-- The loop over the lines of a module. -/
def fillModule (modulePixels side originX originY : Nat) (pixels : Bytes) : Bytes :=
  (List.range modulePixels).foldl (fun pixels dy =>
    fill BLACK ((originY + dy) * side + originX) ((originY + dy) * side + originX + modulePixels)
      pixels) pixels

/-- The loops over the modules. -/
def draw (matrix : QrMatrix) (modulePixels quietModules side : Nat) (pixels : Bytes) : Bytes :=
  (List.range matrix.size).foldl (fun pixels row =>
    (List.range matrix.size).foldl (fun pixels col =>
      if matrix.dark.getD (row * matrix.size + col) false then
        fillModule modulePixels side ((col + quietModules) * modulePixels)
          ((row + quietModules) * modulePixels) pixels
      else pixels) pixels) pixels

def contactCardPng (otherNumberText : ℚ → List Char) (qrcode : Qrcode) (bundle : ContactBundleV1)
    (opts : ContactCardPngOptions) : Except Error Bytes :=
  let modulePixels := opts.modulePixels.getD DEFAULT_MODULE_PIXELS
  let quietModules := opts.quietModules.getD DEFAULT_QUIET_MODULES
  if modulePixels.den ≠ 1 ∨ modulePixels < 1 then
    .error (.other "contactCardPng: modulePixels must be a positive integer")
  else if quietModules.den ≠ 1 ∨ quietModules < 4 then
    .error (.other "contactCardPng: quietModules must be at least 4 (QR spec)")
  else
    let modulePixels := modulePixels.num.toNat
    let quietModules := quietModules.num.toNat
    match qrMatrix qrcode (encodeContactBundle otherNumberText bundle) with
    | .error error => .error error
    | .ok matrix =>
      let sideModules := matrix.size + quietModules * 2
      let side := sideModules * modulePixels
      encodeGreyscalePng
        (draw matrix modulePixels quietModules side (List.replicate (side * side) WHITE)) side side

/-! ### Texts that a code can carry -/

theorem isPrintable_of_isHex {c : Char} (h : fingerprint.isHex c = true) : isPrintable c = true := by
  simp only [fingerprint.isHex, Bool.or_eq_true, Bool.and_eq_true, decide_eq_true_eq] at h
  have hrange : 0x20 ≤ c.toNat ∧ c.toNat ≤ 0x7e := by
    obtain (⟨hlow, hhigh⟩ | ⟨hlow, hhigh⟩) | ⟨hlow, hhigh⟩ := h
    · have hlow' : 48 ≤ c.toNat := hlow
      have hhigh' : c.toNat ≤ 57 := hhigh
      omega
    · have hlow' : 65 ≤ c.toNat := hlow
      have hhigh' : c.toNat ≤ 70 := hhigh
      omega
    · have hlow' : 97 ≤ c.toNat := hlow
      have hhigh' : c.toNat ≤ 102 := hhigh
      omega
  unfold isPrintable
  rw [Bool.and_eq_true, decide_eq_true_eq, decide_eq_true_eq]
  exact hrange

theorem all_isPrintable_quote {text : String} (h : text.toList.all isPrintable = true) :
    (secureVault.quote text).all isPrintable = true := by
  have hquote : isPrintable '"' = true := by decide
  have hbackslash : isPrintable '\\' = true := by decide
  unfold secureVault.quote
  rw [List.all_cons, List.all_append, hquote, Bool.true_and, Bool.and_eq_true]
  refine ⟨List.all_eq_true.2 fun c hc => ?_, rfl⟩
  obtain ⟨c', hc', hmem⟩ := List.mem_flatMap.1 hc
  have hprintable := List.all_eq_true.1 h c' hc'
  have hlow : ¬ c'.toNat < 32 := by
    unfold isPrintable at hprintable
    rw [Bool.and_eq_true, decide_eq_true_eq] at hprintable
    omega
  unfold secureVault.quoteChar at hmem
  split at hmem
  · simp only [List.mem_cons, List.not_mem_nil, or_false] at hmem
    obtain rfl | rfl := hmem
    · exact hbackslash
    · exact hquote
  · split at hmem
    · simp only [List.mem_cons, List.not_mem_nil, or_false, or_self] at hmem
      rw [hmem]
      exact hbackslash
    · have hplain : c'.toNat ≠ 8 ∧ c'.toNat ≠ 9 ∧ c'.toNat ≠ 10 ∧ c'.toNat ≠ 12 ∧ c'.toNat ≠ 13 := by
        omega
      simp only [hplain, if_false] at hmem
      obtain rfl := List.mem_singleton.1 hmem
      exact hprintable

theorem all_isPrintable_hash {text : List Char} (h : isHash32 text = true) :
    text.all isPrintable = true := by
  unfold isHash32 at h
  split at h
  · next digits =>
    simp only [Bool.and_eq_true] at h
    have hdigits : digits.all isPrintable = true := by
      refine List.all_eq_true.2 fun c hc => isPrintable_of_isHex ?_
      have hdigit := List.all_eq_true.1 h.2 c hc
      simp only [fingerprint.isHex, Bool.or_eq_true] at hdigit ⊢
      exact hdigit.imp_left .inl
    rw [List.all_cons, List.all_cons, hdigits]
    rfl
  · cases h

theorem all_isPrintable_fingerprint {text : List Char}
    (h : fingerprint.parseFingerprint text = .ok text) : text.all isPrintable = true := by
  refine List.all_eq_true.2 fun c hc => ?_
  by_cases hdash : c = '-'
  · subst hdash
    decide
  · have hmem : c ∈ fingerprint.compact text := List.mem_filter.2 ⟨hc, decide_eq_true hdash⟩
    exact isPrintable_of_isHex (List.all_eq_true.1 (fingerprint.parseFingerprint_eq_ok h).2 c hmem)

/-- The text of a bundle with a printable address is one that a code can carry. -/
theorem all_isPrintable_encode {otherNumberText : ℚ → List Char} {bundle : ContactBundleV1}
    (h : bundle.Valid CKB_TESTNET.name) (haddress : bundle.address.toList.all isPrintable = true) :
    (encodeContactBundle otherNumberText bundle).all isPrintable = true := by
  have hversion : secureVault.numberText otherNumberText ((CONTACT_BUNDLE_VERSION : Nat) : ℚ) =
      ['1'] := secureVault.numberText_natCast (by decide)
  have hprotocol := @all_isPrintable_quote CONTACT_BUNDLE_PROTOCOL (by decide)
  have hnetwork := @all_isPrintable_quote bundle.network (by rw [h.sameNetwork]; decide)
  have hprofile := all_isPrintable_quote (all_isPrintable_hash h.profileTypeId)
  have hlock := all_isPrintable_quote (all_isPrintable_hash h.lockScriptHash)
  have haddress' := all_isPrintable_quote haddress
  have hfingerprint := all_isPrintable_quote (all_isPrintable_fingerprint h.fingerprint)
  unfold encodeContactBundle wireFields
  simp only [secureVault.stringify, secureVault.stringifyFields, hversion, List.all_cons,
    List.all_append, hprotocol, hnetwork, hprofile, hlock, haddress', hfingerprint]
  decide

/-! ### Filled pixels -/

theorem length_fill (value : UInt8) (start stop : Nat) (pixels : Bytes) :
    (fill value start stop pixels).length = pixels.length := List.length_mapIdx

theorem getElem?_fill (value : UInt8) (start stop i : Nat) (pixels : Bytes) :
    (fill value start stop pixels)[i]? =
      pixels[i]?.map fun pixel => if start ≤ i ∧ i < stop then value else pixel :=
  List.getElem?_mapIdx

/-- Fills of one colour, one after the other: a pixel has it once one of them is over it. -/
theorem getElem?_foldl_fill {ι : Type} (value : UInt8) (start stop : ι → Nat) (fills : List ι)
    (pixels : Bytes) (i : Nat) :
    (fills.foldl (fun pixels f => fill value (start f) (stop f) pixels) pixels)[i]? =
      pixels[i]?.map fun pixel => if ∃ f ∈ fills, start f ≤ i ∧ i < stop f then value else pixel := by
  induction fills generalizing pixels with
  | nil =>
    simp only [List.foldl_nil, List.not_mem_nil, false_and, exists_false, if_false, Option.map_id']
  | cons f fills ih =>
    rw [List.foldl_cons, ih, getElem?_fill, Option.map_map]
    congr 1
    funext pixel
    by_cases hf : start f ≤ i ∧ i < stop f
    · have hsome : ∃ f' ∈ f :: fills, start f' ≤ i ∧ i < stop f' := ⟨f, List.mem_cons_self, hf⟩
      rw [Function.comp_apply, if_pos hf, if_pos hsome, ite_self]
    · have hrest : (∃ f' ∈ f :: fills, start f' ≤ i ∧ i < stop f') ↔
          ∃ f' ∈ fills, start f' ≤ i ∧ i < stop f' := by
        rw [List.exists_mem_cons_iff, or_iff_right hf]
      rw [Function.comp_apply, if_neg hf]
      simp only [hrest]

/-- The lines of the dark modules. -/
def lines (matrix : QrMatrix) (modulePixels : Nat) : List (Nat × Nat × Nat) :=
  (List.range matrix.size).flatMap fun row => (List.range matrix.size).flatMap fun col =>
    if matrix.dark.getD (row * matrix.size + col) false then
      (List.range modulePixels).map fun dy => (row, col, dy)
    else []

def lineStart (modulePixels quietModules side : Nat) : Nat × Nat × Nat → Nat
  | (row, col, dy) =>
    ((row + quietModules) * modulePixels + dy) * side + (col + quietModules) * modulePixels

theorem draw_eq (matrix : QrMatrix) (modulePixels quietModules side : Nat) (pixels : Bytes) :
    draw matrix modulePixels quietModules side pixels =
      (lines matrix modulePixels).foldl (fun pixels line =>
        fill BLACK (lineStart modulePixels quietModules side line)
          (lineStart modulePixels quietModules side line + modulePixels) pixels) pixels := by
  unfold draw lines
  rw [List.foldl_flatMap]
  congr 1
  funext pixels row
  rw [List.foldl_flatMap]
  congr 1
  funext pixels col
  split
  · rw [List.foldl_map]
    rfl
  · rfl

theorem mem_lines {matrix : QrMatrix} {modulePixels row col dy : Nat} :
    (row, col, dy) ∈ lines matrix modulePixels ↔ row < matrix.size ∧ col < matrix.size ∧
      matrix.dark.getD (row * matrix.size + col) false = true ∧ dy < modulePixels := by
  unfold lines
  constructor
  · intro h
    obtain ⟨row', hrow, h⟩ := List.mem_flatMap.1 h
    obtain ⟨col', hcol, h⟩ := List.mem_flatMap.1 h
    split at h
    · next hdark =>
      obtain ⟨dy', hdy, heq⟩ := List.mem_map.1 h
      cases heq
      exact ⟨List.mem_range.1 hrow, List.mem_range.1 hcol, hdark, List.mem_range.1 hdy⟩
    · cases h
  · rintro ⟨hrow, hcol, hdark, hdy⟩
    refine List.mem_flatMap.2 ⟨row, List.mem_range.2 hrow,
      List.mem_flatMap.2 ⟨col, List.mem_range.2 hcol, ?_⟩⟩
    rw [if_pos hdark]
    exact List.mem_map.2 ⟨dy, List.mem_range.2 hdy, rfl⟩

/-- The module that a pixel of the picture is in, where it is in one. -/
def moduleOf (size modulePixels quietModules x : Nat) : Option Nat :=
  if quietModules ≤ x / modulePixels ∧ x / modulePixels < quietModules + size then
    some (x / modulePixels - quietModules)
  else none

/-- Whether the pixel in a row and a column of pixels is black. -/
def isBlack (matrix : QrMatrix) (modulePixels quietModules y x : Nat) : Bool :=
  match moduleOf matrix.size modulePixels quietModules y,
    moduleOf matrix.size modulePixels quietModules x with
  | some row, some col => matrix.dark.getD (row * matrix.size + col) false
  | _, _ => false

theorem moduleOf_eq_some {size modulePixels quietModules x module : Nat} (hpixels : 0 < modulePixels) :
    moduleOf size modulePixels quietModules x = some module ↔ module < size ∧
      (module + quietModules) * modulePixels ≤ x ∧
        x < (module + quietModules) * modulePixels + modulePixels := by
  have hdiv : x / modulePixels = module + quietModules ↔
      (module + quietModules) * modulePixels ≤ x ∧
        x < (module + quietModules) * modulePixels + modulePixels := by
    rw [Nat.div_eq_iff hpixels]
    omega
  unfold moduleOf
  split
  · next hinside =>
    rw [Option.some.injEq, ← hdiv]
    omega
  · next houtside =>
    rw [← hdiv]
    constructor
    · intro h
      cases h
    · intro h
      omega

/-- A pixel of a line of the picture is in no other line. -/
theorem line_of_pixel {side x y start row modulePixels : Nat} (hx : x < side)
    (hfits : start + modulePixels ≤ side) :
    (row * side + start ≤ y * side + x ∧ y * side + x < row * side + start + modulePixels) ↔
      y = row ∧ start ≤ x ∧ x < start + modulePixels := by
  constructor
  · rintro ⟨hlow, hhigh⟩
    have hrow : y = row := by
      obtain hlt | heq | hgt := Nat.lt_trichotomy y row
      · have hmul : (y + 1) * side ≤ row * side := Nat.mul_le_mul_right _ hlt
        rw [Nat.succ_mul] at hmul
        omega
      · exact heq
      · have hmul : (row + 1) * side ≤ y * side := Nat.mul_le_mul_right _ hgt
        rw [Nat.succ_mul] at hmul
        omega
    subst hrow
    omega
  · rintro ⟨rfl, hlow, hhigh⟩
    omega

/-- A pixel is black exactly where a line of a dark module is over it. -/
theorem isBlack_iff {matrix : QrMatrix} {modulePixels quietModules side y x : Nat}
    (hpixels : 0 < modulePixels) (hside : side = (matrix.size + quietModules * 2) * modulePixels)
    (hx : x < side) :
    (∃ line ∈ lines matrix modulePixels,
      lineStart modulePixels quietModules side line ≤ y * side + x ∧
        y * side + x < lineStart modulePixels quietModules side line + modulePixels) ↔
      isBlack matrix modulePixels quietModules y x = true := by
  have hfits : ∀ col, col < matrix.size →
      (col + quietModules) * modulePixels + modulePixels ≤ side := by
    intro col hcol
    rw [hside, ← Nat.succ_mul]
    exact Nat.mul_le_mul_right _ (by omega)
  constructor
  · rintro ⟨⟨row, col, dy⟩, hline, hover⟩
    obtain ⟨hrow, hcol, hdark, hdy⟩ := mem_lines.1 hline
    obtain ⟨rfl, hlow, hhigh⟩ := (line_of_pixel hx (hfits col hcol)).1 hover
    have hmoduleY : moduleOf matrix.size modulePixels quietModules
        ((row + quietModules) * modulePixels + dy) = some row :=
      (moduleOf_eq_some hpixels).2 ⟨hrow, Nat.le_add_right _ _, by omega⟩
    have hmoduleX : moduleOf matrix.size modulePixels quietModules x = some col :=
      (moduleOf_eq_some hpixels).2 ⟨hcol, hlow, hhigh⟩
    unfold isBlack
    rw [hmoduleY, hmoduleX]
    exact hdark
  · intro hblack
    unfold isBlack at hblack
    split at hblack
    · next row col hmoduleY hmoduleX =>
      obtain ⟨hrow, hlowY, hhighY⟩ := (moduleOf_eq_some hpixels).1 hmoduleY
      obtain ⟨hcol, hlow, hhigh⟩ := (moduleOf_eq_some hpixels).1 hmoduleX
      have hdy : y - (row + quietModules) * modulePixels < modulePixels := by omega
      refine ⟨(row, col, y - (row + quietModules) * modulePixels),
        mem_lines.2 ⟨hrow, hcol, hblack, hdy⟩, (line_of_pixel hx (hfits col hcol)).2 ⟨?_, hlow, hhigh⟩⟩
      omega
    · cases hblack

theorem length_draw (matrix : QrMatrix) (modulePixels quietModules side : Nat) (pixels : Bytes) :
    (draw matrix modulePixels quietModules side pixels).length = pixels.length := by
  rw [draw_eq]
  generalize lines matrix modulePixels = fills
  induction fills generalizing pixels with
  | nil => rfl
  | cons f fills ih => rw [List.foldl_cons, ih, length_fill]

theorem getElem?_draw {matrix : QrMatrix} {modulePixels quietModules side y x : Nat}
    (hpixels : 0 < modulePixels) (hside : side = (matrix.size + quietModules * 2) * modulePixels)
    (hy : y < side) (hx : x < side) :
    (draw matrix modulePixels quietModules side (List.replicate (side * side) WHITE))[y * side + x]? =
      some (if isBlack matrix modulePixels quietModules y x then BLACK else WHITE) := by
  have hinside : y * side + x < side * side := by
    have hmul : (y + 1) * side ≤ side * side := Nat.mul_le_mul_right _ hy
    rw [Nat.succ_mul] at hmul
    omega
  rw [draw_eq, getElem?_foldl_fill, List.getElem?_replicate_of_lt hinside, Option.map_some]
  simp only [isBlack_iff hpixels hside hx]

/-! ### The modules -/

/-- Values set one after the other, when it depends on the place which is set there. -/
theorem getElem?_foldl_set {ι : Type} (place : ι → Nat) (g : Nat → Bool) (sets : List ι)
    (dark : List Bool) (i : Nat) :
    (sets.foldl (fun dark f => dark.set (place f) (g (place f))) dark)[i]? =
      dark[i]?.map fun old => if ∃ f ∈ sets, place f = i then g i else old := by
  induction sets generalizing dark with
  | nil =>
    simp only [List.foldl_nil, List.not_mem_nil, false_and, exists_false, if_false, Option.map_id']
  | cons f sets ih =>
    rw [List.foldl_cons, ih, List.getElem?_set']
    by_cases hf : place f = i
    · subst hf
      have hsome : ∃ f' ∈ f :: sets, place f' = place f := ⟨f, List.mem_cons_self, rfl⟩
      rw [if_pos rfl, Option.map_eq_map, Option.map_map]
      congr 1
      funext old
      rw [Function.comp_apply, if_pos hsome, Function.const_apply, ite_self]
    · have hrest : (∃ f' ∈ f :: sets, place f' = i) ↔ ∃ f' ∈ sets, place f' = i := by
        rw [List.exists_mem_cons_iff, or_iff_right hf]
      rw [if_neg hf]
      simp only [hrest]

/-- The loops over the modules set the place of every module. -/
theorem foldl_modules (size : Nat) (isDark : Nat → Nat → Bool) (dark : List Bool) :
    (List.range size).foldl (fun dark row =>
      (List.range size).foldl (fun dark col => dark.set (row * size + col) (isDark row col)) dark)
      dark = ((List.range size).flatMap fun row => (List.range size).map fun col =>
        row * size + col).foldl (fun dark place =>
          dark.set (id place) (isDark (id place / size) (id place % size))) dark := by
  rw [List.foldl_flatMap]
  congr 1
  funext dark row
  rw [List.foldl_map]
  refine List.foldl_ext _ _ _ fun dark col hcol => ?_
  have hsmall := List.mem_range.1 hcol
  have hdiv : (row * size + col) / size = row := by
    rw [Nat.mul_comm, Nat.mul_add_div (by omega), Nat.div_eq_of_lt hsmall, Nat.add_zero]
  have hmod : (row * size + col) % size = col := by
    rw [Nat.mul_comm, Nat.mul_add_mod, Nat.mod_eq_of_lt hsmall]
  rw [id, hdiv, hmod]

theorem getD_modules {size row col : Nat} (isDark : Nat → Nat → Bool) (hrow : row < size)
    (hcol : col < size) :
    ((List.range size).foldl (fun dark row =>
      (List.range size).foldl (fun dark col => dark.set (row * size + col) (isDark row col)) dark)
      (List.replicate (size * size) false)).getD (row * size + col) false = isDark row col := by
  have hinside : row * size + col < size * size := by
    have hmul : (row + 1) * size ≤ size * size := Nat.mul_le_mul_right _ hrow
    rw [Nat.succ_mul] at hmul
    omega
  have hset : ∃ place ∈ (List.range size).flatMap fun row => (List.range size).map fun col =>
      row * size + col, id place = row * size + col :=
    ⟨row * size + col, List.mem_flatMap.2 ⟨row, List.mem_range.2 hrow,
      List.mem_map.2 ⟨col, List.mem_range.2 hcol, rfl⟩⟩, rfl⟩
  have hdiv : (row * size + col) / size = row := by
    rw [Nat.mul_comm, Nat.mul_add_div (by omega), Nat.div_eq_of_lt hcol, Nat.add_zero]
  have hmod : (row * size + col) % size = col := by
    rw [Nat.mul_comm, Nat.mul_add_mod, Nat.mod_eq_of_lt hcol]
  rw [foldl_modules, List.getD_eq_getElem?_getD,
    getElem?_foldl_set id fun place => isDark (place / size) (place % size),
    List.getElem?_replicate_of_lt hinside, Option.map_some, if_pos hset, hdiv, hmod]
  rfl

theorem qrMatrix_eq {qrcode : Qrcode} {text : List Char} {size : Nat} {isDark : Nat → Nat → Bool}
    (hne : text ≠ []) (hprintable : text.all isPrintable = true)
    (hqrcode : qrcode text = .ok (size, isDark)) :
    ∃ matrix, qrMatrix qrcode text = .ok matrix ∧ matrix.size = size ∧
      ∀ row col, row < size → col < size →
        matrix.dark.getD (row * size + col) false = isDark row col := by
  unfold qrMatrix
  rw [if_neg hne, if_neg (not_not.2 hprintable), hqrcode]
  exact ⟨_, rfl, rfl, fun row col hrow hcol => getD_modules isDark hrow hcol⟩

/-! ### The picture -/

/-- A picture shows a code: its modules are squares of black or white, and all around is white. -/
def Shows (image : Png.Image) (size : Nat) (isDark : Nat → Nat → Bool)
    (modulePixels quietModules : Nat) : Prop :=
  image.width = (size + quietModules * 2) * modulePixels ∧
    image.height = (size + quietModules * 2) * modulePixels ∧
    ∀ y x, y < image.height → x < image.width → image.pixels[y * image.width + x]? =
      some (match moduleOf size modulePixels quietModules y,
          moduleOf size modulePixels quietModules x with
        | some row, some col => if isDark row col then BLACK else WHITE
        | _, _ => WHITE)

theorem moduleOf_lt {size modulePixels quietModules x module : Nat}
    (h : moduleOf size modulePixels quietModules x = some module) : module < size := by
  unfold moduleOf at h
  split at h
  · next hinside =>
    have heq := Option.some.inj h
    omega
  · cases h

/-- A card's picture shows the code of the card's text, and a reader of the format gets it. -/
theorem contactCardPng_shows {otherNumberText : ℚ → List Char} {qrcode : Qrcode}
    {bundle : ContactBundleV1} {opts : ContactCardPngOptions} {modulePixels quietModules size : Nat}
    {isDark : Nat → Nat → Bool}
    (hmodule : opts.modulePixels.getD DEFAULT_MODULE_PIXELS = modulePixels)
    (hquiet : opts.quietModules.getD DEFAULT_QUIET_MODULES = quietModules)
    (hpixels : 0 < modulePixels) (hmargin : 4 ≤ quietModules)
    (hprintable : (encodeContactBundle otherNumberText bundle).all isPrintable = true)
    (hqrcode : qrcode (encodeContactBundle otherNumberText bundle) = .ok (size, isDark))
    (hfits : dataBytes ((size + quietModules * 2) * modulePixels)
      ((size + quietModules * 2) * modulePixels) < 2 ^ 31) :
    ∃ png image, contactCardPng otherNumberText qrcode bundle opts = .ok png ∧
      Png.decode png = some image ∧ Shows image size isDark modulePixels quietModules := by
  have hne : encodeContactBundle otherNumberText bundle ≠ [] := List.cons_ne_nil _ _
  obtain ⟨matrix, hmatrix, hsize, hdark⟩ := qrMatrix_eq hne hprintable hqrcode
  subst hsize
  set side := (matrix.size + quietModules * 2) * modulePixels with hside
  set pixels := draw matrix modulePixels quietModules side (List.replicate (side * side) WHITE)
    with hdraw
  have hpos : 0 < side := Nat.mul_pos (by omega) hpixels
  have hsmall : side < 2 ^ 31 := by
    unfold dataBytes at hfits
    have hmul : side * 1 ≤ (side + 1) * side := by
      rw [Nat.mul_comm]
      exact Nat.mul_le_mul_right _ (by omega)
    omega
  have hlength : pixels.length = side * side := by
    rw [hdraw, length_draw, List.length_replicate]
  have hcard : contactCardPng otherNumberText qrcode bundle opts =
      .ok (image pixels side side) := by
    unfold contactCardPng
    have hone : ¬ ((modulePixels : ℚ).den ≠ 1 ∨ (modulePixels : ℚ) < 1) := by
      rw [Rat.den_natCast, not_or, not_not, not_lt]
      exact ⟨rfl, by exact_mod_cast hpixels⟩
    have hfour : ¬ ((quietModules : ℚ).den ≠ 1 ∨ (quietModules : ℚ) < 4) := by
      rw [Rat.den_natCast, not_or, not_not, not_lt]
      exact ⟨rfl, by exact_mod_cast hmargin⟩
    simp only [hmodule, hquiet, if_neg hone, if_neg hfour, hmatrix, Rat.num_natCast,
      Int.toNat_natCast, ← hside, ← hdraw]
    exact encodeGreyscalePng_eq hpos hpos hlength
  refine ⟨_, _, hcard, decode_image ⟨hpos, hsmall⟩ ⟨hpos, hsmall⟩ hlength hfits, rfl, rfl, ?_⟩
  intro y x hy hx
  refine (getElem?_draw hpixels hside hy hx).trans (congrArg some ?_)
  unfold isBlack
  cases hrow : moduleOf matrix.size modulePixels quietModules y with
  | none => rfl
  | some row =>
    cases hcol : moduleOf matrix.size modulePixels quietModules x with
    | none => rfl
    | some col =>
      simp only [hdark row col (moduleOf_lt hrow) (moduleOf_lt hcol)]

end cardImage

end cemp.core
