import CempMobile.Images.Prepare
import CempMobile.Lib.Crash

/-! The bitmaps of the images that are being prepared: `CempImageCodecModule` keeps them under
    handles, and a `HandleTracker` for each preparation releases its handles when it is over. -/

open cemp.core cemp.images

namespace cemp.app.imaging

structure Bitmap (P : Type) where
  width : Nat
  height : Nat
  pixels : P

/-- What a call answers that may hand its argument back. -/
inductive Produced (P : Type) where
  | same
  | fresh (bitmap : Bitmap P)

inductive MatrixOp where
  | postRotate (degrees : Nat)
  | postScale (sx sy : Int)
  deriving DecidableEq, Repr

/-- What Android's graphics classes make of an image. A call that throws, or that returns `null`,
    answers nothing. -/
structure Graphics (P : Type) where
  /-- `inJustDecodeBounds`: a side is not positive where there is no image. -/
  bounds : Bytes → Int × Int
  decodeByteArray (bytes : Bytes) (inSampleSize : Nat) : Option (Bitmap P)
  /-- `TAG_ORIENTATION`. -/
  orientation : Bytes → Option Nat
  createBitmap (source : Bitmap P) (matrix : List MatrixOp) : Option (Produced P)
  createScaledBitmap (source : Bitmap P) (width height : Nat) : Option (Produced P)
  copy : Bitmap P → Option (Bitmap P)
  compress (bitmap : Bitmap P) (format : ImageEncodeFormat) (quality : Nat) : Option Bytes

def MAX_DECODE_EDGE_PX : Nat := 2560

def sampleSizeLoop (maxEdge sample longest : Nat) : Nat :=
  if maxEdge < longest then sampleSizeLoop maxEdge (sample * 2) (longest / 2) else sample
termination_by longest

/-- The smallest power of two by which the longest edge is no longer than `maxEdge`. -/
def sampleSizeFor (width height maxEdge : Nat) : Nat := sampleSizeLoop maxEdge 1 (max width height)

theorem sampleSizeLoop_spec (maxEdge sample longest : Nat) :
    ∃ k, sampleSizeLoop maxEdge sample longest = sample * 2 ^ k ∧ longest / 2 ^ k ≤ maxEdge ∧
      ∀ j < k, maxEdge < longest / 2 ^ j := by
  fun_induction sampleSizeLoop maxEdge sample longest with
  | case1 sample longest hlong ih =>
    obtain ⟨k, heq, hfits, hbefore⟩ := ih
    have hhalved : ∀ j, longest / 2 ^ (j + 1) = longest / 2 / 2 ^ j := fun j => by
      rw [Nat.pow_succ', Nat.div_div_eq_div_mul]
    refine ⟨k + 1, ?_, (hhalved k).trans_le hfits, fun j hj => ?_⟩
    · rw [heq, Nat.mul_assoc, Nat.pow_succ']
    · cases j with
      | zero => simpa using hlong
      | succ j =>
        rw [hhalved]
        exact hbefore j (Nat.lt_of_succ_lt_succ hj)
  | case2 sample longest hshort =>
    exact ⟨0, (Nat.mul_one _).symm, by simpa using Nat.le_of_not_lt hshort, nofun⟩

/-- The most quality for which the longest edge fits. -/
theorem sampleSizeFor_spec (width height maxEdge : Nat) :
    ∃ k, sampleSizeFor width height maxEdge = 2 ^ k ∧ max width height / 2 ^ k ≤ maxEdge ∧
      ∀ j < k, maxEdge < max width height / 2 ^ j := by
  obtain ⟨k, heq, hspec⟩ := sampleSizeLoop_spec maxEdge 1 (max width height)
  exact ⟨k, heq.trans (Nat.one_mul _), hspec⟩

/-- The matrix of an EXIF orientation, unless the image is upright. -/
def orientationMatrix : Nat → Option (List MatrixOp)
  | 6 => some [.postRotate 90]
  | 3 => some [.postRotate 180]
  | 8 => some [.postRotate 270]
  | 2 => some [.postScale (-1) 1]
  | 4 => some [.postScale 1 (-1)]
  | 5 => some [.postRotate 90, .postScale (-1) 1]
  | 7 => some [.postRotate 270, .postScale (-1) 1]
  | _ => none

/-- The memory of the bitmaps, and the registry of the module. -/
structure Native (P : Type) where
  /-- The bitmaps that were not recycled. -/
  heap : Nat → Option (Bitmap P)
  allocated : Nat
  bitmaps : Nat → Option Nat
  nextHandle : Nat
  /-- How often a bitmap was used or recycled after it had been recycled. -/
  faults : Nat

variable {P α β : Type}

namespace Native

def allocate (bitmap : Bitmap P) (n : Native P) : Native P :=
  { n with heap := Function.update n.heap n.allocated (some bitmap), allocated := n.allocated + 1 }

def recycle (address : Nat) (n : Native P) : Native P :=
  match n.heap address with
  | none => { n with faults := n.faults + 1 }
  | some _ => { n with heap := Function.update n.heap address none }

/-- The new handle is what `nextHandle` was. -/
def store (address : Nat) (n : Native P) : Native P :=
  { n with
    bitmaps := Function.update n.bitmaps n.nextHandle (some address)
    nextHandle := n.nextHandle + 1 }

def release (handle : Nat) (n : Native P) : Native P :=
  match n.bitmaps handle with
  | none => n
  | some address =>
    recycle address { n with bitmaps := Function.update n.bitmaps handle none }

end Native

open Native

def decodeSampled (graphics : Graphics P) (bytes : Bytes) : Option (Bitmap P) :=
  let (width, height) := graphics.bounds bytes
  if width ≤ 0 ∨ height ≤ 0 then none
  else graphics.decodeByteArray bytes (sampleSizeFor width.toNat height.toNat MAX_DECODE_EDGE_PX)

/-- The bitmap with the orientation in its pixels, and where it is: at `raw`, or where it replaces
    the raw one. -/
def applyExifOrientation (graphics : Graphics P) (bytes : Bytes) (raw : Nat) (bitmap : Bitmap P)
    (n : Native P) : Option (Nat × Bitmap P) × Native P :=
  match graphics.orientation bytes with
  | none => (none, n)
  | some orientation =>
    match orientationMatrix orientation with
    | none => (some (raw, bitmap), n)
    | some matrix =>
      match graphics.createBitmap bitmap matrix with
      | none => (none, n)
      | some .same => (some (raw, bitmap), n)
      | some (.fresh rotated) =>
        (some (n.allocated, rotated), (n.allocate rotated).recycle raw)

def decode (graphics : Graphics P) (bytes : Bytes) (n : Native P) :
    Except Error (DecodedImage Nat) × Native P :=
  match decodeSampled graphics bytes with
  | none => (.error (.other "could not decode image"), n)
  | some bitmap =>
    match applyExifOrientation graphics bytes n.allocated bitmap (n.allocate bitmap) with
    | (none, after) => (.error (.other "could not decode image"), after.recycle n.allocated)
    | (some (address, oriented), after) =>
      (.ok ⟨oriented.width, oriented.height, after.nextHandle⟩, after.store address)

/-- A new bitmap under a handle of its own. -/
def storeNew (bitmap : Bitmap P) (n : Native P) : Except Error (DecodedImage Nat) × Native P :=
  (.ok ⟨bitmap.width, bitmap.height, n.nextHandle⟩, (n.allocate bitmap).store n.allocated)

def resize (graphics : Graphics P) (address width height : Nat) (n : Native P) :
    Except Error (DecodedImage Nat) × Native P :=
  match n.heap address with
  | none => (.error (.other "could not resize image"), { n with faults := n.faults + 1 })
  | some src =>
    match graphics.createScaledBitmap src width height with
    | none => (.error (.other "could not resize image"), n)
    | some .same =>
      -- The source itself: each handle has a bitmap of its own.
      match graphics.copy src with
      | none => (.error (.other "could not resize image"), n)
      | some copied => storeNew copied n
    | some (.fresh scaled) => storeNew scaled n

def encode (graphics : Graphics P) (address : Nat) (format : ImageEncodeFormat) (quality : Nat)
    (n : Native P) : Except Error Bytes × Native P :=
  match n.heap address with
  | none => (.error (.other "could not encode image"), { n with faults := n.faults + 1 })
  | some bitmap =>
    match graphics.compress bitmap format quality with
    | none => (.error (.other "could not encode image"), n)
    | some bytes => (.ok bytes, n)

/-- The handle that a call works on. -/
def handleOf : CodecOp Nat β → Option Nat
  | .decode _ => none
  | .resize image _ _ => some image.pixels
  | .encode image _ _ => some image.pixels

def failureOf : CodecOp Nat β → Error
  | .decode _ => .other "could not decode image"
  | .resize .. => .other "could not resize image"
  | .encode .. => .other "could not encode image"

/-- The work of a call on the thread it began, with the bitmap that it found. -/
def perform (graphics : Graphics P) (source : Option Nat) (n : Native P) :
    CodecOp Nat β → Except Error β × Native P
  | .decode bytes => decode graphics bytes n
  | .resize image width height =>
    match source with
    | none => (.error (failureOf (.resize image width height)), n)
    | some address => resize graphics address width height n
  | .encode image format quality =>
    match source with
    | none => (.error (failureOf (.encode image format quality)), n)
    | some address => encode graphics address format quality n

/-- `HandleTracker.#track`: a set, in the order of its insertions. -/
def track (image : DecodedImage Nat) (handles : List Nat) : List Nat :=
  if image.pixels ∈ handles then handles else handles ++ [image.pixels]

/-- What a tracker has after a call. -/
def tracked (handles : List Nat) : CodecOp Nat β → Except Error β → List Nat
  | .decode _, .ok image => track image handles
  | .resize .., .ok image => track image handles
  | _, _ => handles

/-- How far a preparation is, with the tracker around the codec. -/
inductive Stage (α : Type) : Type 1 where
  | idle
  | running (program : ImageProg Nat α)
  | working {β : Type} (op : CodecOp Nat β) (source : Option Nat)
      (next : Except Error β → ImageProg Nat α)
  /-- `releaseAll`, in the `finally` of the caller. -/
  | releasing (todo : List Nat) (outcome : Except Error α)
  | finished (outcome : Except Error α)

structure Pipeline (α : Type) where
  stage : Stage α
  handles : List Nat

structure World (P α : Type) where
  native : Native P
  pipelines : Nat → Pipeline α

inductive Event where
  | start (i : Nat) (sourceBytes : Bytes) (format : Option ImageEncodeFormat) (limits : ImageLimits)
  | proceed (i : Nat)

namespace World

def setPipeline (i : Nat) (pipeline : Pipeline α) (w : World P α) : World P α :=
  { w with pipelines := Function.update w.pipelines i pipeline }

/-- A preparation goes on: on the bridge, on the thread of its call, or with its next release. -/
def proceed (graphics : Graphics P) (i : Nat) (w : World P α) : World P α :=
  let handles := (w.pipelines i).handles
  match (w.pipelines i).stage with
  | .idle => w
  | .finished _ => w
  | .running (.ret a) => w.setPipeline i ⟨.releasing handles (.ok a), handles⟩
  | .running (.throw e) => w.setPipeline i ⟨.releasing handles (.error e), handles⟩
  | .running (.call op next) =>
    match handleOf op with
    | none => w.setPipeline i ⟨.working op none next, handles⟩
    | some handle =>
      match w.native.bitmaps handle with
      | none => w.setPipeline i ⟨.running (next (.error (failureOf op))), handles⟩
      | some address => w.setPipeline i ⟨.working op (some address) next, handles⟩
  | .working op source next =>
    let answer := perform graphics source w.native op
    setPipeline i ⟨.running (next answer.1), tracked handles op answer.1⟩ { w with native := answer.2 }
  | .releasing [] outcome => w.setPipeline i ⟨.finished outcome, []⟩
  | .releasing (handle :: todo) outcome =>
    setPipeline i ⟨.releasing todo outcome, handles⟩ { w with native := w.native.release handle }

def step (ckbHash : Bytes → Bytes) (graphics : Graphics P) (w : World P PreparedImage) :
    Event → World P PreparedImage
  | .start i sourceBytes format limits =>
    match (w.pipelines i).stage with
    | .idle => w.setPipeline i ⟨.running (prepareImage ckbHash sourceBytes format limits), []⟩
    | _ => w
  | .proceed i => w.proceed graphics i

def run (ckbHash : Bytes → Bytes) (graphics : Graphics P) (w : World P PreparedImage)
    (events : List Event) : World P PreparedImage :=
  events.foldl (step ckbHash graphics) w

/-- A module that was just registered. -/
def fresh : World P α :=
  ⟨⟨fun _ => none, 0, fun _ => none, 1, 0⟩, fun _ => ⟨.idle, []⟩⟩

end World

/-! ### The memory -/

/-- What holds of the memory while a thread has bitmaps that are not registered. -/
structure Native.Holding (temps : List Nat) (n : Native P) : Prop where
  faults : n.faults = 0
  registered : ∀ handle address, n.bitmaps handle = some address →
    handle < n.nextHandle ∧ (∃ bitmap, n.heap address = some bitmap) ∧ address ∉ temps
  injective : ∀ handle handle' address, n.bitmaps handle = some address →
    n.bitmaps handle' = some address → handle = handle'
  live : ∀ address bitmap, n.heap address = some bitmap →
    address < n.allocated ∧ (address ∈ temps ∨ ∃ handle, n.bitmaps handle = some address)
  held : ∀ address ∈ temps, ∃ bitmap, n.heap address = some bitmap
  nodup : temps.Nodup

section Memory

variable {n : Native P} {temps : List Nat} {address handle : Nat} {graphics : Graphics P}

theorem Native.Holding.allocate (h : n.Holding temps) (bitmap : Bitmap P) :
    (n.allocate bitmap).Holding (n.allocated :: temps) := by
  have hfresh : ∀ address bitmap, n.heap address = some bitmap → address ≠ n.allocated :=
    fun address bitmap hlive => Nat.ne_of_lt (h.live address bitmap hlive).1
  have hkeeps : ∀ address, (∃ bitmap, n.heap address = some bitmap) →
      ∃ bitmap', (n.allocate bitmap).heap address = some bitmap' := by
    rintro address ⟨other, hlive⟩
    exact ⟨other, (Function.update_of_ne (hfresh address other hlive) _ _).trans hlive⟩
  refine ⟨h.faults, fun handle address hregistered => ?_, h.injective,
    fun address other hlive => ?_, fun address hmem => ?_, ?_⟩
  · obtain ⟨hhandle, ⟨other, hlive⟩, htemp⟩ := h.registered handle address hregistered
    refine ⟨hhandle, hkeeps address ⟨other, hlive⟩, fun hmem => ?_⟩
    obtain heq | hmem := List.mem_cons.1 hmem
    · exact hfresh address other hlive heq
    · exact htemp hmem
  · by_cases hnew : address = n.allocated
    · subst hnew
      exact ⟨Nat.lt_succ_self _, .inl List.mem_cons_self⟩
    · have hold : n.heap address = some other := (Function.update_of_ne hnew _ _).symm.trans hlive
      obtain ⟨hlt, hwhose⟩ := h.live address other hold
      exact ⟨Nat.lt_succ_of_lt hlt, hwhose.imp_left (List.mem_cons_of_mem _)⟩
  · obtain rfl | hmem := List.mem_cons.1 hmem
    · exact ⟨bitmap, Function.update_self ..⟩
    · exact hkeeps address (h.held address hmem)
  · refine List.nodup_cons.2 ⟨fun hmem => ?_, h.nodup⟩
    obtain ⟨other, hlive⟩ := h.held _ hmem
    exact hfresh _ other hlive rfl

theorem Native.Holding.perm {temps' : List Nat} (h : n.Holding temps) (hperm : temps.Perm temps') :
    n.Holding temps' := by
  refine ⟨h.faults, fun handle address hregistered => ?_, h.injective,
    fun address bitmap hlive => ?_,
    fun address hmem => h.held address (hperm.mem_iff.2 hmem), hperm.nodup_iff.1 h.nodup⟩
  · obtain ⟨hhandle, hlive, htemp⟩ := h.registered handle address hregistered
    exact ⟨hhandle, hlive, fun hmem => htemp (hperm.mem_iff.2 hmem)⟩
  · obtain ⟨hlt, hwhose⟩ := h.live address bitmap hlive
    exact ⟨hlt, hwhose.imp_left hperm.mem_iff.1⟩

/-- What a thread has is recycled. -/
theorem Native.Holding.recycle (h : n.Holding (address :: temps)) :
    (n.recycle address).Holding temps ∧ (n.recycle address).bitmaps = n.bitmaps ∧
      (n.recycle address).nextHandle = n.nextHandle := by
  obtain ⟨bitmap, hheap⟩ := h.held address List.mem_cons_self
  obtain ⟨hnot, hnodup⟩ := List.nodup_cons.1 h.nodup
  unfold Native.recycle
  rw [hheap]
  dsimp only
  refine ⟨⟨h.faults, fun handle other hregistered => ?_, h.injective, fun other bitmap hlive => ?_,
    fun other hmem => ?_, hnodup⟩, rfl, rfl⟩
  · obtain ⟨hhandle, ⟨bitmap, hlive⟩, htemp⟩ := h.registered handle other hregistered
    obtain ⟨hne, htemp⟩ := List.ne_and_not_mem_of_not_mem_cons htemp
    exact ⟨hhandle, ⟨bitmap, (Function.update_of_ne hne _ _).trans hlive⟩, htemp⟩
  · by_cases hsame : other = address
    · subst hsame
      dsimp only at hlive
      rw [Function.update_self] at hlive
      cases hlive
    · dsimp only at hlive
      rw [Function.update_of_ne hsame] at hlive
      obtain ⟨hlt, hmem | hregistered⟩ := h.live other bitmap hlive
      · exact ⟨hlt, .inl ((List.mem_cons.1 hmem).resolve_left hsame)⟩
      · exact ⟨hlt, .inr hregistered⟩
  · obtain ⟨bitmap, hlive⟩ := h.held other (List.mem_cons_of_mem _ hmem)
    have hne : other ≠ address := fun heq => hnot (heq ▸ hmem)
    exact ⟨bitmap, (Function.update_of_ne hne _ _).trans hlive⟩

/-- What a thread has is registered under a new handle. -/
theorem Native.Holding.store (h : n.Holding (address :: temps)) :
    (n.store address).Holding temps := by
  obtain ⟨hnot, hnodup⟩ := List.nodup_cons.1 h.nodup
  have hunused : ∀ handle other, n.bitmaps handle = some other → other ≠ address := by
    intro handle other hregistered heq
    exact (h.registered handle other hregistered).2.2 (heq ▸ List.mem_cons_self)
  have hcases : ∀ handle other, (n.store address).bitmaps handle = some other →
      (handle = n.nextHandle ∧ other = address) ∨
        (handle ≠ n.nextHandle ∧ n.bitmaps handle = some other) := by
    intro handle other hregistered
    by_cases hnew : handle = n.nextHandle
    · subst hnew
      have hself : (n.store address).bitmaps n.nextHandle = some address := Function.update_self ..
      exact .inl ⟨rfl, Option.some.inj (hregistered.symm.trans hself)⟩
    · exact .inr ⟨hnew, (Function.update_of_ne hnew _ _).symm.trans hregistered⟩
  refine ⟨h.faults, fun handle other hregistered => ?_, fun handle handle' other hone htwo => ?_,
    fun other bitmap hlive => ?_, fun other hmem => h.held other (List.mem_cons_of_mem _ hmem), hnodup⟩
  · obtain ⟨rfl, rfl⟩ | ⟨-, hold⟩ := hcases handle other hregistered
    · exact ⟨Nat.lt_succ_self _, h.held other List.mem_cons_self, hnot⟩
    · obtain ⟨hhandle, hlive, htemp⟩ := h.registered handle other hold
      exact ⟨Nat.lt_succ_of_lt hhandle, hlive, fun hmem => htemp (List.mem_cons_of_mem _ hmem)⟩
  · obtain ⟨rfl, rfl⟩ | ⟨-, hold⟩ := hcases handle other hone
    · obtain ⟨rfl, -⟩ | ⟨-, hold'⟩ := hcases handle' other htwo
      · rfl
      · exact absurd rfl (hunused handle' other hold')
    · obtain ⟨-, rfl⟩ | ⟨-, hold'⟩ := hcases handle' other htwo
      · exact absurd rfl (hunused handle other hold)
      · exact h.injective handle handle' other hold hold'
  · obtain ⟨hlt, hmem | ⟨handle, hregistered⟩⟩ := h.live other bitmap hlive
    · obtain rfl | hmem := List.mem_cons.1 hmem
      · exact ⟨hlt, .inr ⟨n.nextHandle, Function.update_self ..⟩⟩
      · exact ⟨hlt, .inl hmem⟩
    · have hne : handle ≠ n.nextHandle := Nat.ne_of_lt (h.registered handle other hregistered).1
      exact ⟨hlt, .inr ⟨handle, (Function.update_of_ne hne _ _).trans hregistered⟩⟩

/-- A handle is released: its bitmap is recycled, and nothing else changes. -/
theorem Native.Holding.release (h : n.Holding []) (hhandle : n.bitmaps handle = some address) :
    (n.release handle).Holding [] ∧
      (n.release handle).bitmaps = Function.update n.bitmaps handle none := by
  obtain ⟨-, hlive, -⟩ := h.registered handle address hhandle
  have hremoved : Native.Holding [address]
      { n with bitmaps := Function.update n.bitmaps handle none } := by
    have hold : ∀ {handle' other}, Function.update n.bitmaps handle none handle' = some other →
        handle' ≠ handle ∧ n.bitmaps handle' = some other := by
      intro handle' other hregistered
      have hne : handle' ≠ handle := by
        rintro rfl
        rw [Function.update_self] at hregistered
        cases hregistered
      exact ⟨hne, (Function.update_of_ne hne _ _).symm.trans hregistered⟩
    refine ⟨h.faults, fun handle' other hregistered => ?_, fun one two other hone htwo => ?_,
      fun other bitmap hheap => ?_, fun other hmem => ?_, List.nodup_singleton _⟩
    · obtain ⟨hne, hbefore⟩ := hold hregistered
      obtain ⟨hlt, hsome, -⟩ := h.registered handle' other hbefore
      refine ⟨hlt, hsome, fun hmem => hne ?_⟩
      obtain rfl := List.mem_singleton.1 hmem
      exact h.injective handle' handle other hbefore hhandle
    · exact h.injective one two other (hold hone).2 (hold htwo).2
    · obtain ⟨hlt, hmem | ⟨handle', hregistered⟩⟩ := h.live other bitmap hheap
      · cases hmem
      · by_cases hsame : handle' = handle
        · subst hsame
          obtain rfl := Option.some.inj (hregistered.symm.trans hhandle)
          exact ⟨hlt, .inl List.mem_cons_self⟩
        · exact ⟨hlt, .inr ⟨handle', (Function.update_of_ne hsame _ _).trans hregistered⟩⟩
    · obtain rfl := List.mem_singleton.1 hmem
      exact hlive
  unfold Native.release
  rw [hhandle]
  obtain ⟨hholding, hbitmaps, -⟩ := hremoved.recycle
  exact ⟨hholding, hbitmaps⟩

/-- What a call does to the memory and the registry: nothing is registered by it, or a new bitmap
    under a new handle, which is in its answer. -/
def Grows (n after : Native P) (op : CodecOp Nat β) (answer : Except Error β) : Prop :=
  (after.bitmaps = n.bitmaps ∧ after.nextHandle = n.nextHandle ∧
      ∀ handles, tracked handles op answer = handles) ∨
    ∃ address, after.bitmaps = Function.update n.bitmaps n.nextHandle (some address) ∧
      after.nextHandle = n.nextHandle + 1 ∧
      ∀ handles, tracked handles op answer =
        if n.nextHandle ∈ handles then handles else handles ++ [n.nextHandle]

theorem applyExifOrientation_holding {bytes : Bytes} {bitmap : Bitmap P} {raw : Nat}
    (h : n.Holding [raw]) :
    ∃ result after, applyExifOrientation graphics bytes raw bitmap n = (result, after) ∧
      after.bitmaps = n.bitmaps ∧ after.nextHandle = n.nextHandle ∧
      match result with
      | none => after.Holding [raw]
      | some (address, _) => after.Holding [address] := by
  unfold applyExifOrientation
  split
  · exact ⟨none, n, rfl, rfl, rfl, h⟩
  · split
    · exact ⟨some (raw, bitmap), n, rfl, rfl, rfl, h⟩
    · split
      · exact ⟨none, n, rfl, rfl, rfl, h⟩
      · exact ⟨some (raw, bitmap), n, rfl, rfl, rfl, h⟩
      · next rotated _ =>
        have hboth := (h.allocate rotated).perm (List.Perm.swap ..)
        obtain ⟨hholding, hbitmaps, hnext⟩ := hboth.recycle
        exact ⟨_, _, rfl, hbitmaps, hnext, hholding⟩

theorem decode_holding {bytes : Bytes} (h : n.Holding []) :
    (decode graphics bytes n).2.Holding [] ∧
      Grows n (decode graphics bytes n).2 (.decode bytes) (decode graphics bytes n).1 := by
  unfold decode
  cases decodeSampled graphics bytes with
  | none => exact ⟨h, .inl ⟨rfl, rfl, fun _ => rfl⟩⟩
  | some bitmap =>
    obtain ⟨result, after, hresult, hbitmaps, hnext, hholding⟩ :=
      @applyExifOrientation_holding P _ graphics bytes bitmap _ (h.allocate bitmap)
    dsimp only
    rw [hresult]
    cases result with
    | none =>
      obtain ⟨hrest, hkept, hkeptNext⟩ := hholding.recycle
      exact ⟨hrest, .inl ⟨hkept.trans hbitmaps, hkeptNext.trans hnext, fun _ => rfl⟩⟩
    | some oriented =>
      obtain ⟨address, oriented⟩ := oriented
      have hnext' : after.nextHandle = n.nextHandle := hnext
      have hbitmaps' : after.bitmaps = n.bitmaps := hbitmaps
      refine ⟨hholding.store, .inr ⟨address, ?_, ?_, fun handles => ?_⟩⟩
      · simp only [Native.store, hbitmaps', hnext']
      · simp only [Native.store, hnext']
      · simp only [tracked, track, hnext']

theorem storeNew_holding {bitmap : Bitmap P} {image : DecodedImage Nat} {width height : Nat}
    (h : n.Holding []) :
    (storeNew bitmap n).2.Holding [] ∧
      Grows n (storeNew bitmap n).2 (.resize image width height) (storeNew bitmap n).1 :=
  ⟨(h.allocate bitmap).store, .inr ⟨n.allocated, rfl, rfl, fun _ => rfl⟩⟩

theorem resize_holding {image : DecodedImage Nat} {width height : Nat} (h : n.Holding [])
    (haddress : ∃ bitmap, n.heap address = some bitmap) :
    (resize graphics address width height n).2.Holding [] ∧
      Grows n (resize graphics address width height n).2 (.resize image width height)
        (resize graphics address width height n).1 := by
  obtain ⟨src, hsrc⟩ := haddress
  unfold resize
  rw [hsrc]
  dsimp only
  split
  · exact ⟨h, .inl ⟨rfl, rfl, fun _ => rfl⟩⟩
  · split
    · exact ⟨h, .inl ⟨rfl, rfl, fun _ => rfl⟩⟩
    · exact storeNew_holding h
  · exact storeNew_holding h

theorem encode_eq {format : ImageEncodeFormat} {quality : Nat}
    (haddress : ∃ bitmap, n.heap address = some bitmap) :
    (encode graphics address format quality n).2 = n := by
  obtain ⟨bitmap, hbitmap⟩ := haddress
  unfold encode
  rw [hbitmap]
  dsimp only
  split <;> rfl

/-- A call finds the bitmap of its handle where it was when the call began, and leaves none
    unregistered. -/
theorem perform_holding {op : CodecOp Nat β} {source : Option Nat} (h : n.Holding [])
    (hsource : ∀ address ∈ source, ∃ bitmap, n.heap address = some bitmap) :
    (perform graphics source n op).2.Holding [] ∧
      Grows n (perform graphics source n op).2 op (perform graphics source n op).1 := by
  cases op with
  | decode bytes => exact decode_holding h
  | resize image width height =>
    cases source with
    | none => exact ⟨h, .inl ⟨rfl, rfl, fun _ => rfl⟩⟩
    | some address => exact resize_holding h (hsource address rfl)
  | encode image format quality =>
    have hsame : (perform graphics source n (.encode image format quality)).2 = n := by
      cases source with
      | none => rfl
      | some address => exact encode_eq (hsource address rfl)
    rw [hsame]
    exact ⟨h, .inl ⟨rfl, rfl, fun _ => rfl⟩⟩

end Memory

/-! ### The preparations -/

/-- What the tracker makes of the answers. -/
abbrev Tracks : Program.Effect (CodecOp Nat) Error (List Nat) :=
  fun _ op handles answer handles' => handles' = tracked handles op answer

/-- The tracker has the handle of a call. -/
abbrev InHand : ∀ β : Type, CodecOp Nat β → List Nat → Prop :=
  fun _ op handles => ∀ handle ∈ handleOf op, handle ∈ handles

/-- Whatever the codec answers, a program calls it with handles that its tracker has. -/
abbrev Owns (handles : List Nat) (program : ImageProg Nat α) : Prop :=
  Program.Always Tracks InHand program handles fun _ _ => True

/-- The handles that a preparation is still to release. -/
def Pipeline.owned (pipeline : Pipeline α) : List Nat :=
  match pipeline.stage with
  | .idle => []
  | .running _ => pipeline.handles
  | .working .. => pipeline.handles
  | .releasing todo _ => todo
  | .finished _ => []

structure Sound (w : World P α) : Prop where
  native : w.native.Holding []
  /-- Every handle belongs to a preparation, -/
  owned : ∀ handle, (∃ address, w.native.bitmaps handle = some address) ↔
    ∃ i, handle ∈ (w.pipelines i).owned
  /-- and to one. -/
  apart : ∀ i j handle, handle ∈ (w.pipelines i).owned → handle ∈ (w.pipelines j).owned → i = j
  nodup : ∀ i, (w.pipelines i).owned.Nodup
  running : ∀ i program, (w.pipelines i).stage = .running program →
    Owns (w.pipelines i).handles program
  working : ∀ i (β : Type) (op : CodecOp Nat β) source next,
    (w.pipelines i).stage = .working op source next →
      (∀ address ∈ source, ∃ handle ∈ (w.pipelines i).handles,
        w.native.bitmaps handle = some address) ∧
      ∀ answer, Owns (tracked (w.pipelines i).handles op answer) (next answer)

section Programs

variable {handles : List Nat} {format : ImageEncodeFormat} {limits : ImageLimits}

theorem mem_track_self (image : DecodedImage Nat) (handles : List Nat) :
    image.pixels ∈ track image handles := by
  unfold track
  split
  · assumption
  · exact List.mem_append_right _ List.mem_cons_self

theorem mem_track {handle : Nat} (image : DecodedImage Nat) (h : handle ∈ handles) :
    handle ∈ track image handles := by
  unfold track
  split
  · exact h
  · exact List.mem_append_left _ h

theorem mem_tracked {handle : Nat} (op : CodecOp Nat β) (answer : Except Error β)
    (h : handle ∈ handles) : handle ∈ tracked handles op answer := by
  cases op <;> cases answer <;> first | exact h | exact mem_track _ h

/-- No handle leaves a tracker while its program runs. -/
theorem Owns.keeps {program : ImageProg Nat α} {handle : Nat} (h : Owns handles program)
    (hmem : handle ∈ handles) :
    Program.Always Tracks InHand program handles fun _ handles' => handle ∈ handles' := by
  have hkeeps : ∀ (β : Type) (op : CodecOp Nat β) (handles : List Nat) (answer : Except Error β)
      (handles' : List Nat), InHand β op handles → Tracks β op handles answer handles' →
        handle ∈ handles → handle ∈ handles' :=
    fun _ op _ answer _ _ hanswer hin => hanswer ▸ mem_tracked op answer hin
  exact ((Program.Always.invariant h hkeeps hmem).weaken fun _ _ _ hnow => hnow.1).mono
    fun _ _ hpost => hpost.2

theorem resizeTo_owns {image : DecodedImage Nat} (dimensions : Dimensions)
    (hmem : image.pixels ∈ handles) :
    Program.Always Tracks InHand (resizeTo image dimensions) handles fun answer handles' =>
      image.pixels ∈ handles' ∧ ∀ resized, answer = .ok resized → resized.pixels ∈ handles' := by
  unfold resizeTo
  split
  · refine ⟨hmem, fun resized heq => ?_⟩
    obtain rfl := Except.ok.inj heq
    exact hmem
  · refine Program.always_perform.2 ⟨fun handle hhandle => ?_, ?_⟩
    · obtain rfl := Option.some.inj hhandle
      exact hmem
    · rintro answer handles' rfl
      refine ⟨mem_tracked _ _ hmem, fun resized heq => ?_⟩
      subst heq
      exact mem_track_self resized handles

theorem tryQualities_owns {resized : DecodedImage Nat} {dimensions : Dimensions}
    (hmem : resized.pixels ∈ handles) (qualities : List Nat) (smallest : Option Attempt) :
    Owns handles (tryQualities resized dimensions format limits qualities smallest) := by
  induction qualities generalizing smallest with
  | nil => trivial
  | cons quality qualities ih =>
    refine Program.Always.step (fun handle hhandle => ?_) (fun _ _ _ => trivial) ?_
    · obtain rfl := Option.some.inj hhandle
      exact hmem
    · rintro bytes handles' rfl
      dsimp only
      split
      · trivial
      · exact ih _

theorem tryEdges_owns {image : DecodedImage Nat} {base : Dimensions} (edges : List ℚ)
    (hmem : image.pixels ∈ handles) (smallest : Option Attempt) :
    Owns handles (tryEdges image base format limits edges smallest) := by
  induction edges generalizing handles smallest with
  | nil => trivial
  | cons edgeScale edges ih =>
    refine (resizeTo_owns _ hmem).bind (fun resized handles' hresized => ?_) fun _ _ _ => trivial
    refine ((tryQualities_owns (hresized.2 resized rfl) QUALITY_STEPS smallest).keeps
      hresized.1).bind (fun tried handles'' hstill => ?_) fun _ _ _ => trivial
    cases tried with
    | inl result => trivial
    | inr smallest => exact ih hstill smallest

theorem compressToLimits_owns {image : DecodedImage Nat} (hmem : image.pixels ∈ handles) :
    Owns handles (compressToLimits image format limits) := by
  unfold compressToLimits
  cases planImageFit image.dimensions limits.preferredLongestEdgePx with
  | error error => trivial
  | ok base =>
    refine (tryEdges_owns EDGE_STEPS hmem none).bind (fun tried handles' _ => ?_)
      fun _ _ _ => trivial
    cases tried with
    | inl result => trivial
    | inr smallest =>
      cases smallest with
      | none => trivial
      | some smallest =>
        dsimp only
        split <;> trivial

/-- A preparation calls the codec with handles of its own alone. -/
theorem prepareImage_owns (ckbHash : Bytes → Bytes) (sourceBytes : Bytes)
    (requested : Option ImageEncodeFormat) (limits : ImageLimits) :
    Owns [] (prepareImage ckbHash sourceBytes requested limits) := by
  unfold prepareImage
  split
  · trivial
  · refine Program.Always.step nofun (fun _ _ _ => trivial) ?_
    rintro decoded handles rfl
    have hdecoded := mem_track_self decoded []
    refine ((compressToLimits_owns hdecoded).keeps hdecoded).bind
      (fun compressed handles hstill => ?_) fun _ _ _ => trivial
    cases planThumbnailFit decoded.dimensions limits with
    | error error => trivial
    | ok fit =>
      refine Program.Always.step (fun handle hhandle => ?_) (fun _ _ _ => trivial) ?_
      · obtain rfl := Option.some.inj hhandle
        exact hstill
      · rintro thumbImage handles' rfl
        refine Program.Always.step (fun handle hhandle => ?_) (fun _ _ _ => trivial)
          fun _ _ _ => trivial
        obtain rfl := Option.some.inj hhandle
        exact mem_track_self thumbImage handles

end Programs

/-! ### One preparation goes on -/

/-- A change of the registry by which the owner of some handles comes to own others. -/
structure Handover (n after : Native P) (owned owned' : List Nat) : Prop where
  others : ∀ handle, handle ∉ owned → handle ∉ owned' → after.bitmaps handle = n.bitmaps handle
  registered : ∀ handle ∈ owned', ∃ address, after.bitmaps handle = some address
  released : ∀ handle ∈ owned, handle ∉ owned' → after.bitmaps handle = none
  new : ∀ handle ∈ owned', handle ∈ owned ∨ n.bitmaps handle = none
  nodup : owned'.Nodup

section Handovers

variable {n after : Native P} {owned todo : List Nat} {handle address : Nat}

theorem Handover.same (hbitmaps : after.bitmaps = n.bitmaps)
    (hregistered : ∀ handle ∈ owned, ∃ address, n.bitmaps handle = some address)
    (hnodup : owned.Nodup) : Handover n after owned owned where
  others _ _ _ := congrFun hbitmaps _
  registered handle hmem := by
    rw [hbitmaps]
    exact hregistered handle hmem
  released _ hmem hnot := absurd hmem hnot
  new _ hmem := .inl hmem
  nodup := hnodup

theorem Native.Holding.unused (h : n.Holding []) : n.bitmaps n.nextHandle = none := by
  cases hold : n.bitmaps n.nextHandle with
  | none => rfl
  | some address => exact absurd (h.registered _ address hold).1 (Nat.lt_irrefl _)

/-- The next handle is nobody's. -/
theorem Native.Holding.fresh (h : n.Holding [])
    (hregistered : ∀ handle ∈ owned, ∃ address, n.bitmaps handle = some address) :
    n.nextHandle ∉ owned := by
  intro hmem
  obtain ⟨address, hold⟩ := hregistered _ hmem
  rw [h.unused] at hold
  cases hold

theorem Handover.add (h : n.Holding [])
    (hbitmaps : after.bitmaps = Function.update n.bitmaps n.nextHandle (some address))
    (hregistered : ∀ handle ∈ owned, ∃ address, n.bitmaps handle = some address)
    (hnodup : owned.Nodup) : Handover n after owned (owned ++ [n.nextHandle]) where
  others handle _ hnot := by
    have hne : handle ≠ n.nextHandle := by
      rintro rfl
      exact hnot (List.mem_append_right _ (List.mem_singleton_self _))
    rw [hbitmaps, Function.update_of_ne hne]
  registered handle hmem := by
    rw [hbitmaps]
    by_cases hsame : handle = n.nextHandle
    · subst hsame
      exact ⟨address, Function.update_self ..⟩
    · rw [Function.update_of_ne hsame]
      obtain hold | hnew := List.mem_append.1 hmem
      · exact hregistered handle hold
      · exact absurd (List.mem_singleton.1 hnew) hsame
  released _ hmem hnot := absurd (List.mem_append_left _ hmem) hnot
  new handle hmem := by
    obtain hold | hnew := List.mem_append.1 hmem
    · exact .inl hold
    · exact .inr (List.mem_singleton.1 hnew ▸ h.unused)
  nodup := List.nodup_append'.2 ⟨hnodup, List.nodup_singleton _,
    List.disjoint_singleton.2 (h.fresh hregistered)⟩

theorem Handover.release (hbitmaps : after.bitmaps = Function.update n.bitmaps handle none)
    (hregistered : ∀ handle' ∈ handle :: todo, ∃ address, n.bitmaps handle' = some address)
    (hnodup : (handle :: todo).Nodup) : Handover n after (handle :: todo) todo where
  others handle' hnot _ := by
    rw [hbitmaps, Function.update_of_ne (List.ne_of_not_mem_cons hnot)]
  registered handle' hmem := by
    have hne : handle' ≠ handle := fun heq => (List.nodup_cons.1 hnodup).1 (heq ▸ hmem)
    rw [hbitmaps, Function.update_of_ne hne]
    exact hregistered handle' (List.mem_cons_of_mem _ hmem)
  released handle' hmem hnot := by
    obtain rfl := (List.mem_cons.1 hmem).resolve_right hnot
    rw [hbitmaps, Function.update_self]
  new _ hmem := .inl (List.mem_cons_of_mem _ hmem)
  nodup := (List.nodup_cons.1 hnodup).2

end Handovers

section Steps

variable {w : World P α} {i j handle : Nat} {pipeline : Pipeline α} {native : Native P}
  {graphics : Graphics P}

theorem World.pipelines_setPipeline_self : (w.setPipeline i pipeline).pipelines i = pipeline :=
  Function.update_self ..

theorem World.pipelines_setPipeline_of_ne (hne : j ≠ i) :
    (w.setPipeline i pipeline).pipelines j = w.pipelines j :=
  Function.update_of_ne hne ..

theorem Sound.registered (h : Sound w) (i : Nat) :
    ∀ handle ∈ (w.pipelines i).owned, ∃ address, w.native.bitmaps handle = some address :=
  fun handle hmem => (h.owned handle).2 ⟨i, hmem⟩

/-- What another preparation has is not the one's own. -/
theorem Sound.others_apart (h : Sound w)
    (handover : Handover w.native native (w.pipelines i).owned pipeline.owned) (hne : j ≠ i)
    (hmem : handle ∈ (w.pipelines j).owned) :
    handle ∉ (w.pipelines i).owned ∧ handle ∉ pipeline.owned := by
  have hnot : handle ∉ (w.pipelines i).owned := fun hi => hne (h.apart j i handle hmem hi)
  refine ⟨hnot, fun hin => ?_⟩
  obtain hi | hnone := handover.new handle hin
  · exact hnot hi
  · obtain ⟨address, hregistered⟩ := h.registered j handle hmem
    rw [hnone] at hregistered
    cases hregistered

theorem Sound.others_kept (h : Sound w)
    (handover : Handover w.native native (w.pipelines i).owned pipeline.owned) (hne : j ≠ i)
    (hmem : handle ∈ (w.pipelines j).owned) :
    native.bitmaps handle = w.native.bitmaps handle := by
  obtain ⟨hbefore, hafter⟩ := h.others_apart handover hne hmem
  exact handover.others handle hbefore hafter

/-- After a handover the registry still has what some preparation owns. -/
theorem Sound.owned_replace (h : Sound w)
    (handover : Handover w.native native (w.pipelines i).owned pipeline.owned) (handle : Nat) :
    (∃ address, native.bitmaps handle = some address) ↔
      ∃ j, handle ∈ ((w.setPipeline i pipeline).pipelines j).owned := by
  constructor
  · rintro ⟨address, hsome⟩
    by_cases hin : handle ∈ pipeline.owned
    · exact ⟨i, World.pipelines_setPipeline_self.symm ▸ hin⟩
    · by_cases hi : handle ∈ (w.pipelines i).owned
      · exact absurd ((handover.released handle hi hin).symm.trans hsome) nofun
      · have hbefore := (handover.others handle hi hin).symm.trans hsome
        obtain ⟨j, hj⟩ := (h.owned handle).1 ⟨address, hbefore⟩
        have hne : j ≠ i := fun heq => hi (heq ▸ hj)
        exact ⟨j, (World.pipelines_setPipeline_of_ne hne).symm ▸ hj⟩
  · rintro ⟨j, hj⟩
    by_cases hji : j = i
    · subst hji
      rw [World.pipelines_setPipeline_self] at hj
      exact handover.registered handle hj
    · rw [World.pipelines_setPipeline_of_ne hji] at hj
      rw [h.others_kept handover hji hj]
      exact h.registered j handle hj

theorem Sound.apart_replace (h : Sound w)
    (handover : Handover w.native native (w.pipelines i).owned pipeline.owned) {k : Nat}
    (hj : handle ∈ ((w.setPipeline i pipeline).pipelines j).owned)
    (hk : handle ∈ ((w.setPipeline i pipeline).pipelines k).owned) : j = k := by
  by_cases hji : j = i
  · by_cases hki : k = i
    · exact hji.trans hki.symm
    · rw [hji, World.pipelines_setPipeline_self] at hj
      rw [World.pipelines_setPipeline_of_ne hki] at hk
      exact absurd hj (h.others_apart handover hki hk).2
  · rw [World.pipelines_setPipeline_of_ne hji] at hj
    by_cases hki : k = i
    · rw [hki, World.pipelines_setPipeline_self] at hk
      exact absurd hk (h.others_apart handover hji hj).2
    · rw [World.pipelines_setPipeline_of_ne hki] at hk
      exact h.apart j k handle hj hk

/-- What remains to be seen when one preparation goes on: what it does to its own handles. -/
theorem Sound.replace (h : Sound w) (hnative : native.Holding [])
    (handover : Handover w.native native (w.pipelines i).owned pipeline.owned)
    (hrunning : ∀ program, pipeline.stage = .running program → Owns pipeline.handles program)
    (hworking : ∀ (β : Type) (op : CodecOp Nat β) source next,
      pipeline.stage = .working op source next →
        (∀ address ∈ source, ∃ handle ∈ pipeline.handles, native.bitmaps handle = some address) ∧
        ∀ answer, Owns (tracked pipeline.handles op answer) (next answer)) :
    Sound (World.setPipeline i pipeline { w with native := native }) := by
  have hself : (World.setPipeline i pipeline { w with native := native }).pipelines i = pipeline :=
    World.pipelines_setPipeline_self
  have hother : ∀ {j}, j ≠ i →
      (World.setPipeline i pipeline { w with native := native }).pipelines j = w.pipelines j :=
    fun hne => World.pipelines_setPipeline_of_ne hne
  refine ⟨hnative, h.owned_replace handover, fun _ _ _ => h.apart_replace handover, fun j => ?_,
    fun j program hstage => ?_, fun j β op source next hstage => ?_⟩
  · by_cases hji : j = i
    · subst hji
      rw [hself]
      exact handover.nodup
    · rw [hother hji]
      exact h.nodup j
  · by_cases hji : j = i
    · subst hji
      rw [hself] at hstage ⊢
      exact hrunning program hstage
    · rw [hother hji] at hstage ⊢
      exact h.running j program hstage
  · by_cases hji : j = i
    · subst hji
      rw [hself] at hstage ⊢
      exact hworking β op source next hstage
    · rw [hother hji] at hstage ⊢
      obtain ⟨hsource, hnext⟩ := h.working j β op source next hstage
      refine ⟨fun address haddress => ?_, hnext⟩
      obtain ⟨handle, hmem, hregistered⟩ := hsource address haddress
      have howner : handle ∈ (w.pipelines j).owned := by
        unfold Pipeline.owned
        rw [hstage]
        exact hmem
      exact ⟨handle, hmem, (h.others_kept handover hji howner).trans hregistered⟩

/-- A preparation goes on without a change of the memory or of its handles. -/
theorem Sound.advance (h : Sound w) (howned : pipeline.owned = (w.pipelines i).owned)
    (hrunning : ∀ program, pipeline.stage = .running program → Owns pipeline.handles program)
    (hworking : ∀ (β : Type) (op : CodecOp Nat β) source next,
      pipeline.stage = .working op source next →
        (∀ address ∈ source, ∃ handle ∈ pipeline.handles,
          w.native.bitmaps handle = some address) ∧
        ∀ answer, Owns (tracked pipeline.handles op answer) (next answer)) :
    Sound (w.setPipeline i pipeline) := by
  have handover : Handover w.native w.native (w.pipelines i).owned pipeline.owned := by
    rw [howned]
    exact .same rfl (h.registered i) (h.nodup i)
  exact h.replace h.native handover hrunning hworking

/-- A call ends. -/
theorem Sound.perform {op : CodecOp Nat β} {source : Option Nat}
    {next : Except Error β → ImageProg Nat α} (h : Sound w)
    (hstage : (w.pipelines i).stage = .working op source next) :
    Sound (World.setPipeline i
      ⟨.running (next (imaging.perform graphics source w.native op).1),
        tracked (w.pipelines i).handles op (imaging.perform graphics source w.native op).1⟩
      { w with native := (imaging.perform graphics source w.native op).2 }) := by
  obtain ⟨hsource, hnext⟩ := h.working i β op source next hstage
  have howner : (w.pipelines i).owned = (w.pipelines i).handles := by
    unfold Pipeline.owned
    rw [hstage]
  have hlive : ∀ address ∈ source, ∃ bitmap, w.native.heap address = some bitmap := by
    intro address haddress
    obtain ⟨handle, -, hregistered⟩ := hsource address haddress
    exact (h.native.registered handle address hregistered).2.1
  obtain ⟨hholding, hgrows⟩ := @perform_holding P β w.native graphics op source h.native hlive
  have hregistered := h.registered i
  have hnodup := h.nodup i
  rw [howner] at hregistered hnodup
  have hrunning : ∀ program, Stage.running (next (imaging.perform graphics source w.native op).1) =
      Stage.running program →
        Owns (tracked (w.pipelines i).handles op (imaging.perform graphics source w.native op).1)
          program := by
    intro program heq
    obtain rfl := Stage.running.inj heq
    exact hnext _
  refine h.replace hholding ?_ hrunning nofun
  rw [howner]
  obtain ⟨hbitmaps, -, htracked⟩ | ⟨address, hbitmaps, -, htracked⟩ := hgrows
  · rw [htracked]
    exact .same hbitmaps hregistered hnodup
  · rw [htracked, if_neg (h.native.fresh hregistered)]
    exact .add h.native hbitmaps hregistered hnodup

/-- A handle is released. -/
theorem Sound.release {handle : Nat} {todo : List Nat} {outcome : Except Error α} (h : Sound w)
    (hstage : (w.pipelines i).stage = .releasing (handle :: todo) outcome) (handles : List Nat) :
    Sound (World.setPipeline i ⟨.releasing todo outcome, handles⟩
      { w with native := w.native.release handle }) := by
  have howner : (w.pipelines i).owned = handle :: todo := by
    unfold Pipeline.owned
    rw [hstage]
  have hregistered := h.registered i
  have hnodup := h.nodup i
  rw [howner] at hregistered hnodup
  obtain ⟨address, hhandle⟩ := hregistered handle List.mem_cons_self
  obtain ⟨hholding, hbitmaps⟩ := h.native.release hhandle
  refine h.replace hholding ?_ nofun nofun
  rw [howner]
  exact .release hbitmaps hregistered hnodup

theorem Sound.proceed (h : Sound w) (graphics : Graphics P) (i : Nat) :
    Sound (w.proceed graphics i) := by
  have howned : ∀ {stage}, (w.pipelines i).stage = stage →
      (w.pipelines i).owned = Pipeline.owned ⟨stage, (w.pipelines i).handles⟩ := by
    rintro stage rfl
    rfl
  unfold World.proceed
  dsimp only
  cases hstage : (w.pipelines i).stage with
  | idle => exact h
  | finished outcome => exact h
  | running program =>
    have hprogram := h.running i program hstage
    cases program with
    | ret a => exact h.advance (howned hstage).symm nofun nofun
    | throw e => exact h.advance (howned hstage).symm nofun nofun
    | call op next =>
      obtain ⟨hinHand, hnext⟩ := hprogram
      dsimp only
      cases hhandle : handleOf op with
      | none =>
        refine h.advance (howned hstage).symm nofun fun β op' source next' heq => ?_
        cases heq
        exact ⟨nofun, fun answer => hnext answer _ rfl⟩
      | some handle =>
        dsimp only
        cases hfound : w.native.bitmaps handle with
        | none =>
          have hlost := hinHand handle hhandle
          have hkept := (h.owned handle).2 ⟨i, (howned hstage).symm ▸ hlost⟩
          obtain ⟨address, hregistered⟩ := hkept
          rw [hfound] at hregistered
          cases hregistered
        | some address =>
          refine h.advance (howned hstage).symm nofun fun β op' source next' heq => ?_
          cases heq
          refine ⟨fun address' haddress => ?_, fun answer => hnext answer _ rfl⟩
          obtain rfl := Option.some.inj haddress
          exact ⟨handle, hinHand handle hhandle, hfound⟩
  | working op source next => exact h.perform hstage
  | releasing todo outcome =>
    cases todo with
    | nil => exact h.advance (howned hstage).symm nofun nofun
    | cons handle todo => exact h.release hstage _

theorem Sound.step {w : World P PreparedImage} (h : Sound w) (ckbHash : Bytes → Bytes)
    (graphics : Graphics P) (event : Event) : Sound (w.step ckbHash graphics event) := by
  cases event with
  | start i sourceBytes format limits =>
    simp only [World.step]
    split
    · next hstage =>
      have hnone : (w.pipelines i).owned = [] := by
        unfold Pipeline.owned
        rw [hstage]
      refine h.advance hnone.symm (fun program heq => ?_) nofun
      cases heq
      exact prepareImage_owns ckbHash sourceBytes format limits
    · exact h
  | proceed i => exact h.proceed graphics i

theorem fresh_sound : Sound (World.fresh : World P α) := by
  have hnothing : (World.fresh : World P α).native.Holding [] :=
    ⟨rfl, nofun, nofun, nofun, nofun, List.nodup_nil⟩
  refine ⟨hnothing, fun handle => ⟨fun hregistered => ?_, fun hmem => ?_⟩,
    fun i j handle hmem => ?_, fun _ => List.nodup_nil, nofun, nofun⟩
  · obtain ⟨address, hsome⟩ := hregistered
    cases hsome
  · obtain ⟨i, hmem⟩ := hmem
    exact absurd hmem List.not_mem_nil
  · exact absurd hmem List.not_mem_nil

theorem Sound.run {w : World P PreparedImage} (h : Sound w) (ckbHash : Bytes → Bytes)
    (graphics : Graphics P) (events : List Event) : Sound (w.run ckbHash graphics events) := by
  induction events generalizing w with
  | nil => exact h
  | cons event events ih => exact ih (h.step ckbHash graphics event)

/-- A preparation that was not started, or is over. -/
def Pipeline.Over (pipeline : Pipeline α) : Prop :=
  match pipeline.stage with
  | .idle => True
  | .finished _ => True
  | _ => False

theorem Pipeline.Over.owned (h : pipeline.Over) : pipeline.owned = [] := by
  unfold Pipeline.Over at h
  unfold Pipeline.owned
  cases hstage : pipeline.stage with
  | idle => rfl
  | finished outcome => rfl
  | _ =>
    rw [hstage] at h
    exact absurd h id

end Steps

end cemp.app.imaging
