import CempMobile.Sync.Discovery

open cemp.core cemp.database cemp.ckb

namespace cemp.sync

/-- What a scan of the inbox leaves: the cells handed to `processDiscoveredCell`, the pages the
    indexer has yet to serve for the tag at hand, and the readings of the clock. -/
structure Scan where
  handed : List IndexedCell
  remaining : List CellPage
  clock : List Nat

/-- A scan in which every node call succeeds and every lease is free. A search without a cursor
    starts the listing of its args, one with a cursor continues it. The database may do anything. -/
def scanEffect (ownProfileId : ProfileId) (pages : Bytes → List CellPage) :
    Program.Effect Op Error Scan := fun _ op s answer s' =>
  match op with
  | .ownProfileId => answer = .ok (some ownProfileId) ∧ s' = s
  | .now => ∃ nowMs, answer = .ok nowMs ∧ s' = { s with clock := s.clock ++ [nowMs] }
  | .findCells _ _ args after =>
    match if after.isNone then pages args else s.remaining with
    | page :: rest => answer = .ok page ∧ s' = { s with remaining := rest }
    | [] => (∃ e, answer = .error e) ∧ s' = s
  | .acquireLease _ => answer = .ok true ∧ s' = s
  | .releaseLease _ => answer = .ok () ∧ s' = s
  | .processing cell => answer = .ok () ∧ s' = { s with handed := s.handed ++ [cell] }
  | _ => s' = s

/-- A listing that ends with its only terminal cursor. -/
def EndsTerminal (pages : List CellPage) : Prop :=
  ∃ front last, pages = front ++ [last] ∧ isTerminalCursor last.lastCursor ∧
    ∀ page ∈ front, isTerminalCursor page.lastCursor = false

/-- The message cells up to the first page whose cells are all filtered out. -/
def beforeJunk (start : Bytes) : List CellPage → List IndexedCell
  | [] => []
  | page :: pages =>
    if messageCells start page = [] then [] else messageCells start page ++ beforeJunk start pages

/-- The message cells behind the first page whose cells are all filtered out. -/
def behindJunk (start : Bytes) : List CellPage → List IndexedCell
  | [] => []
  | page :: pages =>
    if messageCells start page = [] then pages.flatMap (messageCells start)
    else behindJunk start pages

/-- A listing's message cells are those before its first all-junk page and those behind it. -/
theorem mem_listing {start : Bytes} {pages : List CellPage} {cell : IndexedCell} :
    cell ∈ pages.flatMap (messageCells start) ↔
      cell ∈ beforeJunk start pages ∨ cell ∈ behindJunk start pages := by
  induction pages with
  | nil => simp [beforeJunk, behindJunk]
  | cons page pages ih =>
    by_cases hempty : messageCells start page = []
    · simp only [List.flatMap_cons, beforeJunk, behindJunk, hempty, if_true, List.nil_append,
        List.not_mem_nil, false_or]
    · simp only [List.flatMap_cons, beforeJunk, behindJunk, hempty, if_false, List.mem_append, ih,
        or_assoc]

theorem EndsTerminal.ne_nil {pages : List CellPage} (h : EndsTerminal pages) : pages ≠ [] := by
  obtain ⟨front, last, rfl, -⟩ := h
  exact List.append_ne_nil_of_right_ne_nil _ (List.cons_ne_nil _ _)

/-- The first page of a listing is its last one, or more pages follow. -/
theorem EndsTerminal.cons {page : CellPage} {pages : List CellPage} (h : EndsTerminal (page :: pages)) :
    (isTerminalCursor page.lastCursor ∧ pages = []) ∨
      (isTerminalCursor page.lastCursor = false ∧ EndsTerminal pages) := by
  obtain ⟨front, last, hpages, hlast, hfront⟩ := h
  cases front with
  | nil =>
    obtain ⟨rfl, rfl⟩ := List.cons.inj hpages
    exact .inl ⟨hlast, rfl⟩
  | cons first front =>
    obtain ⟨rfl, rfl⟩ := List.cons.inj hpages
    exact .inr ⟨hfront page List.mem_cons_self, front, last, rfl, hlast,
      fun p hp => hfront p (List.mem_cons_of_mem _ hp)⟩

section Loop

variable {ownProfileId : ProfileId} {pages : Bytes → List CellPage} {s s' : Scan} {α : Type}
  {out : Except Error α}

/-- What leaves the pages alone and keeps the first reading of the clock. -/
structure Scan.Advances (s s' : Scan) : Prop where
  remaining : s'.remaining = s.remaining
  clock : s.clock <+: s'.clock

theorem Scan.Advances.refl (s : Scan) : s.Advances s := ⟨rfl, List.prefix_rfl⟩

theorem Scan.Advances.trans {s'' : Scan} (h : s.Advances s') (h' : s'.Advances s'') : s.Advances s'' :=
  ⟨h'.remaining.trans h.remaining, h.clock.trans h'.clock⟩

/-- The ingest of a cell hands nothing on. -/
theorem Runs.local_handed {p : Prog α} (huses : Program.Uses IsLocal p)
    (hrun : Program.Runs (scanEffect ownProfileId pages) p s out s') :
    s'.handed = s.handed ∧ s.Advances s' := by
  have hkeeps : ∀ (β : Type) (op : Op β) (t : Scan) (r : Except Error β) (t' : Scan), IsLocal β op →
      scanEffect ownProfileId pages β op t r t' → t.handed = s.handed ∧ s.Advances t →
      t'.handed = s.handed ∧ s.Advances t' := by
    intro β op t r t' hop heffect ht
    cases op with
    | store access =>
      obtain rfl : t' = t := heffect
      exact ht
    | now =>
      obtain ⟨nowMs, -, rfl⟩ := heffect
      exact ⟨ht.1, ht.2.remaining, ht.2.clock.trans (List.prefix_append _ _)⟩
    | notify rowId =>
      obtain rfl : t' = t := heffect
      exact ht
    | _ => exact absurd hop id
  exact hrun.preserves huses hkeeps ⟨rfl, .refl s⟩

theorem ingest_handed {config : RateLimiterConfig} {envelope : Except Error DecryptedEnvelope}
    {source : Option OutPoint} {out : Except Error Unit}
    (hrun : Program.Runs (scanEffect ownProfileId pages)
      (ingestIncomingCellData config ownProfileId envelope source) s out s') :
    s'.handed = s.handed ∧ s.Advances s' := by
  unfold ingestIncomingCellData at hrun
  split at hrun
  · obtain ⟨-, rfl⟩ := hrun
    exact ⟨rfl, .refl _⟩
  · exact Runs.local_handed (ingestMessage_local _ _ _) hrun

/-- A cell under a free lease is handed on, whatever becomes of it. -/
theorem discoverCell_runs {deps : SyncWorkerDeps} {cell : IndexedCell} {out : Except Error Unit}
    (hrun : Program.Runs (scanEffect ownProfileId pages) (discoverCell deps ownProfileId cell) s out
      s') : out = .ok () ∧ s'.handed = s.handed ++ [cell] ∧ s.Advances s' := by
  unfold discoverCell at hrun
  simp only [Program.bind_eq_bind, Program.runs_bind, Program.runs_perform] at hrun
  obtain ⟨leased, mid, ⟨hleased, rfl⟩, hrest⟩ | ⟨e, ⟨herror, -⟩, -⟩ := hrun
  · obtain rfl := Except.ok.inj hleased
    simp only [if_true, Program.runs_bind, Program.runs_attempt, Program.runs_perform] at hrest
    obtain ⟨r, late, ⟨r', -, hprocess⟩, ⟨rfl, rfl⟩⟩ | ⟨e, ⟨r', hr', -⟩, -⟩ := hrest
    · simp only [processDiscoveredCell, Program.bind_eq_bind, Program.runs_bind,
        Program.runs_perform] at hprocess
      obtain ⟨_, entered, ⟨-, rfl⟩, hingest⟩ | ⟨e, ⟨herror, -⟩, -⟩ := hprocess
      · obtain ⟨hhanded, hadvances⟩ := ingest_handed hingest
        exact ⟨rfl, hhanded, hadvances.remaining, hadvances.clock⟩
      · cases herror
    · cases hr'
  · cases herror

theorem forEach_discoverCell {deps : SyncWorkerDeps} {cells : List IndexedCell}
    {out : Except Error Unit}
    (hrun : Program.Runs (scanEffect ownProfileId pages)
      (Program.forEach (discoverCell deps ownProfileId) cells) s out s') :
    out = .ok () ∧ s'.handed = s.handed ++ cells ∧ s.Advances s' := by
  induction cells generalizing s with
  | nil =>
    obtain ⟨rfl, rfl⟩ := hrun
    exact ⟨rfl, (List.append_nil _).symm, .refl _⟩
  | cons cell cells ih =>
    simp only [Program.forEach_cons, Program.runs_bind] at hrun
    obtain ⟨_, mid, hfirst, hrest⟩ | ⟨e, hfirst, -⟩ := hrun
    · obtain ⟨-, hhanded, hadvances⟩ := discoverCell_runs hfirst
      obtain ⟨hout, hhanded', hadvances'⟩ := ih hrest
      refine ⟨hout, ?_, hadvances.trans hadvances'⟩
      rw [hhanded', hhanded, List.append_assoc, List.singleton_append]
    · cases (discoverCell_runs hfirst).1

variable {γ δ : Type} {messageType : CempMessageTypeRef} {routeTag : Bytes}
  {body : γ → CellPage → Prog γ} {seen : γ}

/-- The page a search answers, with its cells filtered. -/
theorem findMessageCells_runs (hlength : routeTag.length = MESSAGE_TYPE_ARGS.routeTagBytes)
    {cursor : Option String} {page : CellPage} {rest : List CellPage} {out : Except Error CellPage}
    (hnext : (if cursor.isNone then pages (routeTagPrefix routeTag) else s.remaining) = page :: rest)
    (hrun : Program.Runs (scanEffect ownProfileId pages)
      (findMessageCells messageType routeTag cursor) s out s') :
    out = .ok ⟨messageCells (routeTagPrefix routeTag) page, page.lastCursor⟩ ∧
      s' = { s with remaining := rest } := by
  have htag : buildRouteTagPrefix routeTag = .ok (routeTagPrefix routeTag) := by
    unfold buildRouteTagPrefix
    rw [if_neg (not_not_intro hlength)]
  simp only [findMessageCells, htag, Program.ofExcept, Program.bind_eq_bind, Program.ret_bind,
    Program.runs_bind, Program.runs_perform, scanEffect, hnext] at hrun
  obtain ⟨page', mid, ⟨hpage, rfl⟩, ⟨rfl, rfl⟩⟩ | ⟨e, ⟨herror, -⟩, -⟩ := hrun
  · obtain rfl := Except.ok.inj hpage
    exact ⟨rfl, rfl⟩
  · cases herror

/-- The paging loop sees the message cells of every page up to the first one whose cells are all
    filtered out, whatever `view` shows what its body has seen. -/
theorem scanPages_runs (hlength : routeTag.length = MESSAGE_TYPE_ARGS.routeTagBytes)
    (view : γ → Scan → List δ) (show' : IndexedCell → δ)
    (hview : ∀ (a : γ) (t : Scan) (rest : List CellPage), view a { t with remaining := rest } = view a t)
    (hbody : ∀ (a : γ) (page : CellPage) (t : Scan) (r : Except Error γ) (t' : Scan),
      Program.Runs (scanEffect ownProfileId pages) (body a page) t r t' →
      ∃ b, r = .ok b ∧ view b t' = view a t ++ page.cells.map show' ∧ t.Advances t')
    {listing : List CellPage} (hterminal : EndsTerminal listing) {fuel : Nat}
    (hfuel : listing.length ≤ fuel) {cursor : Option String} {out : Except Error γ}
    (hnext : (if cursor.isNone then pages (routeTagPrefix routeTag) else s.remaining) = listing)
    (hrun : Program.Runs (scanEffect ownProfileId pages)
      (scanPages messageType routeTag body fuel cursor seen) s out s') :
    ∃ b, out = .ok b ∧
      view b s' = view seen s ++ (beforeJunk (routeTagPrefix routeTag) listing).map show' ∧
      s.clock <+: s'.clock := by
  induction listing generalizing s fuel cursor seen with
  | nil => exact absurd rfl hterminal.ne_nil
  | cons page listing ih =>
    obtain ⟨fuel, rfl⟩ : ∃ n, fuel = n + 1 := ⟨fuel - 1, by rw [List.length_cons] at hfuel; omega⟩
    simp only [scanPages, Program.bind_eq_bind, Program.runs_bind] at hrun
    obtain ⟨found, mid, hfind, hrest⟩ | ⟨e, hfind, -⟩ := hrun
    · obtain ⟨hfound, rfl⟩ := findMessageCells_runs hlength hnext hfind
      obtain rfl := Except.ok.inj hfound
      obtain ⟨seen', late, hbodyRun, hrest⟩ | ⟨e, hbodyRun, -⟩ := hrest
      · obtain ⟨b, hb, hseen, hadvances⟩ := hbody _ _ _ _ _ hbodyRun
        obtain rfl := Except.ok.inj hb
        rw [hview seen s listing] at hseen
        have hclock : s.clock <+: late.clock := hadvances.clock
        by_cases hempty : messageCells (routeTagPrefix routeTag) page = []
        · -- the scan stops here, whatever the cursor says
          rw [if_pos (.inl (by rw [hempty]; rfl))] at hrest
          obtain ⟨rfl, rfl⟩ := hrest
          refine ⟨_, rfl, ?_, hclock⟩
          simp only [beforeJunk, hempty, if_true, List.map_nil, List.append_nil] at hseen ⊢
          exact hseen
        · have hlength' : (messageCells (routeTagPrefix routeTag) page).length ≠ 0 :=
            fun h => hempty (List.length_eq_zero_iff.mp h)
          obtain ⟨hlast, rfl⟩ | ⟨hmore, hterminal'⟩ := hterminal.cons
          · rw [if_pos (.inr hlast)] at hrest
            obtain ⟨rfl, rfl⟩ := hrest
            refine ⟨_, rfl, ?_, hclock⟩
            simp only [beforeJunk, hempty, if_false, List.append_nil]
            exact hseen
          · have hgo : ¬((messageCells (routeTagPrefix routeTag) page).length = 0 ∨
                isTerminalCursor page.lastCursor = true) := by
              rw [hmore]
              exact fun h => h.elim hlength' nofun
            rw [if_neg hgo] at hrest
            have hnext' : (if (some page.lastCursor).isNone then pages (routeTagPrefix routeTag)
                else late.remaining) = listing := hadvances.remaining
            obtain ⟨b, rfl, hb, hclock'⟩ := ih hterminal' (by rw [List.length_cons] at hfuel; omega)
              hnext' hrest
            refine ⟨b, rfl, ?_, hclock.trans hclock'⟩
            simp only [beforeJunk, hempty, if_false, List.map_append]
            rw [hb, hseen, List.append_assoc]
      · obtain ⟨b, hb, -⟩ := hbody _ _ _ _ _ hbodyRun
        cases hb
    · cases (findMessageCells_runs hlength hnext hfind).1

theorem scanRouteTag_runs {deps : SyncWorkerDeps} {epoch fuel : Nat} {out : Except Error Unit}
    (hpages : ∀ args, EndsTerminal (pages args)) (hfuel : ∀ args, (pages args).length ≤ fuel)
    (htag : (deps.pipeline.deriveRouteTag ownProfileId epoch).length = MESSAGE_TYPE_ARGS.routeTagBytes)
    (hrun : Program.Runs (scanEffect ownProfileId pages) (scanRouteTag deps fuel ownProfileId epoch) s
      out s') :
    let start := routeTagPrefix (deps.pipeline.deriveRouteTag ownProfileId epoch)
    out = .ok () ∧ s'.handed = s.handed ++ beforeJunk start (pages start) ∧ s.clock <+: s'.clock := by
  obtain ⟨_, rfl, hhanded, hclock⟩ := scanPages_runs htag (fun _ t => t.handed) id
    (fun _ _ _ => rfl)
    (by
      intro _ page t r t' hbody
      obtain ⟨rfl, hhanded, hadvances⟩ := forEach_discoverCell hbody
      exact ⟨(), rfl, by rw [hhanded, List.map_id], hadvances⟩)
    (hpages _) (hfuel _) rfl hrun
  rw [List.map_id] at hhanded
  exact ⟨rfl, hhanded, hclock⟩

/-- A discovery hands on what the two listings have before their first all-junk page, and stops
    at no error. The first reading of the clock decides which listings these are. -/
theorem runIncomingDiscovery_runs {deps : SyncWorkerDeps} {fuel nowMs : Nat}
    {out : Except Error Unit}
    (hpages : ∀ args, EndsTerminal (pages args)) (hfuel : ∀ args, (pages args).length ≤ fuel)
    (htags : ∀ epoch,
      (deps.pipeline.deriveRouteTag ownProfileId epoch).length = MESSAGE_TYPE_ARGS.routeTagBytes)
    (hrun : Program.Runs (scanEffect ownProfileId pages) (runIncomingDiscovery deps fuel) ⟨[], [], []⟩
      out s') (hclock : s'.clock.head? = some nowMs) (cell : IndexedCell) :
    cell ∈ s'.handed ↔ ∃ epoch ∈ watchedEpochs nowMs,
      cell ∈ beforeJunk (routeTagPrefix (deps.pipeline.deriveRouteTag ownProfileId epoch))
        (pages (routeTagPrefix (deps.pipeline.deriveRouteTag ownProfileId epoch))) := by
  simp only [runIncomingDiscovery, Program.bind_eq_bind, Program.runs_bind, Program.runs_perform]
    at hrun
  obtain ⟨id, mid, ⟨hid, rfl⟩, hrest⟩ | ⟨e, ⟨herror, -⟩, -⟩ := hrun
  · obtain rfl := Except.ok.inj hid
    simp only [Program.runs_bind, Program.runs_perform] at hrest
    obtain ⟨now, late, ⟨nowMs', hnow, rfl⟩, hrest⟩ | ⟨e, ⟨_, herror, -⟩, -⟩ := hrest
    · obtain rfl := Except.ok.inj hnow
      simp only [watchedEpochs, Program.forEach_cons, Program.forEach_nil, Program.bind_ret_unit,
        Program.runs_bind] at hrest
      obtain ⟨_, first, hfirst, hsecond⟩ | ⟨e, hfirst, -⟩ := hrest
      · obtain ⟨-, hhanded, hclock₁⟩ := scanRouteTag_runs hpages hfuel (htags _) hfirst
        obtain ⟨-, hhanded', hclock₂⟩ := scanRouteTag_runs hpages hfuel (htags _) hsecond
        obtain ⟨later, hlater⟩ := hclock₁.trans hclock₂
        obtain rfl : now = nowMs := by
          rw [← hlater] at hclock
          exact Option.some.inj hclock
        rw [hhanded', hhanded, List.nil_append, List.mem_append]
        simp only [watchedEpochs, List.mem_cons, List.not_mem_nil, or_false, exists_eq_or_imp,
          exists_eq_left]
      · cases (scanRouteTag_runs hpages hfuel (htags _) hfirst).1
    · cases herror
  · cases herror

theorem outpointsForTag_runs {fuel : Nat} {out : Except Error (List OutPoint)}
    (hpages : ∀ args, EndsTerminal (pages args)) (hfuel : ∀ args, (pages args).length ≤ fuel)
    (hlength : routeTag.length = MESSAGE_TYPE_ARGS.routeTagBytes)
    (hrun : Program.Runs (scanEffect ownProfileId pages) (app.outpointsForTag messageType fuel routeTag)
      s out s') :
    out = .ok ((beforeJunk (routeTagPrefix routeTag) (pages (routeTagPrefix routeTag))).map
      (·.outPoint)) := by
  obtain ⟨listed, rfl, hlisted, -⟩ := scanPages_runs hlength (fun a _ => a) (·.outPoint)
    (fun _ _ _ => rfl)
    (by
      intro a page t r t' hbody
      obtain ⟨rfl, rfl⟩ := hbody
      exact ⟨_, rfl, rfl, .refl _⟩)
    (hpages _) (hfuel _) rfl hrun
  rw [hlisted, List.nil_append]

end Loop

section Completeness

variable (deps : SyncWorkerDeps) (ownProfileId : ProfileId) (pages : Bytes → List CellPage)

/-- The discovery at `nowMs` handed on every message cell the indexer lists for the watched
    epochs, and the locked probe listed every one there is for its tag. -/
structure DiscoveryComplete (nowMs : Nat) (routeTag : Bytes) (handed : List IndexedCell)
    (listed : Except Error (List OutPoint)) : Prop where
  discovery : ∀ epoch ∈ watchedEpochs nowMs,
    let start := routeTagPrefix (deps.pipeline.deriveRouteTag ownProfileId epoch)
    ∀ page ∈ pages start, ∀ cell ∈ page.cells, isMessageCell start cell → cell ∈ handed
  probe : ∃ outpoints, listed = .ok outpoints ∧ ∀ page ∈ pages (routeTagPrefix routeTag),
    ∀ cell ∈ page.cells, isMessageCell (routeTagPrefix routeTag) cell → cell.outPoint ∈ outpoints

/-- No message cell is listed only behind a page whose cells are all filtered out. -/
structure NothingBehindJunk (nowMs : Nat) (routeTag : Bytes) : Prop where
  discovery : ∀ epoch ∈ watchedEpochs nowMs,
    let start := routeTagPrefix (deps.pipeline.deriveRouteTag ownProfileId epoch)
    ∀ cell ∈ behindJunk start (pages start), ∃ epoch' ∈ watchedEpochs nowMs,
      let start' := routeTagPrefix (deps.pipeline.deriveRouteTag ownProfileId epoch')
      cell ∈ beforeJunk start' (pages start')
  probe : ∀ cell ∈ behindJunk (routeTagPrefix routeTag) (pages (routeTagPrefix routeTag)),
    ∃ cell' ∈ beforeJunk (routeTagPrefix routeTag) (pages (routeTagPrefix routeTag)),
      cell'.outPoint = cell.outPoint

variable {deps ownProfileId pages}

theorem mem_messageListing {start : Bytes} {listing : List CellPage} {cell : IndexedCell} :
    (∃ page ∈ listing, cell ∈ page.cells ∧ isMessageCell start cell) ↔
      cell ∈ beforeJunk start listing ∨ cell ∈ behindJunk start listing := by
  rw [← mem_listing, List.mem_flatMap]
  simp only [messageCells, List.mem_filter]

/-- Over every arrangement of cells on pages, both scans find every message cell exactly when
    none is listed only behind a page of junk. -/
theorem discovery_complete_iff (hpages : ∀ args, EndsTerminal (pages args)) {fuel : Nat}
    (hfuel : ∀ args, (pages args).length ≤ fuel)
    (htags : ∀ epoch,
      (deps.pipeline.deriveRouteTag ownProfileId epoch).length = MESSAGE_TYPE_ARGS.routeTagBytes)
    {out : Except Error Unit} {s' : Scan}
    (hrun : Program.Runs (scanEffect ownProfileId pages) (runIncomingDiscovery deps fuel) ⟨[], [], []⟩
      out s') {nowMs : Nat} (hclock : s'.clock.head? = some nowMs) {routeTag : Bytes}
    (hlength : routeTag.length = MESSAGE_TYPE_ARGS.routeTagBytes)
    {listed : Except Error (List OutPoint)} {t t' : Scan}
    (hprobe : Program.Runs (scanEffect ownProfileId pages)
      (app.outpointsForTag deps.pipeline.messageType fuel routeTag) t listed t') :
    DiscoveryComplete deps ownProfileId pages nowMs routeTag s'.handed listed ↔
      NothingBehindJunk deps ownProfileId pages nowMs routeTag := by
  have hhanded := runIncomingDiscovery_runs hpages hfuel htags hrun hclock
  obtain rfl := outpointsForTag_runs hpages hfuel hlength hprobe
  constructor
  · intro hcomplete
    refine ⟨fun epoch hepoch cell hbehind => ?_, fun cell hbehind => ?_⟩
    · obtain ⟨page, hpage, hcell, hmessage⟩ := mem_messageListing.2 (.inr hbehind)
      exact (hhanded cell).1 (hcomplete.discovery epoch hepoch page hpage cell hcell hmessage)
    · obtain ⟨page, hpage, hcell, hmessage⟩ := mem_messageListing.2 (.inr hbehind)
      obtain ⟨outpoints, houtpoints, hall⟩ := hcomplete.probe
      obtain rfl := Except.ok.inj houtpoints
      obtain ⟨cell', hcell', hsame⟩ := List.mem_map.1 (hall page hpage cell hcell hmessage)
      exact ⟨cell', hcell', hsame⟩
  · intro hnothing
    refine ⟨fun epoch hepoch page hpage cell hcell hmessage => ?_, _, rfl,
      fun page hpage cell hcell hmessage => ?_⟩
    · obtain hbefore | hbehind := mem_messageListing.1 ⟨page, hpage, hcell, hmessage⟩
      · exact (hhanded cell).2 ⟨epoch, hepoch, hbefore⟩
      · exact (hhanded cell).2 (hnothing.discovery epoch hepoch cell hbehind)
    · obtain hbefore | hbehind := mem_messageListing.1 ⟨page, hpage, hcell, hmessage⟩
      · exact List.mem_map_of_mem hbefore
      · obtain ⟨cell', hcell', hsame⟩ := hnothing.probe cell hbehind
        exact hsame ▸ List.mem_map_of_mem hcell'

end Completeness

/-- A scan in which no envelope can be stored. -/
def scanHandler (ownProfileId : ProfileId) (nowMs : Nat) (pages : Bytes → List CellPage) :
    Program.Handler Op Error Scan := fun _ op s =>
  match op with
  | .ownProfileId => (.ok (some ownProfileId), s)
  | .now => (.ok nowMs, { s with clock := s.clock ++ [nowMs] })
  | .findCells _ _ args after =>
    match if after.isNone then pages args else s.remaining with
    | page :: rest => (.ok page, { s with remaining := rest })
    | [] => (.error (.other "no such page"), s)
  | .acquireLease _ => (.ok true, s)
  | .releaseLease _ => (.ok (), s)
  | .processing cell => (.ok (), { s with handed := s.handed ++ [cell] })
  | _ => (.error (.other "no such call"), s)

theorem runs_scanHandler {α : Type} (ownProfileId : ProfileId) (nowMs : Nat)
    (pages : Bytes → List CellPage) (p : Prog α) (s : Scan) :
    Program.Runs (scanEffect ownProfileId pages) p s
      (Program.run (scanHandler ownProfileId nowMs pages) p s).1
      (Program.run (scanHandler ownProfileId nowMs pages) p s).2 := by
  refine Program.runs_of_run (scanHandler ownProfileId nowMs pages) id ?_ p s
  intro β op s
  cases op with
  | findCells codeHash hashType args after =>
    simp only [scanHandler, scanEffect, id_eq]
    split
    · exact ⟨rfl, rfl⟩
    · exact ⟨⟨_, rfl⟩, rfl⟩
  | now => exact ⟨nowMs, rfl, rfl⟩
  | ownProfileId | acquireLease _ | releaseLease _ | processing _ => exact ⟨rfl, rfl⟩
  | _ => rfl

/-- A message cell under the tag of the sample wallet, and one cut short under the same prefix. -/
def sampleCell : IndexedCell :=
  ⟨⟨7, 0⟩, some (1 :: List.replicate 32 5 ++ List.replicate 48 0), [1, 2, 3]⟩

def junkCell : IndexedCell := ⟨⟨8, 0⟩, some (1 :: List.replicate 32 5), []⟩

/-- A listing of which every page has a message cell, and one that opens with a page of junk. -/
def mixedPages : List CellPage := [⟨[junkCell, sampleCell], "0x01"⟩, ⟨[sampleCell], "0x"⟩]

def junkFirstPages : List CellPage := [⟨[junkCell], "0x01"⟩, ⟨[sampleCell], "0x"⟩]

/-- What both scans of a listing come to. -/
def sampleScan (listing : List CellPage) : List IndexedCell × Except Error (List OutPoint) :=
  ((Program.run (scanHandler (sampleProfile 2) 5184000000 fun _ => listing)
      (runIncomingDiscovery sampleWorkerDeps 2) ⟨[], [], []⟩).2.handed,
    (Program.run (scanHandler (sampleProfile 2) 5184000000 fun _ => listing)
      (app.outpointsForTag samplePipeline.messageType 2 (List.replicate 32 5)) ⟨[], [], []⟩).1)

/-- Junk beside message cells hides nothing. -/
theorem mixedPages_complete :
    DiscoveryComplete sampleWorkerDeps (sampleProfile 2) (fun _ => mixedPages) 5184000000
      (List.replicate 32 5) (sampleScan mixedPages).1 (sampleScan mixedPages).2 := by
  have hnone : behindJunk (routeTagPrefix (List.replicate 32 5)) mixedPages = [] := by
    decide +kernel
  have hnothing : NothingBehindJunk sampleWorkerDeps (sampleProfile 2) (fun _ => mixedPages)
      5184000000 (List.replicate 32 5) := by
    refine ⟨fun epoch _ cell hbehind => ?_, fun cell hbehind => ?_⟩
    · exact absurd (hnone ▸ hbehind) List.not_mem_nil
    · exact absurd (hnone ▸ hbehind) List.not_mem_nil
  have hterminal : EndsTerminal mixedPages :=
    ⟨[⟨[junkCell, sampleCell], "0x01"⟩], ⟨[sampleCell], "0x"⟩, rfl, by decide, by decide⟩
  have hprobe := runs_scanHandler (sampleProfile 2) 5184000000 (fun _ => mixedPages)
    (app.outpointsForTag samplePipeline.messageType 2 (List.replicate 32 5)) ⟨[], [], []⟩
  exact (discovery_complete_iff (fun _ => hterminal) (fun _ => Nat.le_refl 2) (fun _ => rfl)
    (runs_scanHandler (sampleProfile 2) 5184000000 _ _ _) (by decide +kernel) rfl hprobe).2 hnothing

/-- A page of one junk cell hides the message cell on the page behind it from both scans. -/
theorem junkFirstPages_incomplete :
    ∃ out s' listed t', Program.Runs (scanEffect (sampleProfile 2) fun _ => junkFirstPages)
        (runIncomingDiscovery sampleWorkerDeps 2) ⟨[], [], []⟩ out s' ∧
      s'.clock.head? = some 5184000000 ∧
      Program.Runs (scanEffect (sampleProfile 2) fun _ => junkFirstPages)
        (app.outpointsForTag samplePipeline.messageType 2 (List.replicate 32 5)) ⟨[], [], []⟩ listed t' ∧
      ¬DiscoveryComplete sampleWorkerDeps (sampleProfile 2) (fun _ => junkFirstPages) 5184000000
        (List.replicate 32 5) s'.handed listed := by
  refine ⟨_, _, _, _, runs_scanHandler _ 5184000000 _ _ _, by decide +kernel,
    runs_scanHandler _ 5184000000 _ _ _, fun hcomplete => ?_⟩
  have hhanded := hcomplete.discovery 2 (by decide) ⟨[sampleCell], "0x"⟩
    (List.mem_cons_of_mem _ List.mem_cons_self) sampleCell List.mem_cons_self (by decide +kernel)
  revert hhanded
  decide +kernel

end cemp.sync
