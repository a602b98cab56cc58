import IntegrationOrchestrator.Dispatch.LateSuccess
import IntegrationOrchestrator.Webhooks.ReceiptSteps

namespace IntegrationOrchestrator

variable {Digest : Type}

abbrev Receipts := Table WebhookReceipt.id

/-- One receipt an event, and for every event journalled as applied a settled
one. -/
structure Receipts.Good (receipts : Receipts) (applied : List (ProviderSlug × String)) : Prop where
  unique : ∀ id id' row row', receipts.get id = some row → receipts.get id' = some row' →
    row.provider = row'.provider → row.eventId = row'.eventId → id = id'
  journalled : ∀ key ∈ applied, ∃ id row, receipts.get id = some row ∧ row.provider = key.1 ∧
    row.eventId = key.2 ∧ row.isSettled = true
  once : applied.Nodup

/-- The row of the copy is not settled yet. -/
def Receipts.Open (receipts : Receipts) (copy : WebhookReceipt) : Prop :=
  ∃ row, receipts.get copy.id = some row ∧ row.isSettled = false ∧ row.provider = copy.provider ∧
    row.eventId = copy.eventId

def WebhookFrame.Asserts (s : WebhookState Digest) (frame : WebhookFrame) : Prop :=
  frame.OwnEvent ∧ ∀ copy, frame.copy = some copy → Receipts.Open s.receipts copy

/-- The receipt a frame holds a copy of. -/
def WebhookFrame.held (frame : WebhookFrame) : Option UUID := frame.copy.map WebhookReceipt.id

/-- The receipt a frame may take a copy of. -/
def WebhookFrame.picks (s : WebhookState Digest) : WebhookFrame → Option UUID
  | .persistReceipt webhook event _ _ =>
    (s.findByEventId webhook.provider event.providerEventId).map WebhookReceipt.id
  | .claimDeferred receiptId => some receiptId
  | _ => none

/-- No one takes a copy of a receipt while another holds one. -/
def oneHolder (c : WebhookConfiguration Digest) (a : WebhookAction) : Bool :=
  (c.scheduled a).all fun next => (next.1.picks c.state).all fun id =>
    c.frames.all fun other => decide (other.held ≠ some id)

abbrev OneHolder (c : WebhookConfiguration Digest) (a : WebhookAction) : Prop := oneHolder c a = true

theorem oneHolder_run {c : WebhookConfiguration Digest} {task : Nat} {input : WebhookInput}
    {frame : WebhookFrame} {rest : List WebhookFrame} {id : UUID} (allowed : OneHolder c (.run task input))
    (atTask : c.tasks[task]? = some (frame :: rest)) (picked : frame.picks c.state = some id) :
    ∀ other ∈ c.frames, other.held ≠ some id := by
  have scheduled : c.scheduled (TaskPool.Action.run task input : WebhookAction) = some (frame, input) := by
    simp only [TaskPool.Config.scheduled, atTask]
  unfold OneHolder oneHolder at allowed
  rw [scheduled] at allowed
  simpa [picked] using allowed

section tables

variable {receipts : Receipts} {applied : List (ProviderSlug × String)} {receipt copy row : WebhookReceipt}

/-- A new receipt, with an event of its own. -/
theorem Receipts.Good.put (good : Receipts.Good receipts applied) (fresh : receipts.get receipt.id = none)
    (alone : ∀ id row, receipts.get id = some row → ¬ (row.provider = receipt.provider ∧
      row.eventId = receipt.eventId)) : Receipts.Good (receipts.put receipt) applied where
  unique id id' row row' found found' provider event := by
    rw [Table.get_put] at found found'
    split at found <;> split at found'
    · rename_i same same'
      exact same.trans same'.symm
    · cases found
      exact absurd ⟨provider.symm, event.symm⟩ (alone id' row' found')
    · cases found'
      exact absurd ⟨provider, event⟩ (alone id row found)
    · exact good.unique id id' row row' found found' provider event
  journalled key member := by
    obtain ⟨id, row, found, facts⟩ := good.journalled key member
    refine ⟨id, row, ?_, facts⟩
    rw [Table.get_put, if_neg]
    · exact found
    · rintro rfl
      rw [fresh] at found
      cases found
  once := good.once

theorem Receipts.Open.put (open' : Receipts.Open receipts copy) (other : copy.id ≠ receipt.id) :
    Receipts.Open (receipts.put receipt) copy := by
  obtain ⟨row, found, facts⟩ := open'
  exact ⟨row, by rw [Table.get_put, if_neg other]; exact found, facts⟩

/-- The row of an open receipt is written back. -/
theorem Receipts.Good.write (good : Receipts.Good receipts applied) {row' : WebhookReceipt}
    (found : receipts.get row'.id = some row) (unsettled : row.isSettled = false)
    (provider : row'.provider = row.provider) (event : row'.eventId = row.eventId) :
    Receipts.Good (receipts.put row') applied where
  unique id id' first second found₁ found₂ sameProvider sameEvent := by
    rw [Table.get_put] at found₁ found₂
    split at found₁ <;> split at found₂
    · rename_i same same'
      exact same.trans same'.symm
    · rename_i same _
      cases found₁
      exact good.unique id id' row second (same ▸ found) found₂ (provider ▸ sameProvider) (event ▸ sameEvent)
    · rename_i _ same
      cases found₂
      exact good.unique id id' first row found₁ (same ▸ found) (provider ▸ sameProvider) (event ▸ sameEvent)
    · exact good.unique id id' first second found₁ found₂ sameProvider sameEvent
  journalled key member := by
    obtain ⟨id, kept, found', facts⟩ := good.journalled key member
    refine ⟨id, kept, ?_, facts⟩
    rw [Table.get_put, if_neg]
    · exact found'
    · rintro rfl
      cases found.symm.trans found'
      rw [unsettled] at facts
      cases facts.2.2
  once := good.once

/-- An event is journalled when its receipt is settled. -/
theorem Receipts.Good.journal (good : Receipts.Good receipts applied) {row' : WebhookReceipt}
    (found : receipts.get row'.id = some row) (unsettled : row.isSettled = false)
    (provider : row'.provider = row.provider) (event : row'.eventId = row.eventId)
    (settled : row'.isSettled = true) :
    Receipts.Good (receipts.put row') (applied ++ [(row'.provider, row'.eventId)]) where
  unique := (good.write found unsettled provider event).unique
  journalled key member := by
    rcases List.mem_append.mp member with old | new
    · exact (good.write found unsettled provider event).journalled key old
    · cases List.mem_singleton.mp new
      exact ⟨row'.id, row', by rw [Table.get_put, if_pos rfl], rfl, rfl, settled⟩
  once := by
    refine List.nodup_append.mpr ⟨good.once, List.nodup_singleton _, ?_⟩
    intro key old key' new same
    cases List.mem_singleton.mp new
    subst same
    obtain ⟨id, kept, found', sameProvider, sameEvent, wasSettled⟩ := good.journalled _ old
    have same := good.unique id row'.id kept row found' found (sameProvider.trans provider)
      (sameEvent.trans event)
    subst same
    cases found.symm.trans found'
    rw [unsettled] at wasSettled
    cases wasSettled

end tables

section steps

variable {s s' : WebhookState Digest} {frame : WebhookFrame} {pushed others : List WebhookFrame}
  {receipt receipt' : WebhookReceipt}

theorem conflicts_false (fresh : s.conflicts receipt = false) : s.receipts.get receipt.id = none ∧
    ∀ id row, s.receipts.get id = some row → ¬ (row.provider = receipt.provider ∧ row.eventId = receipt.eventId) := by
  simp only [WebhookState.conflicts, Bool.or_eq_false_iff, Option.isSome_eq_false_iff, Option.isNone_iff_eq_none,
    WebhookState.findByEventId] at fresh
  refine ⟨fresh.1, fun id row found same => ?_⟩
  have none := List.find?_eq_none.mp fresh.2 row (Table.mem_rows_iff.mpr (Table.get_key found ▸ found))
  simp [WebhookReceipt.isFor, same.1, same.2] at none

/-- What a write leaves of the table. -/
theorem updateReceipt_open (open' : Receipts.Open s.receipts receipt) (same : receipt'.id = receipt.id) :
    ∃ row, s.receipts.get receipt.id = some row ∧ row.isSettled = false ∧ row.provider = receipt.provider ∧
      row.eventId = receipt.eventId ∧ (s.updateReceipt receipt').receipts = s.receipts.put (receipt'.updateRow row) := by
  obtain ⟨row, found, unsettled, provider, event⟩ := open'
  refine ⟨row, found, unsettled, provider, event, ?_⟩
  simp only [WebhookState.updateReceipt, same, found]

theorem held_mem {other : WebhookFrame} {copy : WebhookReceipt} (member : other ∈ others)
    (holds : other.copy = some copy) : copy.id ∈ others.filterMap WebhookFrame.held :=
  List.mem_filterMap.mpr ⟨other, member, by simp [WebhookFrame.held, holds]⟩

/-- A write to a row that none of the frames holds. -/
theorem asserts_put (asserted : ∀ other ∈ others, other.Asserts s)
    (free : receipt.id ∉ others.filterMap WebhookFrame.held) (written : s'.receipts = s.receipts.put receipt) :
    ∀ other ∈ others, other.Asserts s' := by
  intro other member
  refine ⟨(asserted other member).1, fun copy holds => ?_⟩
  have differs : copy.id ≠ receipt.id := fun same => free (same ▸ held_mem member holds)
  rw [written]
  exact ((asserted other member).2 copy holds).put differs

theorem asserts_same (asserted : ∀ other ∈ others, other.Asserts s) (same : s'.receipts = s.receipts) :
    ∀ other ∈ others, other.Asserts s' := by
  intro other member
  refine ⟨(asserted other member).1, fun copy holds => ?_⟩
  rw [same]
  exact (asserted other member).2 copy holds

theorem filterMap_none (quiet : ∀ next ∈ pushed, next.copy = none) :
    pushed.filterMap WebhookFrame.held = [] :=
  List.filterMap_eq_nil_iff.mpr fun next member => by simp [WebhookFrame.held, quiet next member]

/-- The holder of an open receipt writes it back. -/
theorem write_keeps (good : Receipts.Good s.receipts s.applied)
    (asserted : ∀ other ∈ frame :: others, other.Asserts s)
    (distinct : ((frame :: others).filterMap WebhookFrame.held).Nodup) (holds : frame.copy = some receipt)
    (same : receipt'.id = receipt.id) (written : s'.receipts = (s.updateReceipt receipt').receipts)
    (quiet : ∀ next ∈ pushed, next.copy = none ∧ next.OwnEvent) :
    Receipts.Good s'.receipts s.applied ∧
      (receipt'.isSettled = true →
        Receipts.Good s'.receipts (s.applied ++ [(receipt.provider, receipt.eventId)])) ∧
      (∀ other ∈ pushed ++ others, other.Asserts s') ∧
      ((pushed ++ others).filterMap WebhookFrame.held).Nodup := by
  have held : frame.held = some receipt.id := by simp [WebhookFrame.held, holds]
  rw [List.filterMap_cons_some held, List.nodup_cons] at distinct
  obtain ⟨row, found, unsettled, provider, event, table⟩ :=
    updateReceipt_open ((asserted frame (by simp)).2 receipt holds) same
  rw [table] at written
  have sameId : (receipt'.updateRow row).id = receipt.id := (Table.get_key found : row.id = receipt.id)
  have found' : s.receipts.get (receipt'.updateRow row).id = some row := by rw [sameId, found]
  refine ⟨?_, fun settled => ?_, fun other member => ?_, ?_⟩
  · rw [written]
    exact good.write found' unsettled rfl rfl
  · rw [written, ← provider, ← event]
    exact good.journal found' unsettled rfl rfl settled
  · rcases List.mem_append.mp member with new | old
    · refine ⟨(quiet other new).2, fun copy takes => ?_⟩
      rw [(quiet other new).1] at takes
      cases takes
    · exact asserts_put (fun other member => asserted other (List.mem_cons_of_mem _ member))
        (sameId ▸ distinct.1) written other old
  · rw [List.filterMap_append, filterMap_none fun next member => (quiet next member).1]
    exact distinct.2

/-- A frame takes up an open receipt that none of the others holds. -/
theorem take_keeps {next : WebhookFrame} (asserted : ∀ other ∈ others, other.Asserts s')
    (distinct : (others.filterMap WebhookFrame.held).Nodup) (takes : next.copy = some receipt)
    (own : next.OwnEvent) (open' : Receipts.Open s'.receipts receipt)
    (free : receipt.id ∉ others.filterMap WebhookFrame.held) :
    (∀ other ∈ [next] ++ others, other.Asserts s') ∧
      (([next] ++ others).filterMap WebhookFrame.held).Nodup := by
  have held : next.held = some receipt.id := by simp [WebhookFrame.held, takes]
  refine ⟨fun other member => ?_, ?_⟩
  · rcases List.mem_cons.mp member with rfl | old
    · refine ⟨own, fun copy same => ?_⟩
      cases takes.symm.trans same
      exact open'
    · exact asserted other old
  · rw [List.singleton_append, List.filterMap_cons_some held]
    exact List.nodup_cons.mpr ⟨free, distinct⟩

theorem not_held_fresh (asserted : ∀ other ∈ others, other.Asserts s)
    (fresh : s.receipts.get receipt.id = none) : receipt.id ∉ others.filterMap WebhookFrame.held := by
  intro member
  obtain ⟨other, inside, holds⟩ := List.mem_filterMap.mp member
  obtain ⟨copy, takes, same⟩ := Option.map_eq_some_iff.mp holds
  obtain ⟨row, found, -⟩ := (asserted other inside).2 copy takes
  rw [same, fresh] at found
  cases found

theorem open_stored {row : WebhookReceipt} (found : s.receipts.get row.id = some row)
    (unsettled : row.isSettled = false) : Receipts.Open s.receipts row := ⟨row, found, unsettled, rfl, rfl⟩

theorem findByEventId_get {provider : ProviderSlug} {eventId : String}
    (found : s.findByEventId provider eventId = some receipt) :
    s.receipts.get receipt.id = some receipt ∧ receipt.provider = provider ∧ receipt.eventId = eventId := by
  have matched := List.find?_some found
  simp only [WebhookReceipt.isFor, Bool.and_eq_true, decide_eq_true_eq] at matched
  exact ⟨Table.mem_rows_iff.mp (List.mem_of_find?_eq_some found), matched⟩

/-- What one unit of work keeps, as long as it takes up no receipt that
another frame holds. -/
theorem ReceiptStep.keeps (step : ReceiptStep s frame s' pushed) (good : Receipts.Good s.receipts s.applied)
    (asserted : ∀ other ∈ frame :: others, other.Asserts s)
    (distinct : ((frame :: others).filterMap WebhookFrame.held).Nodup)
    (free : ∀ id, frame.picks s = some id → ∀ other ∈ others, other.held ≠ some id) :
    Receipts.Good s'.receipts s'.applied ∧ (∀ other ∈ pushed ++ others, other.Asserts s') ∧
      ((pushed ++ others).filterMap WebhookFrame.held).Nodup := by
  have below : ∀ other ∈ others, other.Asserts s := fun other member =>
    asserted other (List.mem_cons_of_mem _ member)
  have kept : (others.filterMap WebhookFrame.held).Nodup :=
    distinct.sublist ((List.sublist_cons_self frame others).filterMap _)
  have own := (asserted frame (by simp)).1
  have unheld : ∀ id, frame.picks s = some id → id ∉ others.filterMap WebhookFrame.held := by
    intro id picked member
    obtain ⟨other, inside, holds⟩ := List.mem_filterMap.mp member
    exact free id picked other inside holds
  cases step with
  | other holdsNone sameRows sameJournal quiet =>
    refine ⟨by rw [sameRows, sameJournal]; exact good, fun other member => ?_, ?_⟩
    · rcases List.mem_append.mp member with new | old
      · refine ⟨(quiet other new).2 own, fun copy takes => ?_⟩
        rw [(quiet other new).1] at takes
        cases takes
      · exact asserts_same below sameRows other old
    · rw [List.filterMap_append, filterMap_none fun next member => (quiet next member).1]
      exact kept
  | reject holdsNone rejected fresh =>
    obtain ⟨new, alone⟩ := conflicts_false fresh
    exact ⟨good.put new alone, asserts_put below (not_held_fresh below new) rfl, kept⟩
  | insert provider event received fresh =>
    obtain ⟨new, alone⟩ := conflicts_false fresh
    have unheld' := not_held_fresh below new
    refine ⟨good.put new alone, take_keeps (asserts_put below unheld' rfl) kept rfl
      ⟨own.trans provider.symm, event.symm⟩ (open_stored ?_ ?_) unheld'⟩
    · exact (Table.get_put ..).trans (if_pos rfl)
    · simp [WebhookReceipt.isSettled, received]
  | resume found unsettled =>
    obtain ⟨stored, provider, event⟩ := findByEventId_get found
    exact ⟨good, take_keeps below kept rfl ⟨own.trans provider.symm, event.symm⟩ (open_stored stored unsettled)
      (unheld _ (by simp [WebhookFrame.picks, found]))⟩
  | claim stored unsettled =>
    exact ⟨good, take_keeps below kept rfl trivial (open_stored stored unsettled) (unheld _ rfl)⟩
  | decide takes justified =>
    rename_i receipt next
    have held : WebhookFrame.held (.processDeferred receipt) = some receipt.id := rfl
    rw [List.filterMap_cons_some held, List.nodup_cons] at distinct
    have open' := (asserted _ (List.mem_cons_self ..)).2 receipt rfl
    exact ⟨good, take_keeps below kept takes justified open' distinct.1⟩
  | defer same status next =>
    obtain ⟨good', -, rest⟩ := write_keeps good asserted distinct rfl same rfl (List.forall_mem_nil _)
    exact ⟨good', rest⟩
  | apply orchestrated applied same status journal quiet =>
    rename_i receipt receipt' event
    have written : ({ s.updateReceipt receipt' with core := orchestrated, applied := applied } :
      WebhookState Digest).receipts = (s.updateReceipt receipt').receipts := rfl
    obtain ⟨good', journalled, rest⟩ := write_keeps good asserted distinct rfl same written quiet
    rcases journal with rfl | rfl
    · exact ⟨good', rest⟩
    · have settled : receipt'.isSettled = true := by simp [WebhookReceipt.isSettled, status]
      rw [own.1, own.2]
      exact ⟨journalled settled, rest⟩
  | abandon same status =>
    obtain ⟨good', -, rest⟩ := write_keeps good asserted distinct rfl same rfl (List.forall_mem_nil _)
    exact ⟨good', rest⟩

end steps

section runs

variable [DecidableEq Digest] {settings : WebhookSettings Digest} {c c' : WebhookConfiguration Digest}

/-- The runs in which a receipt has one holder at a time. -/
abbrev OneHolderReachable (settings : WebhookSettings Digest) : WebhookConfiguration Digest → Prop :=
  (webhookSystem settings).Reach OneHolder WebhookConfiguration.initial

theorem entry_quiet {frame : WebhookFrame} (entry : frame.isEntry = true) :
    frame.copy = none ∧ frame.OwnEvent := by
  cases frame with
  | core _ | ingest _ _ | claimDeferred _ => exact ⟨rfl, trivial⟩
  | recordRejection _ _ _ _ | persistReceipt _ _ _ _ | insertReceipt _ _ _ _ | rereadDuplicate _ _
  | processReceipt _ _ | processDeferred _ | abandonReceipt _ _ => exact absurd entry Bool.false_ne_true

theorem oneHolder_good (reach : OneHolderReachable settings c) :
    Receipts.Good c.state.receipts c.state.applied ∧ (∀ frame ∈ c.frames, frame.Asserts c.state) ∧
      (c.frames.filterMap WebhookFrame.held).Nodup := by
  refine reach.holder_invariant WebhookFrame.held (fun s => Receipts.Good s.receipts s.applied)
    WebhookFrame.Asserts ⟨⟨by simp [WebhookConfiguration.initial], List.forall_mem_nil _, List.nodup_nil⟩, rfl⟩
    ?_ ?_
  · intro s frame good entry
    obtain ⟨holdsNone, own⟩ := entry_quiet entry
    refine ⟨by simp [WebhookFrame.held, holdsNone], own, fun copy takes => ?_⟩
    rw [holdsNone] at takes
    cases takes
  · intro c task input frame rest state pushed others good asserted distinct allowed atTask same ran
    refine (WebhookFrame.receiptStep ran).keeps good asserted distinct fun id picked other member => ?_
    exact oneHolder_run allowed atTask picked other (same.mem_iff.mpr (List.mem_cons_of_mem _ member))

omit [DecidableEq Digest] in
/-- A settled row is not written again. -/
theorem ReceiptStep.settled_stays {s s' : WebhookState Digest} {frame : WebhookFrame} {pushed : List WebhookFrame}
    (step : ReceiptStep s frame s' pushed) (asserted : frame.Asserts s) {id : UUID} {row : WebhookReceipt}
    (found : s.receipts.get id = some row) (settled : row.isSettled = true) :
    s'.receipts.get id = some row := by
  have added : ∀ {receipt : WebhookReceipt}, s.conflicts receipt = false →
      (s.receipts.put receipt).get id = some row := by
    intro receipt fresh
    rw [Table.get_put, if_neg]
    · exact found
    · rintro rfl
      rw [(conflicts_false fresh).1] at found
      cases found
  have written : ∀ {receipt receipt' : WebhookReceipt}, frame.copy = some receipt → receipt'.id = receipt.id →
      (s.updateReceipt receipt').receipts.get id = some row := by
    intro receipt receipt' holds same
    obtain ⟨row', found', unsettled, -, -, table⟩ := updateReceipt_open (asserted.2 receipt holds) same
    have sameId : (receipt'.updateRow row').id = receipt.id := (Table.get_key found' : row'.id = receipt.id)
    rw [table, Table.get_put, if_neg]
    · exact found
    · rintro rfl
      rw [sameId, found'] at found
      cases found
      rw [unsettled] at settled
      cases settled
  cases step with
  | other holdsNone sameRows sameJournal quiet =>
    rw [sameRows]
    exact found
  | reject holdsNone rejected fresh => exact added fresh
  | insert provider event received fresh => exact added fresh
  | resume => exact found
  | claim => exact found
  | decide => exact found
  | defer same status next => exact written rfl same
  | apply orchestrated applied same status journal quiet => exact written rfl same
  | abandon same status => exact written rfl same

/-- Receipts settle once: in the runs in which no one takes a copy of a
receipt while another holds one, a receipt that is processed, rejected or
abandoned keeps its status in every later configuration, and no event is
journalled as applied twice. -/
theorem receipts_settle_once (reach : OneHolderReachable settings c)
    (later : (webhookSystem settings).Reach OneHolder c c') :
    (∀ id row, c.state.receipts.get id = some row → row.isSettled = true →
      ∃ row', c'.state.receipts.get id = some row' ∧ row'.processingStatus = row.processingStatus) ∧
      c'.state.applied.Nodup := by
  refine ⟨fun id row found settled => ⟨row, ?_, rfl⟩, (oneHolder_good (reach.trans later)).1.once⟩
  induction later with
  | start => exact found
  | @next before after a previous allowed step ih =>
    have asserted := (oneHolder_good (reach.trans previous)).2.1
    rcases TaskPool.next_cases step with ⟨started, rfl, entry, rfl⟩ |
      ⟨task, input, frame, rest, state, pushed, rfl, atTask, ran, rfl⟩ |
      ⟨task, input, frame, rest, e, rfl, atTask, raised, rfl⟩
    · exact ih
    · exact (WebhookFrame.receiptStep ran).settled_stays
        (asserted frame (TaskPool.mem_frames_of_task atTask (by simp))) ih settled
    · exact ih

end runs

namespace Sample

def northstar : InboundWebhook where
  provider := provider
  headers := [(Adapter.northstar.signatureHeader, String.ofList (List.replicate 64 '0')),
    ("x-northstar-timestamp", "0")]
  body := encode "\x7b\x7d"
  receivedAt := 0
  distinct := by decide
  lowered := by decide

/-- Every webhook reports the failure of one operation. -/
def webhookSettings : WebhookSettings String where
  core := settings
  builtins := builtins
  guard := ⟨900, by decide⟩
  adapter _ := some (.northstar, ⟨some "secret", none, 300⟩)
  normalize webhook := .ok
    { provider := webhook.provider, normalizedStatus := .failed, providerReference := some "op-1"
      providerEventId := "event-1", eventType := "operation.failed", occurredAt := .utc 0 }
  normalize_provider _ _ read := by cases read; rfl
  normalize_event _ _ read := by cases read; exact (by decide : "event-1" ≠ "")
  deferredRetry := 15000000
  deferredAbandonAfterSeconds := 86400

/-- Schedules `task` for `count` units of work that call no provider. -/
def webhookWork (task : Nat) (now : Instant) (id : UUID) (count : Nat) : List WebhookAction :=
  List.replicate count (.run task ⟨input now id .crashed, true⟩)

/-- An event arrives before the reference it names: it is deferred. Then the
provider accepts the operation. -/
def early : List WebhookAction :=
  .spawn (.ingest northstar correlationId) :: webhookWork 0 1 300 4 ++
    .spawn (.core create) :: webhookWork 1 1 200 2 ++
    .run 1 ⟨input 2 0 (answered .pending "op-1"), true⟩ :: webhookWork 1 3 0 3

/-- Two workers claim the deferred receipt, and one of them processes it. -/
def claimedTwice : List WebhookAction :=
  early ++ .spawn (.claimDeferred 300) :: .spawn (.claimDeferred 300) :: webhookWork 2 86399000000 0 1 ++
    webhookWork 3 86399000000 0 1 ++ webhookWork 2 86399000000 0 2

end Sample

/-- Two workers hold copies of one deferred receipt. Once the first has
processed it, the second may find it too old and abandon it; or, after an
operator's retry, apply the event again. -/
theorem stale_copy_settles_again :
    ∃ c c' c'' : WebhookConfiguration String,
      (webhookSystem Sample.webhookSettings).Reach (fun _ _ => True) WebhookConfiguration.initial c ∧
      (webhookSystem Sample.webhookSettings).Reach (fun _ _ => True) c c' ∧
      (webhookSystem Sample.webhookSettings).Reach (fun _ _ => True) c c'' ∧
      (∃ row, c.state.receipts.get 300 = some row ∧ row.processingStatus = .processed) ∧
      (∃ row, c'.state.receipts.get 300 = some row ∧ row.processingStatus = .abandoned) ∧
      c.state.applied.Nodup ∧ ¬ c''.state.applied.Nodup := by
  have replayed : ((webhookSystem Sample.webhookSettings).replay (fun _ _ => true)
      WebhookConfiguration.initial Sample.claimedTwice).any (fun (c : WebhookConfiguration String) =>
        (c.state.receipts.get 300).any (·.processingStatus = .processed) && c.state.applied.Nodup &&
        ((webhookSystem Sample.webhookSettings).replay (fun _ _ => true) c
          (Sample.webhookWork 3 86401000000 0 2)).any (fun (c' : WebhookConfiguration String) =>
            (c'.state.receipts.get 300).any (·.processingStatus = .abandoned)) &&
        ((webhookSystem Sample.webhookSettings).replay (fun _ _ => true) c
          (.spawn (.core (.retryRequest 200 { type := .apiClient })) :: Sample.webhookWork 4 86399000001 0 1 ++
            Sample.webhookWork 3 86399000002 0 2)).any (fun (c'' : WebhookConfiguration String) =>
            ¬ c''.state.applied.Nodup)) = true := by decide +kernel
  simp only [Option.any_eq_true, Bool.and_eq_true, decide_eq_true_eq] at replayed
  obtain ⟨c, run, ⟨⟨processed, once⟩, c', run', abandoned⟩, c'', run'', twice⟩ := replayed
  exact ⟨c, c', c'', .of_replay (fun _ _ _ => trivial) run, .of_replay (fun _ _ _ => trivial) run',
    .of_replay (fun _ _ _ => trivial) run'', processed, abandoned, once, twice⟩

/-- One worker alone processes the deferred receipt. -/
theorem receipts_settle_once_one_worker :
    ∃ c c' : WebhookConfiguration String, OneHolderReachable Sample.webhookSettings c ∧
      (webhookSystem Sample.webhookSettings).Reach OneHolder c c' ∧
      (∃ row, c.state.receipts.get 300 = some row ∧ row.processingStatus = .processed) ∧
      (∃ row, c'.state.receipts.get 300 = some row ∧ row.processingStatus = .processed) ∧
      c'.state.applied = [(Sample.provider, "event-1")] ∧ c'.state.applied.Nodup := by
  have replayed : ((webhookSystem Sample.webhookSettings).replay oneHolder WebhookConfiguration.initial
      (Sample.early ++ .spawn (.claimDeferred 300) :: Sample.webhookWork 2 20000000 0 3)).any
      (fun (c : WebhookConfiguration String) =>
        (c.state.receipts.get 300).any (·.processingStatus = .processed) &&
        ((webhookSystem Sample.webhookSettings).replay oneHolder c
          (.spawn (.claimDeferred 300) :: Sample.webhookWork 3 86401000000 0 1)).any
          (fun (c' : WebhookConfiguration String) => c'.state.applied = [(Sample.provider, "event-1")])) = true := by
    decide +kernel
  simp only [Option.any_eq_true, Bool.and_eq_true, decide_eq_true_eq] at replayed
  obtain ⟨c, run, ⟨row, found, processed⟩, c', run', applied⟩ := replayed
  have reach : OneHolderReachable Sample.webhookSettings c := .of_replay (fun _ _ allowed => allowed) run
  have later : (webhookSystem Sample.webhookSettings).Reach OneHolder c c' :=
    .of_replay (fun _ _ allowed => allowed) run'
  obtain ⟨stays, once⟩ := receipts_settle_once reach later
  obtain ⟨row', found', same⟩ := stays 300 row found (by simp [WebhookReceipt.isSettled, processed])
  exact ⟨c, c', reach, later, ⟨row, found, processed⟩, ⟨row', found', same.trans processed⟩, applied, once⟩

end IntegrationOrchestrator
