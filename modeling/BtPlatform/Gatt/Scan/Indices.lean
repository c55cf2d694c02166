import BtPlatform.Gatt.Scan.Filters
import BtPlatform.Gatt.Scan.Parameters
import Mathlib.Logic.Function.Basic

/-!
# The pool of filter indices

The filter indices as they are seen from outside: each active client got some, or the
all-pass filter, or nothing. The stack and the recorded indices together should always be
the dynamic indices of the controller.
-/

namespace Gatt.Scan

open Support List

variable {F : Type}

/-- What a client got when it was started. -/
inductive Grant where
  | nothing
  | allPass
  | indices (filterIndices : List Nat)

/-- The dynamic indices of a client. -/
def Grant.held : Grant → List Nat
  | .indices filterIndices => filterIndices
  | _ => []

/-- The active clients and what they got, once the pool was initialised. -/
structure Pool (F : Type) where
  initialised : Bool
  active : Finset (ScanClient F)
  grant : ScanClient F → Grant

def MIN_OFFLOADED_FILTERS : Nat := 10

/-- The pool as `startBatchScan` finds it after the initialisation. -/
def ScanManager.readyBatch (env : Env F) (s : ScanManager F) : ScanManager F :=
  if s.mFilterIndexStack = [] ∧ env.filteringSupported then s.initFilterIndexStack env else s

/-- The pool as the start of a client finds it. -/
def ScanManager.ready (env : Env F) (client : ScanClient F) (s : ScanManager F) : ScanManager F :=
  if isBatchClient client then s.readyBatch env else s.readyRegular env

/-- The all-pass filter of a client that needs one. -/
def allPassIndex (client : ScanClient F) : Nat :=
  if isBatchClient client then ALL_PASS_FILTER_INDEX_BATCH_SCAN
  else ALL_PASS_FILTER_INDEX_REGULAR_SCAN

/-- The scanners that are remembered for that filter. -/
def ScanManager.allPassClients (client : ScanClient F) (s : ScanManager F) : Finset Int :=
  if isBatchClient client then s.mAllPassBatchClients else s.mAllPassRegularClients

/-- What a client gets from a pool that is ready. -/
def grantFor (client : ScanClient F) (s : ScanManager F) : Grant :=
  if isOpportunisticScanClient client then .nothing
  else if s.shouldUseAllPassFilter client then .allPass
  else .indices (s.mFilterIndexStack.take client.filters.length)

/-- The stack and the recorded indices are the dynamic indices, each of them once; no two
clients share one, and the all-pass filter is configured for those that need it. -/
structure Conserved (n : Nat) (s : ScanManager F) (pool : Pool F) : Prop where
  exact : pool.initialised = true →
    (s.mFilterIndexStack ++ s.mClientFilterIndexMap.values).Perm (range' 3 (n - 3))
  disjoint : ∀ client ∈ pool.active, ∀ other ∈ pool.active, client ≠ other →
    (pool.grant client).held.Disjoint (pool.grant other).held
  allPass : ∀ client ∈ pool.active, pool.grant client = .allPass →
    allPassIndex client ∈ s.controller.filters

/-- The recorded indices are those of the active clients, as far as the proof needs it. -/
structure Indexed (n : Nat) (s : ScanManager F) (pool : Pool F) : Prop where
  fresh : pool.initialised = false →
    s.mFilterIndexStack = [] ∧ s.mClientFilterIndexMap.values = []
  exact : pool.initialised = true →
    (s.mFilterIndexStack ++ s.mClientFilterIndexMap.values).Perm (range' 3 (n - 3))
  recorded : ∀ client ∈ pool.active, (pool.grant client).held ≠ [] →
    s.mClientFilterIndexMap.lookup client.scannerId = some (pool.grant client).held
  holder : ∀ scannerId filterIndices, s.mClientFilterIndexMap.lookup scannerId =
    some filterIndices →
    filterIndices ≠ [] →
    ∃ client ∈ pool.active, client.scannerId = scannerId ∧ (pool.grant client).held = filterIndices
  own : ∀ client ∈ pool.active, ∀ other ∈ pool.active, (pool.grant client).held ≠ [] →
    (pool.grant other).held ≠ [] → client.scannerId = other.scannerId → client = other
  allPass : ∀ client ∈ pool.active, pool.grant client = .allPass →
    allPassIndex client ∈ s.controller.filters

namespace Indexed

variable {n : Nat} {s s' : ScanManager F} {pool : Pool F}

theorem of_sameFilters (h : Indexed n s pool) (hsame : s.SameFilters s') : Indexed n s' pool where
  fresh := by
    rw [hsame.stack, hsame.map]
    exact h.fresh
  exact := by
    rw [hsame.stack, hsame.map]
    exact h.exact
  recorded := by
    rw [hsame.map]
    exact h.recorded
  holder := by
    rw [hsame.map]
    exact h.holder
  own := h.own
  allPass := by
    rw [hsame.filters]
    exact h.allPass

theorem nodup (h : Indexed n s pool) : s.mClientFilterIndexMap.values.Nodup := by
  cases hinit : pool.initialised with
  | false =>
      rw [(h.fresh hinit).2]
      exact nodup_nil
  | true =>
      have hall := (h.exact hinit).nodup_iff.2 nodup_range'
      exact (nodup_append'.1 hall).2.1

theorem value_ge (h : Indexed n s pool) {i : Nat} (hi : i ∈ s.mClientFilterIndexMap.values) :
    3 ≤ i := by
  cases hinit : pool.initialised with
  | false =>
      rw [(h.fresh hinit).2] at hi
      cases hi
  | true =>
      have hrange := (h.exact hinit).mem_iff.1 (mem_append_right _ hi)
      exact (mem_range'_1.1 hrange).1

theorem conserved (h : Indexed n s pool) : Conserved n s pool where
  exact := h.exact
  disjoint := by
    intro client hclient other hother hne
    by_cases hheld : (pool.grant client).held = []
    · rw [hheld]
      exact disjoint_nil_left _
    · by_cases hheld' : (pool.grant other).held = []
      · rw [hheld']
        exact disjoint_nil_right _
      · have hids : client.scannerId ≠ other.scannerId :=
          fun hid => hne (h.own client hclient other hother hheld hheld' hid)
        exact Table.disjoint_of_lookup h.nodup hids (h.recorded client hclient hheld)
          (h.recorded other hother hheld')
  allPass := h.allPass

/-- The initialisation fills an empty stack, unless clients hold all indices. -/
theorem init (h : Indexed n s pool) {env : Env F} (hn : 3 < n) (hmax : env.maxFiltersSupported = n)
    (hstack : s.mFilterIndexStack = [])
    (hheld : pool.initialised = true → env.service = true → False) :
    Indexed n (s.initFilterIndexStack env)
      { pool with initialised := pool.initialised ||
        !(s.initFilterIndexStack env).mFilterIndexStack.isEmpty } := by
  unfold ScanManager.initFilterIndexStack
  split
  · next hservice =>
      have hnew : pool.initialised = false := by
        rw [← Bool.not_eq_true]
        exact fun hinit => hheld hinit hservice
      have hfull : (s.mFilterIndexStack ++ range' 3 (env.maxFiltersSupported - 3)).isEmpty =
          false := by
        rw [hstack, nil_append, hmax, isEmpty_eq_false_iff]
        exact ne_nil_of_length_pos (by rw [length_range']; omega)
      refine ⟨?_, ?_, h.recorded, h.holder, h.own, h.allPass⟩
      · intro hinit
        rw [hnew, hfull] at hinit
        cases hinit
      · intro _
        show ((s.mFilterIndexStack ++ range' 3 (env.maxFiltersSupported - 3)) ++
          s.mClientFilterIndexMap.values).Perm _
        rw [hstack, nil_append, hmax, (h.fresh hnew).2, append_nil]
  · rw [hstack, isEmpty_nil, Bool.not_true, Bool.or_false]
    exact h

/-- The start of a client finds a pool that is still right, unless a batch client finds an
empty stack and the pool is filled again. -/
theorem ready (h : Indexed n s pool) {env : Env F} {client : ScanClient F} (hn : 3 < n)
    (hmax : env.maxFiltersSupported = n)
    (hbatch : isBatchClient client = true → pool.initialised = true →
      s.mFilterIndexStack = [] → env.service = false) :
    Indexed n (s.ready env client)
      { pool with initialised := pool.initialised ||
        !(s.ready env client).mFilterIndexStack.isEmpty } := by
  have hkept : Indexed n s
      { pool with initialised := pool.initialised || !s.mFilterIndexStack.isEmpty } := by
    cases hinit : pool.initialised with
    | true =>
        rw [Bool.true_or, ← hinit]
        exact h
    | false =>
        rw [(h.fresh hinit).1, isEmpty_nil, Bool.not_true, Bool.or_false, ← hinit]
        exact h
  unfold ScanManager.ready
  split
  · next hclient =>
      unfold ScanManager.readyBatch
      split
      · next hempty =>
          refine h.init hn hmax hempty.1 ?_
          intro hinit hservice
          have hgone := hbatch hclient hinit hempty.1
          rw [hservice] at hgone
          cases hgone
      · exact hkept
  · unfold ScanManager.readyRegular
    split
    · next hempty =>
        obtain ⟨-, hstack, hentries⟩ := hempty
        refine h.init hn hmax hstack ?_
        intro hinit _
        have hall := h.exact hinit
        have hvalues : s.mClientFilterIndexMap.values = [] := by
          rw [Table.values, hentries]
          rfl
        rw [hstack, hvalues] at hall
        have hlength := hall.length_eq
        rw [length_range'] at hlength
        exact absurd hlength (by simp only [length_append, length_nil]; omega)
    · exact hkept

end Indexed

section Join

variable [DecidableEq F]

/-- The client becomes active with what it got. -/
def Pool.join (pool : Pool F) (client : ScanClient F) (grant : Grant) : Pool F :=
  { pool with
    active := insert client pool.active
    grant := Function.update pool.grant client grant }

def Pool.leave (pool : Pool F) (client : ScanClient F) : Pool F :=
  { pool with active := pool.active.erase client }

theorem Pool.join_grant_self (pool : Pool F) (client : ScanClient F) (grant : Grant) :
    (pool.join client grant).grant client = grant := Function.update_self ..

theorem Pool.join_grant_of_active {pool : Pool F} {client other : ScanClient F} {grant : Grant}
    (hnew : client ∉ pool.active) (hother : other ∈ pool.active) :
    (pool.join client grant).grant other = pool.grant other := by
  refine Function.update_of_ne ?_ _ _
  rintro rfl
  exact hnew hother

namespace Indexed

variable {n : Nat} {s s' : ScanManager F} {pool : Pool F} {client : ScanClient F}

/-- A client without a dynamic index. -/
theorem join (h : Indexed n s pool) (hnew : client ∉ pool.active) {grant : Grant}
    (hheld : grant.held = [])
    (hstack : s'.mFilterIndexStack = s.mFilterIndexStack)
    (hmap : s'.mClientFilterIndexMap = s.mClientFilterIndexMap)
    (hfilters : s.controller.filters ⊆ s'.controller.filters)
    (hall : grant = .allPass → allPassIndex client ∈ s'.controller.filters) :
    Indexed n s' (pool.join client grant) := by
  have hself : ((pool.join client grant).grant client).held = [] := by
    rw [Pool.join_grant_self, hheld]
  refine ⟨?_, ?_, ?_, ?_, ?_, ?_⟩
  · rw [hstack, hmap]
    exact h.fresh
  · rw [hstack, hmap]
    exact h.exact
  · intro other hother hne
    rw [hmap]
    obtain rfl | hother := Finset.mem_insert.1 hother
    · exact absurd hself hne
    · rw [Pool.join_grant_of_active hnew hother] at hne ⊢
      exact h.recorded other hother hne
  · intro scannerId filterIndices hlookup hne
    rw [hmap] at hlookup
    obtain ⟨other, hother, hid, hindices⟩ := h.holder scannerId filterIndices hlookup hne
    refine ⟨other, Finset.mem_insert_of_mem hother, hid, ?_⟩
    rw [Pool.join_grant_of_active hnew hother, hindices]
  · intro c hc c' hc' hne hne' hid
    obtain rfl | hc := Finset.mem_insert.1 hc
    · exact absurd hself hne
    · obtain rfl | hc' := Finset.mem_insert.1 hc'
      · exact absurd hself hne'
      · rw [Pool.join_grant_of_active hnew hc] at hne
        rw [Pool.join_grant_of_active hnew hc'] at hne'
        exact h.own c hc c' hc' hne hne' hid
  · intro other hother hgrant
    obtain rfl | hother := Finset.mem_insert.1 hother
    · rw [Pool.join_grant_self] at hgrant
      exact hall hgrant
    · rw [Pool.join_grant_of_active hnew hother] at hgrant
      exact hfilters (h.allPass other hother hgrant)

/-- A client whose filters are offloaded. Its scanner has no indices yet, as the map keeps
what is recorded. -/
theorem join_indices (h : Indexed n s pool) (hnew : client ∉ pool.active) {count : Nat}
    (hfree : s.mFilterIndexStack.take count ≠ [] → client.scannerId ∉ s.mClientFilterIndexMap)
    (hstack : s'.mFilterIndexStack = s.mFilterIndexStack.drop count)
    (hmap : s'.mClientFilterIndexMap =
      s.mClientFilterIndexMap.emplace client.scannerId (s.mFilterIndexStack.take count))
    (hfilters : s.controller.filters ⊆ s'.controller.filters) :
    Indexed n s' (pool.join client (.indices (s.mFilterIndexStack.take count))) := by
  have hself : ((pool.join client (.indices (s.mFilterIndexStack.take count))).grant client).held =
      s.mFilterIndexStack.take count := by
    rw [Pool.join_grant_self]
    rfl
  have hperm : (s'.mFilterIndexStack ++ s'.mClientFilterIndexMap.values).Perm
      (s.mFilterIndexStack ++ s.mClientFilterIndexMap.values) := by
    rw [hstack, hmap]
    by_cases hmem : client.scannerId ∈ s.mClientFilterIndexMap
    · have hnone : s.mFilterIndexStack.take count = [] := by
        by_contra hne
        exact hfree hne hmem
      have hdrop : s.mFilterIndexStack.drop count = s.mFilterIndexStack := by
        have hboth := take_append_drop count s.mFilterIndexStack
        rw [hnone, nil_append] at hboth
        exact hboth
      rw [Table.emplace_of_mem hmem, hdrop]
    · rw [Table.values_emplace hmem, ← append_assoc]
      refine List.Perm.append_right _ ?_
      refine perm_append_comm.trans ?_
      rw [take_append_drop]
  have hlookup : ∀ scannerId, s'.mClientFilterIndexMap.lookup scannerId =
      (s.mClientFilterIndexMap.lookup scannerId).or
        (if scannerId = client.scannerId then some (s.mFilterIndexStack.take count) else none) := by
    intro scannerId
    rw [hmap, Table.lookup_emplace]
  -- a client that holds indices has another scanner
  have hother_id : ∀ other ∈ pool.active, (pool.grant other).held ≠ [] →
      s.mFilterIndexStack.take count ≠ [] → other.scannerId ≠ client.scannerId := by
    intro other hother hheld htake hid
    have hmem := Table.mem_of_lookup (h.recorded other hother hheld)
    rw [hid] at hmem
    exact hfree htake hmem
  refine ⟨?_, ?_, ?_, ?_, ?_, ?_⟩
  · intro hinit
    obtain ⟨hempty, hvalues⟩ := h.fresh hinit
    rw [hempty, hvalues] at hperm
    exact append_eq_nil_iff.1 hperm.eq_nil
  · exact fun hinit => hperm.trans (h.exact hinit)
  · intro other hother hne
    rw [hlookup]
    obtain rfl | hother := Finset.mem_insert.1 hother
    · rw [hself] at hne ⊢
      rw [AList.lookup_eq_none.2 (hfree hne), Option.none_or, if_pos rfl]
    · rw [Pool.join_grant_of_active hnew hother] at hne ⊢
      rw [h.recorded other hother hne, Option.some_or]
  · intro scannerId filterIndices hrecorded hne
    rw [hlookup] at hrecorded
    obtain hold | ⟨-, hfresh⟩ := Option.or_eq_some_iff.1 hrecorded
    · obtain ⟨other, hother, hid, hindices⟩ := h.holder scannerId filterIndices hold hne
      refine ⟨other, Finset.mem_insert_of_mem hother, hid, ?_⟩
      rw [Pool.join_grant_of_active hnew hother, hindices]
    · refine ⟨client, Finset.mem_insert_self _ _, ?_, ?_⟩
      · by_contra hid
        rw [if_neg (fun h => hid h.symm)] at hfresh
        cases hfresh
      · rw [hself]
        split at hfresh
        · exact Option.some.inj hfresh
        · cases hfresh
  · intro c hc c' hc' hne hne' hid
    obtain rfl | hc := Finset.mem_insert.1 hc
    · rw [hself] at hne
      obtain rfl | hc' := Finset.mem_insert.1 hc'
      · rfl
      · rw [Pool.join_grant_of_active hnew hc'] at hne'
        exact absurd hid.symm (hother_id c' hc' hne' hne)
    · have hold := hc
      rw [Pool.join_grant_of_active hnew hc] at hne
      obtain rfl | hc' := Finset.mem_insert.1 hc'
      · rw [hself] at hne'
        exact absurd hid (hother_id c hold hne hne')
      · rw [Pool.join_grant_of_active hnew hc'] at hne'
        exact h.own c hc c' hc' hne hne' hid
  · intro other hother hgrant
    obtain rfl | hother := Finset.mem_insert.1 hother
    · rw [Pool.join_grant_self] at hgrant
      cases hgrant
    · rw [Pool.join_grant_of_active hnew hother] at hgrant
      exact hfilters (h.allPass other hother hgrant)

omit [DecidableEq F] in
/-- What is recorded for the scanner of an active client is what the client holds, if no
other client of the scanner holds indices. -/
theorem recorded_eq (h : Indexed n s pool) (hclient : client ∈ pool.active)
    (halone : ∀ other ∈ pool.active, other ≠ client → other.scannerId = client.scannerId →
      (pool.grant other).held = []) :
    s.recorded client.scannerId = (pool.grant client).held := by
  by_cases hheld : (pool.grant client).held = []
  · rw [hheld]
    by_contra hne
    obtain ⟨indices, hlookup⟩ : ∃ indices,
        s.mClientFilterIndexMap.lookup client.scannerId = some indices := by
      cases hlookup : s.mClientFilterIndexMap.lookup client.scannerId with
      | none =>
          rw [ScanManager.recorded, hlookup] at hne
          exact absurd rfl hne
      | some indices => exact ⟨indices, rfl⟩
    rw [ScanManager.recorded, hlookup] at hne
    obtain ⟨other, hother, hid, hindices⟩ := h.holder _ indices hlookup hne
    by_cases hsame : other = client
    · rw [hsame, hheld] at hindices
      exact hne hindices.symm
    · rw [halone other hother hsame hid] at hindices
      exact hne hindices.symm
  · rw [ScanManager.recorded, h.recorded client hclient hheld]
    rfl

/-- A client gives its indices back. -/
theorem leave (h : Indexed n s pool) (hclient : client ∈ pool.active)
    (halone : ∀ other ∈ pool.active, other ≠ client → other.scannerId = client.scannerId →
      (pool.grant other).held = [])
    (hall : ∀ other ∈ pool.active, other ≠ client → pool.grant other = .allPass →
      ¬ (client.scannerId ∈ s.allPassClients other ∧
        (s.allPassClients other).erase client.scannerId = ∅)) :
    Indexed n (s.removeScanFilters client.scannerId) (pool.leave client) ∧
      (s.removeScanFilters client.scannerId).mFilterIndexStack =
        s.mFilterIndexStack ++ (pool.grant client).held := by
  have hrecorded := h.recorded_eq hclient halone
  rw [ScanManager.removeScanFilters_eq]
  have hperm : ((s.mFilterIndexStack ++ s.recorded client.scannerId) ++
      Table.values (s.mClientFilterIndexMap.erase client.scannerId)).Perm
        (s.mFilterIndexStack ++ s.mClientFilterIndexMap.values) := by
    rw [append_assoc]
    exact (Table.values_erase client.scannerId s.mClientFilterIndexMap).append_left _
  have hother : ∀ other ∈ pool.active.erase client, (pool.grant other).held ≠ [] →
      other.scannerId ≠ client.scannerId := by
    intro other hother hheld hid
    exact hheld (halone other (Finset.mem_of_mem_erase hother) (Finset.ne_of_mem_erase hother) hid)
  refine ⟨⟨?_, ?_, ?_, ?_, ?_, ?_⟩, ?_⟩
  · intro hinit
    obtain ⟨hempty, hvalues⟩ := h.fresh hinit
    rw [hempty, hvalues] at hperm
    obtain ⟨hstack, herased⟩ := append_eq_nil_iff.1 hperm.eq_nil
    exact ⟨by rw [← hstack, hempty], herased⟩
  · exact fun hinit => hperm.trans (h.exact hinit)
  · intro other hmem hheld
    show AList.lookup other.scannerId (s.mClientFilterIndexMap.erase client.scannerId) = _
    rw [Table.lookup_erase, if_neg (hother other hmem hheld)]
    exact h.recorded other (Finset.mem_of_mem_erase hmem) hheld
  · intro scannerId filterIndices hlookup hne
    have hlookup' : AList.lookup scannerId (s.mClientFilterIndexMap.erase client.scannerId) =
        some filterIndices := hlookup
    rw [Table.lookup_erase] at hlookup'
    split at hlookup'
    · cases hlookup'
    · next hid =>
        obtain ⟨other, hmem, hsame, hindices⟩ := h.holder scannerId filterIndices hlookup' hne
        refine ⟨other, Finset.mem_erase.2 ⟨?_, hmem⟩, hsame, hindices⟩
        rintro rfl
        exact hid hsame.symm
  · intro c hc c' hc' hheld hheld' hid
    exact h.own c (Finset.mem_of_mem_erase hc) c' (Finset.mem_of_mem_erase hc') hheld hheld' hid
  · intro other hmem hgrant
    have hconfigured := h.allPass other (Finset.mem_of_mem_erase hmem) hgrant
    have hnot := hall other (Finset.mem_of_mem_erase hmem) (Finset.ne_of_mem_erase hmem) hgrant
    have hdynamic : allPassIndex other ∉ s.recorded client.scannerId := by
      intro hin
      have hvalue : allPassIndex other ∈ s.mClientFilterIndexMap.values :=
        (Table.values_erase client.scannerId s.mClientFilterIndexMap).mem_iff.1
          (mem_append_left _ hin)
      have hge := h.value_ge hvalue
      unfold allPassIndex at hge
      split at hge
      · exact absurd hge (by decide)
      · exact absurd hge (by decide)
    refine Finset.mem_sdiff.2 ⟨Finset.mem_sdiff.2 ⟨Finset.mem_sdiff.2 ⟨hconfigured, ?_⟩, ?_⟩, ?_⟩
    · rwa [mem_toFinset]
    · unfold ScanManager.takenBack
      split
      · next htaken =>
          intro heq
          have hregular : isBatchClient other = false := by
            by_contra hbatch
            rw [allPassIndex, if_pos (Bool.not_eq_false _ ▸ hbatch)] at heq
            exact absurd (Finset.mem_singleton.1 heq) (by decide)
          rw [ScanManager.allPassClients, hregular] at hnot
          exact hnot htaken
      · exact Finset.notMem_empty _
    · unfold ScanManager.takenBack
      split
      · next htaken =>
          intro heq
          have hbatch : isBatchClient other = true := by
            by_contra hregular
            rw [allPassIndex, if_neg hregular] at heq
            exact absurd (Finset.mem_singleton.1 heq) (by decide)
          rw [ScanManager.allPassClients, if_pos hbatch] at hnot
          exact hnot htaken
      · exact Finset.notMem_empty _
  · rw [← hrecorded]

end Indexed

/-! ## Starts and stops -/

/-- What becomes of the pool. -/
def Pool.follow (pool : Pool F) (s s' : ScanManager F) : Event F → Pool F
  | .start env client =>
      if client ∈ pool.active then pool
      else
        let pool := { pool with initialised := pool.initialised ||
          !(s.ready env client).mFilterIndexStack.isEmpty }
        if client ∈ s'.mRegularScanClients ∪ s'.mBatchClients then
          pool.join client (grantFor client (s.ready env client))
        else pool
  | .stop env scannerId =>
      match s.findClient env scannerId with
      | some client => pool.leave client
      | none => pool

/-- The controller has `n` filter indices and supports offloading, and a set of clients can
be iterated. -/
def LegalFor (n : Nat) : Event F → Prop
  | .start env _ => env.Ordered ∧ env.filteringSupported = true ∧ env.maxFiltersSupported = n ∧
      MIN_OFFLOADED_FILTERS ≤ n
  | .stop env _ => env.Ordered

/-- The events that keep the pool right. A batch client is not started on a stack that was
used up; an all-pass client is the only one that was ever remembered, or finds its filter
configured; a client with filters of its own has a scanner without indices, and its start
and its stop find the service; a stop takes nothing from another client. -/
def CarefulFor (s : ScanManager F) (pool : Pool F) : Event F → Prop
  | .start env client => client ∉ pool.active →
      (isBatchClient client = true → pool.initialised = true → s.mFilterIndexStack = [] →
        env.service = false) ∧
      (isOpportunisticScanClient client = false → ¬ s.refused env client →
        ((s.ready env client).shouldUseAllPassFilter client = true →
          (insert client.scannerId (s.allPassClients client)).card = 1 ∨
            allPassIndex client ∈ s.controller.filters) ∧
        ((s.ready env client).shouldUseAllPassFilter client = false → client.filters ≠ [] →
          client.scannerId ∉ s.mClientFilterIndexMap ∧
            (getDeliveryMode client = DELIVERY_MODE_ON_FOUND_LOST → env.service = true)))
  | .stop env scannerId => ∀ client, s.findClient env scannerId = some client →
      (getDeliveryMode client = DELIVERY_MODE_ON_FOUND_LOST → client.filters ≠ [] →
        env.service = true) ∧
      (∀ other ∈ pool.active, other ≠ client → other.scannerId = client.scannerId →
        (pool.grant other).held = []) ∧
      (∀ other ∈ pool.active, other ≠ client → pool.grant other = .allPass →
        ¬ (client.scannerId ∈ s.allPassClients other ∧
          (s.allPassClients other).erase client.scannerId = ∅))

/-- A stop returns exactly the indices of its client. -/
def Returns (s s' : ScanManager F) (pool : Pool F) : Event F → Prop
  | .start _ _ => True
  | .stop env scannerId => ∀ client, s.findClient env scannerId = some client →
      s'.mFilterIndexStack = s.mFilterIndexStack ++ (pool.grant client).held

/-- The states of the runs in which every event meets the condition. -/
inductive ReachesFor (n : Nat) : ScanManager F → Pool F → Prop where
  | initial : ReachesFor n ScanManager.initial ⟨false, ∅, fun _ => .nothing⟩
  | step {s s' : ScanManager F} {pool : Pool F} {event : Event F} :
      ReachesFor n s pool → LegalFor n event → CarefulFor s pool event →
      s.handle event = .ok s' → ReachesFor n s' (pool.follow s s' event)

/-- What the proof carries along. -/
structure IndexInvariant (n : Nat) (s : ScanManager F) (pool : Pool F) : Prop
    extends Indexed n s pool where
  clients : s.mRegularScanClients ∪ s.mBatchClients = pool.active
  regular : ∀ client ∈ s.mRegularScanClients, isBatchClient client = false
  batch : ∀ client ∈ s.mBatchClients, isBatchClient client = true

omit [DecidableEq F] in
theorem isBatchClient_iff (client : ScanClient F) :
    isBatchClient client = true ↔ getDeliveryMode client = DELIVERY_MODE_BATCH := by
  obtain ⟨_, _, ⟨mode, callbackType, delay, matches_, phy, _, hvalid, _⟩, _⟩ := client
  have hcases : callbackType = 1 ∨ callbackType = 2 ∨ callbackType = 4 ∨ callbackType = 8 ∨
      callbackType = 6 := of_decide_eq_true hvalid
  by_cases hdelay : delay = 0
  · rcases hcases with rfl | rfl | rfl | rfl | rfl <;>
      simp [isBatchClient, getDeliveryMode, isRoutingScanClient, hdelay, CALLBACK_TYPE_ALL_MATCHES,
        CALLBACK_TYPE_FIRST_MATCH, CALLBACK_TYPE_MATCH_LOST, CALLBACK_TYPE_SENSOR_ROUTING,
        DELIVERY_MODE_BATCH, DELIVERY_MODE_IMMEDIATE, DELIVERY_MODE_ON_FOUND_LOST,
        DELIVERY_MODE_ROUTE]
  · rcases hcases with rfl | rfl | rfl | rfl | rfl <;>
      simp [isBatchClient, getDeliveryMode, isRoutingScanClient, hdelay, CALLBACK_TYPE_ALL_MATCHES,
        CALLBACK_TYPE_FIRST_MATCH, CALLBACK_TYPE_MATCH_LOST, CALLBACK_TYPE_SENSOR_ROUTING,
        DELIVERY_MODE_BATCH, DELIVERY_MODE_ON_FOUND_LOST, DELIVERY_MODE_ROUTE]

omit [DecidableEq F] in
theorem getDeliveryMode_routing {client : ScanClient F} (h : isRoutingScanClient client = true) :
    getDeliveryMode client = DELIVERY_MODE_ROUTE := by
  have htype : client.settings.callbackType = CALLBACK_TYPE_SENSOR_ROUTING := of_decide_eq_true h
  unfold getDeliveryMode
  rw [htype, if_neg (by decide), if_pos h]

omit [DecidableEq F] in
/-- The all-pass filter is configured for the first client that is remembered. -/
theorem allPassed_filters {s s' : ScanManager F} {client : ScanClient F}
    (h : s.AllPassed client s')
    (hall : (insert client.scannerId (s.allPassClients client)).card = 1 ∨
      allPassIndex client ∈ s.controller.filters) :
    s.controller.filters ⊆ s'.controller.filters ∧
      allPassIndex client ∈ s'.controller.filters := by
  have hadded : s'.controller.filters =
      if (insert client.scannerId (s.allPassClients client)).card = 1 then
        insert (allPassIndex client) s.controller.filters
      else s.controller.filters := by
    have hfilters := h.filters
    unfold ScanManager.allPassClients allPassIndex
    by_cases hmode : getDeliveryMode client = DELIVERY_MODE_BATCH
    · rw [h.allPassBatch, if_pos hmode, if_pos hmode] at hfilters
      rw [if_pos ((isBatchClient_iff client).2 hmode), if_pos ((isBatchClient_iff client).2 hmode)]
      exact hfilters
    · rw [h.allPassRegular, if_neg hmode, if_neg hmode] at hfilters
      rw [if_neg (mt (isBatchClient_iff client).1 hmode),
        if_neg (mt (isBatchClient_iff client).1 hmode)]
      exact hfilters
  rw [hadded]
  split
  · exact ⟨Finset.subset_insert _ _, Finset.mem_insert_self _ _⟩
  · next hcard => exact ⟨subset_rfl, hall.resolve_left hcard⟩

/-- A client that is configured gets what the pool has for it. -/
theorem Indexed.configured {n : Nat} {s : ScanManager F} {pool : Pool F} (h : Indexed n s pool)
    {env : Env F} {client : ScanClient F} (hnew : client ∉ pool.active)
    (henough : isRoutingScanClient client = true →
      client.filters.length ≤ s.mFilterIndexStack.length)
    (hall : isOpportunisticScanClient client = false →
      s.shouldUseAllPassFilter client = true →
        (insert client.scannerId (s.allPassClients client)).card = 1 ∨
          allPassIndex client ∈ s.controller.filters)
    (hoff : isOpportunisticScanClient client = false →
      s.shouldUseAllPassFilter client = false → client.filters ≠ [] →
        client.scannerId ∉ s.mClientFilterIndexMap ∧
          (getDeliveryMode client = DELIVERY_MODE_ON_FOUND_LOST → env.service = true)) :
    ∃ s', s.configureScanFilters env client = .ok s' ∧ s.SameRadio s' ∧
      Indexed n s' (pool.join client (grantFor client s)) := by
  cases hopp : isOpportunisticScanClient client with
  | true =>
      refine ⟨s, ScanManager.configureScanFilters_opportunistic env client s hopp,
        ScanManager.SameRadio.refl s, ?_⟩
      rw [grantFor, if_pos hopp]
      exact h.join hnew rfl rfl rfl subset_rfl nofun
  | false =>
      cases huse : s.shouldUseAllPassFilter client with
      | true =>
          obtain ⟨s', hok, hpassed⟩ :=
            ScanManager.configureScanFilters_allPass env client s hopp huse
          refine ⟨s', hok, hpassed.toSameRadio, ?_⟩
          rw [grantFor, if_neg (by rw [hopp]; exact Bool.false_ne_true), if_pos huse]
          obtain ⟨hsub, hconfigured⟩ := allPassed_filters hpassed (hall hopp huse)
          exact h.join hnew rfl hpassed.stack hpassed.map hsub fun _ => hconfigured
      | false =>
          have henough' : client.filters.length ≤ s.mFilterIndexStack.length := by
            cases hrouting : isRoutingScanClient client with
            | true => exact henough hrouting
            | false => exact ScanManager.enough_of_not_routing client hrouting huse
          obtain ⟨s', s₁, count, hok, hoffloaded, hradio, hresult⟩ :=
            ScanManager.configureScanFilters_offload env client s hopp huse henough'
          have hservice : getDeliveryMode client = DELIVERY_MODE_ON_FOUND_LOST →
              env.service = true := by
            intro hmode
            by_cases hnone : client.filters = []
            · -- only a routing client has no filters here
              have hrouting : isRoutingScanClient client = true := by
                by_contra hrouting
                rw [ScanManager.shouldUseAllPassFilter, if_neg hrouting, if_pos hnone] at huse
                cases huse
              rw [getDeliveryMode_routing hrouting] at hmode
              exact absurd hmode (by decide)
            · exact (hoff hopp huse hnone).2 hmode
          obtain ⟨rfl, rfl⟩ := hresult hservice
          refine ⟨_, hok, hradio, ?_⟩
          rw [grantFor, if_neg (by rw [hopp]; exact Bool.false_ne_true),
            if_neg (by rw [huse]; exact Bool.false_ne_true)]
          refine h.join_indices hnew ?_ hoffloaded.stack ?_ hoffloaded.filters
          · intro htake
            refine (hoff hopp huse ?_).1
            rintro hnone
            rw [hnone] at htake
            exact htake rfl
          · show s₁.mClientFilterIndexMap.emplace client.scannerId _ = _
            rw [hoffloaded.map]

/-! ## One event -/

section Ready

variable {s t : ScanManager F} (env : Env F) (client : ScanClient F)

omit [DecidableEq F]

theorem ready_sameFilters (h : s.SameFilters t) :
    (s.ready env client).SameFilters (t.ready env client) := by
  have hinit : (s.initFilterIndexStack env).SameFilters (t.initFilterIndexStack env) := by
    unfold ScanManager.initFilterIndexStack
    split
    · refine ⟨?_, h.map, h.allPassRegular, h.allPassBatch, h.filters⟩
      show t.mFilterIndexStack ++ _ = s.mFilterIndexStack ++ _
      rw [h.stack]
    · exact h
  unfold ScanManager.ready ScanManager.readyBatch ScanManager.readyRegular
  rw [h.stack, h.map]
  split
  · split
    · exact hinit
    · exact h
  · split
    · exact hinit
    · exact h

/-- The initialisation changes the stack only. -/
theorem ready_keeps (s : ScanManager F) :
    ∃ stack, s.ready env client = { s with mFilterIndexStack := stack } := by
  have hinit : ∃ stack, s.initFilterIndexStack env = { s with mFilterIndexStack := stack } := by
    unfold ScanManager.initFilterIndexStack
    split
    · exact ⟨_, rfl⟩
    · exact ⟨s.mFilterIndexStack, rfl⟩
  unfold ScanManager.ready ScanManager.readyBatch ScanManager.readyRegular
  split
  · split
    · exact hinit
    · exact ⟨s.mFilterIndexStack, rfl⟩
  · split
    · exact hinit
    · exact ⟨s.mFilterIndexStack, rfl⟩

theorem grantFor_sameFilters (h : s.SameFilters t) : grantFor client t = grantFor client s := by
  unfold grantFor ScanManager.shouldUseAllPassFilter
  rw [h.stack]

end Ready

omit [DecidableEq F] in
theorem configureRegularScanParams_filters {env : Env F} (horder : env.Ordered)
    (s : ScanManager F) :
    ∃ s', s.configureRegularScanParams env = .ok s' ∧ s.SameFilters s' ∧
      s'.mRegularScanClients = s.mRegularScanClients ∧ s'.mBatchClients = s.mBatchClients := by
  by_cases hasks : ∃ client ∈ s.mRegularScanClients,
      usesLE1M client = true ∧ isOpportunisticScanClient client = false
  · by_cases hsame : Modes s.mRegularScanClients s.mLastConfiguredScanSettingLE1M
        s.mLastConfiguredScanSettingLECoded
    · exact ⟨s, configureRegularScanParams_same horder hasks hsame,
        ScanManager.SameFilters.refl s, rfl, rfl⟩
    · obtain ⟨_, -, _, _, _, -, -, hok⟩ := configureRegularScanParams_sends horder hasks hsame
      exact ⟨_, hok, ⟨rfl, rfl, rfl, rfl, rfl⟩, rfl, rfl⟩
  · exact ⟨_, configureRegularScanParams_idle horder hasks, ⟨rfl, rfl, rfl, rfl, rfl⟩, rfl, rfl⟩

omit [DecidableEq F] in
theorem regularScanTimeout_filters {env : Env F} (horder : env.Ordered) (s : ScanManager F) :
    ∃ s', s.regularScanTimeout env = .ok s' ∧ s.SameFilters s' ∧
      s'.mRegularScanClients = s.mRegularScanClients ∧ s'.mBatchClients = s.mBatchClients := by
  obtain ⟨s', hok, hsame, hregular, hbatch⟩ := configureRegularScanParams_filters horder s
  unfold ScanManager.regularScanTimeout
  rw [hok]
  show ∃ s'', Except.ok (if s'.numRegularScanClients = 0 then s'.scanNative false else s') = _ ∧ _
  split
  · exact ⟨s'.scanNative false, rfl, hsame.trans ⟨rfl, rfl, rfl, rfl, rfl⟩, hregular, hbatch⟩
  · exact ⟨s', rfl, hsame, hregular, hbatch⟩

/-- A regular client that is not refused gets its filters; nothing later changes them. -/
theorem startRegularClient_filters {env : Env F} (horder : env.Ordered) {s : ScanManager F}
    {client : ScanClient F}
    (hrefused : ¬ ScanManager.refused env client
      { s with mRegularScanClients := insert client s.mRegularScanClients }) :
    ∃ s₁ s', ScanManager.filtersOf env client
        { s with mRegularScanClients := insert client s.mRegularScanClients } = .ok s₁ ∧
      s.startRegularClient env client = .ok s' ∧ s₁.SameFilters s' ∧
      s'.mRegularScanClients = insert client s.mRegularScanClients ∧
      s'.mBatchClients = s.mBatchClients := by
  obtain ⟨s₁, hfilters, hradio, hok⟩ :=
    ScanManager.startRegularScan_accepted env client _ hrefused
  have hstarted : ∃ s₂, ScanManager.startRegularScan env client
        { s with mRegularScanClients := insert client s.mRegularScanClients } = .ok (s₂, true) ∧
      s₁.SameFilters s₂ ∧ s₂.mRegularScanClients = insert client s.mRegularScanClients ∧
      s₂.mBatchClients = s.mBatchClients := by
    refine ⟨_, hok, ?_⟩
    split
    · exact ⟨⟨rfl, rfl, rfl, rfl, rfl⟩, hradio.regular, hradio.batch⟩
    · exact ⟨ScanManager.SameFilters.refl s₁, hradio.regular, hradio.batch⟩
  obtain ⟨s₂, hok₂, hsame₂, hregular₂, hbatch₂⟩ := hstarted
  unfold ScanManager.startRegularClient
  simp only [hok₂]
  cases hopp : isOpportunisticScanClient client with
  | true => exact ⟨s₁, s₂, hfilters, rfl, hsame₂, hregular₂, hbatch₂⟩
  | false =>
      obtain ⟨s₃, hok₃, hsame₃, hregular₃, hbatch₃⟩ := configureRegularScanParams_filters horder s₂
      obtain ⟨s₄, hok₄, hsame₄, hregular₄, hbatch₄⟩ := regularScanTimeout_filters horder s₃
      refine ⟨s₁, if s₃.isExemptFromScanDowngrade client then s₃ else s₄, hfilters, ?_, ?_⟩
      · show (s₂.configureRegularScanParams env >>= fun s =>
          if s.isExemptFromScanDowngrade client then Except.ok s else s.regularScanTimeout env) = _
        rw [hok₃]
        show (if s₃.isExemptFromScanDowngrade client then Except.ok s₃
          else s₃.regularScanTimeout env) = _
        split
        · rfl
        · exact hok₄
      · split
        · exact ⟨hsame₂.trans hsame₃, hregular₃.trans hregular₂, hbatch₃.trans hbatch₂⟩
        · exact ⟨(hsame₂.trans hsame₃).trans hsame₄, (hregular₄.trans hregular₃).trans hregular₂,
            (hbatch₄.trans hbatch₃).trans hbatch₂⟩

/-- What a client gets that is configured in the pool as its start finds it. -/
theorem IndexInvariant.configured {n : Nat} {s : ScanManager F} {pool : Pool F}
    (h : IndexInvariant n s pool) {env : Env F} {client : ScanClient F}
    (hlegal : LegalFor n (.start env client)) (hcareful : CarefulFor s pool (.start env client))
    (hnew : client ∉ pool.active) (hrefused : ¬ s.refused env client) {t : ScanManager F}
    (ht : s.SameFilters t) :
    ∃ s', (t.ready env client).configureScanFilters env client = .ok s' ∧
      (t.ready env client).SameRadio s' ∧
      Indexed n s' (Pool.join
        { pool with initialised := pool.initialised ||
          !(s.ready env client).mFilterIndexStack.isEmpty }
        client (grantFor client (s.ready env client))) := by
  obtain ⟨-, -, hmax, hn⟩ := hlegal
  obtain ⟨hbatch, hfilters⟩ := hcareful hnew
  have hn' : 3 < n := Nat.lt_of_lt_of_le (by decide) hn
  have hsame := ready_sameFilters env client ht
  have hready := (h.toIndexed.ready hn' hmax hbatch).of_sameFilters hsame
  have huse : (t.ready env client).shouldUseAllPassFilter client =
      (s.ready env client).shouldUseAllPassFilter client := by
    unfold ScanManager.shouldUseAllPassFilter
    rw [hsame.stack]
  obtain ⟨stack, hkeeps⟩ := ready_keeps env client t
  have hclients : (t.ready env client).allPassClients client = s.allPassClients client := by
    rw [hkeeps]
    show ScanManager.allPassClients client t = _
    unfold ScanManager.allPassClients
    rw [ht.allPassRegular, ht.allPassBatch]
  have hmap : (t.ready env client).mClientFilterIndexMap = s.mClientFilterIndexMap := by
    rw [hkeeps]
    exact ht.map
  have hconfigured : (t.ready env client).controller.filters = s.controller.filters := by
    rw [hkeeps]
    exact ht.filters
  rw [← grantFor_sameFilters client hsame]
  refine hready.configured hnew ?_ ?_ ?_
  · intro hrouting
    rw [hsame.stack]
    have hregular : isBatchClient client = false := by
      rw [← Bool.not_eq_true, isBatchClient_iff, getDeliveryMode_routing hrouting]
      decide
    rw [ScanManager.ready, hregular]
    exact Nat.not_lt.1 fun hless => hrefused ⟨hrouting, hless⟩
  · intro hopp hall
    rw [hclients, hconfigured]
    exact (hfilters hopp hrefused).1 (huse ▸ hall)
  · intro hopp hoff hsome
    rw [hmap]
    exact (hfilters hopp hrefused).2 (huse ▸ hoff) hsome

/-- One start that meets the condition. -/
theorem IndexInvariant.start {n : Nat} {s : ScanManager F} {pool : Pool F}
    (h : IndexInvariant n s pool) {env : Env F} {client : ScanClient F}
    (hlegal : LegalFor n (.start env client)) (hcareful : CarefulFor s pool (.start env client)) :
    ∃ s', s.handleStartScan env client = .ok s' ∧
      IndexInvariant n s' (pool.follow s s' (.start env client)) := by
  obtain ⟨horder, hsupported, hmax, hn⟩ := id hlegal
  have hscan : ScanManager.isScanSupported env client = true := by
    simp [ScanManager.isScanSupported, hsupported]
  unfold ScanManager.handleStartScan
  rw [if_neg (not_not.2 hscan)]
  by_cases hactive : client ∈ pool.active
  · have hmem : client ∈ s.mRegularScanClients ∨ client ∈ s.mBatchClients := by
      rw [← h.clients] at hactive
      exact Finset.mem_union.1 hactive
    rw [if_pos hmem]
    refine ⟨s, rfl, ?_⟩
    rw [Pool.follow, if_pos hactive]
    exact h
  · have hmem : ¬ (client ∈ s.mRegularScanClients ∨ client ∈ s.mBatchClients) := by
      rw [← Finset.mem_union, h.clients]
      exact hactive
    rw [if_neg hmem]
    simp only [Pool.follow, if_neg hactive]
    cases hbatch : isBatchClient client with
    | true =>
        have hrefused : ¬ s.refused env client := by
          rintro ⟨hrouting, -⟩
          rw [isBatchClient_iff, getDeliveryMode_routing hrouting] at hbatch
          exact absurd hbatch (by decide)
        obtain ⟨s', hok, hradio, hindexed⟩ := h.configured hlegal hcareful hactive hrefused
          (t := { s with mBatchClients := insert client s.mBatchClients })
          ⟨rfl, rfl, rfl, rfl, rfl⟩
        obtain ⟨stack, hkeeps⟩ := ready_keeps env client
          { s with mBatchClients := insert client s.mBatchClients }
        have hregular' : s'.mRegularScanClients = s.mRegularScanClients := by
          rw [hradio.regular, hkeeps]
        have hbatch' : s'.mBatchClients = insert client s.mBatchClients := by
          rw [hradio.batch, hkeeps]
        rw [if_pos rfl]
        refine ⟨s', ?_, ?_⟩
        · rw [ScanManager.ready, if_pos hbatch] at hok
          exact hok
        · rw [if_pos (by
            rw [hbatch']
            exact Finset.mem_union_right _ (Finset.mem_insert_self _ _))]
          refine ⟨hindexed, ?_, ?_, ?_⟩
          · rw [hregular', hbatch', Finset.union_insert, h.clients]
            rfl
          · rw [hregular']
            exact h.regular
          · rw [hbatch']
            intro other hother
            obtain rfl | hother := Finset.mem_insert.1 hother
            · exact hbatch
            · exact h.batch other hother
    | false =>
        have hnew : client ∉ s.mRegularScanClients := fun hin => hmem (.inl hin)
        rw [if_neg Bool.false_ne_true]
        by_cases hrefused : s.refused env client
        · have ht := (ScanManager.refused_clients_iff env client s
            (insert client s.mRegularScanClients)).2 hrefused
          obtain ⟨s', hok, hradio, hfilters⟩ :=
            ScanManager.startRegularClient_refused env client hnew ht
          refine ⟨s', hok, ?_⟩
          rw [if_neg (by rw [hradio.regular, hradio.batch, h.clients]; exact hactive)]
          have hindexed := (h.toIndexed.ready (Nat.lt_of_lt_of_le (by decide) hn) hmax
            (hcareful hactive).1).of_sameFilters
              ((ready_sameFilters env client (s := s)
                (t := { s with mRegularScanClients := insert client s.mRegularScanClients })
                ⟨rfl, rfl, rfl, rfl, rfl⟩).trans (by
                  rw [ScanManager.ready, hbatch]
                  exact hfilters))
          refine ⟨hindexed, ?_, ?_, ?_⟩
          · rw [hradio.regular, hradio.batch]
            exact h.clients
          · rw [hradio.regular]
            exact h.regular
          · rw [hradio.batch]
            exact h.batch
        · obtain ⟨s₁, s', hfilters, hok, hsame, hregular', hbatch'⟩ :=
            startRegularClient_filters horder
              (mt (ScanManager.refused_clients_iff env client s _).1 hrefused)
          obtain ⟨s₂, hok₂, -, hindexed⟩ := h.configured hlegal hcareful hactive hrefused
            (t := { s with mRegularScanClients := insert client s.mRegularScanClients })
            ⟨rfl, rfl, rfl, rfl, rfl⟩
          have hconfigured : s₂ = s₁ := by
            rw [ScanManager.ready, hbatch] at hok₂
            rw [ScanManager.filtersOf, if_pos hsupported] at hfilters
            exact Except.ok.inj (hok₂.symm.trans hfilters)
          refine ⟨s', hok, ?_⟩
          rw [if_pos (by
            rw [hregular']
            exact Finset.mem_union_left _ (Finset.mem_insert_self _ _))]
          refine ⟨(hconfigured ▸ hindexed).of_sameFilters hsame, ?_, ?_, ?_⟩
          · rw [hregular', hbatch', Finset.insert_union, h.clients]
            rfl
          · rw [hregular']
            intro other hother
            obtain rfl | hother := Finset.mem_insert.1 hother
            · exact hbatch
            · exact h.regular other hother
          · rw [hbatch']
            exact h.batch

/-- The indices of the client that a stop is for go back to the stack. -/
theorem IndexInvariant.removed {n : Nat} {s : ScanManager F} {pool : Pool F}
    (h : IndexInvariant n s pool) {env : Env F} {scannerId : Int} {client : ScanClient F}
    (hcareful : CarefulFor s pool (.stop env scannerId))
    (hfind : s.findClient env scannerId = some client) (hactive : client ∈ pool.active)
    {t : ScanManager F} (ht : s.SameFilters t) :
    Indexed n (t.removeScanFilters client.scannerId) (pool.leave client) ∧
      (t.removeScanFilters client.scannerId).mFilterIndexStack =
        s.mFilterIndexStack ++ (pool.grant client).held := by
  obtain ⟨-, halone, hall⟩ := hcareful client hfind
  have hclients : ∀ other : ScanClient F, t.allPassClients other = s.allPassClients other := by
    intro other
    unfold ScanManager.allPassClients
    rw [ht.allPassRegular, ht.allPassBatch]
  obtain ⟨hindexed, hstack⟩ := (h.toIndexed.of_sameFilters ht).leave hactive halone (by
    intro other hother hne hgrant
    rw [hclients]
    exact hall other hother hne hgrant)
  rw [ht.stack] at hstack
  exact ⟨hindexed, hstack⟩

/-- One stop that meets the condition. -/
theorem IndexInvariant.stop {n : Nat} {s : ScanManager F} {pool : Pool F}
    (h : IndexInvariant n s pool) {env : Env F} {scannerId : Int} (horder : env.Ordered)
    (hcareful : CarefulFor s pool (.stop env scannerId)) :
    ∃ s', s.handleStopScan env scannerId = .ok s' ∧
      IndexInvariant n s' (pool.follow s s' (.stop env scannerId)) ∧
      Returns s s' pool (.stop env scannerId) := by
  unfold ScanManager.handleStopScan
  simp only [Pool.follow, Returns]
  cases hfind : s.findClient env scannerId with
  | none => exact ⟨s, rfl, h, nofun⟩
  | some client =>
      obtain ⟨hmem, -⟩ := findClient_mem horder hfind
      have hactive : client ∈ pool.active := by
        rw [← h.clients]
        exact Finset.mem_union.2 hmem
      by_cases hregular : client ∈ s.mRegularScanClients
      · obtain ⟨s₁, hradio, hsame, hstop⟩ :=
          ScanManager.stopRegularScan_reaches env client s (hcareful client hfind).1
        have hkept : ∃ t, s.stopRegularScan env client = t.removeScanFilters client.scannerId ∧
            s.SameFilters t ∧ t.mRegularScanClients = s.mRegularScanClients.erase client ∧
            t.mBatchClients = s.mBatchClients := by
          refine ⟨_, hstop, ?_⟩
          rw [hradio.regular]
          split
          · exact ⟨hsame.trans ⟨rfl, rfl, rfl, rfl, rfl⟩, rfl, hradio.batch⟩
          · exact ⟨hsame.trans ⟨rfl, rfl, rfl, rfl, rfl⟩, rfl, hradio.batch⟩
        obtain ⟨t, heq, ht, htregular, htbatch⟩ := hkept
        obtain ⟨hindexed, hstack⟩ := h.removed hcareful hfind hactive ht
        have hremoved := ScanManager.removeScanFilters_radio client.scannerId t
        simp only [if_pos hregular, heq]
        -- the batch clients are other ones
        have hother : client ∉ s.mBatchClients := by
          intro hbatch
          have hclient := h.batch client hbatch
          rw [h.regular client hregular] at hclient
          cases hclient
        have hinvariant : ∀ s', (t.removeScanFilters client.scannerId).SameFilters s' →
            s'.mRegularScanClients = (t.removeScanFilters client.scannerId).mRegularScanClients →
            s'.mBatchClients = (t.removeScanFilters client.scannerId).mBatchClients →
            IndexInvariant n s' (pool.leave client) ∧
              ∀ c, some client = some c →
                s'.mFilterIndexStack = s.mFilterIndexStack ++ (pool.grant c).held := by
          intro s' hs' hregular' hbatch'
          rw [hremoved.regular, htregular] at hregular'
          rw [hremoved.batch, htbatch] at hbatch'
          refine ⟨⟨hindexed.of_sameFilters hs', ?_, ?_, ?_⟩, ?_⟩
          · rw [hregular', hbatch']
            show _ = pool.active.erase client
            rw [← h.clients, Finset.erase_union_distrib, Finset.erase_eq_of_notMem hother]
          · rw [hregular']
            exact fun other hin => h.regular other (Finset.mem_of_mem_erase hin)
          · rw [hbatch']
            exact h.batch
          · intro c hc
            cases hc
            rw [hs'.stack, hstack]
        split
        · obtain ⟨hinv, hreturns⟩ := hinvariant _ (ScanManager.SameFilters.refl _) rfl rfl
          exact ⟨_, rfl, hinv, hreturns⟩
        · obtain ⟨s', hok, hs', hregular', hbatch'⟩ :=
            configureRegularScanParams_filters horder (t.removeScanFilters client.scannerId)
          obtain ⟨hinv, hreturns⟩ := hinvariant s' hs' hregular' hbatch'
          exact ⟨s', hok, hinv, hreturns⟩
      · have hbatch := hmem.resolve_left hregular
        simp only [if_neg hregular, if_pos hbatch, ScanManager.stopBatchScan]
        obtain ⟨hindexed, hstack⟩ := h.removed hcareful hfind hactive
          (t := { s with mBatchClients := s.mBatchClients.erase client })
          ⟨rfl, rfl, rfl, rfl, rfl⟩
        have hremoved := ScanManager.removeScanFilters_radio client.scannerId
          { s with mBatchClients := s.mBatchClients.erase client }
        refine ⟨_, rfl, ⟨hindexed, ?_, ?_, ?_⟩, ?_⟩
        · rw [hremoved.regular, hremoved.batch]
          show _ = pool.active.erase client
          rw [← h.clients, Finset.erase_union_distrib, Finset.erase_eq_of_notMem hregular]
        · rw [hremoved.regular]
          exact h.regular
        · rw [hremoved.batch]
          exact fun other hin => h.batch other (Finset.mem_of_mem_erase hin)
        · intro c hc
          cases hc
          exact hstack

/-- One event that meets the condition. -/
theorem IndexInvariant.step {n : Nat} {s : ScanManager F} {pool : Pool F} {event : Event F}
    (h : IndexInvariant n s pool) (hlegal : LegalFor n event)
    (hcareful : CarefulFor s pool event) :
    ∃ s', s.handle event = .ok s' ∧ IndexInvariant n s' (pool.follow s s' event) ∧
      Returns s s' pool event := by
  cases event with
  | start env client =>
      obtain ⟨s', hok, hinv⟩ := h.start hlegal hcareful
      exact ⟨s', hok, hinv, trivial⟩
  | stop env scannerId => exact h.stop hlegal hcareful

theorem IndexInvariant.initial (n : Nat) :
    IndexInvariant n (ScanManager.initial : ScanManager F) ⟨false, ∅, fun _ => .nothing⟩ where
  fresh := fun _ => ⟨rfl, rfl⟩
  exact := nofun
  recorded := fun client h => absurd h (Finset.notMem_empty client)
  holder := nofun
  own := fun client h => absurd h (Finset.notMem_empty client)
  allPass := fun client h => absurd h (Finset.notMem_empty client)
  clients := rfl
  regular := fun client h => absurd h (Finset.notMem_empty client)
  batch := fun client h => absurd h (Finset.notMem_empty client)

theorem ReachesFor.invariant {n : Nat} {s : ScanManager F} {pool : Pool F}
    (h : ReachesFor n s pool) : IndexInvariant n s pool := by
  induction h with
  | initial => exact IndexInvariant.initial n
  | @step s s' pool event _ hlegal hcareful hhandle ih =>
      obtain ⟨s'', hok, hinv, -⟩ := ih.step hlegal hcareful
      rw [hhandle] at hok
      cases hok
      exact hinv

/-- In every run whose events meet the condition the filter indices are conserved, and a
stop returns exactly those of its client. -/
theorem reachesFor_conserved {n : Nat} {s : ScanManager F} {pool : Pool F}
    (h : ReachesFor n s pool) :
    Conserved n s pool ∧ ∀ event, LegalFor n event → CarefulFor s pool event →
      ∃ s', s.handle event = .ok s' ∧ Conserved n s' (pool.follow s s' event) ∧
        Returns s s' pool event := by
  refine ⟨h.invariant.conserved, ?_⟩
  intro event hlegal hcareful
  obtain ⟨s', hok, hinv, hreturns⟩ := h.invariant.step hlegal hcareful
  exact ⟨s', hok, hinv.conserved, hreturns⟩

end Join

section UsedUp

/-- A controller with the fewest filters for offloading. -/
noncomputable def offloading : Env Unit := ⟨Finset.toList, true, true, 10, 4⟩

/-- A batch client with some filters. -/
def batchClient (scannerId : Int) (filters : List Unit) : ScanClient Unit where
  address := scannerId.toNat
  scannerId := scannerId
  settings := ⟨SCAN_MODE_LOW_POWER, CALLBACK_TYPE_ALL_MATCHES, 1000, 1, PHY_LE_1M,
    lowPower_valid, allMatches_valid, batchDelay_nonneg⟩
  filters := filters

/-- After the start of a client with seven filters: all indices are given out. -/
def usedUp : ScanManager Unit :=
  { (ScanManager.initial : ScanManager Unit) with
    mBatchClients := {batchClient 5 (replicate 7 ())}
    mClientFilterIndexMap := AList.singleton 5 [3, 4, 5, 6, 7, 8, 9]
    controller := ⟨false, none, {9, 8, 7, 6, 5, 4, 3}⟩ }

theorem usedUp_start :
    ScanManager.initial.handle (.start offloading (batchClient 5 (replicate 7 ()))) =
      .ok usedUp := rfl

/-- The pool after that start. -/
def usedUpPool : Pool Unit :=
  Pool.join ⟨true, ∅, fun _ => .nothing⟩ (batchClient 5 (replicate 7 ()))
    (.indices [3, 4, 5, 6, 7, 8, 9])

theorem usedUp_careful :
    CarefulFor ScanManager.initial (⟨false, ∅, fun _ => .nothing⟩ : Pool Unit)
      (.start offloading (batchClient 5 (replicate 7 ()))) := by
  intro _
  refine ⟨fun _ h => absurd h Bool.false_ne_true, ?_⟩
  intro _ _
  refine ⟨fun h => absurd h Bool.false_ne_true, ?_⟩
  exact fun _ _ => ⟨AList.notMem_empty 5, fun _ => rfl⟩

theorem usedUp_reaches : ReachesFor 10 usedUp usedUpPool :=
  @ReachesFor.step _ _ 10 _ _ _ (.start offloading (batchClient 5 (replicate 7 ())))
    .initial ⟨fun _ _ => Finset.mem_toList, rfl, rfl, Nat.le_refl 10⟩ usedUp_careful usedUp_start

theorem usedUp_conserved : Conserved 10 usedUp usedUpPool :=
  (reachesFor_conserved usedUp_reaches).1

/-- Another batch client is started while the first one holds all indices: the stack is
filled again, and both clients hold index 3. -/
theorem usedUp_start_not_conserved :
    ReachesFor 10 usedUp usedUpPool ∧ LegalFor 10 (.start offloading (batchClient 6 [()])) ∧
      ∃ s', usedUp.handle (.start offloading (batchClient 6 [()])) = .ok s' ∧
        ¬ Conserved 10 s'
          (usedUpPool.follow usedUp s' (.start offloading (batchClient 6 [()]))) := by
  refine ⟨usedUp_reaches, ⟨fun _ _ => Finset.mem_toList, rfl, rfl, Nat.le_refl 10⟩, _, rfl, ?_⟩
  intro hconserved
  have hall := hconserved.exact rfl
  have hlength := hall.length_eq
  exact absurd hlength (by decide)

end UsedUp

end Gatt.Scan
